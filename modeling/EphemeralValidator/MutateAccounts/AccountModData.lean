import Mathlib.Data.List.Range
import Mathlib.Data.UInt

/-! Account mod data of the magicblock program (`mutate_accounts/account_mod_data.rs`). -/

namespace EphemeralValidator.MutateAccounts

/-- The variants of `MagicBlockProgramError` this module returns. -/
inductive MagicBlockProgramError
  | accountDataResolutionFailed
  | accountDataMissingFromMemory
  | attemptedToPersistDataFromStorage
  | attemptedToPersistUnresolvedData
  | failedToPersistAccountModData
  deriving DecidableEq, Repr

/-- A `PersistsAccountModData` implementation, none of which is part of the sources. -/
structure PersistsAccountModData where
  load : UInt64 → Except String (Option (List UInt8))
  persist : UInt64 → List UInt8 → Except String Unit

/-- The statics `DATA_MODS`, `PERSISTER` and `DATA_MOD_ID`. -/
structure AccountModData where
  dataMods : UInt64 → Option (List UInt8)
  persister : Option PersistsAccountModData
  dataModId : UInt64

/-- The data resolved for an id, and where it came from. -/
inductive ResolvedAccountModData
  | fromMemory (id : UInt64) (data : List UInt8)
  | fromStorage (id : UInt64) (data : List UInt8)
  | notFound (id : UInt64)
  deriving DecidableEq, Repr

/-- When the replay check accepts `nextId` with the counter at `currentId`. -/
def InSequence (currentId nextId : UInt64) : Prop :=
  if nextId = 0 then currentId = 0 else currentId + 1 = nextId

instance (currentId nextId : UInt64) : Decidable (InSequence currentId nextId) :=
  inferInstanceAs (Decidable (ite _ _ _))

namespace AccountModData

/-- `get_account_mod_data_id`: `DATA_MOD_ID.fetch_add(1)`, which wraps around. -/
def getAccountModDataId (s : AccountModData) : UInt64 × AccountModData :=
  (s.dataModId, { s with dataModId := s.dataModId + 1 })

/-- `set_data_mod_id_checking_sequence`. -/
def setDataModIdCheckingSequence (s : AccountModData) (nextId : UInt64) :
    Except String AccountModData :=
  if nextId = 0 then
    if s.dataModId = 0 then .ok s else .error "Data mod id sequence is broken"
  else
    let currentId := s.dataModId
    let s := { s with dataModId := s.dataModId + 1 }
    if currentId + 1 = nextId then .ok s else .error "Data mod id sequence is broken"

/-- `set_account_mod_data`: register `data` under a fresh id. -/
def setAccountModData (s : AccountModData) (data : List UInt8) : UInt64 × AccountModData :=
  let (id, s) := s.getAccountModDataId
  (id, { s with dataMods := Function.update s.dataMods id (some data) })

/-- `get_data`: take the data registered under `id` out of `DATA_MODS`. -/
def getData (s : AccountModData) (id : UInt64) : Option (List UInt8) × AccountModData :=
  (s.dataMods id, { s with dataMods := Function.update s.dataMods id none })

/-- `init_persister`. -/
def initPersister (s : AccountModData) (persister : PersistsAccountModData) : AccountModData :=
  { s with persister := some persister }

/-- A call on the persister, or `missing` when none is set. -/
def withPersister {α : Type} (s : AccountModData) (missing : String)
    (call : PersistsAccountModData → Except String α) : Except String α :=
  match s.persister with
  | none => .error missing
  | some persister => call persister

/-- `load_data`. -/
def loadData (s : AccountModData) (id : UInt64) : Except String (Option (List UInt8)) :=
  s.withPersister "AccountModPersister needs to be set on startup" (·.load id)

/-- `persist_data`. -/
def persistData (s : AccountModData) (id : UInt64) (data : List UInt8) : Except String Unit :=
  s.withPersister "AccounModPersister needs to be set on startup" (·.persist id data)

end AccountModData

namespace ResolvedAccountModData

def id : ResolvedAccountModData → UInt64
  | fromMemory id _ => id
  | fromStorage id _ => id
  | notFound id => id

def data : ResolvedAccountModData → Option (List UInt8)
  | fromMemory _ data => some data
  | fromStorage _ data => some data
  | notFound _ => none

def isFromMemory : ResolvedAccountModData → Bool
  | fromMemory .. => true
  | _ => false

/-- `ResolvedAccountModData::persist`: only data resolved from memory is persisted. -/
def persist (self : ResolvedAccountModData) (s : AccountModData) :
    Except MagicBlockProgramError Unit :=
  match self with
  | fromMemory id data =>
    (s.persistData id data).mapError fun _ => .failedToPersistAccountModData
  | fromStorage .. => .error .attemptedToPersistDataFromStorage
  | notFound _ => .error .attemptedToPersistUnresolvedData

end ResolvedAccountModData

namespace AccountModData

/-- `resolve_account_mod_data`, with `validator::is_starting_up()` as an argument. -/
def resolveAccountModData (s : AccountModData) (id : UInt64) (isStartingUp : Bool) :
    Except String (Except MagicBlockProgramError ResolvedAccountModData × AccountModData) :=
  match s.getData id with
  | (some data, s) => .ok (.ok (.fromMemory id data), s)
  | (none, s) =>
    if isStartingUp then
      match s.loadData id with
      | .error _ => .ok (.error .accountDataResolutionFailed, s)
      | .ok (some data) => do
        let s ← s.setDataModIdCheckingSequence id
        .ok (.ok (.fromStorage id data), s)
      | .ok none => .ok (.ok (.notFound id), s)
    else .ok (.error .accountDataMissingFromMemory, s)

/-- `set_account_mod_data` for each data in turn: the ids it returns and the statics after. -/
def setAccountModDatas (s : AccountModData) : List (List UInt8) → List UInt64 × AccountModData
  | [] => ([], s)
  | data :: datas =>
    let (id, s) := s.setAccountModData data
    let (ids, s) := s.setAccountModDatas datas
    (id :: ids, s)

/-- `resolve_account_mod_data` for each id in turn, up to a panic. -/
def resolveAccountModDatas (s : AccountModData) (isStartingUp : Bool) :
    List UInt64 →
      Except String (List (Except MagicBlockProgramError ResolvedAccountModData) × AccountModData)
  | [] => .ok ([], s)
  | id :: ids => do
    let (resolved, s) ← s.resolveAccountModData id isStartingUp
    let (rest, s) ← s.resolveAccountModDatas isStartingUp ids
    .ok (resolved :: rest, s)

section Counter

/-! `u64` arithmetic of the counter, through `toNat`. -/

theorem eq_of_toNat_eq {a b : UInt64} (h : a.toNat = b.toNat) : a = b :=
  UInt64.eq_of_val_eq (Fin.ext h)

theorem toNat_add (a b : UInt64) : (a + b).toNat = (a.toNat + b.toNat) % 2 ^ 64 := by
  show (a.toBitVec + b.toBitVec).toNat = _
  simp [BitVec.toNat_add, UInt64.toNat]

theorem toNat_toUInt64 (i : Nat) : i.toUInt64.toNat = i % 2 ^ 64 := by
  show (BitVec.ofNat 64 i).toNat = _
  simp

theorem toNat_lt (a : UInt64) : a.toNat < 2 ^ 64 := a.toNat_lt_size

theorem add_toUInt64_succ (c : UInt64) (i : Nat) : c + (i + 1).toUInt64 = c + 1 + i.toUInt64 := by
  apply eq_of_toNat_eq
  have h1 : (1 : UInt64).toNat = 1 := rfl
  simp only [toNat_add, toNat_toUInt64, h1]
  omega

@[simp] theorem add_toUInt64_zero (c : UInt64) : c + (0 : Nat).toUInt64 = c := add_zero c

theorem toUInt64_succ (i : Nat) : (i + 1).toUInt64 = i.toUInt64 + 1 := by
  simpa [add_comm] using add_toUInt64_succ 0 i

theorem toUInt64_succ_ne_zero {i : Nat} (hi : i + 1 < 2 ^ 64) : (i + 1).toUInt64 ≠ 0 := by
  intro h
  have := congrArg UInt64.toNat h
  rw [toNat_toUInt64] at this
  exact absurd this (by simp; omega)

theorem add_toUInt64_inj {c : UInt64} {i j : Nat} (hi : i < 2 ^ 64) (hj : j < 2 ^ 64)
    (h : c + i.toUInt64 = c + j.toUInt64) : i = j := by
  have := congrArg UInt64.toNat h
  simp only [toNat_add, toNat_toUInt64] at this
  have := toNat_lt c
  omega

end Counter

theorem setDataModIdCheckingSequence_eq (s : AccountModData) (nextId : UInt64) :
    s.setDataModIdCheckingSequence nextId =
      if InSequence s.dataModId nextId then .ok { s with dataModId := nextId }
      else .error "Data mod id sequence is broken" := by
  cases s
  unfold setDataModIdCheckingSequence InSequence
  split_ifs <;> simp_all

theorem getData_of_none {s : AccountModData} {id : UInt64} (hmem : s.dataMods id = none) :
    s.getData id = (none, s) := by
  simp [getData, ← hmem]

theorem resolveAccountModData_of_stored {s : AccountModData} {id : UInt64} {data : List UInt8}
    (hmem : s.dataMods id = none) (hload : s.loadData id = .ok (some data)) :
    s.resolveAccountModData id true =
      if InSequence s.dataModId id then .ok (.ok (.fromStorage id data), { s with dataModId := id })
      else .error "Data mod id sequence is broken" := by
  simp only [resolveAccountModData, getData_of_none hmem, if_true, hload,
    setDataModIdCheckingSequence_eq]
  split_ifs <;> rfl

theorem resolveAccountModDatas_of_stored (stored : UInt64 → List UInt8) :
    ∀ (ids : List UInt64) (s : AccountModData), (∀ id ∈ ids, s.dataMods id = none) →
      (∀ id ∈ ids, s.loadData id = .ok (some (stored id))) →
      s.resolveAccountModDatas true ids =
        if List.Chain InSequence s.dataModId ids then
          .ok (ids.map fun id => .ok (.fromStorage id (stored id)),
            { s with dataModId := (s.dataModId :: ids).getLast (List.cons_ne_nil _ _) })
        else .error "Data mod id sequence is broken"
  | [], s, _, _ => (if_pos .nil).symm
  | id :: ids, s, hmem, hload => by
    have ih := resolveAccountModDatas_of_stored stored ids { s with dataModId := id }
      (fun id' h => hmem id' (List.mem_cons_of_mem _ h))
      (fun id' h => hload id' (List.mem_cons_of_mem _ h))
    simp only [resolveAccountModDatas, resolveAccountModData_of_stored (hmem id (List.mem_cons_self _ _))
      (hload id (List.mem_cons_self _ _)), List.chain_cons]
    simp only at ih
    by_cases hseq : InSequence s.dataModId id
    · simp only [hseq, true_and, if_true, bind, Except.bind, ih]
      split_ifs <;> rfl
    · simp only [hseq, false_and, if_false]
      rfl

/-- A replay from storage succeeds exactly when each id follows the one before in sequence,
and panics at the first id out of sequence. -/
theorem replay_checks_sequence (stored : UInt64 → List UInt8) (ids : List UInt64)
    (s : AccountModData) (hmem : ∀ id ∈ ids, s.dataMods id = none)
    (hload : ∀ id ∈ ids, s.loadData id = .ok (some (stored id))) :
    s.resolveAccountModDatas true ids =
      if List.Chain InSequence s.dataModId ids then
        .ok (ids.map fun id => .ok (.fromStorage id (stored id)),
          { s with dataModId := (s.dataModId :: ids).getLast (List.cons_ne_nil _ _) })
      else .error "Data mod id sequence is broken" :=
  resolveAccountModDatas_of_stored stored ids s hmem hload

theorem resolveAccountModDatas_replay (stored : UInt64 → List UInt8) (ids : List UInt64)
    (s : AccountModData) (hchain : List.Chain InSequence s.dataModId ids)
    (hmem : ∀ id ∈ ids, s.dataMods id = none)
    (hload : ∀ id ∈ ids, s.loadData id = .ok (some (stored id))) :
    s.resolveAccountModDatas true ids =
      .ok (ids.map fun id => .ok (.fromStorage id (stored id)),
        { s with dataModId := (s.dataModId :: ids).getLast (List.cons_ne_nil _ _) }) := by
  rw [resolveAccountModDatas_of_stored stored ids s hmem hload, if_pos hchain]

theorem setAccountModDatas_fst (datas : List (List UInt8)) : ∀ s : AccountModData,
    (s.setAccountModDatas datas).1 = (List.range datas.length).map (s.dataModId + ·.toUInt64) := by
  induction datas with
  | nil => intro s; rfl
  | cons data datas ih =>
    intro s
    simp only [setAccountModDatas, setAccountModData, getAccountModDataId, ih, List.length_cons,
      List.range_succ_eq_map, List.map_cons, List.map_map, add_toUInt64_zero]
    congr 2
    funext i
    exact (add_toUInt64_succ _ i).symm

theorem setAccountModDatas_dataModId (datas : List (List UInt8)) : ∀ s : AccountModData,
    (s.setAccountModDatas datas).2.dataModId = s.dataModId + datas.length.toUInt64 := by
  induction datas with
  | nil => intro s; exact (add_toUInt64_zero _).symm
  | cons data datas ih =>
    intro s
    simp only [setAccountModDatas, setAccountModData, getAccountModDataId, ih, List.length_cons,
      add_toUInt64_succ]

theorem setAccountModDatas_dataMods_of_not_mem (datas : List (List UInt8)) :
    ∀ (s : AccountModData) {id : UInt64}, id ∉ (s.setAccountModDatas datas).1 →
      (s.setAccountModDatas datas).2.dataMods id = s.dataMods id := by
  induction datas with
  | nil => intro s id _; rfl
  | cons data datas ih =>
    intro s id hid
    simp only [setAccountModDatas, setAccountModData, getAccountModDataId, List.mem_cons,
      not_or] at hid ⊢
    rw [ih _ hid.2]
    exact Function.update_noteq hid.1 _ _

/-- While at most `2^64` data are registered, each id holds its own data afterwards. -/
theorem setAccountModDatas_dataMods (datas : List (List UInt8)) (hsize : datas.length ≤ 2 ^ 64) :
    ∀ (s : AccountModData) (i : Nat) (hi : i < datas.length),
      (s.setAccountModDatas datas).2.dataMods (s.dataModId + i.toUInt64) = some datas[i] := by
  induction datas with
  | nil => intro s i hi; simp at hi
  | cons data datas ih =>
    intro s i hi
    simp only [List.length_cons] at hsize
    cases i with
    | zero =>
      have hfresh : s.dataModId ∉ ((s.setAccountModData data).2.setAccountModDatas datas).1 := by
        rw [setAccountModDatas_fst, List.mem_map]
        rintro ⟨j, hj, heq⟩
        rw [List.mem_range] at hj
        have := add_toUInt64_inj (by omega) (by omega)
          ((add_toUInt64_succ _ j).trans (heq.trans (add_toUInt64_zero _).symm))
        omega
      simp only [setAccountModDatas, add_toUInt64_zero]
      rw [setAccountModDatas_dataMods_of_not_mem _ _ hfresh]
      exact Function.update_same _ _ _
    | succ k =>
      rw [add_toUInt64_succ]
      exact ih (by omega) _ k (by simpa using hi)

theorem chain_inSequence_range (n : Nat) (hn : n ≤ 2 ^ 64) :
    List.Chain InSequence 0 ((List.range n).map Nat.toUInt64) := by
  cases n with
  | zero => exact .nil
  | succ m =>
    rw [show (0 : UInt64) = Nat.toUInt64 0 from rfl, List.chain_map, List.chain_range_succ]
    refine ⟨by decide, fun k hk => ?_⟩
    rw [InSequence, if_neg (toUInt64_succ_ne_zero (i := k) (by omega))]
    exact (toUInt64_succ k).symm

theorem getLast_range_toUInt64 (m : Nat) :
    ((0 : UInt64) :: (List.range (m + 1)).map Nat.toUInt64).getLast (List.cons_ne_nil _ _) =
      m.toUInt64 := by
  simp [List.range_succ]

/-- Replay does not restore the counter: after replaying ids `0, …, n - 1` it ends at `n - 1`,
not `n`, so the next id allocated is one the ledger already uses. -/
theorem replay_stops_one_short (s restarted : AccountModData) (datas : List (List UInt8))
    (stored : UInt64 → List UInt8) (hstart : s.dataModId = 0) (hn : datas ≠ [])
    (hsize : datas.length ≤ 2 ^ 64) (hrestart : restarted.dataModId = 0)
    (hmem : ∀ id ∈ (s.setAccountModDatas datas).1, restarted.dataMods id = none)
    (hload : ∀ id ∈ (s.setAccountModDatas datas).1,
      restarted.loadData id = .ok (some (stored id))) :
    let original := s.setAccountModDatas datas
    let replayed : AccountModData := { restarted with dataModId := (datas.length - 1).toUInt64 }
    original.1 = (List.range datas.length).map Nat.toUInt64 ∧
      original.2.dataModId = datas.length.toUInt64 ∧
      restarted.resolveAccountModDatas true original.1 =
        .ok (original.1.map fun id => .ok (.fromStorage id (stored id)), replayed) ∧
      replayed.dataModId ≠ original.2.dataModId ∧
      replayed.getAccountModDataId.1 ∈ original.1 := by
  intro original replayed
  have hids : original.1 = (List.range datas.length).map Nat.toUInt64 := by
    simp only [original, setAccountModDatas_fst, hstart, zero_add]
  obtain ⟨m, hm⟩ : ∃ m, datas.length = m + 1 :=
    Nat.exists_eq_succ_of_ne_zero (List.length_pos.mpr hn).ne'
  have hreplay := resolveAccountModDatas_replay stored original.1 restarted
    (hrestart ▸ hids ▸ chain_inSequence_range _ hsize) hmem hload
  simp only [hrestart, hids, hm, getLast_range_toUInt64] at hreplay
  refine ⟨hids, by simp [original, setAccountModDatas_dataModId, hstart], ?_, ?_, ?_⟩
  · simpa [replayed, hm, hids] using hreplay
  · intro h
    have := congrArg UInt64.toNat h
    simp only [replayed, original, setAccountModDatas_dataModId, hstart, zero_add,
      toNat_toUInt64] at this
    omega
  · rw [hids]
    exact List.mem_map.mpr ⟨datas.length - 1, List.mem_range.mpr (by omega), rfl⟩

/-- Registered data is resolved from memory once, and is missing from memory afterwards. -/
theorem resolve_registered_once (s : AccountModData) (datas : List (List UInt8))
    (hsize : datas.length ≤ 2 ^ 64) (i : Nat) (hi : i < datas.length) (isStartingUp : Bool) :
    (s.setAccountModDatas datas).1[i]? = some (s.dataModId + i.toUInt64) ∧
      ∃ resolved, (s.setAccountModDatas datas).2.resolveAccountModData (s.dataModId + i.toUInt64)
          isStartingUp = .ok (.ok (.fromMemory (s.dataModId + i.toUInt64) datas[i]), resolved) ∧
        resolved.resolveAccountModData (s.dataModId + i.toUInt64) false =
          .ok (.error .accountDataMissingFromMemory, resolved) := by
  refine ⟨by simp [setAccountModDatas_fst, hi],
    ((s.setAccountModDatas datas).2.getData (s.dataModId + i.toUInt64)).2, ?_, ?_⟩
  · simp [resolveAccountModData, getData, setAccountModDatas_dataMods datas hsize s i hi]
  · rw [resolveAccountModData, getData_of_none (Function.update_same _ _ _)]
    rfl

end AccountModData

/-- A ledger that holds empty data under every id. -/
def emptyLedger : PersistsAccountModData := ⟨fun _ => .ok (some []), fun _ _ => .ok ()⟩

/-- One mutation, id `0`, replayed: the counter stays at `0`, the id the ledger already uses. -/
theorem replay_stops_one_short_single :
    let s : AccountModData := ⟨fun _ => none, some emptyLedger, 0⟩
    (s.dataModId = 0 ∧ [[7]] ≠ [] ∧ [[7]].length ≤ 2 ^ 64 ∧ s.dataModId = 0 ∧
      (∀ id ∈ (s.setAccountModDatas [[7]]).1, s.dataMods id = none) ∧
      ∀ id ∈ (s.setAccountModDatas [[7]]).1, s.loadData id = .ok (some [])) ∧
    let original := s.setAccountModDatas [[7]]
    let replayed : AccountModData := { s with dataModId := ([[7]].length - 1).toUInt64 }
    original.1 = (List.range [[7]].length).map Nat.toUInt64 ∧
      original.2.dataModId = [[7]].length.toUInt64 ∧
      s.resolveAccountModDatas true original.1 =
        .ok (original.1.map fun id => .ok (.fromStorage id []), replayed) ∧
      replayed.dataModId ≠ original.2.dataModId ∧
      replayed.getAccountModDataId.1 ∈ original.1 :=
  ⟨⟨rfl, by simp, by decide, rfl, fun _ _ => rfl, fun _ _ => rfl⟩,
    AccountModData.replay_stops_one_short ⟨fun _ => none, some emptyLedger, 0⟩
      ⟨fun _ => none, some emptyLedger, 0⟩ [[7]] (fun _ => []) rfl (by simp) (by decide) rfl
      (fun _ _ => rfl) (fun _ _ => rfl)⟩

theorem resolve_registered_once_first :
    let s : AccountModData := ⟨fun _ => none, none, 0⟩
    ([[7]].length ≤ 2 ^ 64 ∧ 0 < [[7]].length) ∧
    (s.setAccountModDatas [[7]]).1[0]? = some (s.dataModId + (0 : Nat).toUInt64) ∧
      ∃ resolved, (s.setAccountModDatas [[7]]).2.resolveAccountModData
          (s.dataModId + (0 : Nat).toUInt64) false =
          .ok (.ok (.fromMemory (s.dataModId + (0 : Nat).toUInt64) [7]), resolved) ∧
        resolved.resolveAccountModData (s.dataModId + (0 : Nat).toUInt64) false =
          .ok (.error .accountDataMissingFromMemory, resolved) :=
  ⟨⟨by decide, by decide⟩,
    AccountModData.resolve_registered_once ⟨fun _ => none, none, 0⟩ [[7]] (by decide) 0
      (by decide) false⟩

/-- A ledger that skips id `1`: its replay panics at id `2`. -/
theorem replay_checks_sequence_skipped :
    let s : AccountModData := ⟨fun _ => none, some emptyLedger, 0⟩
    ((∀ id ∈ [0, 2], s.dataMods id = none) ∧ ∀ id ∈ [0, 2], s.loadData id = .ok (some [])) ∧
    s.resolveAccountModDatas true [0, 2] =
      if List.Chain InSequence s.dataModId [0, 2] then
        .ok ([0, 2].map fun id => .ok (.fromStorage id []),
          { s with dataModId := (s.dataModId :: [0, 2]).getLast (List.cons_ne_nil _ _) })
      else .error "Data mod id sequence is broken" :=
  ⟨⟨fun _ _ => rfl, fun _ _ => rfl⟩, AccountModData.replay_checks_sequence (fun _ => [])
    [0, 2] ⟨fun _ => none, some emptyLedger, 0⟩ (fun _ _ => rfl) (fun _ _ => rfl)⟩

example : (⟨fun _ => none, some emptyLedger, 0⟩ : AccountModData).resolveAccountModDatas true
    [0, 2] = .error "Data mod id sequence is broken" := rfl

end EphemeralValidator.MutateAccounts

import Mathlib.Data.List.Dedup
import EphemeralValidator.Cloner.Classifier
import EphemeralValidator.Cloner.FetchLoop

/-! The worker serving requests one after another, and what one request does to the cache. -/

namespace EphemeralValidator.Cloner

open Prog (perform)
open ClonerM

/-- A request to the worker: the start-up hydration, or a clone of one key. -/
inductive Request where
  | hydrate
  | cloneOrUseCache (pubkey : Pubkey)
deriving DecidableEq, Repr

/-- A request served: the outcome for each key it cloned, and its calls. -/
structure Served where
  request : Request
  outcomes : List (Pubkey × Except AccountClonerError AccountClonerOutput)
  calls : List Event

/-- The calls `do_clone_or_use_cache` makes before it decides to refresh. -/
def Op.CacheCheck (pubkey : Pubkey) (op : Op) : Prop :=
  op = .getLastKnownUpdateSlot pubkey ∨ op = .hasAccount pubkey

/-- The key a dumper call writes; for program accounts, the program id. -/
def Op.dumpedKey : Op → Option Pubkey
  | .dumpFeepayerAccount pubkey _ _ | .dumpUndelegatedAccount pubkey _
  | .dumpDelegatedAccount pubkey _ _ | .dumpProgramAccountWithOldBpf pubkey _
  | .dumpProgramAccounts pubkey _ _ _ _ => some pubkey
  | _ => none

theorem Op.dumpedKey_eq {op : Op} {pubkey key : Pubkey}
    (hphase : op.FetchPhase key ∨ op.ClonePhase key) (hdump : op.dumpedKey = some pubkey) :
    pubkey = key := by
  cases op <;> simp_all [Op.FetchPhase, Op.ClonePhase, Op.dumpedKey]

/-- The outcome a request writes to its key's entry: none for an error or a pre-clone refusal. -/
def writtenOutcome : Except AccountClonerError AccountClonerOutput → Option AccountClonerOutput
  | .ok (.unclonable _ .noCloningAllowed _) | .ok (.unclonable _ .alreadyLocallyOverriden _) => none
  | .ok output => some output
  | .error _ => none

theorem writtenOutcome_ok_or (output : AccountClonerOutput) :
    (writtenOutcome (.ok output)).or (some output) = some output := by
  rcases output with _ | ⟨_, reason, _⟩
  · rfl
  · cases reason <;> rfl

theorem getLast?_filterMap_writtenOutcome_append
    (results₁ results₂ : List (Except AccountClonerError AccountClonerOutput))
    (entry : Option AccountClonerOutput) :
    ((results₁ ++ results₂).filterMap writtenOutcome).getLast?.or entry =
      (results₂.filterMap writtenOutcome).getLast?.or
        ((results₁.filterMap writtenOutcome).getLast?.or entry) := by
  simp [List.filterMap_append, List.getLast?_append, Option.or_assoc]

@[simp] theorem getLast?_filterMap_writtenOutcome_singleton
    (result : Except AccountClonerError AccountClonerOutput) :
    ([result].filterMap writtenOutcome).getLast? = writtenOutcome result := by
  cases hw : writtenOutcome result <;> simp [List.filterMap_cons, hw]

namespace RemoteAccountClonerWorker

variable (w : RemoteAccountClonerWorker)

/-- One request, from cache `lastCloneOutput`: its outcomes and the cache after it. -/
def serveRequest (lastCloneOutput : CloneOutputs) :
    Request → Prog (List (Pubkey × Except AccountClonerError AccountClonerOutput) × CloneOutputs)
  | .hydrate => w.hydrate lastCloneOutput
  | .cloneOrUseCache pubkey => do
    let (result, lastCloneOutput) ← w.doCloneOrUseCache lastCloneOutput pubkey
    return ([(pubkey, result)], lastCloneOutput)

/-- The worker serving `requests` in order, from cache `lastCloneOutput` after the calls `h`. -/
def serve (o : Oracle) : CloneOutputs → List Event → List Request → List Served
  | _, _, [] => []
  | lastCloneOutput, h, request :: requests =>
    let run := (w.serveRequest lastCloneOutput request).run o h
    ⟨request, run.1.1, run.2⟩ :: serve o run.1.2 (h ++ run.2) requests

theorem request_mem_of_mem_serve (o : Oracle) {served : Served} (requests : List Request) :
    ∀ (lastCloneOutput : CloneOutputs) (h : List Event),
      served ∈ w.serve o lastCloneOutput h requests → served.request ∈ requests := by
  induction requests with
  | nil => simp [serve]
  | cons request requests ih =>
    intro lastCloneOutput h hserved
    simp only [serve, List.mem_cons] at hserved ⊢
    rcases hserved with rfl | hserved
    exacts [.inl rfl, .inr (ih _ _ hserved)]

theorem run_doCloneAndUpdateCache (o : Oracle) (h : List Event) (lastCloneOutput : CloneOutputs)
    (pubkey : Pubkey) (stage : ValidatorStage) :
    (w.doCloneAndUpdateCache lastCloneOutput pubkey stage).run o h =
      ((match (exec o h (w.doClone lastCloneOutput pubkey stage)).1 with
        | .ok output => (.ok output, Function.update lastCloneOutput pubkey output)
        | .error error => (.error error, lastCloneOutput)),
        (exec o h (w.doClone lastCloneOutput pubkey stage)).2) := by
  unfold doCloneAndUpdateCache
  rw [Prog.run_bind]
  unfold exec
  split <;> simp_all

/-- The cache rule of `do_clone_or_use_cache`. -/
theorem doCloneOrUseCache_eq (lastCloneOutput : CloneOutputs) (pubkey : Pubkey) :
    w.doCloneOrUseCache lastCloneOutput pubkey =
      if w.canClone then do
        let lastKnownUpdateSlot := (← perform (.getLastKnownUpdateSlot pubkey)).getD 0
        match lastCloneOutput pubkey with
        | some lastOutput =>
          if lastOutput.atSlot ≥ lastKnownUpdateSlot then pure (.ok lastOutput, lastCloneOutput)
          else w.doCloneAndUpdateCache lastCloneOutput pubkey .running
        | none =>
          if ← perform (.hasAccount pubkey) then
            pure (.ok (.unclonable pubkey .alreadyLocallyOverriden u64Max), lastCloneOutput)
          else w.doCloneAndUpdateCache lastCloneOutput pubkey .running
      else pure (.ok (.unclonable pubkey .noCloningAllowed u64Max), lastCloneOutput) := by
  unfold doCloneOrUseCache
  cases w.canClone
  · rfl
  · rcases lastCloneOutput pubkey with _ | _ | _ <;> rfl

/-- What one `do_clone_or_use_cache(K)` can do: serve or refuse, leaving the cache, or refresh. -/
theorem doCloneOrUseCache_cases (o : Oracle) (h : List Event) (lastCloneOutput : CloneOutputs)
    (pubkey : Pubkey) :
    (∃ output, ((w.doCloneOrUseCache lastCloneOutput pubkey).run o h).1 =
        (.ok output, lastCloneOutput) ∧
      (o h (.getLastKnownUpdateSlot pubkey)).getD 0 ≤ output.atSlot ∧
      (lastCloneOutput pubkey = some output ∨
        output = .unclonable pubkey .noCloningAllowed u64Max ∨
        output = .unclonable pubkey .alreadyLocallyOverriden u64Max) ∧
      ∀ e ∈ ((w.doCloneOrUseCache lastCloneOutput pubkey).run o h).2, e.op.CacheCheck pubkey) ∨
    ∃ checks : List Event, (w.doCloneOrUseCache lastCloneOutput pubkey).run o h =
        (((w.doCloneAndUpdateCache lastCloneOutput pubkey .running).run o (h ++ checks)).1,
          checks ++ ((w.doCloneAndUpdateCache lastCloneOutput pubkey .running).run o (h ++ checks)).2) ∧
      ∀ e ∈ checks, e.op.CacheCheck pubkey := by
  rw [doCloneOrUseCache_eq]
  split
  · simp only [Prog.run_bind, Prog.run_perform]
    split
    · rename_i lastOutput _
      split_ifs with hhit
      · exact .inl ⟨lastOutput, rfl, hhit, .inl ‹_›, by simp [Op.CacheCheck]⟩
      · exact .inr ⟨_, rfl, by simp [Op.CacheCheck]⟩
    · simp only [Prog.run_bind, Prog.run_perform]
      split_ifs
      · exact .inl ⟨_, rfl, le_u64Max _, .inr (.inr rfl), by simp [Op.CacheCheck]⟩
      · exact .inr ⟨_, by rw [List.append_assoc h]; rfl, by simp [Op.CacheCheck]⟩
  · exact .inl ⟨_, rfl, le_u64Max _, .inr (.inl rfl), by simp⟩

theorem run_doCloneOrUseCache_of_hit (o : Oracle) (h : List Event)
    {lastCloneOutput : CloneOutputs} {pubkey : Pubkey} {output : AccountClonerOutput}
    (hclone : w.canClone = true) (hcached : lastCloneOutput pubkey = some output)
    (hhit : (o h (.getLastKnownUpdateSlot pubkey)).getD 0 ≤ output.atSlot) :
    (w.doCloneOrUseCache lastCloneOutput pubkey).run o h =
      ((.ok output, lastCloneOutput),
        [⟨.getLastKnownUpdateSlot pubkey, o h (.getLastKnownUpdateSlot pubkey)⟩]) := by
  rw [doCloneOrUseCache_eq]
  simp [hclone, hcached, hhit, Prog.run_bind]

theorem doClone_calls (o : Oracle) (h : List Event) (lastCloneOutput : CloneOutputs)
    (pubkey : Pubkey) (stage : ValidatorStage) :
    ∀ e ∈ (exec o h (w.doClone lastCloneOutput pubkey stage)).2,
      e.op.FetchPhase pubkey ∨ e.op.ClonePhase pubkey := by
  by_cases hb : pubkey ∈ w.blacklistedAccounts
  · simp [doClone_of_mem w lastCloneOutput stage hb]
  rw [doClone_of_not_mem w lastCloneOutput stage hb, exec_bind]
  have hfetch := fetchLatest_calls w pubkey o h
  rcases hf : exec o h (w.fetchLatestAccountChainSnapshot pubkey) with ⟨_ | s, t⟩ <;>
    rw [hf] at hfetch
  · exact fun e he => .inl (hfetch e he)
  · simp only [List.mem_append]
    rintro e (he | he)
    exacts [.inl (hfetch e he),
      .inr ((w.cloneAccountChainSnapshot_calls lastCloneOutput pubkey stage s).exec _ _ e he)]

theorem doCloneOrUseCache_calls (o : Oracle) (h : List Event) (lastCloneOutput : CloneOutputs)
    (pubkey : Pubkey) :
    ∀ e ∈ ((w.doCloneOrUseCache lastCloneOutput pubkey).run o h).2,
      e.op.CacheCheck pubkey ∨ e.op.FetchPhase pubkey ∨ e.op.ClonePhase pubkey := by
  rcases w.doCloneOrUseCache_cases o h lastCloneOutput pubkey with
    ⟨_, -, -, -, hchecks⟩ | ⟨checks, hrun, hchecks⟩
  · exact fun e he => .inl (hchecks e he)
  · rw [hrun, run_doCloneAndUpdateCache]
    simp only [List.mem_append]
    rintro e (he | he)
    exacts [.inl (hchecks e he), .inr (w.doClone_calls o _ _ _ _ e he)]

@[simp] theorem run_hydrateAccounts_nil (o : Oracle) (h : List Event)
    (lastCloneOutput : CloneOutputs) :
    (w.hydrateAccounts lastCloneOutput []).run o h = (([], lastCloneOutput), []) := rfl

theorem run_hydrateAccounts_cons (o : Oracle) (h : List Event) (lastCloneOutput : CloneOutputs)
    (pubkey owner : Pubkey) (accountKeys : List (Pubkey × Pubkey)) :
    (w.hydrateAccounts lastCloneOutput ((pubkey, owner) :: accountKeys)).run o h =
      let first := (w.doCloneAndUpdateCache lastCloneOutput pubkey
        (.hydrating w.validatorIdentity owner)).run o h
      let rest := (w.hydrateAccounts first.1.2 accountKeys).run o (h ++ first.2)
      (((pubkey, first.1.1) :: rest.1.1, rest.1.2), first.2 ++ rest.2) := by
  simp [hydrateAccounts, Prog.run_bind]

theorem hydrateAccounts_keys (o : Oracle) (accountKeys : List (Pubkey × Pubkey)) :
    ∀ (lastCloneOutput : CloneOutputs) (h : List Event),
      ((w.hydrateAccounts lastCloneOutput accountKeys).run o h).1.1.map Prod.fst =
        accountKeys.map Prod.fst := by
  induction accountKeys with
  | nil => simp
  | cons key accountKeys ih =>
    obtain ⟨pubkey, owner⟩ := key
    simp [run_hydrateAccounts_cons, ih]

theorem hydrationKeys_nodup (bank : BankAccounts) : ((w.hydrationKeys bank).map Prod.fst).Nodup := by
  unfold hydrationKeys
  refine (List.Nodup.sublist ?_ bank.keys_nodup)
  refine ((List.dedup_sublist _).map _).trans ?_
  simp only [List.map_map]
  exact ((List.filter_sublist _).trans (List.filter_sublist _)).map _

/-- The cache after a clone differs from the one before at most at the cloned key. -/
theorem doCloneAndUpdateCache_frame (o : Oracle) (h : List Event) (lastCloneOutput : CloneOutputs)
    {pubkey other : Pubkey} (stage : ValidatorStage) (hother : other ≠ pubkey) :
    ((w.doCloneAndUpdateCache lastCloneOutput pubkey stage).run o h).1.2 other =
      lastCloneOutput other := by
  rw [run_doCloneAndUpdateCache]
  split <;> simp [Function.update_noteq hother]

theorem doCloneOrUseCache_frame (o : Oracle) (h : List Event) (lastCloneOutput : CloneOutputs)
    {pubkey other : Pubkey} (hother : other ≠ pubkey) :
    ((w.doCloneOrUseCache lastCloneOutput pubkey).run o h).1.2 other = lastCloneOutput other := by
  rw [doCloneOrUseCache_eq]
  split
  · simp only [Prog.run_bind, Prog.run_perform]
    split
    · split <;> simp [doCloneAndUpdateCache_frame w _ _ _ _ hother]
    · simp only [Prog.run_bind, Prog.run_perform]
      split <;> simp [doCloneAndUpdateCache_frame w _ _ _ _ hother]
  · rfl

theorem doClone_written (lastCloneOutput : CloneOutputs) (pubkey : Pubkey) (stage : ValidatorStage) :
    (w.doClone lastCloneOutput pubkey stage).OkResults
      fun output => writtenOutcome (.ok output) = some output := by
  by_cases hb : pubkey ∈ w.blacklistedAccounts
  · exact doClone_of_mem w lastCloneOutput stage hb ▸ okResults_pure rfl
  rw [doClone_of_not_mem w lastCloneOutput stage hb]
  refine okResults_bind (okResults_true _) fun snapshot _ => ?_
  refine (w.cloneAccountChainSnapshot_okResults lastCloneOutput stage snapshot).mono fun output => ?_
  rintro (⟨signature, rfl⟩ | ⟨reason, atSlot, rfl, -, h₁, h₂⟩)
  · rfl
  · cases reason <;> first | rfl | contradiction

theorem doCloneAndUpdateCache_entry (o : Oracle) (h : List Event) (lastCloneOutput : CloneOutputs)
    (pubkey : Pubkey) (stage : ValidatorStage) :
    ((w.doCloneAndUpdateCache lastCloneOutput pubkey stage).run o h).1.2 pubkey =
      (writtenOutcome ((w.doCloneAndUpdateCache lastCloneOutput pubkey stage).run o h).1.1).or
        (lastCloneOutput pubkey) := by
  rw [run_doCloneAndUpdateCache]
  rcases hclone : (exec o h (w.doClone lastCloneOutput pubkey stage)).1 with error | output
  · rfl
  · simp [(w.doClone_written lastCloneOutput pubkey stage).exec _ _ hclone]

/-- A request leaves its key's entry as the outcome it writes, if any, else as it was. -/
theorem doCloneOrUseCache_entry (o : Oracle) (h : List Event) (lastCloneOutput : CloneOutputs)
    (pubkey : Pubkey) :
    ((w.doCloneOrUseCache lastCloneOutput pubkey).run o h).1.2 pubkey =
      (writtenOutcome ((w.doCloneOrUseCache lastCloneOutput pubkey).run o h).1.1).or
        (lastCloneOutput pubkey) := by
  rcases w.doCloneOrUseCache_cases o h lastCloneOutput pubkey with
    ⟨output, hrun, -, hentry, -⟩ | ⟨checks, hrun, -⟩
  · rw [hrun]
    rcases hentry with hcached | rfl | rfl
    · show lastCloneOutput pubkey = (writtenOutcome (.ok output)).or (lastCloneOutput pubkey)
      rw [hcached, writtenOutcome_ok_or]
    · rfl
    · rfl
  · rw [hrun]
    exact w.doCloneAndUpdateCache_entry o _ lastCloneOutput pubkey .running

theorem hydrateAccounts_entry (o : Oracle) (accountKeys : List (Pubkey × Pubkey)) (key : Pubkey) :
    ∀ (lastCloneOutput : CloneOutputs) (h : List Event),
      ((w.hydrateAccounts lastCloneOutput accountKeys).run o h).1.2 key =
        (((((w.hydrateAccounts lastCloneOutput accountKeys).run o h).1.1.filter (·.1 = key)).map
          Prod.snd).filterMap writtenOutcome).getLast?.or (lastCloneOutput key) := by
  induction accountKeys with
  | nil => intro _ _; rfl
  | cons first accountKeys ih =>
    obtain ⟨pubkey, owner⟩ := first
    intro lastCloneOutput h
    rw [run_hydrateAccounts_cons]
    dsimp only
    rw [ih, List.filter_cons]
    by_cases hkey : pubkey = key
    · subst hkey
      rw [if_pos (by simp), List.map_cons, ← List.singleton_append,
        getLast?_filterMap_writtenOutcome_append, getLast?_filterMap_writtenOutcome_singleton,
        doCloneAndUpdateCache_entry]
    · rw [if_neg (by simpa using hkey), doCloneAndUpdateCache_frame w _ _ _ _ (Ne.symm hkey)]

/-- `hydrate` leaves each key's entry as the last outcome it wrote for the key, or as it was. -/
theorem hydrate_entry (o : Oracle) (h : List Event) (lastCloneOutput : CloneOutputs) (key : Pubkey) :
    ((w.hydrate lastCloneOutput).run o h).1.2 key =
      (((((w.hydrate lastCloneOutput).run o h).1.1.filter (·.1 = key)).map Prod.snd).filterMap
        writtenOutcome).getLast?.or (lastCloneOutput key) := by
  cases hclone : w.canClone
  · simp [hydrate, hclone]
  simp only [hydrate, hclone, Bool.not_true, Bool.false_eq_true, if_false, Prog.run_bind,
    Prog.run_perform]
  exact w.hydrateAccounts_entry o _ key lastCloneOutput _

theorem hydrateAccounts_calls (o : Oracle) (accountKeys : List (Pubkey × Pubkey)) :
    ∀ (lastCloneOutput : CloneOutputs) (h : List Event),
      ∀ e ∈ ((w.hydrateAccounts lastCloneOutput accountKeys).run o h).2,
        ∃ key ∈ accountKeys, e.op.FetchPhase key.1 ∨ e.op.ClonePhase key.1 := by
  induction accountKeys with
  | nil => simp
  | cons key accountKeys ih =>
    obtain ⟨pubkey, owner⟩ := key
    intro lastCloneOutput h e he
    rw [run_hydrateAccounts_cons, List.mem_append] at he
    rcases he with he | he
    · rw [run_doCloneAndUpdateCache] at he
      exact ⟨_, List.mem_cons_self _ _, w.doClone_calls o _ _ _ _ e he⟩
    · obtain ⟨key, hkey, hphase⟩ := ih _ _ e he
      exact ⟨key, List.mem_cons_of_mem _ hkey, hphase⟩

theorem keepForHydration_eq_true {account : Account} :
    w.keepForHydration account = true ↔ account.lamports ≤ u64Max / 2 ∧
      (account.executable = true ∨ account.owner ≠ w.sdk.bpfLoaderUpgradeableId) := by
  unfold keepForHydration
  by_cases hx : account.executable = true <;> split_ifs <;> simp_all

/-- Hydration dumps only keys the bank lists off the blacklist, with an account it keeps. -/
theorem hydrate_dumps_only_kept (o : Oracle) (h : List Event) (lastCloneOutput : CloneOutputs) :
    ∀ e ∈ ((w.hydrate lastCloneOutput).run o h).2, ∀ pubkey, e.op.dumpedKey = some pubkey →
      ∃ account, (pubkey, account) ∈ (o h .getAllAccounts).accounts ∧
        pubkey ∉ w.blacklistedAccounts ∧ account.lamports ≤ u64Max / 2 ∧
        (account.executable = true ∨ account.owner ≠ w.sdk.bpfLoaderUpgradeableId) := by
  intro e he pubkey hdump
  unfold hydrate at he
  cases hclone : w.canClone
  · simp [hclone] at he
  simp only [hclone, Bool.not_true, Bool.false_eq_true, if_false, Prog.pure_eq, Prog.run_pure,
    Prog.run_bind, Prog.run_perform, List.nil_append, List.append_nil, List.mem_append,
    List.mem_singleton] at he
  rcases he with rfl | he
  · simp [Op.dumpedKey] at hdump
  obtain ⟨⟨key, owner⟩, hkey, hphase⟩ := w.hydrateAccounts_calls o _ _ _ e he
  obtain rfl := Op.dumpedKey_eq hphase hdump
  simp only [hydrationKeys, List.mem_dedup, List.mem_map, List.mem_filter, Prod.mk.injEq] at hkey
  obtain ⟨⟨_, account⟩, ⟨⟨hmem, hblack⟩, hkeep⟩, rfl, -⟩ := hkey
  exact ⟨account, hmem, by simpa using hblack, (w.keepForHydration_eq_true.mp hkeep)⟩

/-- Collaborators whose bank holds one undelegated account, key 9, which the chain has too. -/
def bankHoldsNine : Oracle := fun _ op =>
  match op with
  | .getAllAccounts => ⟨[(9, ⟨0, [], 0, false⟩)], by simp⟩
  | .getFirstSubscribedSlot _ => some 0
  | .fetchAccountChainSnapshot pubkey _ => .ok ⟨pubkey, 0, .undelegated ⟨0, [], 0, false⟩⟩
  | .dumpUndelegatedAccount _ _ => .ok 0
  | op => op.defaultResp

theorem bankHoldsNine_dump :
    (⟨.dumpUndelegatedAccount 9 ⟨0, [], 0, false⟩, .ok 0⟩ : Event) ∈
      (((new .stub none [] none ⟨true, true, true, true, true⟩ 0).hydrate (fun _ => none)).run
        bankHoldsNine []).2 := by
  simp [hydrate, hydrationKeys, keepForHydration, Sdk.stub, u64Max, canClone, new,
    run_hydrateAccounts_cons,
    run_doCloneAndUpdateCache, doClone_of_not_mem, exec_bind, exec_fetchLatestAccountChainSnapshot,
    exec_fetchLoop, bankHoldsNine, Op.defaultResp, iterationDecision, cloneAccountChainSnapshot,
    doCloneUndelegatedAccount, mapDumperError, Prog.perform, Prog.run_bind, Except.mapError]

theorem hydrate_dumps_only_kept_bank :
    let w := new .stub none [] none ⟨true, true, true, true, true⟩ 0
    let e : Event := ⟨.dumpUndelegatedAccount 9 ⟨0, [], 0, false⟩, .ok 0⟩
    (e ∈ ((w.hydrate (fun _ => none)).run bankHoldsNine []).2 ∧ e.op.dumpedKey = some 9) ∧
      ∃ account, (9, account) ∈ (bankHoldsNine [] .getAllAccounts).accounts ∧
        9 ∉ w.blacklistedAccounts ∧ account.lamports ≤ u64Max / 2 ∧
        (account.executable = true ∨ account.owner ≠ w.sdk.bpfLoaderUpgradeableId) :=
  ⟨⟨bankHoldsNine_dump, rfl⟩, hydrate_dumps_only_kept _ bankHoldsNine [] (fun _ => none) _
    bankHoldsNine_dump 9 rfl⟩

end RemoteAccountClonerWorker

end EphemeralValidator.Cloner

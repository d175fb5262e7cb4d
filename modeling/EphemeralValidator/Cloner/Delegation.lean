import EphemeralValidator.Cloner.Refusals

/-! Delegated accounts are dumped at most once per delegation. -/

namespace EphemeralValidator.Cloner

open Prog (perform)
open ClonerM

/-- A snapshot of a delegated account, from delegation slot `delegationSlot`. -/
def DelegatedFrom (snapshot : AccountChainSnapshot) (delegationSlot : Slot) : Prop :=
  ∃ account record, snapshot.chainState = .delegated account record ∧
    record.delegationSlot = delegationSlot

/-- Every snapshot the fetcher returns for `pubkey` is delegated, from `delegationSlot`. -/
def FetchesDelegatedFrom (o : Oracle) (pubkey : Pubkey) (delegationSlot : Slot) : Prop :=
  ∀ h minContextSlot snapshot,
    o h (.fetchAccountChainSnapshot pubkey minContextSlot) = .ok snapshot →
      DelegatedFrom snapshot delegationSlot

def Op.isDelegatedDumpOf (pubkey : Pubkey) : Op → Bool
  | .dumpDelegatedAccount k _ _ => k = pubkey
  | _ => false

def Prog.Event.isDelegatedDumpOkOf (pubkey : Pubkey) : Event → Bool
  | ⟨.dumpDelegatedAccount k _ _, .ok _⟩ => k = pubkey
  | _ => false

/-- The calls of `dump_delegated_account` for `pubkey` in a run. -/
def delegatedDumps (pubkey : Pubkey) (tr : List Event) : Nat :=
  tr.countP (·.op.isDelegatedDumpOf pubkey)

/-- The calls of `dump_delegated_account` for `pubkey` in a run that succeeded. -/
def delegatedDumpsOk (pubkey : Pubkey) (tr : List Event) : Nat :=
  tr.countP (·.isDelegatedDumpOkOf pubkey)

/-- The signature of an outcome that is a clone of `pubkey`. -/
def clonedSignatureOf (pubkey : Pubkey) :
    Pubkey × Except AccountClonerError AccountClonerOutput → Option Signature
  | (k, .ok (.cloned _ signature)) => if k = pubkey then some signature else none
  | _ => none

/-- The signatures of the clones of `pubkey` among the outcomes of a request. -/
def Served.clonedSignatures (pubkey : Pubkey) (served : Served) : List Signature :=
  served.outcomes.filterMap (clonedSignatureOf pubkey)

theorem clonedSignatureOf_of_ne {pubkey other : Pubkey} (hother : other ≠ pubkey)
    (result : Except AccountClonerError AccountClonerOutput) :
    clonedSignatureOf pubkey (other, result) = none := by
  rcases result with _ | (_ | _) <;> simp [clonedSignatureOf, hother]

theorem filterMap_cons_eq_toList_append {α β : Type} (f : α → Option β) (a : α) (l : List α) :
    (a :: l).filterMap f = (f a).toList ++ l.filterMap f := by
  cases h : f a <;> simp [List.filterMap_cons, h]

theorem filterMap_append_singleton {α β : Type} (f : α → Option β) (l : List α) (a : α) :
    (l ++ [a]).filterMap f = l.filterMap f ++ (f a).toList := by
  rw [List.filterMap_append, filterMap_cons_eq_toList_append, List.filterMap_nil, List.append_nil]

@[simp] theorem delegatedDumps_nil (pubkey : Pubkey) : delegatedDumps pubkey [] = 0 := rfl

@[simp] theorem delegatedDumpsOk_nil (pubkey : Pubkey) : delegatedDumpsOk pubkey [] = 0 := rfl

@[simp] theorem delegatedDumps_cons (pubkey : Pubkey) (e : Event) (tr : List Event) :
    delegatedDumps pubkey (e :: tr) =
      delegatedDumps pubkey tr + if e.op.isDelegatedDumpOf pubkey then 1 else 0 :=
  List.countP_cons _ _ _

@[simp] theorem delegatedDumpsOk_cons (pubkey : Pubkey) (e : Event) (tr : List Event) :
    delegatedDumpsOk pubkey (e :: tr) =
      delegatedDumpsOk pubkey tr + if e.isDelegatedDumpOkOf pubkey then 1 else 0 :=
  List.countP_cons _ _ _

@[simp] theorem delegatedDumps_append (pubkey : Pubkey) (tr tr' : List Event) :
    delegatedDumps pubkey (tr ++ tr') = delegatedDumps pubkey tr + delegatedDumps pubkey tr' :=
  List.countP_append _ _ _

@[simp] theorem delegatedDumpsOk_append (pubkey : Pubkey) (tr tr' : List Event) :
    delegatedDumpsOk pubkey (tr ++ tr') = delegatedDumpsOk pubkey tr + delegatedDumpsOk pubkey tr' :=
  List.countP_append _ _ _

theorem Prog.Event.isDelegatedDumpOf_of_ok {pubkey : Pubkey} {e : Event}
    (hok : e.isDelegatedDumpOkOf pubkey = true) : e.op.isDelegatedDumpOf pubkey = true := by
  obtain ⟨op, resp⟩ := e
  cases op with
  | dumpDelegatedAccount =>
    rcases resp <;> simp_all [Prog.Event.isDelegatedDumpOkOf, Op.isDelegatedDumpOf]
  | _ => simp [Prog.Event.isDelegatedDumpOkOf] at hok

theorem delegatedDumpsOk_le (pubkey : Pubkey) (tr : List Event) :
    delegatedDumpsOk pubkey tr ≤ delegatedDumps pubkey tr :=
  List.countP_mono_left fun _ _ => Prog.Event.isDelegatedDumpOf_of_ok

theorem delegatedDumps_eq_zero (pubkey : Pubkey) {tr : List Event}
    (htr : ∀ e ∈ tr, e.op.isDelegatedDumpOf pubkey = false) :
    delegatedDumps pubkey tr = 0 ∧ delegatedDumpsOk pubkey tr = 0 := by
  have hcalls : delegatedDumps pubkey tr = 0 := List.countP_eq_zero.mpr fun e he => by simp [htr e he]
  exact ⟨hcalls, Nat.le_zero.mp (hcalls ▸ delegatedDumpsOk_le pubkey tr)⟩

theorem isDelegatedDumpOf_of_fetchPhase {pubkey other : Pubkey} {op : Op}
    (hop : op.FetchPhase other) : op.isDelegatedDumpOf pubkey = false := by
  cases op <;> simp_all [Op.FetchPhase, Op.isDelegatedDumpOf]

theorem isDelegatedDumpOf_of_other {pubkey other : Pubkey} {op : Op} (hother : other ≠ pubkey)
    (hop : op.CacheCheck other ∨ op.FetchPhase other ∨ op.ClonePhase other) :
    op.isDelegatedDumpOf pubkey = false := by
  rcases hop with hop | hop | hop
  · rcases hop with rfl | rfl <;> rfl
  · exact isDelegatedDumpOf_of_fetchPhase hop
  · cases op <;> simp_all [Op.ClonePhase, Op.isDelegatedDumpOf]

namespace RemoteAccountClonerWorker

variable (w : RemoteAccountClonerWorker) (o : Oracle)

theorem exec_cloneAccountChainSnapshot_delegated (h : List Event) (lastCloneOutput : CloneOutputs)
    (pubkey : Pubkey) (stage : ValidatorStage) {snapshot : AccountChainSnapshot}
    {account : Account} {record : DelegationRecord}
    (hs : snapshot.chainState = .delegated account record) :
    exec o h (w.cloneAccountChainSnapshot lastCloneOutput pubkey stage snapshot) =
      if w.permissions.allowCloningDelegatedAccounts then
        if stage.shouldCloneDelegatedAccount record then
          match priorDelegatedSignature lastCloneOutput pubkey record.delegationSlot with
          | some signature => (.ok (.cloned snapshot signature), [])
          | none =>
            (((o h (.dumpDelegatedAccount pubkey account record.owner)).mapError
                .accountDumperError).map (.cloned snapshot),
              [⟨.dumpDelegatedAccount pubkey account record.owner,
                o h (.dumpDelegatedAccount pubkey account record.owner)⟩])
        else (.ok (.cloned snapshot (o h .newUniqueSignature)), [⟨.newUniqueSignature, o h .newUniqueSignature⟩])
      else (.ok (.unclonable pubkey .doesNotAllowDelegatedAccount snapshot.atSlot), []) := by
  cases hd : w.permissions.allowCloningDelegatedAccounts <;>
    cases hsc : stage.shouldCloneDelegatedAccount record <;>
    simp [cloneAccountChainSnapshot, hs, hd, hsc, doCloneDelegatedAccount_eq, Prog.perform,
      Except.map]
  rcases priorDelegatedSignature lastCloneOutput pubkey record.delegationSlot <;>
    simp [mapDumperError]

/-- The cache of `pubkey` in step with the signature of its first clone so far, if any. -/
def DelegationCache (pubkey : Pubkey) (delegationSlot : Slot) (lastCloneOutput : CloneOutputs) :
    Option Signature → Prop
  | none => ∀ snapshot signature, lastCloneOutput pubkey ≠ some (.cloned snapshot signature)
  | some signature => ∃ snapshot, lastCloneOutput pubkey = some (.cloned snapshot signature) ∧
      DelegatedFrom snapshot delegationSlot ∧ pubkey ∉ w.blacklistedAccounts ∧
      w.permissions.allowCloningDelegatedAccounts = true

variable {pubkey : Pubkey} {delegationSlot : Slot}

theorem DelegationCache.congr {lastCloneOutput lastCloneOutput' : CloneOutputs}
    {first : Option Signature} (hsame : lastCloneOutput' pubkey = lastCloneOutput pubkey)
    (hc : w.DelegationCache pubkey delegationSlot lastCloneOutput first) :
    w.DelegationCache pubkey delegationSlot lastCloneOutput' first := by
  cases first <;> simpa [DelegationCache, hsame] using hc

theorem DelegationCache.eq_none {lastCloneOutput : CloneOutputs} {first : Option Signature}
    (hc : w.DelegationCache pubkey delegationSlot lastCloneOutput first)
    (hbarred : pubkey ∈ w.blacklistedAccounts ∨ w.permissions.allowCloningDelegatedAccounts = false) :
    first = none := by
  cases first with
  | none => rfl
  | some _ =>
    obtain ⟨_, -, -, hb, hallow⟩ := hc
    rcases hbarred with hbarred | hbarred
    exacts [absurd hbarred hb, by simp [hallow] at hbarred]

theorem priorDelegatedSignature_eq {lastCloneOutput : CloneOutputs} {first : Option Signature}
    (hc : w.DelegationCache pubkey delegationSlot lastCloneOutput first) :
    priorDelegatedSignature lastCloneOutput pubkey delegationSlot = first := by
  cases first with
  | none =>
    unfold priorDelegatedSignature
    split
    · exact absurd ‹_› (hc _ _)
    · rfl
  | some signature =>
    obtain ⟨snapshot, hcached, ⟨account, record, hs, hslot⟩, -⟩ := hc
    simp [priorDelegatedSignature, hcached, hs, hslot]

/-- What a stretch of a run does for `pubkey`: every clone carries the first clone's signature,
and at most one delegated dump succeeds, none once there was a clone. -/
structure DelegationStep (pubkey : Pubkey) (delegationSlot : Slot) (first : Option Signature)
    (signatures : List Signature) (calls : List Event) (lastCloneOutput : CloneOutputs) : Prop where
  cache : w.DelegationCache pubkey delegationSlot lastCloneOutput (first.or signatures.head?)
  first_signature : ∀ signature ∈ signatures, first.or signatures.head? = some signature
  settled : first.isSome → delegatedDumps pubkey calls = 0
  dumped_once : delegatedDumpsOk pubkey calls ≤ 1
  dumped_cloned : delegatedDumpsOk pubkey calls = 1 → signatures ≠ []

namespace DelegationStep

variable {w} {first : Option Signature} {lastCloneOutput : CloneOutputs}

theorem of_frame {lastCloneOutput' : CloneOutputs} {calls : List Event}
    (hc : w.DelegationCache pubkey delegationSlot lastCloneOutput first)
    (hsame : lastCloneOutput' pubkey = lastCloneOutput pubkey)
    (hcalls : ∀ e ∈ calls, e.op.isDelegatedDumpOf pubkey = false) :
    w.DelegationStep pubkey delegationSlot first [] calls lastCloneOutput' := by
  obtain ⟨hnone, hnone_ok⟩ := delegatedDumps_eq_zero pubkey hcalls
  exact ⟨by simpa using hc.congr w hsame, by simp, fun _ => hnone, by omega, by omega⟩

theorem congr {signatures : List Signature} {calls : List Event} {lastCloneOutput' : CloneOutputs}
    (hsame : lastCloneOutput' pubkey = lastCloneOutput pubkey)
    (hstep : w.DelegationStep pubkey delegationSlot first signatures calls lastCloneOutput) :
    w.DelegationStep pubkey delegationSlot first signatures calls lastCloneOutput' :=
  { hstep with cache := hstep.cache.congr w hsame }

theorem append {signatures signatures' : List Signature} {calls calls' : List Event}
    {lastCloneOutput' : CloneOutputs}
    (hstep : w.DelegationStep pubkey delegationSlot first signatures calls lastCloneOutput)
    (hstep' : w.DelegationStep pubkey delegationSlot (first.or signatures.head?) signatures' calls'
      lastCloneOutput') :
    w.DelegationStep pubkey delegationSlot first (signatures ++ signatures') (calls ++ calls')
      lastCloneOutput' := by
  have hfirst : first.or (signatures ++ signatures').head? =
      (first.or signatures.head?).or signatures'.head? := by
    cases first <;> cases signatures <;> simp
  have hcloned : signatures ≠ [] → (first.or signatures.head?).isSome := by
    intro hne
    cases first <;> cases signatures <;> simp_all
  have hok := delegatedDumpsOk_le pubkey calls'
  refine ⟨hfirst ▸ hstep'.cache, fun signature hmem => ?_, fun hsome => ?_, ?_, fun hone => ?_⟩
  · rw [hfirst]
    rcases List.mem_append.mp hmem with hmem | hmem
    · rw [hstep.first_signature signature hmem, Option.or_some]
    · exact hstep'.first_signature signature hmem
  · have hsome' : (first.or signatures.head?).isSome := by cases first <;> simp_all
    simp [hstep.settled hsome, hstep'.settled hsome']
  · by_cases hone : delegatedDumpsOk pubkey calls = 1
    · have := hstep'.settled (hcloned (hstep.dumped_cloned hone))
      simp only [delegatedDumpsOk_append]
      omega
    · have := hstep.dumped_once
      have := hstep'.dumped_once
      simp only [delegatedDumpsOk_append]
      omega
  · simp only [delegatedDumpsOk_append] at hone
    by_cases hone' : delegatedDumpsOk pubkey calls = 1
    · simp [hstep.dumped_cloned hone']
    · have := hstep'.dumped_cloned (by omega)
      simp_all

theorem of_no_clone {calls : List Event}
    (hc : w.DelegationCache pubkey delegationSlot lastCloneOutput first)
    (hok : delegatedDumpsOk pubkey calls = 0)
    (hsettled : first.isSome → delegatedDumps pubkey calls = 0) :
    w.DelegationStep pubkey delegationSlot first [] calls lastCloneOutput :=
  ⟨by simpa using hc, by simp, hsettled, by omega, by omega⟩

theorem nil (hc : w.DelegationCache pubkey delegationSlot lastCloneOutput first) :
    w.DelegationStep pubkey delegationSlot first [] [] lastCloneOutput :=
  .of_no_clone hc rfl fun _ => rfl

theorem of_clone {calls : List Event} {signature : Signature}
    (hfirst : first = none ∨ first = some signature)
    (hc : w.DelegationCache pubkey delegationSlot lastCloneOutput (some signature))
    (hok : delegatedDumpsOk pubkey calls ≤ 1)
    (hsettled : first.isSome → delegatedDumps pubkey calls = 0) :
    w.DelegationStep pubkey delegationSlot first [signature] calls lastCloneOutput := by
  have hor : first.or [signature].head? = some signature := by rcases hfirst with rfl | rfl <;> rfl
  exact ⟨hor ▸ hc, fun _ hs => List.mem_singleton.mp hs ▸ hor, hsettled, hok, by simp⟩

end DelegationStep

/-- What one clone of a key delegated from `delegationSlot` can do: fail, refuse, or clone by
reusing the earlier signature, dumping once, or keeping the local account. -/
theorem doClone_delegated (hfetch : FetchesDelegatedFrom o pubkey delegationSlot) (hb : pubkey ∉ w.blacklistedAccounts)
    (h : List Event) (lastCloneOutput : CloneOutputs) (stage : ValidatorStage) :
    (∃ error, (exec o h (w.doClone lastCloneOutput pubkey stage)).1 = .error error ∧
      delegatedDumpsOk pubkey (exec o h (w.doClone lastCloneOutput pubkey stage)).2 = 0 ∧
      (delegatedDumps pubkey (exec o h (w.doClone lastCloneOutput pubkey stage)).2 = 0 ∨
        priorDelegatedSignature lastCloneOutput pubkey delegationSlot = none)) ∨
    (w.permissions.allowCloningDelegatedAccounts = false ∧
      (∃ reason atSlot, (exec o h (w.doClone lastCloneOutput pubkey stage)).1 =
        .ok (.unclonable pubkey reason atSlot)) ∧
      delegatedDumps pubkey (exec o h (w.doClone lastCloneOutput pubkey stage)).2 = 0) ∨
    (w.permissions.allowCloningDelegatedAccounts = true ∧ ∃ snapshot signature,
      (exec o h (w.doClone lastCloneOutput pubkey stage)).1 = .ok (.cloned snapshot signature) ∧
      DelegatedFrom snapshot delegationSlot ∧
      ((priorDelegatedSignature lastCloneOutput pubkey delegationSlot = some signature ∧
          delegatedDumps pubkey (exec o h (w.doClone lastCloneOutput pubkey stage)).2 = 0) ∨
        (priorDelegatedSignature lastCloneOutput pubkey delegationSlot = none ∧
          delegatedDumps pubkey (exec o h (w.doClone lastCloneOutput pubkey stage)).2 = 1 ∧
          delegatedDumpsOk pubkey (exec o h (w.doClone lastCloneOutput pubkey stage)).2 = 1 ∧
          ∃ account record, snapshot.chainState = .delegated account record ∧
            stage.shouldCloneDelegatedAccount record = true) ∨
        (delegatedDumps pubkey (exec o h (w.doClone lastCloneOutput pubkey stage)).2 = 0 ∧
          ∃ account record, snapshot.chainState = .delegated account record ∧
            stage.shouldCloneDelegatedAccount record = false))) := by
  rw [doClone_of_not_mem w lastCloneOutput stage hb, exec_bind]
  have hcalls := fetchLatest_calls w pubkey o h
  have hfetched := fun s hs => fetchLatest_fetched w pubkey o h (s := s) hs
  have hanswered := Prog.run_answered o h (p := (w.fetchLatestAccountChainSnapshot pubkey).run)
  rcases hf : exec o h (w.fetchLatestAccountChainSnapshot pubkey) with ⟨_ | s, t⟩ <;>
    rw [hf] at hcalls hfetched <;> unfold exec at hf <;> rw [hf] at hanswered
  · obtain ⟨hnone, hnone_ok⟩ := delegatedDumps_eq_zero pubkey fun e he =>
      isDelegatedDumpOf_of_fetchPhase (hcalls e he)
    exact .inl ⟨_, rfl, hnone_ok, .inl hnone⟩
  obtain ⟨m, hm⟩ := hfetched s rfl
  obtain ⟨account, record, hs, hslot⟩ := hfetch _ _ _ (hanswered _ hm).choose_spec
  obtain ⟨hnone, hnone_ok⟩ := delegatedDumps_eq_zero pubkey fun e he =>
    isDelegatedDumpOf_of_fetchPhase (hcalls e he)
  have hdelegated : DelegatedFrom s delegationSlot := ⟨account, record, hs, hslot⟩
  subst hslot
  simp only at hnone hnone_ok
  simp only [exec_cloneAccountChainSnapshot_delegated w o _ _ _ _ hs, delegatedDumps_append,
    delegatedDumpsOk_append, hnone, hnone_ok, Nat.zero_add]
  cases hallow : w.permissions.allowCloningDelegatedAccounts
  · simp only [hallow, Bool.false_eq_true, if_false]
    exact .inr (.inl ⟨trivial, ⟨_, _, rfl⟩, rfl⟩)
  cases hsc : stage.shouldCloneDelegatedAccount record
  · simp only [hallow, hsc, Bool.false_eq_true, if_true, if_false]
    exact .inr (.inr ⟨trivial, s, _, rfl, hdelegated,
      .inr (.inr ⟨by simp [Op.isDelegatedDumpOf], account, record, hs, hsc⟩)⟩)
  simp only [hallow, hsc, if_true]
  rcases hp : priorDelegatedSignature lastCloneOutput pubkey record.delegationSlot with _ | σ
  · rcases hd : o (h ++ t) (.dumpDelegatedAccount pubkey account record.owner) with e | σ
    · exact .inl ⟨.accountDumperError e, by simp [hd, Except.mapError, Except.map],
        by simp [hd, Prog.Event.isDelegatedDumpOkOf], .inr rfl⟩
    · exact .inr (.inr ⟨trivial, s, σ, by simp [hd, Except.mapError, Except.map], hdelegated,
        .inr (.inl ⟨rfl, by simp [Op.isDelegatedDumpOf],
          by simp [hd, Prog.Event.isDelegatedDumpOkOf], account, record, hs, hsc⟩)⟩)
  · exact .inr (.inr ⟨trivial, s, σ, rfl, hdelegated, .inl ⟨rfl, rfl⟩⟩)

section Steps

variable {first : Option Signature} {lastCloneOutput : CloneOutputs}

theorem doCloneAndUpdateCache_quiet {other : Pubkey} (hother : other ≠ pubkey) (h : List Event)
    (stage : ValidatorStage) :
    ∀ e ∈ ((w.doCloneAndUpdateCache lastCloneOutput other stage).run o h).2,
      e.op.isDelegatedDumpOf pubkey = false := by
  rw [run_doCloneAndUpdateCache]
  exact fun e he => isDelegatedDumpOf_of_other hother (.inr (w.doClone_calls o h _ _ _ e he))

theorem doCloneAndUpdateCache_step_other {other : Pubkey} (hother : other ≠ pubkey)
    (hc : w.DelegationCache pubkey delegationSlot lastCloneOutput first) (h : List Event)
    (stage : ValidatorStage) :
    w.DelegationStep pubkey delegationSlot first []
      ((w.doCloneAndUpdateCache lastCloneOutput other stage).run o h).2
      ((w.doCloneAndUpdateCache lastCloneOutput other stage).run o h).1.2 :=
  .of_frame hc (w.doCloneAndUpdateCache_frame o h _ stage (Ne.symm hother))
    (w.doCloneAndUpdateCache_quiet o hother h stage)

/-- The step lemma: a clone of the key is a stretch, with no dump when it keeps the account. -/
theorem doCloneAndUpdateCache_step (hfetch : FetchesDelegatedFrom o pubkey delegationSlot)
    (hc : w.DelegationCache pubkey delegationSlot lastCloneOutput first) (h : List Event)
    (stage : ValidatorStage) (hstage : first = none ∨ stage = .running) :
    w.DelegationStep pubkey delegationSlot first
      (clonedSignatureOf pubkey
        (pubkey, ((w.doCloneAndUpdateCache lastCloneOutput pubkey stage).run o h).1.1)).toList
      ((w.doCloneAndUpdateCache lastCloneOutput pubkey stage).run o h).2
      ((w.doCloneAndUpdateCache lastCloneOutput pubkey stage).run o h).1.2 ∧
    ∀ snapshot signature account record,
      ((w.doCloneAndUpdateCache lastCloneOutput pubkey stage).run o h).1.1 =
        .ok (.cloned snapshot signature) →
      snapshot.chainState = .delegated account record →
      stage.shouldCloneDelegatedAccount record = false →
      delegatedDumps pubkey ((w.doCloneAndUpdateCache lastCloneOutput pubkey stage).run o h).2 = 0 := by
  have hrefused : ∀ output : AccountClonerOutput, (∀ snapshot signature, output ≠ .cloned snapshot signature) →
      first = none →
      w.DelegationCache pubkey delegationSlot (Function.update lastCloneOutput pubkey (some output)) first := by
    rintro output houtput rfl snapshot signature
    simpa using houtput snapshot signature
  have hcloned : ∀ {snapshot signature}, DelegatedFrom snapshot delegationSlot →
      pubkey ∉ w.blacklistedAccounts → w.permissions.allowCloningDelegatedAccounts = true →
      w.DelegationCache pubkey delegationSlot
        (Function.update lastCloneOutput pubkey (some (.cloned snapshot signature))) (some signature) :=
    fun hdel hb hallow => ⟨_, by simp, hdel, hb, hallow⟩
  rw [run_doCloneAndUpdateCache]
  by_cases hb : pubkey ∈ w.blacklistedAccounts
  · have hfirst := hc.eq_none w (.inl hb)
    simp only [doClone_of_mem w lastCloneOutput stage hb, exec_pure]
    exact ⟨.of_no_clone (hrefused _ (by simp) hfirst) rfl (by simp [hfirst]), by simp⟩
  have hprior := w.priorDelegatedSignature_eq hc
  have hle := delegatedDumpsOk_le pubkey (exec o h (w.doClone lastCloneOutput pubkey stage)).2
  rcases w.doClone_delegated o hfetch hb h lastCloneOutput stage with
    ⟨e, hres, hok, hdumps⟩ | ⟨hallow, ⟨r, a, hres⟩, hdumps⟩ |
    ⟨hallow, s, σ, hres, hdel, ⟨hp, hdumps⟩ | ⟨hp, hdumps, hok, account, record, hs, hsc⟩ |
      ⟨hdumps, account, record, hs, hsc⟩⟩ <;>
    simp only [hres, clonedSignatureOf, if_true, Option.toList_some, Option.toList_none]
  · refine ⟨.of_no_clone hc hok fun hsome => ?_, by simp⟩
    rcases hdumps with hdumps | hnone
    · exact hdumps
    · simp [← hprior, hnone] at hsome
  · have hfirst := hc.eq_none w (.inr hallow)
    exact ⟨.of_no_clone (hrefused _ (by simp) hfirst) (by omega) fun _ => hdumps, by simp⟩
  · exact ⟨.of_clone (.inr (hprior ▸ hp)) (hcloned hdel hb hallow) (by omega) fun _ => hdumps,
      fun _ _ _ _ _ _ _ => hdumps⟩
  · refine ⟨.of_clone (.inl (hprior ▸ hp)) (hcloned hdel hb hallow) (by omega)
      (by simp [← hprior, hp]), fun s' σ' account' record' hout hs' hsc' => ?_⟩
    simp only [Except.ok.injEq, AccountClonerOutput.cloned.injEq] at hout
    obtain ⟨rfl, -⟩ := hout
    rw [hs] at hs'
    cases hs'
    simp [hsc] at hsc'
  · have hfirst : first = none := hstage.resolve_right fun hrunning => by
      subst hrunning
      simp [ValidatorStage.shouldCloneDelegatedAccount] at hsc
    exact ⟨.of_clone (.inl hfirst) (hcloned hdel hb hallow) (by omega) fun _ => hdumps,
      fun _ _ _ _ _ _ _ => hdumps⟩

theorem doCloneOrUseCache_step (hfetch : FetchesDelegatedFrom o pubkey delegationSlot)
    (hc : w.DelegationCache pubkey delegationSlot lastCloneOutput first) (h : List Event)
    (other : Pubkey) :
    w.DelegationStep pubkey delegationSlot first
      (clonedSignatureOf pubkey (other, ((w.doCloneOrUseCache lastCloneOutput other).run o h).1.1)).toList
      ((w.doCloneOrUseCache lastCloneOutput other).run o h).2
      ((w.doCloneOrUseCache lastCloneOutput other).run o h).1.2 := by
  by_cases hother : other ≠ pubkey
  · rw [clonedSignatureOf_of_ne hother]
    exact .of_frame hc (w.doCloneOrUseCache_frame o h _ (Ne.symm hother)) fun e he =>
      isDelegatedDumpOf_of_other hother (w.doCloneOrUseCache_calls o h _ _ e he)
  rw [not_not] at hother
  subst hother
  have hquiet : ∀ checks : List Event, (∀ e ∈ checks, e.op.CacheCheck other) →
      ∀ e ∈ checks, e.op.isDelegatedDumpOf other = false := by
    intro checks hchecks e he
    rcases hchecks e he with hop | hop <;> rw [hop] <;> rfl
  rcases w.doCloneOrUseCache_cases o h lastCloneOutput other with
    ⟨output, hrun, -, hcached, hchecks⟩ | ⟨checks, hrun, hchecks⟩
  · obtain ⟨hnone, hnone_ok⟩ := delegatedDumps_eq_zero other (hquiet _ hchecks)
    rw [hrun]
    rcases output with ⟨snapshot, signature⟩ | _ <;>
      simp only [clonedSignatureOf, if_true, Option.toList_some, Option.toList_none]
    · have hcached : lastCloneOutput other = some (.cloned snapshot signature) := by
        rcases hcached with hcached | hcached | hcached <;> simp_all
      have hfirst : first = some signature := by
        cases first with
        | none => exact absurd hcached (hc _ _)
        | some _ =>
          obtain ⟨_, hcached', -⟩ := hc
          simp_all
      subst hfirst
      exact .of_clone (.inr rfl) hc (by omega) fun _ => hnone
    · exact .of_no_clone hc hnone_ok fun _ => hnone
  · rw [hrun, run_doCloneAndUpdateCache]
    have hstep := (w.doCloneAndUpdateCache_step o hfetch hc (h ++ checks) .running (.inr rfl)).1
    rw [run_doCloneAndUpdateCache] at hstep
    exact (DelegationStep.of_frame hc rfl (hquiet _ hchecks)).append (by simpa using hstep)

theorem hydrateAccounts_step (hfetch : FetchesDelegatedFrom o pubkey delegationSlot)
    (accountKeys : List (Pubkey × Pubkey)) :
    ∀ (lastCloneOutput : CloneOutputs) (h : List Event) (first : Option Signature),
      (accountKeys.map Prod.fst).Nodup → (first = none ∨ pubkey ∉ accountKeys.map Prod.fst) →
      w.DelegationCache pubkey delegationSlot lastCloneOutput first →
      w.DelegationStep pubkey delegationSlot first
          (((w.hydrateAccounts lastCloneOutput accountKeys).run o h).1.1.filterMap
            (clonedSignatureOf pubkey))
          ((w.hydrateAccounts lastCloneOutput accountKeys).run o h).2
          ((w.hydrateAccounts lastCloneOutput accountKeys).run o h).1.2 ∧
      ∀ owner snapshot signature account record, (pubkey, owner) ∈ accountKeys →
        (pubkey, .ok (.cloned snapshot signature)) ∈
          ((w.hydrateAccounts lastCloneOutput accountKeys).run o h).1.1 →
        snapshot.chainState = .delegated account record →
        (ValidatorStage.hydrating w.validatorIdentity owner).shouldCloneDelegatedAccount record = false →
        delegatedDumps pubkey ((w.hydrateAccounts lastCloneOutput accountKeys).run o h).2 = 0 := by
  induction accountKeys with
  | nil =>
    intro lastCloneOutput h first _ _ hc
    exact ⟨.nil hc, by simp⟩
  | cons key accountKeys ih =>
    obtain ⟨other, owner⟩ := key
    intro lastCloneOutput h first hnodup hfirst hc
    simp only [List.map_cons, List.nodup_cons, List.mem_cons] at hnodup hfirst
    simp only [run_hydrateAccounts_cons, filterMap_cons_eq_toList_append, delegatedDumps_append,
      List.mem_cons, Prod.mk.injEq]
    by_cases hother : other = pubkey
    · subst hother
      have hnone : first = none := hfirst.resolve_right (by simp)
      obtain ⟨hstep, hkeep⟩ := w.doCloneAndUpdateCache_step o hfetch hc h _ (.inl hnone)
      obtain ⟨hrest, -⟩ := ih _ _ _ hnodup.2 (.inr hnodup.1) hstep.cache
      refine ⟨hstep.append hrest, fun owner' snapshot signature account record hmem hout hs hsc => ?_⟩
      have hkeys := w.hydrateAccounts_keys o accountKeys
      simp only [true_and] at hmem hout
      obtain rfl : owner' = owner :=
        hmem.resolve_right fun hmem => hnodup.1 (List.mem_map_of_mem Prod.fst hmem)
      replace hout := hout.resolve_right fun hmem => hnodup.1
        (hkeys _ _ ▸ List.mem_map_of_mem Prod.fst hmem)
      rw [hkeep _ _ _ _ hout.symm hs hsc, hrest.settled (by simp [← hout, clonedSignatureOf])]
    · have hstep := w.doCloneAndUpdateCache_step_other o hother hc h
        (.hydrating w.validatorIdentity owner)
      obtain ⟨hrest, hkeep⟩ := ih _ _ first hnodup.2
        (hfirst.imp_right fun h' => fun hmem => h' (.inr hmem)) (by simpa using hstep.cache)
      rw [clonedSignatureOf_of_ne hother]
      refine ⟨hstep.append (by simpa using hrest),
        fun owner' snapshot signature account record hmem hout hs hsc => ?_⟩
      simp only [Ne.symm hother, false_and, false_or] at hmem hout
      rw [(delegatedDumps_eq_zero pubkey (w.doCloneAndUpdateCache_quiet o hother h _)).1,
        hkeep owner' snapshot signature account record hmem hout hs hsc]

theorem hydrate_step (hfetch : FetchesDelegatedFrom o pubkey delegationSlot)
    (hc : w.DelegationCache pubkey delegationSlot lastCloneOutput none) (h : List Event) :
    w.DelegationStep pubkey delegationSlot none
        (((w.hydrate lastCloneOutput).run o h).1.1.filterMap (clonedSignatureOf pubkey))
        ((w.hydrate lastCloneOutput).run o h).2 ((w.hydrate lastCloneOutput).run o h).1.2 ∧
      ∀ owner snapshot signature account record,
        (pubkey, owner) ∈ w.hydrationKeys (o h .getAllAccounts) →
        (pubkey, .ok (.cloned snapshot signature)) ∈ ((w.hydrate lastCloneOutput).run o h).1.1 →
        snapshot.chainState = .delegated account record →
        (ValidatorStage.hydrating w.validatorIdentity owner).shouldCloneDelegatedAccount record = false →
        delegatedDumps pubkey ((w.hydrate lastCloneOutput).run o h).2 = 0 := by
  cases hclone : w.canClone
  · simp only [hydrate, hclone, Bool.not_false, if_true, Prog.run_pure]
    exact ⟨.nil hc, by simp⟩
  simp only [hydrate, hclone, Bool.not_true, Bool.false_eq_true, if_false, Prog.run_bind,
    Prog.run_perform, Prog.pure_eq, Prog.run_pure, List.append_nil, List.nil_append]
  obtain ⟨hstep, hkeep⟩ := w.hydrateAccounts_step o hfetch (w.hydrationKeys (o h .getAllAccounts))
    lastCloneOutput
    (h ++ [⟨.getAllAccounts, o h .getAllAccounts⟩]) none (w.hydrationKeys_nodup _) (.inl rfl) hc
  exact ⟨(DelegationStep.of_frame hc rfl (by simp [Op.isDelegatedDumpOf])).append (by simpa using hstep),
    fun owner snapshot signature account record hmem hout hs hsc => by
      simpa [Op.isDelegatedDumpOf] using hkeep owner snapshot signature account record hmem hout hs hsc⟩

/-- The run lemma: any sequence of requests for any keys is a stretch. -/
theorem serve_step (hfetch : FetchesDelegatedFrom o pubkey delegationSlot) (keys : List Pubkey) :
    ∀ (lastCloneOutput : CloneOutputs) (h : List Event) (first : Option Signature),
      w.DelegationCache pubkey delegationSlot lastCloneOutput first →
      ∃ lastCloneOutput', w.DelegationStep pubkey delegationSlot first
        ((w.serve o lastCloneOutput h (keys.map .cloneOrUseCache)).flatMap
          (·.clonedSignatures pubkey))
        ((w.serve o lastCloneOutput h (keys.map .cloneOrUseCache)).flatMap (·.calls))
        lastCloneOutput' := by
  induction keys with
  | nil => exact fun lastCloneOutput _ _ hc => ⟨lastCloneOutput, .nil hc⟩
  | cons other keys ih =>
    intro lastCloneOutput h first hc
    have hstep := w.doCloneOrUseCache_step o hfetch hc h other
    obtain ⟨lastCloneOutput', hrest⟩ := ih _ _ _ hstep.cache
    refine ⟨lastCloneOutput', ?_⟩
    simpa [serve, Served.clonedSignatures, filterMap_cons_eq_toList_append] using
      hstep.append hrest

end Steps

/-- A delegated account is dumped at most once per delegation, never when hydration kept it, and
every clone of it carries the signature of the first. -/
theorem delegated_dump_at_most_once (o : Oracle) (pubkey : Pubkey) (delegationSlot : Slot)
    (hfetch : FetchesDelegatedFrom o pubkey delegationSlot) (hydrated : Bool) (keys : List Pubkey) :
    let runs := w.serve o (fun _ => none) []
      ((if hydrated then [.hydrate] else []) ++ keys.map .cloneOrUseCache)
    let calls := runs.flatMap (·.calls)
    let signatures := runs.flatMap (·.clonedSignatures pubkey)
    delegatedDumpsOk pubkey calls ≤ 1 ∧
    (∀ served ∈ runs, served.request = .hydrate →
      ∀ owner snapshot signature account record,
        (pubkey, owner) ∈ w.hydrationKeys (o [] .getAllAccounts) →
        (pubkey, .ok (.cloned snapshot signature)) ∈ served.outcomes →
        snapshot.chainState = .delegated account record →
        (record.authority ≠ Pubkey.default ∧ record.authority = w.validatorIdentity) ∨
          (record.authority = Pubkey.default ∧ owner = record.owner) →
        delegatedDumps pubkey calls = 0) ∧
    ∀ signature ∈ signatures, signatures.head? = some signature := by
  have hempty : w.DelegationCache pubkey delegationSlot (fun _ => none) none := by
    simp [DelegationCache]
  cases hydrated
  · obtain ⟨_, hstep⟩ := w.serve_step o hfetch keys _ [] none hempty
    refine ⟨hstep.dumped_once, fun served hserved hhydrate => ?_,
      fun signature hmem => by simpa using hstep.first_signature signature hmem⟩
    have := w.request_mem_of_mem_serve o _ _ _ hserved
    simp [hhydrate] at this
  · obtain ⟨hhydrate, hkeep⟩ := w.hydrate_step o hfetch hempty []
    obtain ⟨_, hrest⟩ := w.serve_step o hfetch keys _ _ _ hhydrate.cache
    have hall := hhydrate.append hrest
    simp only [if_true, List.singleton_append, serve, List.flatMap_cons, List.mem_cons]
    refine ⟨hall.dumped_once, ?_, fun signature hmem => hall.first_signature signature hmem⟩
    rintro served (rfl | hserved) hrequest owner snapshot signature account record hmem hout hs hsc
    · have hne : ((w.hydrate fun _ => none).run o []).1.1.filterMap (clonedSignatureOf pubkey) ≠ [] :=
        List.ne_nil_of_mem (a := signature)
          (List.mem_filterMap.mpr ⟨_, hout, by simp [clonedSignatureOf]⟩)
      obtain ⟨_, _, hcons⟩ := List.exists_cons_of_ne_nil hne
      have hsome := hrest.settled (by rw [hcons]; rfl)
      rw [delegatedDumps_append]
      exact Nat.add_eq_zero_iff.mpr ⟨hkeep owner snapshot signature account record hmem hout hs
        ((ValidatorStage.shouldCloneDelegatedAccount_hydrating_eq_false _ _ _).mpr hsc), hsome⟩
    · have := w.request_mem_of_mem_serve o _ _ _ hserved
      simp [hrequest] at this

end RemoteAccountClonerWorker

/-- Collaborators whose fetches all return an account delegated from slot 7. -/
def delegatedAtSeven : Oracle := fun _ op =>
  match op with
  | .fetchAccountChainSnapshot pubkey _ =>
    .ok ⟨pubkey, 0, .delegated ⟨0, [], 0, false⟩ ⟨0, 0, 7⟩⟩
  | op => op.defaultResp

theorem delegatedAtSeven_fetches (pubkey : Pubkey) : FetchesDelegatedFrom delegatedAtSeven pubkey 7 := by
  intro _ _ _ hs
  cases hs
  exact ⟨_, _, rfl, rfl⟩

/-- A bank of keys 9 and 10 delegated to owner 0 from slot 7, held locally by owners 8 and 0. -/
def delegatedBank : Oracle := fun _ op =>
  match op with
  | .getAllAccounts => ⟨[(9, ⟨0, [], 8, false⟩), (10, ⟨0, [], 0, false⟩)], by decide⟩
  | .getLastKnownUpdateSlot _ => some 5
  | .getFirstSubscribedSlot _ => some 0
  | .fetchAccountChainSnapshot pubkey _ => .ok ⟨pubkey, 4, .delegated ⟨0, [], 0, false⟩ ⟨0, 0, 7⟩⟩
  | .dumpDelegatedAccount _ _ _ => .ok 1
  | op => op.defaultResp

theorem delegatedBank_fetches (pubkey : Pubkey) : FetchesDelegatedFrom delegatedBank pubkey 7 := by
  intro _ _ _ hs
  cases hs
  exact ⟨_, _, rfl, rfl⟩

/-- Key 9 is dumped once, at hydration, and its refresh reuses the signature; key 10 is kept. -/
theorem serve_delegatedBank :
    let w := RemoteAccountClonerWorker.new .stub none [] none ⟨true, true, true, true, true⟩ 0
    let runs := w.serve delegatedBank (fun _ => none) []
      ((if true then [.hydrate] else []) ++ [9, 10].map .cloneOrUseCache)
    let calls := runs.flatMap (·.calls)
    (10, 0) ∈ w.hydrationKeys (delegatedBank [] .getAllAccounts) ∧
      delegatedDumps 9 calls = 1 ∧ delegatedDumps 10 calls = 0 ∧
      runs.flatMap (·.clonedSignatures 9) = [1, 1] ∧ runs.flatMap (·.clonedSignatures 10) = [0, 0] := by
  simp only [RemoteAccountClonerWorker.serve, RemoteAccountClonerWorker.serveRequest,
    RemoteAccountClonerWorker.hydrate, RemoteAccountClonerWorker.hydrationKeys,
    RemoteAccountClonerWorker.hydrateAccounts, RemoteAccountClonerWorker.canClone,
    RemoteAccountClonerWorker.new, RemoteAccountClonerWorker.doCloneOrUseCache_eq,
    RemoteAccountClonerWorker.run_doCloneAndUpdateCache,
    RemoteAccountClonerWorker.doClone_of_not_mem, exec_bind, exec_map, exec_mk, exec_monadLift,
    exec_pure, exec_fetchLatestAccountChainSnapshot, exec_fetchLoop, delegatedBank, Op.defaultResp,
    iterationDecision, iterationEvents, RemoteAccountClonerWorker.keepForHydration, Sdk.stub,
    u64Max, RemoteAccountClonerWorker.cloneAccountChainSnapshot,
    RemoteAccountClonerWorker.doCloneDelegatedAccount, RemoteAccountClonerWorker.mapDumperError,
    ValidatorStage.shouldCloneDelegatedAccount, Pubkey.default, AccountClonerOutput.atSlot,
    Served.clonedSignatures, clonedSignatureOf, Op.isDelegatedDumpOf, delegatedDumps_cons,
    delegatedDumps_nil, Prog.perform, Prog.run_bind, Prog.run_call, Prog.run_map, Prog.run_pure,
    Except.mapError, Except.map, Except.map_ok, Function.update_noteq, Function.update_same,
    pure_bind, map_pure, bind_pure_comp, Option.getD_some, Option.some.injEq, List.nil_append,
    List.cons_append, List.cons.injEq, List.mem_dedup, List.filterMap_cons_none,
    List.filterMap_cons_some, List.filterMap_nil, List.filter_cons_of_pos, List.filter_nil,
    List.flatMap_cons, List.flatMap_nil, List.map_cons, List.map_nil, List.mem_cons,
    List.not_mem_nil, BitVec.reduceEq, UInt64.reduceDiv, UInt64.reduceLE, UInt64.reduceLT,
    Bool.and_eq_true, Bool.not_false, Bool.not_true, Bool.or_true, decide_False, decide_True,
    ge_iff_le, gt_iff_lt, ne_eq, not_false_eq_true, not_true_eq_false, and_true, and_false, or_true,
    or_false, reduceCtorEq, reduceIte]

theorem delegated_dump_at_most_once_hydrated :
    let w := RemoteAccountClonerWorker.new .stub none [] none ⟨true, true, true, true, true⟩ 0
    let runs := w.serve delegatedBank (fun _ => none) []
      ((if true then [.hydrate] else []) ++ [9, 10].map .cloneOrUseCache)
    let calls := runs.flatMap (·.calls)
    ((10, 0) ∈ w.hydrationKeys (delegatedBank [] .getAllAccounts) ∧
      delegatedDumps 9 calls = 1 ∧ delegatedDumps 10 calls = 0 ∧
      runs.flatMap (·.clonedSignatures 9) = [1, 1] ∧ runs.flatMap (·.clonedSignatures 10) = [0, 0]) ∧
    (FetchesDelegatedFrom delegatedBank 9 7 ∧
      delegatedDumpsOk 9 calls ≤ 1 ∧
      (∀ served ∈ runs, served.request = .hydrate →
        ∀ owner snapshot signature account record,
          (9, owner) ∈ w.hydrationKeys (delegatedBank [] .getAllAccounts) →
          (9, .ok (.cloned snapshot signature)) ∈ served.outcomes →
          snapshot.chainState = .delegated account record →
          (record.authority ≠ Pubkey.default ∧ record.authority = w.validatorIdentity) ∨
            (record.authority = Pubkey.default ∧ owner = record.owner) →
          delegatedDumps 9 calls = 0) ∧
      ∀ signature ∈ runs.flatMap (·.clonedSignatures 9),
        (runs.flatMap (·.clonedSignatures 9)).head? = some signature) ∧
    (FetchesDelegatedFrom delegatedBank 10 7 ∧
      delegatedDumpsOk 10 calls ≤ 1 ∧
      (∀ served ∈ runs, served.request = .hydrate →
        ∀ owner snapshot signature account record,
          (10, owner) ∈ w.hydrationKeys (delegatedBank [] .getAllAccounts) →
          (10, .ok (.cloned snapshot signature)) ∈ served.outcomes →
          snapshot.chainState = .delegated account record →
          (record.authority ≠ Pubkey.default ∧ record.authority = w.validatorIdentity) ∨
            (record.authority = Pubkey.default ∧ owner = record.owner) →
          delegatedDumps 10 calls = 0) ∧
      ∀ signature ∈ runs.flatMap (·.clonedSignatures 10),
        (runs.flatMap (·.clonedSignatures 10)).head? = some signature) :=
  ⟨serve_delegatedBank,
    ⟨delegatedBank_fetches 9, RemoteAccountClonerWorker.delegated_dump_at_most_once
      (RemoteAccountClonerWorker.new .stub none [] none ⟨true, true, true, true, true⟩ 0)
      delegatedBank 9 7 (delegatedBank_fetches 9) true [9, 10]⟩,
    ⟨delegatedBank_fetches 10, RemoteAccountClonerWorker.delegated_dump_at_most_once
      (RemoteAccountClonerWorker.new .stub none [] none ⟨true, true, true, true, true⟩ 0)
      delegatedBank 10 7 (delegatedBank_fetches 10) true [9, 10]⟩⟩

end EphemeralValidator.Cloner

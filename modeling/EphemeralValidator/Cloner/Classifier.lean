import EphemeralValidator.Cloner.Worker

/-! The clone phase of `do_clone` against the classification table and materializer of the spec. -/

namespace EphemeralValidator.Cloner

open Prog (perform)
open ClonerM

/-- The calls of the second half of `do_clone` for `pubkey`. -/
def Op.ClonePhase (pubkey : Pubkey) : Op → Prop
  | .dumpFeepayerAccount k _ _ | .dumpUndelegatedAccount k _ | .dumpDelegatedAccount k _ _
  | .dumpProgramAccountWithOldBpf k _ | .dumpProgramAccounts k _ _ _ _ => k = pubkey
  | .fetchAccountChainSnapshot _ _ | .newUniqueSignature => True
  | _ => False

/-- Modelled from the spec (4.1): the stage check `should_clone_delegated(record, stage)`. -/
def ValidatorStage.shouldCloneDelegated (stage : ValidatorStage) (record : DelegationRecord) :
    Bool :=
  match stage with
  | .running => true
  | .hydrating validatorIdentity observedLocalOwner =>
    if record.authority = Pubkey.default then decide (observedLocalOwner ≠ record.owner)
    else decide (record.authority ≠ validatorIdentity)

theorem ValidatorStage.shouldCloneDelegatedAccount_eq (stage : ValidatorStage)
    (record : DelegationRecord) :
    stage.shouldCloneDelegatedAccount record = stage.shouldCloneDelegated record := by
  cases stage with
  | running => rfl
  | hydrating validatorIdentity owner =>
    by_cases hauthority : record.authority = Pubkey.default <;>
      simp [shouldCloneDelegatedAccount, shouldCloneDelegated, hauthority]

/-- Modelled from the spec (4.1): a decision of the classifier on a fetched snapshot. -/
inductive CloneDecision where
  | unclonable (reason : AccountClonerUnclonableReason) (atSlot : Slot)
  | dumpFeePayer (lamports : UInt64) (owner : Pubkey)
  | dumpUndelegated (account : Account)
  | dumpProgram (account : Account)
  | dumpDelegated (account : Account) (owner : Pubkey) (delegationSlot : Slot)
  /-- The stage check failed: a synthetic clone, no dump. -/
  | keepDelegated
deriving DecidableEq, Repr

/-- Modelled from the spec (7): a dumper call whose failure surfaces as a `DumperError`. -/
def dumperCall (call : Prog (Except AccountDumperError Signature)) : ClonerM Signature :=
  ExceptT.mk do
    match ← call with
    | .ok signature => pure (.ok signature)
    | .error error => pure (.error (.accountDumperError error))

/-- Modelled from the spec (invariant 5): the cached clone of the key from `delegationSlot`. -/
def reusableClone (lastCloneOutput : CloneOutputs) (pubkey : Pubkey) (delegationSlot : Slot) :
    Option AccountClonerOutput :=
  match lastCloneOutput pubkey with
  | some (.cloned prior signature) =>
    match prior.chainState with
    | .delegated _ record =>
      if record.delegationSlot = delegationSlot then some (.cloned prior signature) else none
    | _ => none
  | _ => none

/-- Where `do_clone` departs from spec 4.4: a reused clone carries the fetched snapshot. -/
def AccountClonerOutput.withSnapshot (snapshot : AccountChainSnapshot) :
    AccountClonerOutput → AccountClonerOutput
  | .cloned _ signature => .cloned snapshot signature
  | output => output

namespace RemoteAccountClonerWorker

variable (w : RemoteAccountClonerWorker)

section Table

/-- Modelled from the spec (4.1): an executable key outside the configured allowed programs. -/
def isNotAnAllowedProgram (pubkey : Pubkey) : Bool :=
  match w.allowedProgramIds with
  | some allowedProgramIds => pubkey ∉ allowedProgramIds
  | none => false

/-- Modelled from the spec (4.1): rule 3 of the classification table, on a fetched snapshot. -/
def classify (pubkey : Pubkey) (stage : ValidatorStage) (snapshot : AccountChainSnapshot) :
    CloneDecision :=
  match snapshot.chainState with
  | .feePayer lamports owner =>
    if w.permissions.allowCloningFeepayerAccounts then
      .dumpFeePayer (w.payerInitLamports.getD lamports) owner
    else .unclonable .doesNotAllowFeePayerAccount snapshot.atSlot
  | .undelegated account =>
    if account.executable then
      if w.isNotAnAllowedProgram pubkey then .unclonable .isNotAnAllowedProgram u64Max
      else if w.permissions.allowCloningProgramAccounts then .dumpProgram account
      else .unclonable .doesNotAllowProgramAccount snapshot.atSlot
    else if w.permissions.allowCloningUndelegatedAccounts then .dumpUndelegated account
    else .unclonable .doesNotAllowUndelegatedAccount snapshot.atSlot
  | .delegated account record =>
    if !w.permissions.allowCloningDelegatedAccounts then
      .unclonable .doesNotAllowDelegatedAccount snapshot.atSlot
    else if stage.shouldCloneDelegated record then
      .dumpDelegated account record.owner record.delegationSlot
    else .keepDelegated

/-- Modelled from the spec (4.4): the IDL account at a derived address, if any. -/
def lookupIdlAccount (address : Option Pubkey) (minContextSlot : Option Slot) :
    ClonerM (Option (Pubkey × Account)) :=
  match address with
  | none => pure none
  | some address => do
    let snapshot ← fetchAccountChainSnapshot address minContextSlot
    pure ((snapshot.chainState.account).map (address, ·))

/-- Modelled from the spec (4.4): an Anchor IDL account if there is one, else a Shank one. -/
def lookupIdl (programId : Pubkey) (minContextSlot : Option Slot) :
    ClonerM (Option (Pubkey × Account)) := do
  match ← lookupIdlAccount (w.sdk.getPubkeyAnchorIdl programId) minContextSlot with
  | some idl => pure (some idl)
  | none => lookupIdlAccount (w.sdk.getPubkeyShankIdl programId) minContextSlot

/-- Modelled from the spec (4.4): `DumpProgram`, its fetches given the outer `min_ctx`. -/
def materializeProgram (pubkey : Pubkey) (account : Account) (minContextSlot : Option Slot) :
    ClonerM Signature := do
  if account.owner = w.sdk.bpfLoaderId then
    dumperCall (perform (.dumpProgramAccountWithOldBpf pubkey account))
  else if account.owner = w.sdk.bpfLoaderDeprecatedId then
    throw .programDataDoesNotExist
  else
    let dataAddress := w.sdk.getProgramDataAddress pubkey
    let dataSnapshot ← fetchAccountChainSnapshot dataAddress minContextSlot
    match dataSnapshot.chainState.account with
    | none => throw .programDataDoesNotExist
    | some dataAccount =>
      let idl ← w.lookupIdl pubkey minContextSlot
      dumperCall (perform (.dumpProgramAccounts pubkey account dataAddress dataAccount idl))

/-- Modelled from the spec (4.4): the materializer of a decision on a fetched snapshot. -/
def materialize (lastCloneOutput : CloneOutputs) (pubkey : Pubkey) (minContextSlot : Option Slot)
    (snapshot : AccountChainSnapshot) : CloneDecision → ClonerM AccountClonerOutput
  | .unclonable reason atSlot => pure (.unclonable pubkey reason atSlot)
  | .dumpFeePayer lamports owner => do
    return .cloned snapshot (← dumperCall (perform (.dumpFeepayerAccount pubkey lamports owner)))
  | .dumpUndelegated account => do
    return .cloned snapshot (← dumperCall (perform (.dumpUndelegatedAccount pubkey account)))
  | .dumpProgram account => do
    return .cloned snapshot (← w.materializeProgram pubkey account minContextSlot)
  | .dumpDelegated account owner delegationSlot =>
    match reusableClone lastCloneOutput pubkey delegationSlot with
    | some prior => pure prior
    | none => do
      return .cloned snapshot (← dumperCall (perform (.dumpDelegatedAccount pubkey account owner)))
  | .keepDelegated => do return .cloned snapshot (← perform .newUniqueSignature)

theorem classify_unclonable {pubkey : Pubkey} {stage : ValidatorStage}
    {snapshot : AccountChainSnapshot} {reason : AccountClonerUnclonableReason} {atSlot : Slot}
    (hd : w.classify pubkey stage snapshot = .unclonable reason atSlot) :
    (atSlot = snapshot.atSlot ∨ atSlot = u64Max) ∧
      reason ≠ .noCloningAllowed ∧ reason ≠ .alreadyLocallyOverriden := by
  unfold classify at hd
  split at hd <;> split_ifs at hd <;> cases hd <;> simp

theorem reusableClone_cloned {lastCloneOutput : CloneOutputs} {pubkey : Pubkey}
    {delegationSlot : Slot} {prior : AccountClonerOutput}
    (hr : reusableClone lastCloneOutput pubkey delegationSlot = some prior) :
    ∃ snapshot signature, prior = .cloned snapshot signature := by
  unfold reusableClone at hr
  split at hr
  · split at hr
    · split_ifs at hr
      cases hr
      exact ⟨_, _, rfl⟩
    all_goals cases hr
  · cases hr

theorem materialize_okResults (lastCloneOutput : CloneOutputs) (pubkey : Pubkey)
    (minContextSlot : Option Slot) (snapshot : AccountChainSnapshot) (decision : CloneDecision) :
    (w.materialize lastCloneOutput pubkey minContextSlot snapshot decision).OkResults fun output =>
      (∃ prior signature, output = .cloned prior signature) ∨
        ∃ reason atSlot, decision = .unclonable reason atSlot ∧
          output = .unclonable pubkey reason atSlot := by
  have hcloned : ∀ x : ClonerM Signature,
      (do return .cloned snapshot (← x) : ClonerM AccountClonerOutput).OkResults
        fun output => ∃ prior signature, output = .cloned prior signature :=
    fun x => okResults_bind (okResults_true x) fun σ _ => okResults_pure ⟨_, σ, rfl⟩
  cases decision with
  | unclonable reason atSlot => exact okResults_pure (.inr ⟨reason, atSlot, rfl, rfl⟩)
  | dumpDelegated =>
    simp only [materialize]
    split
    · exact okResults_pure (.inl (reusableClone_cloned ‹_›))
    · exact (hcloned _).mono fun _ => Or.inl
  | _ => exact (hcloned _).mono fun _ => Or.inl

end Table

section ClonePhase

variable (pubkey : Pubkey)

theorem fetchAccountChainSnapshot_calls (address : Pubkey) (minContextSlot : Option Slot) :
    (fetchAccountChainSnapshot address minContextSlot).AllCalls (Op.ClonePhase pubkey) :=
  allCalls_map ⟨trivial, fun _ => trivial⟩

theorem dumperCall_calls {call : Prog (Except AccountDumperError Signature)}
    (hcall : call.AllCalls (Op.ClonePhase pubkey)) : (dumperCall call).AllCalls (Op.ClonePhase pubkey) :=
  Prog.allCalls_bind hcall fun result => by cases result <;> trivial

theorem lookupIdlAccount_calls (address : Option Pubkey) (minContextSlot : Option Slot) :
    (lookupIdlAccount address minContextSlot).AllCalls (Op.ClonePhase pubkey) := by
  cases address
  · exact allCalls_pure _
  · exact allCalls_bind (fetchAccountChainSnapshot_calls pubkey _ _) fun _ => allCalls_pure _

theorem materializeProgram_calls (account : Account) (minContextSlot : Option Slot) :
    (w.materializeProgram pubkey account minContextSlot).AllCalls (Op.ClonePhase pubkey) := by
  unfold materializeProgram
  split_ifs
  · exact dumperCall_calls pubkey ⟨rfl, fun _ => trivial⟩
  · exact allCalls_throw _
  · refine allCalls_bind (fetchAccountChainSnapshot_calls pubkey _ _) fun _ => ?_
    split
    · exact allCalls_throw _
    · refine allCalls_bind (allCalls_bind (lookupIdlAccount_calls pubkey _ _) fun idl => ?_)
        fun _ => dumperCall_calls pubkey ⟨rfl, fun _ => trivial⟩
      cases idl
      · exact lookupIdlAccount_calls pubkey _ _
      · exact allCalls_pure _

theorem materialize_calls (lastCloneOutput : CloneOutputs) (minContextSlot : Option Slot)
    (snapshot : AccountChainSnapshot) (decision : CloneDecision) :
    (w.materialize lastCloneOutput pubkey minContextSlot snapshot decision).AllCalls
      (Op.ClonePhase pubkey) := by
  have hdump : ∀ x : ClonerM Signature, x.AllCalls (Op.ClonePhase pubkey) →
      (do return .cloned snapshot (← x) : ClonerM AccountClonerOutput).AllCalls
        (Op.ClonePhase pubkey) :=
    fun x hx => allCalls_bind hx fun _ => allCalls_pure _
  cases decision with
  | unclonable => exact allCalls_pure _
  | dumpFeePayer | dumpUndelegated => exact hdump _ (dumperCall_calls pubkey ⟨rfl, fun _ => trivial⟩)
  | dumpProgram => exact hdump _ (w.materializeProgram_calls pubkey _ _)
  | dumpDelegated =>
    simp only [materialize]
    split
    · exact allCalls_pure _
    · exact hdump _ (dumperCall_calls pubkey ⟨rfl, fun _ => trivial⟩)
  | keepDelegated => exact hdump _ (allCalls_lift ⟨trivial, fun _ => trivial⟩)

end ClonePhase

/-- The signature of an earlier clone of the key from the same delegation slot. -/
def priorDelegatedSignature (lastCloneOutput : CloneOutputs) (pubkey : Pubkey)
    (delegationSlot : Slot) : Option Signature :=
  match lastCloneOutput pubkey with
  | some (.cloned prior signature) =>
    match prior.chainState with
    | .delegated _ record => if record.delegationSlot = delegationSlot then some signature else none
    | _ => none
  | _ => none

theorem doCloneDelegatedAccount_eq (lastCloneOutput : CloneOutputs) (pubkey : Pubkey)
    (account : Account) (owner : Pubkey) (delegationSlot : Slot) :
    doCloneDelegatedAccount lastCloneOutput pubkey account owner delegationSlot =
      match priorDelegatedSignature lastCloneOutput pubkey delegationSlot with
      | some signature => pure signature
      | none => mapDumperError (Prog.perform (.dumpDelegatedAccount pubkey account owner)) := by
  unfold doCloneDelegatedAccount priorDelegatedSignature
  rcases h : lastCloneOutput pubkey with _ | ⟨s, sig⟩ | _
  · simp
  · rcases hs : s.chainState with _ | _ | ⟨_, record⟩ <;> simp [hs]
    split_ifs <;> simp
  · simp

theorem reusableClone_withSnapshot (lastCloneOutput : CloneOutputs) (pubkey : Pubkey)
    (delegationSlot : Slot) (snapshot : AccountChainSnapshot) :
    (reusableClone lastCloneOutput pubkey delegationSlot).map (·.withSnapshot snapshot) =
      (priorDelegatedSignature lastCloneOutput pubkey delegationSlot).map (.cloned snapshot) := by
  unfold reusableClone priorDelegatedSignature
  rcases lastCloneOutput pubkey with _ | ⟨s, sig⟩ | _
  · rfl
  · rcases hs : s.chainState with _ | _ | ⟨_, record⟩ <;> simp [hs]
    split_ifs <;> rfl
  · rfl

theorem mapDumperError_eq (call : Prog (Except AccountDumperError Signature)) :
    mapDumperError call = dumperCall call := by
  unfold mapDumperError dumperCall
  rw [← bind_pure_comp]
  refine congrArg (ExceptT.mk <| call >>= ·) (funext fun result => ?_)
  cases result <;> rfl

theorem tryFetchProgramIdlSnapshot_eq (address : Option Pubkey) (minContextSlot : Option Slot) :
    tryFetchProgramIdlSnapshot address minContextSlot = lookupIdlAccount address minContextSlot := by
  rcases address with _ | address
  · rfl
  · simp only [tryFetchProgramIdlSnapshot, lookupIdlAccount]
    congr 1
    funext snapshot
    cases snapshot.chainState.account <;> simp

theorem fetchProgramIdl_eq (programId : Pubkey) (minContextSlot : Option Slot) :
    w.fetchProgramIdl programId minContextSlot = w.lookupIdl programId minContextSlot := by
  unfold fetchProgramIdl lookupIdl
  simp only [tryFetchProgramIdlSnapshot_eq]
  congr 1
  funext idl
  rcases idl with _ | idl
  · simp only [Option.isSome_none, pure_bind, Bool.false_eq_true, if_false]
    conv_rhs => rw [← bind_pure (lookupIdlAccount _ _)]
    congr 1
    funext idl
    cases idl <;> simp
  · simp

/-- The code and the spec test the two loaders in opposite orders, which are distinct. -/
theorem doCloneProgramAccounts_eq (pubkey : Pubkey) (account : Account)
    (minContextSlot : Option Slot) :
    w.doCloneProgramAccounts pubkey account minContextSlot =
      w.materializeProgram pubkey account minContextSlot := by
  unfold doCloneProgramAccounts materializeProgram
  by_cases hl : account.owner = w.sdk.bpfLoaderId
  · simp [hl, w.sdk.bpfLoader_ne_deprecated, mapDumperError_eq]
  · by_cases hd : account.owner = w.sdk.bpfLoaderDeprecatedId
    · simp [hl, hd, w.sdk.bpfLoader_ne_deprecated.symm]
    · simp only [hl, hd, fetchProgramIdl_eq, mapDumperError_eq, if_false, pure_bind]
      refine congrArg (_ >>= ·) (funext fun dataSnapshot => ?_)
      cases dataSnapshot.chainState.account <;> rfl

/-- The clone phase of `do_clone` is the table's decision, materialized with the departures. -/
theorem cloneAccountChainSnapshot_eq (lastCloneOutput : CloneOutputs) (pubkey : Pubkey)
    (stage : ValidatorStage) (snapshot : AccountChainSnapshot) :
    w.cloneAccountChainSnapshot lastCloneOutput pubkey stage snapshot =
      (·.withSnapshot snapshot) <$> w.materialize lastCloneOutput pubkey (some snapshot.atSlot)
        snapshot (w.classify pubkey stage snapshot) := by
  unfold cloneAccountChainSnapshot classify
  rcases hs : snapshot.chainState with ⟨lamports, owner⟩ | account | ⟨account, record⟩
  · cases w.permissions.allowCloningFeepayerAccounts <;>
      simp [materialize, doCloneFeepayerAccount, mapDumperError_eq, AccountClonerOutput.withSnapshot]
  · cases he : account.executable
    · cases w.permissions.allowCloningUndelegatedAccounts <;>
        simp [materialize, doCloneUndelegatedAccount, mapDumperError_eq, he,
          AccountClonerOutput.withSnapshot]
    · unfold isNotAnAllowedProgram
      rcases w.allowedProgramIds with _ | allowedProgramIds
      · cases w.permissions.allowCloningProgramAccounts <;>
          simp [materialize, doCloneProgramAccounts_eq, he, AccountClonerOutput.withSnapshot]
      · by_cases hk : pubkey ∈ allowedProgramIds <;>
          cases w.permissions.allowCloningProgramAccounts <;>
          simp [materialize, doCloneProgramAccounts_eq, hk, he, AccountClonerOutput.withSnapshot]
  · have hreuse := reusableClone_withSnapshot lastCloneOutput pubkey record.delegationSlot snapshot
    cases hd : w.permissions.allowCloningDelegatedAccounts
    · simp [materialize, hd, AccountClonerOutput.withSnapshot]
    · cases hsc : stage.shouldCloneDelegated record
      · simp [materialize, hd, hsc, ValidatorStage.shouldCloneDelegatedAccount_eq,
          AccountClonerOutput.withSnapshot]
      · rcases hr : reusableClone lastCloneOutput pubkey record.delegationSlot with _ | prior <;>
          rw [hr] at hreuse <;>
          rcases hp : priorDelegatedSignature lastCloneOutput pubkey record.delegationSlot <;>
          simp_all [materialize, doCloneDelegatedAccount_eq, mapDumperError_eq,
            ValidatorStage.shouldCloneDelegatedAccount_eq, AccountClonerOutput.withSnapshot]

theorem cloneAccountChainSnapshot_calls (lastCloneOutput : CloneOutputs) (pubkey : Pubkey)
    (stage : ValidatorStage) (snapshot : AccountChainSnapshot) :
    (w.cloneAccountChainSnapshot lastCloneOutput pubkey stage snapshot).AllCalls
      (Op.ClonePhase pubkey) := by
  rw [cloneAccountChainSnapshot_eq, ← bind_pure_comp]
  exact allCalls_bind (w.materialize_calls pubkey _ _ _ _) fun _ => allCalls_pure _

section DoClone

variable (lastCloneOutput : CloneOutputs) {pubkey : Pubkey} (stage : ValidatorStage)

theorem doClone_of_mem (hb : pubkey ∈ w.blacklistedAccounts) :
    w.doClone lastCloneOutput pubkey stage = pure (.unclonable pubkey .isBlacklisted u64Max) := by
  simp [doClone, hb]

theorem doClone_of_not_mem (hb : pubkey ∉ w.blacklistedAccounts) :
    w.doClone lastCloneOutput pubkey stage =
      w.fetchLatestAccountChainSnapshot pubkey >>=
        w.cloneAccountChainSnapshot lastCloneOutput pubkey stage := by
  simp [doClone, hb]

theorem cloneAccountChainSnapshot_okResults (snapshot : AccountChainSnapshot) :
    (w.cloneAccountChainSnapshot lastCloneOutput pubkey stage snapshot).OkResults fun output =>
      (∃ signature, output = .cloned snapshot signature) ∨
        ∃ reason atSlot, output = .unclonable pubkey reason atSlot ∧
          (atSlot = snapshot.atSlot ∨ atSlot = u64Max) ∧
          reason ≠ .noCloningAllowed ∧ reason ≠ .alreadyLocallyOverriden := by
  rw [cloneAccountChainSnapshot_eq, ← bind_pure_comp]
  refine okResults_bind (w.materialize_okResults _ _ _ _ _) ?_
  rintro _ (⟨prior, signature, rfl⟩ | ⟨reason, atSlot, hd, rfl⟩)
  · exact okResults_pure (.inl ⟨signature, rfl⟩)
  · exact okResults_pure (.inr ⟨reason, atSlot, rfl, w.classify_unclonable hd⟩)

end DoClone

/-- `do_clone` is the table of spec 4.1 and the materializer of spec 4.4, but for two departures:
the fetched slot as `min_ctx`, and a reused clone restamped with the fetched snapshot. -/
theorem doClone_eq_materialize_classify (lastCloneOutput : CloneOutputs) (pubkey : Pubkey)
    (stage : ValidatorStage) :
    w.doClone lastCloneOutput pubkey stage =
      if pubkey ∈ w.blacklistedAccounts then pure (.unclonable pubkey .isBlacklisted u64Max)
      else w.fetchLatestAccountChainSnapshot pubkey >>= fun snapshot =>
        (·.withSnapshot snapshot) <$> w.materialize lastCloneOutput pubkey (some snapshot.atSlot)
          snapshot (w.classify pubkey stage snapshot) := by
  split_ifs with hb
  · exact w.doClone_of_mem lastCloneOutput stage hb
  · rw [w.doClone_of_not_mem lastCloneOutput stage hb]
    simp only [← cloneAccountChainSnapshot_eq]

end RemoteAccountClonerWorker

/-- A program at key 9, its data at key 10, and accounts delegated from slot 7 elsewhere. -/
def programAndDelegated : Oracle := fun _ op =>
  match op with
  | .fetchAccountChainSnapshot pubkey _ =>
    if pubkey = 9 then .ok ⟨9, 50, .undelegated ⟨0, [], 3, true⟩⟩
    else if pubkey = 10 then .ok ⟨10, 50, .undelegated ⟨0, [], 0, false⟩⟩
    else .ok ⟨pubkey, 50, .delegated ⟨0, [], 0, false⟩ ⟨0, 0, 7⟩⟩
  | .dumpProgramAccounts .. | .dumpDelegatedAccount .. => .ok 1
  | op => op.defaultResp

/-- Key 9's program data is fetched with `Some(50)`, not `None`; key 11's reused clone comes
back with its new snapshot, not the cached one. -/
theorem doClone_departs_from_table :
    let w := RemoteAccountClonerWorker.new .stub none [] none ⟨false, true, true, true, true⟩ 0
    let prior : AccountChainSnapshot := ⟨11, 40, .delegated ⟨0, [], 0, false⟩ ⟨0, 0, 7⟩⟩
    let fetched : AccountChainSnapshot := ⟨11, 50, .delegated ⟨0, [], 0, false⟩ ⟨0, 0, 7⟩⟩
    let cached : CloneOutputs := fun _ => some (.cloned prior 1)
    ((exec programAndDelegated [] (w.doClone (fun _ => none) 9 .running)).2.map (·.op) =
        [.fetchAccountChainSnapshot 9 none, .fetchAccountChainSnapshot 10 (some 50),
          .dumpProgramAccounts 9 ⟨0, [], 3, true⟩ 10 ⟨0, [], 0, false⟩ none] ∧
      (exec programAndDelegated [] (w.fetchLatestAccountChainSnapshot 9 >>= fun snapshot =>
          w.materialize (fun _ => none) 9 none snapshot (w.classify 9 .running snapshot))).2.map
          (·.op) =
        [.fetchAccountChainSnapshot 9 none, .fetchAccountChainSnapshot 10 none,
          .dumpProgramAccounts 9 ⟨0, [], 3, true⟩ 10 ⟨0, [], 0, false⟩ none]) ∧
    ((w.doCloneAndUpdateCache cached 11 .running).run programAndDelegated []).1.1 =
        .ok (.cloned fetched 1) ∧
      ((w.doCloneAndUpdateCache cached 11 .running).run programAndDelegated []).1.2 11 =
        some (.cloned fetched 1) ∧
      (exec programAndDelegated [] (w.fetchLatestAccountChainSnapshot 11 >>= fun snapshot =>
          w.materialize cached 11 none snapshot (w.classify 11 .running snapshot))).1 =
        .ok (.cloned prior 1) :=
  ⟨⟨rfl, rfl⟩, rfl, rfl, rfl⟩

end EphemeralValidator.Cloner

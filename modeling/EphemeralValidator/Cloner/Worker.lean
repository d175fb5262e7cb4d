import EphemeralValidator.Cloner.Prog

/-! `RemoteAccountClonerWorker` as programs over its collaborators, its cache passed explicitly. -/

namespace EphemeralValidator.Cloner

open Prog (perform)

/-- `last_clone_output`: the last clone outcome of each key. -/
abbrev CloneOutputs := Pubkey → Option AccountClonerOutput

namespace RemoteAccountClonerWorker

variable (w : RemoteAccountClonerWorker)

/-- A dumper call, its error mapped by `AccountClonerError::AccountDumperError`. -/
def mapDumperError (dump : Prog (Except AccountDumperError Signature)) : ClonerM Signature :=
  ExceptT.mk (Except.mapError .accountDumperError <$> dump)

def fetchAccountChainSnapshot (pubkey : Pubkey) (minContextSlot : Option Slot) :
    ClonerM AccountChainSnapshot :=
  ExceptT.mk (Except.mapError .accountFetcherError <$>
    perform (.fetchAccountChainSnapshot pubkey minContextSlot))

/-- The retry `loop` of `do_clone`; `fetchCount` counts the fetches made before. -/
def fetchLoop (pubkey : Pubkey) (fetchCount : Nat) : ClonerM AccountChainSnapshot := do
  let fetchCount := fetchCount + 1
  let minContextSlot ← perform (.getFirstSubscribedSlot pubkey)
  match ← ExceptT.lift (fetchAccountChainSnapshot pubkey minContextSlot).run with
  | .ok accountChainSnapshot =>
    if accountChainSnapshot.atSlot ≥ (← perform (.getFirstSubscribedSlot pubkey)).getD u64Max then
      return accountChainSnapshot
    if fetchCount ≥ w.fetchRetries then throw .failedToFetchSatisfactorySlot
    else
      perform (.sleep 200)
      fetchLoop pubkey fetchCount
  | .error error =>
    if fetchCount ≥ w.fetchRetries then throw error
    else
      perform (.sleep 200)
      fetchLoop pubkey fetchCount
termination_by w.fetchRetries - fetchCount

/-- "Get the latest state of the account": the first half of `do_clone`. -/
def fetchLatestAccountChainSnapshot (pubkey : Pubkey) : ClonerM AccountChainSnapshot :=
  if w.permissions.allowCloningRefresh then do
    ExceptT.mk (Except.mapError .accountUpdatesError <$>
      perform (.ensureAccountMonitoring pubkey))
    w.fetchLoop pubkey 0
  else fetchAccountChainSnapshot pubkey none

def doCloneFeepayerAccount (pubkey : Pubkey) (lamports : UInt64) (owner : Pubkey) :
    ClonerM Signature :=
  let lamports := w.payerInitLamports.getD lamports
  mapDumperError (perform (.dumpFeepayerAccount pubkey lamports owner))

def doCloneUndelegatedAccount (pubkey : Pubkey) (account : Account) : ClonerM Signature :=
  mapDumperError (perform (.dumpUndelegatedAccount pubkey account))

/-- A delegated account cloned before from the same delegation slot keeps that clone. -/
def doCloneDelegatedAccount (lastCloneOutput : CloneOutputs) (pubkey : Pubkey)
    (account : Account) (owner : Pubkey) (delegationSlot : Slot) : ClonerM Signature := do
  if let some (.cloned accountChainSnapshot signature) := lastCloneOutput pubkey then
    if let .delegated _ delegationRecord := accountChainSnapshot.chainState then
      if delegationRecord.delegationSlot = delegationSlot then
        return signature
  mapDumperError (perform (.dumpDelegatedAccount pubkey account owner))

def tryFetchProgramIdlSnapshot (programIdlPubkey : Option Pubkey)
    (minContextSlot : Option Slot) : ClonerM (Option (Pubkey × Account)) := do
  if let some programIdlPubkey := programIdlPubkey then
    let programIdlSnapshot ← fetchAccountChainSnapshot programIdlPubkey minContextSlot
    if let some programIdlAccount := programIdlSnapshot.chainState.account then
      return some (programIdlPubkey, programIdlAccount)
  return none

/-- An Anchor IDL first, else a Shank IDL. -/
def fetchProgramIdl (programIdPubkey : Pubkey) (minContextSlot : Option Slot) :
    ClonerM (Option (Pubkey × Account)) := do
  let programIdlAnchor ←
    tryFetchProgramIdlSnapshot (w.sdk.getPubkeyAnchorIdl programIdPubkey) minContextSlot
  if programIdlAnchor.isSome then
    return programIdlAnchor
  let programIdlShank ←
    tryFetchProgramIdlSnapshot (w.sdk.getPubkeyShankIdl programIdPubkey) minContextSlot
  if programIdlShank.isSome then
    return programIdlShank
  return none

def doCloneProgramAccounts (pubkey : Pubkey) (account : Account)
    (minContextSlot : Option Slot) : ClonerM Signature := do
  let programIdPubkey := pubkey
  let programIdAccount := account
  if account.owner = w.sdk.bpfLoaderDeprecatedId then
    throw .programDataDoesNotExist
  else if account.owner = w.sdk.bpfLoaderId then
    return ← mapDumperError (perform (.dumpProgramAccountWithOldBpf programIdPubkey
      programIdAccount))
  let programDataPubkey := w.sdk.getProgramDataAddress programIdPubkey
  let programDataSnapshot ← fetchAccountChainSnapshot programDataPubkey minContextSlot
  let some programDataAccount := programDataSnapshot.chainState.account
    | throw .programDataDoesNotExist
  let programIdl ← w.fetchProgramIdl programIdPubkey minContextSlot
  mapDumperError (perform (.dumpProgramAccounts programIdPubkey programIdAccount
    programDataPubkey programDataAccount programIdl))

/-- "Generate cloning transactions": the second half of `do_clone`, on the fetched snapshot. -/
def cloneAccountChainSnapshot (lastCloneOutput : CloneOutputs) (pubkey : Pubkey)
    (stage : ValidatorStage) (accountChainSnapshot : AccountChainSnapshot) :
    ClonerM AccountClonerOutput := do
  match accountChainSnapshot.chainState with
  | .feePayer lamports owner =>
    if !w.permissions.allowCloningFeepayerAccounts then
      return .unclonable pubkey .doesNotAllowFeePayerAccount accountChainSnapshot.atSlot
    return .cloned accountChainSnapshot (← w.doCloneFeepayerAccount pubkey lamports owner)
  | .undelegated account =>
    if account.executable then
      if let some allowedProgramIds := w.allowedProgramIds then
        if pubkey ∉ allowedProgramIds then
          return .unclonable pubkey .isNotAnAllowedProgram u64Max
      if !w.permissions.allowCloningProgramAccounts then
        return .unclonable pubkey .doesNotAllowProgramAccount accountChainSnapshot.atSlot
      return .cloned accountChainSnapshot
        (← w.doCloneProgramAccounts pubkey account (some accountChainSnapshot.atSlot))
    else
      if !w.permissions.allowCloningUndelegatedAccounts then
        return .unclonable pubkey .doesNotAllowUndelegatedAccount accountChainSnapshot.atSlot
      return .cloned accountChainSnapshot (← doCloneUndelegatedAccount pubkey account)
  | .delegated account delegationRecord =>
    if !w.permissions.allowCloningDelegatedAccounts then
      return .unclonable pubkey .doesNotAllowDelegatedAccount accountChainSnapshot.atSlot
    if !stage.shouldCloneDelegatedAccount delegationRecord then
      return .cloned accountChainSnapshot (← perform .newUniqueSignature)
    return .cloned accountChainSnapshot (← doCloneDelegatedAccount lastCloneOutput pubkey
      account delegationRecord.owner delegationRecord.delegationSlot)

def doClone (lastCloneOutput : CloneOutputs) (pubkey : Pubkey) (stage : ValidatorStage) :
    ClonerM AccountClonerOutput := do
  if pubkey ∈ w.blacklistedAccounts then
    return .unclonable pubkey .isBlacklisted u64Max
  let accountChainSnapshot ← w.fetchLatestAccountChainSnapshot pubkey
  w.cloneAccountChainSnapshot lastCloneOutput pubkey stage accountChainSnapshot

/-- The result of a clone, and the cache after it: written on success only. -/
def doCloneAndUpdateCache (lastCloneOutput : CloneOutputs) (pubkey : Pubkey)
    (stage : ValidatorStage) :
    Prog (Except AccountClonerError AccountClonerOutput × CloneOutputs) := do
  match ← (w.doClone lastCloneOutput pubkey stage).run with
  | .ok updatedCloneOutput =>
    return (.ok updatedCloneOutput, Function.update lastCloneOutput pubkey updatedCloneOutput)
  | .error error => return (.error error, lastCloneOutput)

def doCloneOrUseCache (lastCloneOutput : CloneOutputs) (pubkey : Pubkey) :
    Prog (Except AccountClonerError AccountClonerOutput × CloneOutputs) := do
  if !w.canClone then
    return (.ok (.unclonable pubkey .noCloningAllowed u64Max), lastCloneOutput)
  let lastKnownUpdateSlot := (← perform (.getLastKnownUpdateSlot pubkey)).getD 0
  match lastCloneOutput pubkey with
  | some lastOutput@(.cloned snapshot _) =>
    if snapshot.atSlot ≥ lastKnownUpdateSlot then
      return (.ok lastOutput, lastCloneOutput)
    else w.doCloneAndUpdateCache lastCloneOutput pubkey .running
  | some lastOutput@(.unclonable _ _ untilSlot) =>
    if untilSlot ≥ lastKnownUpdateSlot then
      return (.ok lastOutput, lastCloneOutput)
    else w.doCloneAndUpdateCache lastCloneOutput pubkey .running
  | none =>
    if ← perform (.hasAccount pubkey) then
      return (.ok (.unclonable pubkey .alreadyLocallyOverriden u64Max), lastCloneOutput)
    else w.doCloneAndUpdateCache lastCloneOutput pubkey .running

/-- The account filter of `hydrate`: no sentinel balances, no program data accounts. -/
def keepForHydration (account : Account) : Bool :=
  if account.lamports > u64Max / 2 then false
  else if !account.executable && account.owner = w.sdk.bpfLoaderUpgradeableId then false
  else true

/-- The `for` loop of `hydrate`, with the outcome it logs for each account. -/
def hydrateAccounts (lastCloneOutput : CloneOutputs) :
    List (Pubkey × Pubkey) →
      Prog (List (Pubkey × Except AccountClonerError AccountClonerOutput) × CloneOutputs)
  | [] => return ([], lastCloneOutput)
  | (pubkey, owner) :: accountKeys => do
    let (result, lastCloneOutput) ← w.doCloneAndUpdateCache lastCloneOutput pubkey
      (.hydrating w.validatorIdentity owner)
    let (results, lastCloneOutput) ← hydrateAccounts lastCloneOutput accountKeys
    return ((pubkey, result) :: results, lastCloneOutput)

/-- The keys `hydrate` re-clones, with their local owners, as a list without duplicates. -/
def hydrationKeys (bank : BankAccounts) : List (Pubkey × Pubkey) :=
  ((bank.accounts.filter fun (pubkey, _) => pubkey ∉ w.blacklistedAccounts).filter
    fun (_, account) => w.keepForHydration account).map (fun (pubkey, account) =>
      (pubkey, account.owner)) |>.dedup

def hydrate (lastCloneOutput : CloneOutputs) :
    Prog (List (Pubkey × Except AccountClonerError AccountClonerOutput) × CloneOutputs) := do
  if !w.canClone then
    return ([], lastCloneOutput)
  let bank ← perform .getAllAccounts
  w.hydrateAccounts lastCloneOutput (w.hydrationKeys bank)

end RemoteAccountClonerWorker

end EphemeralValidator.Cloner

import Mathlib.Data.List.Basic

/-! Data model of the remote account cloner and its worker's configuration. -/

namespace EphemeralValidator.Cloner

/-- A 32-byte account key. -/
abbrev Pubkey := BitVec 256

/-- `Pubkey::default()`, the all-zero key. -/
def Pubkey.default : Pubkey := 0

abbrev Slot := UInt64

/-- `u64::MAX`. -/
def u64Max : UInt64 := 18446744073709551615

/-- A 64-byte transaction signature. -/
abbrev Signature := BitVec 512

/-- `solana_sdk::account::Account`. The cloner never reads `rent_epoch`, which is left out. -/
structure Account where
  lamports : UInt64
  data : List UInt8
  owner : Pubkey
  executable : Bool
deriving DecidableEq, Repr

/-- The delegation record of a delegated account; `commit_frequency` is never read. -/
structure DelegationRecord where
  authority : Pubkey
  owner : Pubkey
  delegationSlot : Slot
deriving DecidableEq, Repr

/-- `AccountChainState`; the `delegation_pda` of a delegated account is never read. -/
inductive AccountChainState where
  | feePayer (lamports : UInt64) (owner : Pubkey)
  | undelegated (account : Account)
  | delegated (account : Account) (delegationRecord : DelegationRecord)
deriving DecidableEq, Repr

/-- Modelled from the spec: `AccountChainState::account`, which a fee payer does not have. -/
def AccountChainState.account : AccountChainState → Option Account
  | .feePayer _ _ => none
  | .undelegated account => some account
  | .delegated account _ => some account

structure AccountChainSnapshot where
  pubkey : Pubkey
  atSlot : Slot
  chainState : AccountChainState
deriving DecidableEq, Repr

inductive AccountClonerUnclonableReason where
  | noCloningAllowed
  | isBlacklisted
  | isNotAnAllowedProgram
  | alreadyLocallyOverriden
  | doesNotAllowFeePayerAccount
  | doesNotAllowUndelegatedAccount
  | doesNotAllowDelegatedAccount
  | doesNotAllowProgramAccount
deriving DecidableEq, Repr

inductive AccountClonerOutput where
  | cloned (accountChainSnapshot : AccountChainSnapshot) (signature : Signature)
  | unclonable (pubkey : Pubkey) (reason : AccountClonerUnclonableReason) (atSlot : Slot)
deriving DecidableEq, Repr

/-- The slot up to which an outcome is known good: the snapshot's slot, or the refusal's. -/
def AccountClonerOutput.atSlot : AccountClonerOutput → Slot
  | .cloned accountChainSnapshot _ => accountChainSnapshot.atSlot
  | .unclonable _ _ atSlot => atSlot

/-- The errors of the three collaborators are opaque to the cloner. -/
structure AccountUpdatesError where
  code : Nat
deriving DecidableEq, Repr

structure AccountFetcherError where
  code : Nat
deriving DecidableEq, Repr

structure AccountDumperError where
  code : Nat
deriving DecidableEq, Repr

inductive AccountClonerError where
  | accountUpdatesError (error : AccountUpdatesError)
  | accountFetcherError (error : AccountFetcherError)
  | accountDumperError (error : AccountDumperError)
  | failedToFetchSatisfactorySlot
  | programDataDoesNotExist
deriving DecidableEq, Repr

structure AccountClonerPermissions where
  allowCloningRefresh : Bool
  allowCloningFeepayerAccounts : Bool
  allowCloningUndelegatedAccounts : Bool
  allowCloningDelegatedAccounts : Bool
  allowCloningProgramAccounts : Bool
deriving DecidableEq, Repr

inductive ValidatorStage where
  /-- `account_owner` is the owner, in the local bank, of the account being hydrated. -/
  | hydrating (validatorIdentity : Pubkey) (accountOwner : Pubkey)
  | running
deriving DecidableEq, Repr

/-- During hydration a delegated account is cloned unless it is delegated to us. -/
def ValidatorStage.shouldCloneDelegatedAccount :
    ValidatorStage → DelegationRecord → Bool
  | .hydrating validatorIdentity accountOwner, record =>
    if record.authority ≠ Pubkey.default then record.authority ≠ validatorIdentity
    else accountOwner ≠ record.owner
  | .running, _ => true

/-- At hydration a delegated account is kept, as delegated to this validator, exactly when its
record names the validator as authority, or names none and the local owner is the record's. -/
theorem ValidatorStage.shouldCloneDelegatedAccount_hydrating_eq_false
    (validatorIdentity accountOwner : Pubkey) (record : DelegationRecord) :
    (hydrating validatorIdentity accountOwner).shouldCloneDelegatedAccount record = false ↔
      (record.authority ≠ Pubkey.default ∧ record.authority = validatorIdentity) ∨
        (record.authority = Pubkey.default ∧ accountOwner = record.owner) := by
  by_cases hauthority : record.authority = Pubkey.default <;>
    simp [shouldCloneDelegatedAccount, hauthority]

/-- The SDK constants and address derivations the worker names, whose code is outside `src/`. -/
structure Sdk where
  bpfLoaderDeprecatedId : Pubkey
  bpfLoaderId : Pubkey
  bpfLoaderUpgradeableId : Pubkey
  getProgramDataAddress : Pubkey → Pubkey
  getPubkeyAnchorIdl : Pubkey → Option Pubkey
  getPubkeyShankIdl : Pubkey → Option Pubkey
  bpfLoader_ne_deprecated : bpfLoaderId ≠ bpfLoaderDeprecatedId

/-- An SDK with made-up loader ids and derivations, to evaluate the model on. -/
def Sdk.stub : Sdk where
  bpfLoaderDeprecatedId := 1
  bpfLoaderId := 2
  bpfLoaderUpgradeableId := 3
  getProgramDataAddress pubkey := pubkey + 1
  getPubkeyAnchorIdl _ := none
  getPubkeyShankIdl _ := none
  bpfLoader_ne_deprecated := by decide

/-- The immutable configuration of `RemoteAccountClonerWorker`. -/
structure RemoteAccountClonerWorker where
  allowedProgramIds : Option (List Pubkey)
  blacklistedAccounts : List Pubkey
  payerInitLamports : Option UInt64
  permissions : AccountClonerPermissions
  fetchRetries : Nat
  validatorIdentity : Pubkey
  sdk : Sdk

namespace RemoteAccountClonerWorker

def new (sdk : Sdk) (allowedProgramIds : Option (List Pubkey))
    (blacklistedAccounts : List Pubkey) (payerInitLamports : Option UInt64)
    (permissions : AccountClonerPermissions) (validatorAuthority : Pubkey) :
    RemoteAccountClonerWorker where
  allowedProgramIds := allowedProgramIds
  blacklistedAccounts := blacklistedAccounts
  payerInitLamports := payerInitLamports
  permissions := permissions
  fetchRetries := 5
  validatorIdentity := validatorAuthority
  sdk := sdk

def canClone (w : RemoteAccountClonerWorker) : Bool :=
  w.permissions.allowCloningFeepayerAccounts || w.permissions.allowCloningUndelegatedAccounts ||
    w.permissions.allowCloningDelegatedAccounts || w.permissions.allowCloningProgramAccounts

end RemoteAccountClonerWorker

theorem le_u64Max (slot : Slot) : slot ≤ u64Max := by
  rw [UInt64.le_def]
  exact Nat.le_of_lt_succ slot.toBitVec.isLt

end EphemeralValidator.Cloner

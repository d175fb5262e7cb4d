import EphemeralValidator.Cloner.Types
import EphemeralValidator.Cloner.Prog
import EphemeralValidator.Cloner.Worker
import EphemeralValidator.Cloner.FetchLoop
import EphemeralValidator.Cloner.Classifier
import EphemeralValidator.Cloner.Requests
import EphemeralValidator.Cloner.Freshness
import EphemeralValidator.Cloner.Refusals
import EphemeralValidator.Cloner.Delegation
import EphemeralValidator.Cloner.SingleFlight
import EphemeralValidator.Cloner.RequestLoop
import EphemeralValidator.Cloner.LoopRuns
import EphemeralValidator.MutateAccounts.AccountModData

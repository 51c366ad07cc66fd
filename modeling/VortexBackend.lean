import VortexBackend.Proofs.IntentLifecycle
import VortexBackend.Proofs.TrancheConservation
import VortexBackend.Proofs.OutboxOrder
import VortexBackend.Proofs.DualWriteConvergence
import VortexBackend.Proofs.NoEarlyExpiry
import VortexBackend.Proofs.SettlementTotals
import VortexBackend.Proofs.DeliveredTranches
import VortexBackend.Proofs.OpenIntentCap
import VortexBackend.Proofs.HorizonVerdict
import VortexBackend.Proofs.LandedFill
import VortexBackend.Proofs.SlashStoreAgreement
import VortexBackend.Proofs.SlashCancellation
import VortexBackend.Proofs.LandedSlash
import VortexBackend.Proofs.VerdictWrites
import VortexBackend.Proofs.RowCodec
import VortexBackend.Proofs.OutboxBudget
import VortexBackend.Proofs.ChannelExclusivity
import VortexBackend.Proofs.ResumeQuorum
import VortexBackend.Proofs.ScopedPauses
import VortexBackend.Proofs.SignedConsent
import VortexBackend.Proofs.SequenceDiscipline
import VortexBackend.Proofs.TrackedOutcomes
import VortexBackend.Proofs.SignedReplays
import VortexBackend.Proofs.PollBackstop
import VortexBackend.Proofs.LocalPause
import VortexBackend.Proofs.ExactDedupe
import VortexBackend.Proofs.BackfillResumption
import VortexBackend.Proofs.FreshVersionGate
import VortexBackend.Proofs.CursorCompleteness
import VortexBackend.Proofs.KeeperBudget
import VortexBackend.Proofs.CounterUpdates
import VortexBackend.Proofs.EvmVerdict
import VortexBackend.Proofs.StaticParams
import VortexBackend.Proofs.PolicySoundness
import VortexBackend.Proofs.SlippageBound
import VortexBackend.Proofs.BroadcastOrder
import VortexBackend.Proofs.RateLimitBound
import VortexBackend.Proofs.SigningBudget
import VortexBackend.Proofs.StreamClient
import VortexBackend.Proofs.TrancheCover
import VortexBackend.Proofs.ReplayAgreement
import VortexBackend.Proofs.LockOrder
import VortexBackend.Auth.SignatureNonces

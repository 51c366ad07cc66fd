/-
Module: VortexBackend.Backend.Service
Purpose: The backend as one service: every request that can arrive, and the program each one runs.
Main exports: BackendRequest, backendService
-/
import VortexBackend.Async.Discipline
import VortexBackend.Intents.Controller
import VortexBackend.Intents.SlashingPipeline
import VortexBackend.Intents.SourceDepositVerification
import VortexBackend.Soroban.Reconciler

namespace VortexBackend

open Backend FillsRepository

inductive BackendRequest where
  -- HTTP
  | create (dto : CreateIntentDto)
  | batchCreate (dtos : List CreateIntentDto)
  | accept (id : String) (dto : AcceptIntentDto)
  | fill (id : String) (dto : FillIntentDto)
  | cancel (id : String) (dto : CancelIntentDto)
  | amend (id : String) (dto : AmendIntentDto)
  | reserve (id : String) (dto : ReserveTrancheDto)
  | fillTranche (id fillId : String) (dto : FillTrancheDto)
  -- background workers
  | sweep
  | expireJob (data : IntentsSweeper.DeadlineJobData)
  | fillWindowJob (data : IntentsSweeper.DeadlineJobData)
  | verificationTick
  | verifyOne (intent : Intent) (now : Nat)
  | reconcile (dryRun : Option Bool)
  | processDue (worker : Nat)
  -- the slashing saga
  | detect (input : SlashingPipeline.DetectMissedFillInput)
  | cancelByAdmin (intentId actor note : String)
  | cancelByFillProof (intentId solver txHash : String)
  -- methods and jobs of the intents service
  | createIntent (data : NewIntentData) (idempotencyKey : Option String)
  | logStoreSize
  | acceptIfOpen (id solver : String) (now : Option Nat) (ctx : IntentsService.ContextPatch)
  | fillIfAccepted (id solver : String) (patch : IntentPatch) (now : Option Nat)
      (ctx : IntentsService.ContextPatch)
  | cancelIfOpen (id : String) (ctx : IntentsService.ContextPatch)
  | expireIfOpen (id : String) (ctx : IntentsService.ContextPatch)
  | slashIfAccepted (id : String) (slashedAt : Nat) (slashReason : String)
      (ctx : IntentsService.ContextPatch)
  | settlePartialFill (id solver : String) (patch : IntentPatch) (now : Nat)
  | update (id : String) (patch : IntentPatch) (expectedVersion : Option Nat)
  | transitionToOnChainPending (id : String) (op : PendingIntentOp) (txHash : Option String)
      (ctx : IntentsService.ContextPatch)
  | confirmIntent (id : String) (ctx : IntentsService.ContextPatch)
  | compensateSlash (id : String) («to» : IntentsService.Compensation) (ctx : TransitionContext)
      (patch : IntentPatch) (now : Option Nat)
  -- a method of the partial-fill service
  | slashExpiredReservations (now : Nat) (intentId : Option String)
  -- methods of the tranche store; the callback of `reserve` answers as its caller likes
  | storeReserve (request : ReserveRequest)
  | storeMarkFilled (fillId solver : String) (patch : FillPatch)
  | storeMarkSlashed (fillId : String) (now : Nat)
  | storeMarkReleased (fillId : String) (now : Nat)
deriving Repr, DecidableEq

inductive BackendResponse where
  | done
  | intent (result : Option Intent)
  | view (view : IntentView)
  | reservation (fill : IntentFill) (view : IntentView)
  | tranche (result : PartialFillService.TrancheFilled)
  | reserved (result : FillsRepository.ReserveResult)
  | fill (result : Option IntentFill)
  | swept (result : IntentsSweeper.SweepResult)
  | check (result : Option DepositCheck)
  | count (result : Nat)
  | reconciled (result : Reconciler.ReconcileResult)
  | slash (row : PendingSlash)
  | batch (created : List Intent)
deriving Repr, DecidableEq

/-- Wrap what a function returns. -/
def respond {α : Type} (wrap : α → BackendResponse) (x : Backend α) : Backend BackendResponse := do
  let value ← x
  pure (wrap value)

/-- The function behind each request. -/
def BackendRequest.handler (cfg : BackendSettings) : BackendRequest → Backend BackendResponse
  | .create dto => respond .view (IntentsController.create cfg dto)
  | .batchCreate dtos => respond .batch (IntentsController.batchCreate cfg dtos)
  | .accept id dto => respond .view (IntentsController.accept cfg id dto)
  | .fill id dto => respond .view (IntentsController.fill cfg id dto)
  | .cancel id dto => respond .view (IntentsController.cancel cfg id dto)
  | .amend id dto => respond .view (IntentsController.amend id dto)
  | .reserve id dto => respond (fun r => .reservation r.1 r.2) (IntentFillsController.reserve cfg id dto)
  | .fillTranche id fillId dto => respond .tranche (IntentFillsController.fill cfg id fillId dto)
  | .sweep => respond .swept (IntentsSweeper.sweep cfg)
  | .expireJob data => respond (fun _ => .done) (IntentsSweeper.handleExpireJob cfg data)
  | .fillWindowJob data => respond (fun _ => .done) (IntentsSweeper.handleFillWindowJob cfg data)
  | .verificationTick => respond .count (SourceDepositVerification.tick cfg)
  | .verifyOne intent now => respond .check (SourceDepositVerification.verifyOne cfg intent now)
  | .reconcile dryRun => respond .reconciled (Reconciler.reconcile cfg dryRun)
  | .processDue worker => respond (fun _ => .done) (SlashingPipeline.processDue cfg worker)
  | .detect input => respond .slash (SlashingPipeline.detect cfg input)
  | .cancelByAdmin intentId actor note =>
    respond .slash (SlashingPipeline.cancelByAdmin cfg intentId actor note)
  | .cancelByFillProof intentId solver txHash =>
    respond .slash (SlashingPipeline.cancelByFillProof cfg intentId solver txHash)
  | .createIntent data idempotencyKey =>
    respond (fun intent => .intent (some intent)) (IntentsService.create cfg data idempotencyKey)
  | .logStoreSize => respond (fun _ => .done) (IntentsService.logStoreSize cfg)
  | .acceptIfOpen id solver now ctx => respond .intent (IntentsService.acceptIfOpen cfg id solver now ctx)
  | .fillIfAccepted id solver patch now ctx =>
    respond .intent (IntentsService.fillIfAccepted cfg id solver patch now ctx)
  | .cancelIfOpen id ctx => respond .intent (IntentsService.cancelIfOpen cfg id ctx)
  | .expireIfOpen id ctx => respond .intent (IntentsService.expireIfOpen id ctx)
  | .slashIfAccepted id slashedAt slashReason ctx =>
    respond .intent (IntentsService.slashIfAccepted cfg id slashedAt slashReason ctx)
  | .settlePartialFill id solver patch now =>
    respond .intent (IntentsService.settlePartialFill cfg id solver patch now)
  | .update id patch expectedVersion => respond .intent (IntentsService.update id patch expectedVersion)
  | .transitionToOnChainPending id op txHash ctx =>
    respond .intent (IntentsService.transitionToOnChainPending id op txHash ctx)
  | .confirmIntent id ctx => respond .intent (IntentsService.confirmIntent id ctx)
  | .compensateSlash id «to» ctx patch now =>
    respond .intent (IntentsService.compensateSlash cfg id «to» ctx patch now)
  | .slashExpiredReservations now intentId =>
    respond .count (PartialFillService.slashExpiredReservations cfg now intentId)
  | .storeReserve request =>
    respond .reserved
      (FillsRepository.reserve request (Async.attempt (external (.isOpen request.intentId))))
  | .storeMarkFilled fillId solver patch => respond .fill (markFilled fillId solver patch)
  | .storeMarkSlashed fillId now => respond .fill (markSlashed fillId now)
  | .storeMarkReleased fillId now => respond .fill (markReleased fillId now)

/-- The backend with its configuration. -/
def backendService (cfg : BackendSettings) :
    Service BackendReply BackendWorld BackendChoice BackendWorld.Drift BackendRequest
      (Except BackendError BackendResponse) where
  perform := BackendWorld.perform
  drift := BackendWorld.drift
  start request := (request.handler cfg).run

abbrev BackendView := View BackendReply BackendWorld BackendRequest
abbrev BackendEvent := Event BackendReply BackendRequest
abbrev BackendSetting := Setting BackendReply BackendWorld BackendRequest
abbrev BackendExchange := Exchange BackendReply
abbrev BackendDiscipline := Discipline BackendReply BackendRequest (Except BackendError BackendResponse)
abbrev BackendConfig := Config BackendReply BackendWorld BackendRequest (Except BackendError BackendResponse)
abbrev BackendMove := Move BackendChoice BackendWorld.Drift BackendRequest
abbrev BackendTransition :=
  Transition BackendReply BackendWorld BackendChoice BackendWorld.Drift BackendRequest
    (Except BackendError BackendResponse)

end VortexBackend

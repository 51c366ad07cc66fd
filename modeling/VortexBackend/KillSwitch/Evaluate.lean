/-
Module: VortexBackend.KillSwitch.Evaluate
Purpose: Which switches govern a write, and the gate that throws on a pause. Evaluation fails closed.
Main exports: evaluate, assertNotPaused, evaluate_paused_iff
-/
import Mathlib.Tactic.Common

namespace VortexBackend

/-- Operations that a switch can gate. -/
inductive KillSwitchOperation where
  | create
  | accept
  | fill
  | slash
  | onchain
deriving Repr, DecidableEq

/-- Scope levels, broadest first. -/
inductive KillSwitchScope where
  | global
  | chain
  | token
  | operation
deriving Repr, DecidableEq

/-- One switch of the local snapshot. -/
structure SwitchSnapshotEntry where
  scope : KillSwitchScope
  chain : Option String := none
  token : Option String := none
  operation : Option KillSwitchOperation := none
  active : Bool
  reasonCode : String
  reason : String
deriving Repr, DecidableEq

/-- The address of the write that is being checked. -/
structure SwitchTarget where
  chain : Option String
  token : Option String
  operation : KillSwitchOperation
deriving Repr, DecidableEq

/-- Result of evaluating the hierarchy for one request. -/
structure SwitchDecision where
  paused : Bool
  matched : Option SwitchSnapshotEntry
  matchedChain : List SwitchSnapshotEntry
deriving Repr, DecidableEq

/-- Nothing matched, so the write is allowed. -/
def ALLOW_ALL : SwitchDecision := ⟨false, none, []⟩

/-- Operations backed by an on-chain write, which an `onchain` switch gates too. -/
def ONCHAIN_GATED_OPERATIONS : List KillSwitchOperation := [.fill, .slash]

/-- The switch operations to consider for a requested operation, most specific first. -/
def candidateOperations (operation : KillSwitchOperation) : List KillSwitchOperation :=
  if operation ∈ ONCHAIN_GATED_OPERATIONS then [operation, .onchain] else [operation]

/-- Does a switch at `scope` govern this request? An absent token of a switch is a wildcard. -/
def scopeMatches (entry : SwitchSnapshotEntry) (scope : KillSwitchScope) (target : SwitchTarget)
    (candidates : List KillSwitchOperation) : Bool :=
  match scope with
  | .global => true
  | .chain => entry.chain.isSome && entry.chain == target.chain
  | .token =>
    entry.chain.isSome && entry.chain == target.chain &&
      (entry.token.isNone || entry.token == target.token)
  | .operation =>
    entry.chain.isSome && entry.chain == target.chain &&
      (entry.token.isNone || entry.token == target.token) &&
      entry.operation.any (candidates.contains ·)

/-- Broadest → narrowest. -/
def EVALUATION_ORDER : List KillSwitchScope := [.global, .chain, .token, .operation]

variable (target : SwitchTarget) (candidates : List KillSwitchOperation)

/-- The body of the evaluation loop: collect a matching entry, and let the last active one govern. -/
def visitEntry (scope : KillSwitchScope) (acc : List SwitchSnapshotEntry × Option SwitchSnapshotEntry)
    (entry : SwitchSnapshotEntry) : List SwitchSnapshotEntry × Option SwitchSnapshotEntry :=
  if entry.scope ≠ scope then acc
  else if !scopeMatches entry scope target candidates then acc
  else (acc.1 ++ [entry], if entry.active then some entry else acc.2)

variable (entries : List SwitchSnapshotEntry)

/-- Evaluate the switch hierarchy for a single write: any active match blocks it. -/
def evaluate (target : SwitchTarget) : SwitchDecision :=
  if entries.isEmpty then ALLOW_ALL
  else
    let candidates := candidateOperations target.operation
    let (matchedChain, governing) := EVALUATION_ORDER.foldl (fun acc scope =>
      entries.foldl (visitEntry target candidates scope) acc) ([], none)
    if matchedChain.isEmpty then ALLOW_ALL
    else
      { paused := matchedChain.any (·.active)
        matched := governing.orElse fun _ => matchedChain.getLast?
        matchedChain }

/-- An on-chain guardian pause that is in force, with its transaction if it is known. -/
structure GuardianPause where
  txHash : Option String := none
deriving Repr, DecidableEq

/-- The state of the service: whether the snapshot has been loaded, the guardian's pause, and the
    snapshot. -/
structure KillSwitch where
  ready : Bool := true
  guardianPause : Option GuardianPause := none
  snapshot : List SwitchSnapshotEntry := []
deriving Repr, DecidableEq

/-- The decision for a target. Without a snapshot, or under a guardian pause, everything is paused. -/
def KillSwitch.evaluateTarget (k : KillSwitch) (target : SwitchTarget) : SwitchDecision :=
  if !k.ready then ⟨true, none, []⟩
  else
    match k.guardianPause with
    | some pause =>
      let txHash := pause.txHash.getD "unknown"
      let entry : SwitchSnapshotEntry :=
        { scope := .global, active := true, reasonCode := "GUARDIAN_PAUSE"
          reason := s!"On-chain guardian pause (tx {txHash})" }
      ⟨true, some entry, [entry]⟩
    | none => evaluate k.snapshot target

/-- What the exception of an active switch carries. -/
structure KillSwitchActive where
  reasonCode : String
  reason : String
  scope : KillSwitchScope
  chain : Option String
  token : Option String
  operation : KillSwitchOperation
deriving Repr, DecidableEq

/-- The exception for a target that is paused, or nothing. -/
def assertNotPaused (k : KillSwitch) (target : SwitchTarget) : Except KillSwitchActive Unit :=
  let decision := k.evaluateTarget target
  if !decision.paused then .ok ()
  else
    .error
      { reasonCode := (decision.matched.map (·.reasonCode)).getD "UNKNOWN"
        reason := (decision.matched.map (·.reason)).getD "An emergency pause is active for this scope"
        scope := (decision.matched.map (·.scope)).getD .global
        chain := decision.matched.bind (·.chain)
        token := decision.matched.bind (·.token)
        operation := (decision.matched.bind (·.operation)).getD target.operation }

/-! ### Evaluation fails closed -/

/-- The entries that govern a target. -/
def Governs (entry : SwitchSnapshotEntry) : Bool :=
  scopeMatches entry entry.scope target (candidateOperations target.operation)

theorem foldl_visitEntry_fst (scope : KillSwitchScope) (entries : List SwitchSnapshotEntry) :
    ∀ acc, (entries.foldl (visitEntry target candidates scope) acc).1 =
      acc.1 ++ entries.filter fun e => e.scope == scope && scopeMatches e scope target candidates := by
  induction entries with
  | nil => simp
  | cons entry rest ih =>
    intro acc
    rw [List.foldl_cons, ih]
    by_cases hscope : entry.scope = scope
    · cases hmatch : scopeMatches entry scope target candidates <;>
        simp [visitEntry, hscope, hmatch]
    · simp [visitEntry, hscope]

theorem foldl_scopes_fst (scopes : List KillSwitchScope) : ∀ acc, (scopes.foldl (fun acc scope =>
        entries.foldl (visitEntry target candidates scope) acc) acc).1 =
      acc.1 ++ scopes.flatMap fun scope =>
        entries.filter fun e => e.scope == scope && scopeMatches e scope target candidates := by
  induction scopes with
  | nil => simp
  | cons scope rest ih =>
    intro acc
    rw [List.foldl_cons, ih, foldl_visitEntry_fst, List.flatMap_cons, List.append_assoc]

/-- A write is paused exactly when some switch that governs it is active. -/
theorem evaluate_paused_iff (target : SwitchTarget) :
    (evaluate entries target).paused = true ↔ ∃ entry ∈ entries, Governs target entry = true ∧
      entry.active = true := by
  have collected := foldl_scopes_fst target (candidateOperations target.operation) entries
    EVALUATION_ORDER ([], none)
  rw [List.nil_append] at collected
  have ordered : ∀ scope, scope ∈ EVALUATION_ORDER := by
    intro scope
    cases scope <;> simp [EVALUATION_ORDER]
  cases entries with
  | nil => simp [evaluate, ALLOW_ALL]
  | cons first rest =>
    simp only [evaluate, List.isEmpty_cons, Bool.false_eq_true, if_false, collected]
    split
    · rename_i none_matched
      rw [List.isEmpty_iff, List.flatMap_eq_nil_iff] at none_matched
      simp only [ALLOW_ALL, Bool.false_eq_true, false_iff, not_exists, not_and]
      intro entry hentry governs
      have := List.filter_eq_nil_iff.mp (none_matched entry.scope (ordered _)) entry hentry
      simp [Governs] at governs
      simp [governs] at this
    · simp only [List.any_eq_true, List.mem_flatMap, List.mem_filter, Bool.and_eq_true, beq_iff_eq]
      constructor
      · rintro ⟨entry, ⟨scope, _, hentry, rfl, hmatch⟩, active⟩
        exact ⟨entry, hentry, hmatch, active⟩
      · rintro ⟨entry, hentry, hmatch, active⟩
        exact ⟨entry, ⟨entry.scope, ordered _, hentry, rfl, hmatch⟩, active⟩

end VortexBackend

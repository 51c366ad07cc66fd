/-
Module: VortexBackend.Soroban.SignerPolicy
Purpose: The policy that decides whether a transaction is signed. Fees and limits are integers.
Trusted boundary: how the SDK decodes an envelope, logs and alerts
Main exports: decodeTx, evaluatePolicy
-/
import Mathlib.Data.List.Basic

namespace VortexBackend

inductive PolicyAction where
  | allow
  | deny
  | warn
deriving DecidableEq

structure PolicyRule where
  action : Option PolicyAction := none
  contractId : Option String := none
  method : Option String := none
  source : Option String := none

structure PolicyDocument where
  defaultAction : Option PolicyAction := none
  maxInclusionFee : Option Int := none
  maxResourceFee : Option Int := none
  maxAuthEntries : Option Int := none
  windowMs : Option Int := none
  rules : List PolicyRule := []

/-- The properties of an entry that are texts, and those of its `address`. -/
structure AuthEntry where
  fields : List (String × String)
  address : List (String × String) := []

inductive AuthorizedFunction where
  | contractFn (contractId functionName : String)
  | other (switchName : String)

/-- An invocation with those it authorizes. -/
inductive Invocation where
  | node (function : AuthorizedFunction) (subInvocations : List Invocation)

structure DecodedTx where
  source : String
  fee : Int
  resourceFee : Int
  operations : List String
  authEntries : List AuthEntry

/-- A signed envelope: its authorization entries are objects, each with the root of its tree. -/
structure TxEnvelope where
  source : String
  fee : Int
  /-- the resource fee of the Soroban data, in the extension of the transaction -/
  resourceFee : Int
  operations : List String
  auth : List Nat
  rootInvocation : Nat → Invocation

inductive TxInput where
  | xdr (envelope : TxEnvelope)
  | decoded (tx : DecodedTx)

structure EvaluateOptions where
  nowMs : Int
  budgetWindowMs : Option Int := none
  budgetLimit : Option Int := none

structure PolicyDecision where
  status : PolicyAction
  reason : String
  matchedRule : Option String := none
  budgetKey : String

namespace SignerPolicy

/-- The first of the keys whose text is not blank. -/
def readString (record : List (String × String)) (keys : List String) : Option String :=
  keys.findSome? fun key => (record.lookup key).filter fun value => value.toList.any (!·.isWhitespace)

variable (entry : AuthEntry)

def toContractId : Option String :=
  (readString entry.fields ["contractId", "contract_id", "contract", "contractAddress"]).orElse fun _ =>
    readString entry.address ["contractId", "contract_id", "contract"]

def toMethodName : Option String :=
  readString entry.fields ["functionName", "function_name", "method", "methodName", "name"]

def toSource : Option String :=
  readString entry.fields ["source", "sourceAccount", "source_account", "from"]

/-- An absent or empty pattern and the star match everything. -/
def matchesPattern (pattern value : Option String) : Bool :=
  pattern.all fun p => p.isEmpty || p == "*" || value == some p

def matchesRule (rule : PolicyRule) (entry : AuthEntry) : Bool :=
  matchesPattern rule.contractId (toContractId entry) && matchesPattern rule.method (toMethodName entry) &&
    matchesPattern rule.source (toSource entry)

def toEntry : AuthorizedFunction → AuthEntry
  | .contractFn contractId functionName => { fields := [("contractId", contractId), ("functionName", functionName)] }
  | .other switchName => { fields := [("contractId", "__NON_CONTRACT__"), ("functionName", switchName)] }

mutual

def flatten : Invocation → List AuthEntry
  | .node function subInvocations => toEntry function :: flattenAll subInvocations

def flattenAll : List Invocation → List AuthEntry
  | [] => []
  | inv :: rest => flatten inv ++ flattenAll rest

end

/-- The entries of the trees; an object that was seen is not walked again. -/
def walkAuthEntries (rootInvocation : Nat → Invocation) : (auth seen : List Nat) → List AuthEntry
  | [], _ => []
  | entry :: rest, seen =>
    if entry ∈ seen then walkAuthEntries rootInvocation rest seen
    else flatten (rootInvocation entry) ++ walkAuthEntries rootInvocation rest (entry :: seen)

/-- `sorobanData` is asked of the raw transaction, which has no such method, so the resource fee of an envelope reads as
    zero. -/
def decodeTx : TxInput → DecodedTx
  | .decoded tx => tx
  | .xdr envelope =>
    { envelope with
      resourceFee := 0
      authEntries := walkAuthEntries envelope.rootInvocation envelope.auth [] }

/-- The requests of each key, by time. -/
abbrev BudgetStore := String → List Int

def BudgetStore.record (store : BudgetStore) (key : String) (nowMs windowMs : Int) : Nat × BudgetStore :=
  let active := (store key).filter (fun timestamp => nowMs - timestamp ≤ windowMs) ++ [nowMs]
  (active.length, Function.update store key active)

/-- The window of a call, as the policy or else the caller says. -/
def windowOf (policy : PolicyDocument) (options : EvaluateOptions) : Int :=
  max 1 ((policy.windowMs.orElse fun _ => options.budgetWindowMs).getD 60000)

/-- The budget of a call. -/
def limitOf (policy : PolicyDocument) (options : EvaluateOptions) : Int :=
  max 0 ((policy.maxAuthEntries.orElse fun _ => options.budgetLimit).getD 8)

/-- The bucket of a source account. -/
def budgetKey (source : String) : String := if source.isEmpty then "anonymous" else source

def evaluatePolicy (policy : PolicyDocument) (txInput : TxInput) (options : EvaluateOptions) (store : BudgetStore) :
    PolicyDecision × BudgetStore :=
  let windowMs := windowOf policy options
  let budgetLimit := limitOf policy options
  let maxInclusionFee := policy.maxInclusionFee.getD 1000000
  let maxResourceFee := policy.maxResourceFee.getD 1000000
  let tx := decodeTx txInput
  let budgetKey := budgetKey tx.source
  let allowRules := policy.rules.filter (·.action == some .allow)
  let explicitAllowMatch := tx.authEntries.all fun entry => allowRules.any (matchesRule · entry)
  let deny (reason : String) : PolicyDecision := { status := .deny, reason, budgetKey }
  if tx.operations.any (· == "payment") then (deny "classic_payment_forbidden", store)
  else if maxInclusionFee < tx.fee then (deny s!"inclusion_fee_exceeded:{tx.fee}>{maxInclusionFee}", store)
  else if maxResourceFee < tx.resourceFee then
    (deny s!"resource_fee_exceeded:{tx.resourceFee}>{maxResourceFee}", store)
  else if tx.authEntries.any (·.fields.lookup "contractId" == some "__NON_CONTRACT__") then
    (deny "non_contract_auth_forbidden", store)
  else if !tx.authEntries.isEmpty && !allowRules.isEmpty && !explicitAllowMatch then
    (deny "auth_entry_not_allowed", store)
  else
    let (currentUsage, store) := store.record budgetKey options.nowMs windowMs
    if budgetLimit < currentUsage then (deny s!"budget_exceeded:{currentUsage}>{budgetLimit}", store)
    else if !tx.authEntries.isEmpty && !allowRules.isEmpty && explicitAllowMatch then
      let matchedRule := allowRules.head?.map fun rule => rule.contractId.getD "*" ++ "/" ++ rule.method.getD "*"
      ({ status := .allow, reason := "allowlist_match", matchedRule, budgetKey }, store)
    else
      let status := policy.defaultAction.getD .deny
      let name := match status with
        | .allow => "allow"
        | .deny => "deny"
        | .warn => "warn"
      ({ status, reason := s!"default_action:{name}", budgetKey }, store)

end SignerPolicy

end VortexBackend

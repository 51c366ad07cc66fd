/-
Module: VortexBackend.KillSwitch.Guard
Purpose: The guard of a route. It reads the address of a write from fields of the body that the client controls.
Trusted boundary: the validation of a body keeps the declared fields as they are and strips the others
Main exports: canActivate, CreateRequest
-/
import VortexBackend.Intents.Controller

namespace VortexBackend

/-- A value of a parsed body, as far as the guard looks into it. A field that is absent reads as `null`, and an object
    is given by the two properties that are read of it. -/
inductive JsonValue where
  | null
  | str (text : String)
  | obj (address symbol : JsonValue)
  | other
deriving Repr, DecidableEq

namespace JsonValue

/-- `a ?? b` -/
def orElse (a b : JsonValue) : JsonValue := if a = .null then b else a

/-- `value?.address` -/
def address : JsonValue → JsonValue
  | .obj address _ => address
  | _ => .null

/-- `value?.symbol` -/
def symbol : JsonValue → JsonValue
  | .obj _ symbol => symbol
  | _ => .null

/-- What a value can be equal to in a column of texts. -/
def text? : JsonValue → Option String
  | .str text => some text
  | _ => none

end JsonValue

/-- The fields of a body that the guard reads. -/
structure BodyWithAddress where
  srcChain : JsonValue := .null
  dstChain : JsonValue := .null
  chain : JsonValue := .null
  token : JsonValue := .null
  address : JsonValue := .null
  srcTokenAddress : JsonValue := .null
  srcToken : JsonValue := .null
  dstToken : JsonValue := .null
deriving Repr, DecidableEq

/-- The parameters of a route that the guard reads. -/
structure RouteParams where
  chain : JsonValue := .null
  token : JsonValue := .null
deriving Repr, DecidableEq

/-- The chain and the token that a request is about. -/
def readAddress (body : BodyWithAddress) (params : RouteParams) : JsonValue × JsonValue :=
  let chain := params.chain.orElse (body.chain.orElse (body.srcChain.orElse body.dstChain))
  let rawToken := body.token.orElse (body.srcTokenAddress.orElse (body.srcToken.orElse
    (body.dstToken.orElse (body.address.orElse params.token))))
  let token :=
    match rawToken with
    | .str text => .str text
    | raw => raw.address.orElse raw.symbol
  (chain, token)

/-- What a guarded route tells the guard to check. -/
structure KillSwitchGuardMetadata where
  operation : KillSwitchOperation
  chain : Option String := none
  token : Option String := none
deriving Repr, DecidableEq

/-- An explicit value in the decorator wins over the request-derived one. -/
def guardTarget (gate : KillSwitchGuardMetadata) (body : BodyWithAddress) (params : RouteParams) : SwitchTarget where
  chain := gate.chain.orElse fun _ => (readAddress body params).1.text?
  token := gate.token.orElse fun _ => (readAddress body params).2.text?
  operation := gate.operation

/-- The guard lets a request through, or throws. -/
def canActivate (k : KillSwitch) (gate : KillSwitchGuardMetadata) (body : BodyWithAddress) (params : RouteParams) :
    Except KillSwitchActive Unit :=
  assertNotPaused k (guardTarget gate body params)

/-- A request to one of the routes that create intents: what the validation leaves of its body, and the other fields
    that the client put there. -/
inductive CreateRequest where
  | create (dto : CreateIntentDto) (extras : BodyWithAddress)
  | batchCreate (intents : List CreateIntentDto) (extras : BodyWithAddress)
deriving Repr, DecidableEq

namespace CreateRequest

/-- The raw body, before the validation. -/
def body : CreateRequest → BodyWithAddress
  | .create dto extras =>
    { extras with srcChain := .str dto.srcChain.name, srcTokenAddress := .str dto.srcTokenAddress }
  | .batchCreate _ extras => extras

/-- `@KillSwitchGate({ operation: "create" })` on both routes; neither has parameters. -/
def admitted (k : KillSwitch) (r : CreateRequest) : Except KillSwitchActive Unit :=
  canActivate k { operation := .create } r.body {}

/-- The handler behind the guard. -/
def handler (cfg : BackendSettings) : CreateRequest → Backend Unit
  | .create dto _ => do
    let _ ← IntentsController.create cfg dto
    pure ()
  | .batchCreate intents _ => do
    let _ ← IntentsController.batchCreate cfg intents
    pure ()

end CreateRequest

end VortexBackend

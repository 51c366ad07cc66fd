/-
Module: VortexBackend.Soroban.Events
Purpose: Contract events, and the key by which two services recognise one that they have seen.
Trusted boundary: a topic is what the Stellar library decodes it to; numerals in ids are integers that a double holds
Main exports: EventResponse, buildDedupeKey_inj
-/
import VortexBackend.Js.Decimal
import VortexBackend.Js.Text

namespace VortexBackend

/-- What `scValToNative` makes of a topic; one that it cannot decode is undefined. -/
inductive TopicValue where
  | undefined
  | text (value : String)
  | bigint (value : Int)
  | number (value : Int)
deriving Repr, DecidableEq

/-- `typeof value === "string" ? value : undefined` -/
def TopicValue.string? : TopicValue → Option String
  | .text value => some value
  | _ => none

/-- An event of a contract. -/
structure EventResponse where
  id : String
  ledger : Nat
  contractId : String := ""
  topic : List TopicValue := []
  txHash : String := ""
  ledgerClosedAt : String := ""
deriving Repr, DecidableEq

variable (event : EventResponse)

/-- `topic[n]`, read as a string. -/
def EventResponse.topicText (n : Nat) : Option String :=
  (event.topic[n]?).bind TopicValue.string?

/-- The characters after the last dash. -/
def lastSegment (text : List Char) : List Char := (text.reverse.takeWhile (· ≠ '-')).reverse

/-- The number after the last dash of an id, or zero. -/
def parseEventIndex (eventId : String) : Int :=
  (BigInt.parse (String.ofList (lastSegment eventId.toList))).getD 0

def buildDedupeKey (ledgerSequence : Nat) (eventIndex : Int) : String :=
  toString ledgerSequence ++ ":" ++ BigInt.toText eventIndex

/-- The key under which an event is remembered. -/
def EventResponse.dedupeKey : String :=
  buildDedupeKey event.ledger (parseEventIndex event.id)

/-- A key can be told apart into its two numbers. -/
theorem buildDedupeKey_inj {ledger ledger' index index' : Nat}
    (same : buildDedupeKey ledger index = buildDedupeKey ledger' index') : ledger = ledger' ∧ index = index' := by
  have digits : ∀ n : Nat, (BigInt.toText n).toList = Nat.toDigits 10 n := fun n => Nat.toList_repr
  have texts := congrArg String.toList same
  simp only [buildDedupeKey, String.toList_append, digits, Nat.toString_eq_repr, Nat.toList_repr, List.append_assoc]
    at texts
  obtain ⟨sameLedger, sameIndex⟩ := split_at_last (colon_notMem_digits _) (colon_notMem_digits _) texts
  exact ⟨toDigits_injective sameLedger, toDigits_injective sameIndex⟩

/-! ### Ids of the RPC node -/

/-- A number with leading zeros. -/
def zeroPadded (width n : Nat) : List Char :=
  List.replicate (width - (Nat.toDigits 10 n).length) '0' ++ Nat.toDigits 10 n

/-- Which event an id of the node names: the first half is one number for the ledger, the transaction in it and the
    operation of the transaction. -/
structure RpcEventId where
  ledger : Nat
  transaction : Nat
  operation : Nat
  index : Nat
  transactionBound : transaction < 2 ^ 20
  operationBound : operation < 2 ^ 12

namespace RpcEventId

/-- The total order id: 32 bits for the ledger, 20 for the transaction and 12 for the operation. -/
def toid (id : RpcEventId) : Nat := (id.ledger * 2 ^ 20 + id.transaction) * 2 ^ 12 + id.operation

def text (id : RpcEventId) : String :=
  String.ofList (zeroPadded 19 id.toid ++ '-' :: zeroPadded 10 id.index)

end RpcEventId

/-- The event has an id of the node's form, which names its ledger. -/
def FromRpc : Prop := ∃ id : RpcEventId, event.id = id.text ∧ event.ledger = id.ledger

variable {width n : Nat}

theorem zeroPadded_digits : ∀ c ∈ zeroPadded width n, c.isDigit = true := by
  intro c member
  rcases List.mem_append.mp member with zero | digit
  · rw [(List.mem_replicate.mp zero).2]
    decide
  · exact Nat.isDigit_of_mem_toDigits (by decide) (by decide) digit

theorem zeroPadded_ne_nil : zeroPadded width n ≠ [] :=
  List.append_ne_nil_of_right_ne_nil _ Nat.toDigits_ne_nil

theorem ofDigitChars_zeroPadded (width n : Nat) : Nat.ofDigitChars 10 (zeroPadded width n) 0 = n := by
  rw [zeroPadded, Nat.ofDigitChars_append, Decimal.ofDigitChars_replicate_zero, Nat.mul_zero,
    Nat.ofDigitChars_toDigits (by decide) (by decide)]

theorem dash_notMem_zeroPadded : '-' ∉ zeroPadded width n := by
  intro member
  exact absurd (zeroPadded_digits _ member) (by decide)

namespace RpcEventId

theorem parseEventIndex_text (id : RpcEventId) : parseEventIndex id.text = id.index := by
  have noDash : ∀ c ∈ (zeroPadded 10 id.index).reverse, decide (c ≠ '-') = true := by
    intro c member
    rw [List.mem_reverse] at member
    exact decide_eq_true fun isDash => dash_notMem_zeroPadded (isDash ▸ member)
  have segment : lastSegment id.text.toList = zeroPadded 10 id.index := by
    rw [lastSegment, text, String.toList_ofList, List.reverse_append, List.reverse_cons, List.append_assoc,
      List.takeWhile_append_of_pos noDash]
    simp
  rw [parseEventIndex, segment, BigInt.parse_digits zeroPadded_ne_nil zeroPadded_digits, ofDigitChars_zeroPadded]
  rfl

theorem ledger_of_text {id id' : RpcEventId} (same : id.text = id'.text) : id.ledger = id'.ledger := by
  have firstHalf : ∀ id : RpcEventId, id.text.toList.takeWhile (· ≠ '-') = zeroPadded 19 id.toid := by
    intro id
    have noDash : ∀ c ∈ zeroPadded 19 id.toid, decide (c ≠ '-') = true := by
      intro c member
      exact decide_eq_true fun isDash => dash_notMem_zeroPadded (isDash ▸ member)
    rw [text, String.toList_ofList, List.takeWhile_append_of_pos noDash]
    simp
  have sameToid : id.toid = id'.toid := by
    rw [← ofDigitChars_zeroPadded 19 id.toid, ← ofDigitChars_zeroPadded 19 id'.toid, ← firstHalf,
      ← firstHalf, same]
  have bounds := id.transactionBound
  have bounds' := id'.transactionBound
  have opBound := id.operationBound
  have opBound' := id'.operationBound
  unfold toid at sameToid
  omega

end RpcEventId

theorem FromRpc.ledger_eq {event event' : EventResponse} (rpc : FromRpc event) (rpc' : FromRpc event')
    (same : event.id = event'.id) : event.ledger = event'.ledger := by
  obtain ⟨id, isId, isLedger⟩ := rpc
  obtain ⟨id', isId', isLedger'⟩ := rpc'
  rw [isId, isId'] at same
  rw [isLedger, isLedger', RpcEventId.ledger_of_text same]

end VortexBackend

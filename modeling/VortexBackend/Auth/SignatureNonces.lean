/-
Module: VortexBackend.Auth.SignatureNonces
Purpose: The table and the map of used signatures.
Main exports: nonce_refused_iff_used
-/
import VortexBackend.Js.Map
import VortexBackend.Sequential.Run

namespace VortexBackend

inductive NonceBackend where
  | prisma
  | memory

/-- The statements of `consume`, in order: delete what has expired, and insert a row unless its key is there. In the
    database those of other calls may come in between. -/
inductive NonceStatement where
  | purge (now : Int)
  | insert (signer nonce : String) (expiresAt : Int)

/-- The expiry by key. -/
abbrev SignatureNonces := JsMap (List String) Int

namespace SignatureNonces

open Component JsMap NonceStatement

/-- Two columns, or one text. -/
def keyOf : NonceBackend → String → String → List String
  | .prisma, signer, nonce => [signer.toLower, nonce]
  | .memory, signer, nonce => [signer.toLower ++ ":" ++ nonce]

variable (store : NonceBackend)

/-- The result of an insertion is that of its `consume`. -/
def step (rows : SignatureNonces) : NonceStatement → Bool × SignatureNonces
  | .purge now => (false, ⟨rows.entries.filter (now < ·.2), rows.nodup.sublist (List.filter_sublist.map _)⟩)
  | .insert signer nonce expiresAt =>
    let key := keyOf store signer nonce
    if (rows.get key).isSome then (false, rows) else (true, rows.set key expiresAt)

/-- The key was inserted, and no deletion since has reached its expiry. -/
def Used (rows : SignatureNonces) (ops : List NonceStatement) (key : List String) (expiry : Int) : Prop :=
  ∃ signer nonce earlier later, keyOf store signer nonce = key ∧
    ops = earlier ++ insert signer nonce expiry :: later ∧
    (step store (run (step store) rows earlier).2 (.insert signer nonce expiry)).1 = true ∧
    ∀ now, purge now ∈ later → now < expiry

variable {rows : SignatureNonces} {key : List String} {e : Int}

theorem get_step (op : NonceStatement) : (step store rows op).2.get key = some e ↔
    (rows.get key = some e ∧ ∀ now, op = purge now → now < e) ∨
      ∃ signer nonce, keyOf store signer nonce = key ∧ op = insert signer nonce e ∧
        (step store rows op).1 = true := by
  cases op with
  | purge now => simp [step, get_eq_some]
  | insert signer nonce expiresAt => grind [step, get_set]

theorem get_run (ops : List NonceStatement) : (run (step store) rows ops).2.get key = some e ↔
    (rows.get key = some e ∧ ∀ now, purge now ∈ ops → now < e) ∨ Used store rows ops key e := by
  induction ops generalizing rows with
  | nil => simp [run, Used]
  | cons op ops ih =>
    rw [run, ih, get_step]
    constructor
    · rintro (⟨⟨found, unexpired⟩ | ⟨signer, nonce, same, rfl, new⟩, kept⟩ |
        ⟨signer, nonce, earlier, later, same, rfl, rest⟩)
      · exact .inl ⟨found, by grind⟩
      · exact .inr ⟨signer, nonce, [], ops, same, rfl, new, kept⟩
      · exact .inr ⟨signer, nonce, op :: earlier, later, same, rfl, rest⟩
    · rintro (⟨found, kept⟩ | ⟨signer, nonce, _ | ⟨_, earlier⟩, later, same, split, rest⟩)
      · exact .inl ⟨.inl ⟨found, by grind⟩, by grind⟩
      · cases split
        exact .inl ⟨.inr ⟨signer, nonce, same, rfl, rest.1⟩, rest.2⟩
      · cases split
        exact .inr ⟨signer, nonce, earlier, later, same, rfl, rest⟩

/-- However the statements of any number of calls come, a nonce is refused exactly while it is used. -/
theorem nonce_refused_iff_used (ops : List NonceStatement) (signer nonce : String) (expiresAt : Int) :
    (step store (run (step store) .empty ops).2 (.insert signer nonce expiresAt)).1 = false ↔
      ∃ expiry, Used store .empty ops (keyOf store signer nonce) expiry := by
  have refused : (step store (run (step store) .empty ops).2 (.insert signer nonce expiresAt)).1 = false ↔
      ∃ e, (run (step store) .empty ops).2.get (keyOf store signer nonce) = some e := by
    rw [← Option.isSome_iff_exists]
    grind [step]
  simpa [get_run] using refused

/-- A signature that is still taken after its expiry can be used again. -/
example : (run (step .prisma) .empty [purge 10, insert "G" "n" 20, purge 20, insert "g" "n" 20]).1 =
    [false, true, false, true] := by decide

end SignatureNonces

end VortexBackend

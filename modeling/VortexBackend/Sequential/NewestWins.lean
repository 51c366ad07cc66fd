/-
Module: VortexBackend.Sequential.NewestWins
Purpose: A replica that keeps the newest record of each key, whatever the order of arrival.
Main exports: Newest.deliver_all
-/
import Mathlib.Data.List.Basic

namespace VortexBackend

section

variable {Key Record Image Replica : Type} (key : Record → Key) (le : Record → Record → Prop)
  (image : Record → Image) (lookup : Replica → Key → Option Image) (deliver : Replica → Record → Replica)

/-- What one arrival does to the replica. -/
structure NewestWins : Prop where
  others : ∀ r x k, k ≠ key x → lookup (deliver r x) k = lookup r k
  fresh : ∀ r x, lookup r (key x) = none → lookup (deliver r x) (key x) = some (image x)
  newer : ∀ r m x, key m = key x → lookup r (key x) = some (image m) → le m x →
    lookup (deliver r x) (key x) = some (image x)
  older : ∀ r m x, key m = key x → lookup r (key x) = some (image m) → le x m →
    lookup (deliver r x) (key x) = some (image m)

/-- The replica holds the newest of the records that were seen, for every key. -/
def Newest (seen : Record → Prop) (rows : Key → Option Image) : Prop :=
  ∀ k, (rows k = none ∧ ∀ x, seen x → key x ≠ k) ∨
    ∃ m, seen m ∧ key m = k ∧ rows k = some (image m) ∧ ∀ x, seen x → key x = k → le x m

end

namespace Newest

variable {Key Record Image Replica : Type} {key : Record → Key} {le : Record → Record → Prop}
  {image : Record → Image} {lookup : Replica → Key → Option Image} {deliver : Replica → Record → Replica}
  {seen known : Record → Prop}

section

variable (wins : NewestWins key le image lookup deliver) (refl : ∀ x, le x x)
  (trans : ∀ x y z, le x y → le y z → le x z)
    (linear : ∀ x y, known x → known y → key x = key y → le x y ∨ le y x)
include wins refl trans linear

theorem deliver_one (sound : ∀ x, seen x → known x) {r} (newest : Newest key le image seen (lookup r)) {x}
    (isKnown : known x) : Newest key le image (fun y => y = x ∨ seen y) (lookup (deliver r x)) := by
  intro k
  by_cases same : k = key x
  · subst same
    right
    rcases newest (key x) with ⟨absent, none⟩ | ⟨m, isSeen, sameKey, stored, isNewest⟩
    · refine ⟨x, .inl rfl, rfl, wins.fresh r x absent, ?_⟩
      rintro y (rfl | earlier) ofKey
      · exact refl y
      · exact absurd ofKey (none y earlier)
    · rcases linear m x (sound m isSeen) isKnown sameKey with before | after
      · refine ⟨x, .inl rfl, rfl, wins.newer r m x sameKey stored before, ?_⟩
        rintro y (rfl | earlier) ofKey
        · exact refl y
        · exact trans y m x (isNewest y earlier ofKey) before
      · refine ⟨m, .inr isSeen, sameKey, wins.older r m x sameKey stored after, ?_⟩
        rintro y (rfl | earlier) ofKey
        · exact after
        · exact isNewest y earlier ofKey
  · rw [wins.others r x k same]
    rcases newest k with ⟨absent, none⟩ | ⟨m, isSeen, sameKey, stored, isNewest⟩
    · left
      refine ⟨absent, ?_⟩
      rintro y (rfl | earlier) ofKey
      · exact same ofKey.symm
      · exact none y earlier ofKey
    · right
      refine ⟨m, .inr isSeen, sameKey, stored, ?_⟩
      rintro y (rfl | earlier) ofKey
      · exact absurd ofKey.symm same
      · exact isNewest y earlier ofKey

/-- Any sequence of arrivals. -/
theorem deliver_all (xs : List Record) :
    ∀ (seen : Record → Prop) (r : Replica), (∀ x, seen x → known x) → (∀ x ∈ xs, known x) →
      Newest key le image seen (lookup r) →
      Newest key le image (fun y => y ∈ xs ∨ seen y) (lookup (xs.foldl deliver r)) := by
  induction xs with
  | nil =>
    intro seen r _ _ newest
    simpa using newest
  | cons x xs ih =>
    intro seen r sound allKnown newest
    have isKnown : known x := allKnown x (.head _)
    have next := newest.deliver_one wins refl trans linear sound isKnown
    have sound' : ∀ y, y = x ∨ seen y → known y := by
      rintro y (rfl | earlier)
      · exact isKnown
      · exact sound y earlier
    have final := ih _ _ sound' (fun y member => allKnown y (.tail _ member)) next
    rw [List.foldl_cons]
    have same : (fun y => y ∈ x :: xs ∨ seen y) = fun y => y ∈ xs ∨ y = x ∨ seen y := by
      funext y
      rw [List.mem_cons, or_assoc, or_left_comm]
    rw [same]
    exact final

end

theorem eq_newest (antisymm : ∀ x y, le x y → le y x → x = y) {rows : Key → Option Image}
    (newest : Newest key le image seen rows) {x} (isSeen : seen x)
    (isLast : ∀ y, seen y → key y = key x → le y x) :
    rows (key x) = some (image x) := by
  rcases newest (key x) with ⟨_, none⟩ | ⟨m, isSeen', sameKey, stored, isNewest⟩
  · exact absurd rfl (none x isSeen)
  · rw [stored, antisymm m x (isLast m isSeen' sameKey) (isNewest x isSeen rfl)]

end Newest

end VortexBackend

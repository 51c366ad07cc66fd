/-
Module: VortexBackend.Js.Table
Purpose: A table whose rows have two unique keys. A row can be looked up and replaced by either.
Main exports: Table
-/
import VortexBackend.Js.Map

namespace VortexBackend

/-- Delete the entries whose key satisfies a condition. -/
def JsMap.deleteWhere {κ ν : Type} (m : JsMap κ ν) (p : κ → Bool) : JsMap κ ν :=
  ⟨m.entries.filter fun e => !p e.1, m.nodup.sublist (List.filter_sublist.map _)⟩

theorem JsMap.get_deleteWhere {κ ν : Type} [DecidableEq κ] (m : JsMap κ ν) (p : κ → Bool) (k : κ) :
    (m.deleteWhere p).get k = if p k then none else m.get k := by
  apply Option.ext
  intro x
  rw [get_eq_some]
  by_cases deleted : p k = true <;> simp [deleteWhere, deleted, get_eq_some]

/-- Rows under distinct keys, with distinct identities. -/
structure Table (κ ι ν : Type) [DecidableEq κ] (identity : ν → ι) where
  rows : JsMap κ ν
  unique : ∀ k k' x x', rows.get k = some x → rows.get k' = some x' → identity x = identity x' → k = k'

namespace Table

variable {κ ι ν : Type} [DecidableEq κ] [DecidableEq ι] {identity : ν → ι} {t : Table κ ι ν identity}

def empty : Table κ ι ν identity := ⟨.empty, nofun⟩

/-- The row with an identity, with the key that it is stored under. -/
def entry (t : Table κ ι ν identity) (i : ι) : Option (κ × ν) := t.rows.entries.find? fun e => identity e.2 = i

/-- The row with an identity. -/
def find (t : Table κ ι ν identity) (i : ι) : Option ν := (t.entry i).map Prod.snd

/-- No row under another key has the identity of a row that is to be stored under a key. -/
def Admits (t : Table κ ι ν identity) (k : κ) (x : ν) : Prop :=
  ∀ k' x', t.rows.get k' = some x' → identity x' = identity x → k' = k

/-- A row that is stored under a key has the identity of a row that is already there. -/
def Replaces (t : Table κ ι ν identity) (k : κ) (x : ν) : Prop :=
  ∀ old, t.rows.get k = some old → identity old = identity x

/-- Store a row under a key, in place of the row that is there. -/
def put (t : Table κ ι ν identity) (k : κ) (x : ν) (admits : t.Admits k x) : Table κ ι ν identity where
  rows := t.rows.set k x
  unique := by
    intro j j' y y' stored stored' same
    rw [JsMap.get_set] at stored stored'
    split at stored <;> split at stored'
    · rename_i first second
      rw [first, second]
    · rename_i first second
      cases stored
      rw [first]
      exact (admits j' y' stored' same.symm).symm
    · rename_i first second
      cases stored'
      rw [second]
      exact admits j y stored same
    · exact t.unique j j' y y' stored stored' same

omit [DecidableEq ι] in
theorem admits_of_same {k old x} (stored : t.rows.get k = some old) (same : identity x = identity old) :
    t.Admits k x := by
  intro k' x' stored' isRow
  exact t.unique k' k x' old stored' stored (isRow.trans same)

omit [DecidableEq ι] in
theorem replaces_of_same {k old x} (stored : t.rows.get k = some old) (same : identity x = identity old) :
    t.Replaces k x := by
  intro old' stored'
  cases stored.symm.trans stored'
  exact same.symm

omit [DecidableEq ι] in
theorem replaces_of_absent {k x} (absent : t.rows.get k = none) : t.Replaces k x := by
  intro old stored
  cases absent.symm.trans stored

theorem entry_eq_some {i k x} : t.entry i = some (k, x) ↔ t.rows.get k = some x ∧ identity x = i := by
  constructor
  · intro found
    have member := List.mem_of_find?_eq_some found
    have isRow := List.find?_some found
    exact ⟨JsMap.get_eq_some.mpr member, of_decide_eq_true isRow⟩
  · rintro ⟨stored, isRow⟩
    cases found : t.entry i with
    | none =>
      have absent := List.find?_eq_none.mp found (k, x) (JsMap.get_eq_some.mp stored)
      exact absurd (decide_eq_true isRow) absent
    | some other =>
      obtain ⟨k', x'⟩ := other
      have stored' := JsMap.get_eq_some.mpr (List.mem_of_find?_eq_some found)
      have isFound := List.find?_some found
      have isRow' : identity x' = i := of_decide_eq_true isFound
      have sameKey := t.unique k' k x' x stored' stored (isRow'.trans isRow.symm)
      subst sameKey
      cases stored'.symm.trans stored
      rfl

theorem find_eq_some {i x} : t.find i = some x ↔ ∃ k, t.rows.get k = some x ∧ identity x = i := by
  rw [find, Option.map_eq_some_iff]
  constructor
  · rintro ⟨⟨k, x'⟩, found, rfl⟩
    exact ⟨k, entry_eq_some.mp found⟩
  · rintro ⟨k, stored⟩
    exact ⟨(k, x), entry_eq_some.mpr stored, rfl⟩

theorem admits_of_fresh {k x} (fresh : t.find (identity x) = none) : t.Admits k x := by
  intro k' x' stored' isRow
  have found : t.find (identity x) = some x' := find_eq_some.mpr ⟨k', stored', isRow⟩
  cases found.symm.trans fresh

/-- The row under a key is replaced by one of the same identity, or a row with a new identity is added. -/
theorem find_put {k x} (admits : t.Admits k x) (replaces : t.Replaces k x) (i : ι) :
    (t.put k x admits).find i = if i = identity x then some x else t.find i := by
  apply Option.ext
  intro y
  rw [find_eq_some]
  change (∃ j, (t.rows.set k x).get j = some y ∧ identity y = i) ↔ _
  split
  · rename_i isRow
    subst isRow
    constructor
    · rintro ⟨j, stored, same⟩
      rw [JsMap.get_set] at stored
      split at stored
      · exact stored
      · rename_i elsewhere
        exact absurd (admits j y stored same) elsewhere
    · intro isNew
      cases isNew
      exact ⟨k, JsMap.get_set_self _ _ _, rfl⟩
  · rename_i isOther
    rw [find_eq_some]
    constructor
    · rintro ⟨j, stored, same⟩
      rw [JsMap.get_set] at stored
      split at stored
      · cases stored
        exact absurd same.symm isOther
      · exact ⟨j, stored, same⟩
    · rintro ⟨j, stored, same⟩
      refine ⟨j, ?_, same⟩
      rw [JsMap.get_set_of_ne _ _ ?_]
      · exact stored
      · rintro rfl
        exact isOther (same.symm.trans (replaces y stored))

end Table

end VortexBackend

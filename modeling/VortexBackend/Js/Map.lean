/-
Module: VortexBackend.Js.Map
Purpose: The insertion-ordered map. The keys are distinct by construction.
Main exports: JsMap
-/
import Mathlib.Algebra.GroupWithZero.Nat
import Mathlib.Data.List.Nodup
import Mathlib.Tactic.Common

namespace VortexBackend

/-- A map as the list of its entries, oldest first, with distinct keys. -/
structure JsMap (κ ν : Type) where
  entries : List (κ × ν)
  nodup : (entries.map Prod.fst).Nodup
deriving DecidableEq

namespace JsMap

variable {κ ν : Type} [DecidableEq κ]

/-- Replace the value under a key in place, or append the entry. -/
def setEntry (k : κ) (x : ν) : List (κ × ν) → List (κ × ν)
  | [] => [(k, x)]
  | entry :: rest => if entry.1 = k then (k, x) :: rest else entry :: setEntry k x rest

/-- The first value under a key. -/
def getEntry (k : κ) : List (κ × ν) → Option ν
  | [] => none
  | entry :: rest => if entry.1 = k then some entry.2 else getEntry k rest

variable {k : κ} {x : ν} {l : List (κ × ν)} {m : JsMap κ ν}

theorem mem_keys_setEntry {k'} : k' ∈ (setEntry k x l).map Prod.fst ↔ k' = k ∨ k' ∈ l.map Prod.fst := by
  induction l with
  | nil => simp [setEntry]
  | cons entry rest ih =>
    by_cases same : entry.1 = k
    · subst same
      simp [setEntry]
    · simp only [setEntry, if_neg same, List.map_cons, List.mem_cons, ih]
      tauto

theorem nodup_setEntry (h : (l.map Prod.fst).Nodup) : ((setEntry k x l).map Prod.fst).Nodup := by
  induction l with
  | nil => simp [setEntry]
  | cons entry rest ih =>
    rw [List.map_cons, List.nodup_cons] at h
    by_cases same : entry.1 = k
    · subst same
      simpa [setEntry] using h
    · simp only [setEntry, if_neg same, List.map_cons, List.nodup_cons, mem_keys_setEntry]
      exact ⟨fun hmem => hmem.elim same h.1, ih h.2⟩

theorem getEntry_setEntry (k k' : κ) (x : ν) (l : List (κ × ν)) :
    getEntry k' (setEntry k x l) = if k' = k then some x else getEntry k' l := by
  induction l with
  | nil => simp [setEntry, getEntry, eq_comm]
  | cons entry rest ih =>
    by_cases same : entry.1 = k
    · subst same
      by_cases hk : k' = entry.1 <;> simp [setEntry, getEntry, hk, eq_comm]
    · by_cases hk : entry.1 = k'
      · subst hk
        simp [setEntry, getEntry, same]
      · simp [setEntry, getEntry, same, hk, ih]

theorem getEntry_eq_some (h : (l.map Prod.fst).Nodup) : getEntry k l = some x ↔ (k, x) ∈ l := by
  induction l with
  | nil => simp [getEntry]
  | cons entry rest ih =>
    rw [List.map_cons, List.nodup_cons] at h
    by_cases same : entry.1 = k
    · subst same
      have absent : (entry.1, x) ∉ rest := fun hmem => h.1 (List.mem_map.mpr ⟨_, hmem, rfl⟩)
      simp only [getEntry, if_true, Option.some.injEq, List.mem_cons, absent, or_false]
      exact ⟨fun hx => hx ▸ rfl, fun hx => hx ▸ rfl⟩
    · simp only [getEntry, if_neg same, ih h.2, List.mem_cons]
      exact ⟨.inr, fun hx => hx.resolve_left fun hx => same (hx ▸ rfl)⟩

/-- `new Map()` -/
def empty : JsMap κ ν := ⟨[], List.nodup_nil⟩

/-- `map.get(k)` -/
def get (m : JsMap κ ν) (k : κ) : Option ν := getEntry k m.entries

/-- `map.set(k, x)` -/
def set (m : JsMap κ ν) (k : κ) (x : ν) : JsMap κ ν := ⟨setEntry k x m.entries, nodup_setEntry m.nodup⟩

/-- `map.delete(k)` -/
def delete (m : JsMap κ ν) (k : κ) : JsMap κ ν :=
  ⟨m.entries.filter (·.1 ≠ k), m.nodup.sublist (List.filter_sublist.map _)⟩

/-- `[...map.values()]` -/
def values (m : JsMap κ ν) : List ν := m.entries.map Prod.snd

@[simp] theorem get_empty (k : κ) : (empty : JsMap κ ν).get k = none := rfl

omit [DecidableEq κ] in
@[simp] theorem values_empty : (empty : JsMap κ ν).values = [] := rfl

theorem get_set (m : JsMap κ ν) (k k' : κ) (x : ν) : (m.set k x).get k' = if k' = k then some x else m.get k' :=
  getEntry_setEntry k k' x m.entries

@[simp] theorem get_set_self (m : JsMap κ ν) (k : κ) (x : ν) : (m.set k x).get k = some x := by
  simp [get_set]

theorem get_set_of_ne (m : JsMap κ ν) {k'} (x : ν) (h : k' ≠ k) : (m.set k x).get k' = m.get k' := by
  simp [get_set, h]

theorem get_eq_some : m.get k = some x ↔ (k, x) ∈ m.entries :=
  getEntry_eq_some m.nodup

theorem get_delete (m : JsMap κ ν) (k k' : κ) : (m.delete k).get k' = if k' = k then none else m.get k' := by
  refine Option.ext fun x => ?_
  rw [get_eq_some]
  by_cases same : k' = k <;> simp [delete, same, get_eq_some]

theorem mem_values : x ∈ m.values ↔ ∃ k, m.get k = some x := by
  simp [values, get_eq_some]

theorem map_values_set {β : Type} {old new} {f : ν → β} (stored : m.get k = some old) (same : f new = f old) :
    (m.set k new).values.map f = m.values.map f := by
  obtain ⟨entries, nodup⟩ := m
  change ((setEntry k new entries).map Prod.snd).map f = (entries.map Prod.snd).map f
  change getEntry k entries = some old at stored
  clear nodup
  induction entries with
  | nil => cases stored
  | cons entry rest ih =>
    by_cases here : entry.1 = k
    · rw [getEntry, if_pos here] at stored
      cases stored
      simp [setEntry, here, same]
    · rw [getEntry, if_neg here] at stored
      rw [setEntry, if_neg here, List.map_cons, List.map_cons, List.map_cons, List.map_cons, ih stored]

theorem sum_set (m : JsMap κ ν) (k : κ) (x : ν) (f : ν → Nat) :
    ((m.set k x).values.map f).sum + (m.get k).elim 0 f = (m.values.map f).sum + f x := by
  obtain ⟨l, h⟩ := m
  simp only [set, get, values, List.map_map]
  clear h
  induction l with
  | nil => simp [setEntry, getEntry]
  | cons entry rest ih =>
    by_cases same : entry.1 = k
    · subst same
      simp [setEntry, getEntry]
      omega
    · simp only [setEntry, getEntry, if_neg same, List.map_cons, List.sum_cons, Function.comp_apply]
      omega

end JsMap

end VortexBackend

/-
Module: VortexBackend.Js.PromiseChain
Purpose: A lock per key made of chained promises. Only the ticket at the end of `waiting` can be inside.
Main exports: PromiseChain, holder_of_ready
-/
import VortexBackend.Js.Map

namespace VortexBackend

open JsMap

/-- The promises of a lock. A ticket stands for one `chained` promise; `gates` lists the gates that have to
    open before it settles, its own first. -/
structure PromiseChain (κ : Type) [DecidableEq κ] where
  /-- the number of the next ticket -/
  next : Nat
  gates : JsMap Nat (List Nat)
  /-- the gates that are open -/
  released : List Nat
  /-- the last promise of each key -/
  locks : JsMap κ Nat
  fresh : ∀ ticket, next ≤ ticket → gates.get ticket = none ∧ ticket ∉ released
  known : ∀ key ticket, locks.get key = some ticket → (gates.get ticket).isSome = true
  linked : ∀ ticket chain, gates.get ticket = some chain → ∀ t ∈ chain, ∃ recent earlier,
    gates.get t = some (t :: earlier) ∧ chain = recent ++ t :: earlier
  nodup : ∀ ticket chain, gates.get ticket = some chain → chain.Nodup

namespace PromiseChain

variable {κ : Type} [DecidableEq κ]

/-- No promise yet. -/
def empty : PromiseChain κ where
  next := 0
  gates := .empty
  released := []
  locks := .empty
  fresh := by simp
  known := by simp
  linked := by simp
  nodup := by simp

/-- The gates before a newcomer to the key. -/
def before (c : PromiseChain κ) (key : κ) : List Nat :=
  match c.locks.get key with
  | some ticket => (c.gates.get ticket).getD []
  | none => []

variable {c : PromiseChain κ} {key : κ} {t : Nat}

theorem linked_before (ht : t ∈ c.before key) :
    ∃ recent earlier, c.gates.get t = some (t :: earlier) ∧ c.before key = recent ++ t :: earlier := by
  unfold before at ht ⊢
  cases last : c.locks.get key with
  | none => simp [last] at ht
  | some ticket =>
    cases found : c.gates.get ticket with
    | none => simp [last, found] at ht
    | some chain =>
      simp only [last, found, Option.getD_some] at ht ⊢
      exact c.linked ticket chain found t ht

theorem before_lt (ht : t ∈ c.before key) : t < c.next := by
  obtain ⟨recent, earlier, found, _⟩ := linked_before ht
  by_contra late
  rw [(c.fresh t (by omega)).1] at found
  cases found

theorem nodup_before (c : PromiseChain κ) (key : κ) : (c.before key).Nodup := by
  unfold before
  cases last : c.locks.get key with
  | none => exact List.nodup_nil
  | some ticket =>
    cases found : c.gates.get ticket with
    | none => simp [found]
    | some chain => simpa [found] using c.nodup ticket chain found

/-- Chain a new gate after the last promise of the key: the synchronous beginning of `withLock`. -/
def enter (c : PromiseChain κ) (key : κ) : Nat × PromiseChain κ :=
  (c.next,
    { next := c.next + 1
      gates := c.gates.set c.next (c.next :: c.before key)
      released := c.released
      locks := c.locks.set key c.next
      fresh := by
        intro ticket h
        have older : ticket ≠ c.next := by omega
        rw [get_set_of_ne _ _ older]
        exact c.fresh ticket (by omega)
      known := by
        intro key' ticket h
        rw [get_set]
        split
        · rfl
        · rename_i older
          rw [get_set] at h
          split at h
          · cases h
            exact absurd rfl older
          · exact c.known key' ticket h
      linked := by
        intro ticket chain h t ht
        have old : ∀ t' chain', c.gates.get t' = some chain' → t' ≠ c.next := by
          rintro t' chain' found rfl
          rw [(c.fresh c.next (Nat.le_refl _)).1] at found
          cases found
        have keep : ∀ recent earlier, (∃ l, c.gates.get t = some (t :: earlier) ∧ l = recent ++ t :: earlier) →
            (c.gates.set c.next (c.next :: c.before key)).get t = some (t :: earlier) := by
          rintro recent earlier ⟨_, found, _⟩
          rw [get_set_of_ne _ _ (old t _ found)]
          exact found
        rw [get_set] at h
        split at h
        · cases h
          rcases List.mem_cons.mp ht with rfl | earlier
          · exact ⟨[], c.before key, get_set_self _ _ _, rfl⟩
          · obtain ⟨recent, rest, found, chain⟩ := linked_before earlier
            exact ⟨c.next :: recent, rest, keep recent rest ⟨_, found, chain⟩, by rw [chain, List.cons_append]⟩
        · obtain ⟨recent, rest, found, chain⟩ := c.linked ticket chain h t ht
          exact ⟨recent, rest, keep recent rest ⟨_, found, chain⟩, chain⟩
      nodup := by
        intro ticket chain h
        rw [get_set] at h
        split at h
        · cases h
          exact List.nodup_cons.mpr ⟨fun h => Nat.lt_irrefl _ (before_lt h), nodup_before c key⟩
        · exact c.nodup ticket chain h })

/-- Everything before the ticket's own gate is open: `await previous` resolves. -/
def ready (c : PromiseChain κ) (ticket : Nat) : Bool :=
  ((c.gates.get ticket).getD []).tail.all (c.released.contains ·)

/-- Open the gate; drop the entry of the key when nobody entered after. -/
def leave (c : PromiseChain κ) (key : κ) (ticket : Nat) : PromiseChain κ where
  next := c.next
  gates := c.gates
  released := if ticket < c.next then ticket :: c.released else c.released
  locks := if c.locks.get key = some ticket then c.locks.delete key else c.locks
  fresh := by
    intro t h
    have old := c.fresh t h
    refine ⟨old.1, ?_⟩
    split
    · rw [List.mem_cons, not_or]
      exact ⟨by omega, old.2⟩
    · exact old.2
  known := by
    intro key' t h
    split at h
    · rw [get_delete] at h
      split at h
      · cases h
      · exact c.known key' t h
    · exact c.known key' t h
  linked := c.linked
  nodup := c.nodup

/-! ### The queue -/

/-- The tickets of a key that have not left, newest first. -/
def waiting (c : PromiseChain κ) (key : κ) : List Nat :=
  (c.before key).filter fun t => !c.released.contains t

/-- The ticket that may be inside. -/
def holder (c : PromiseChain κ) (key : κ) : Option Nat := (c.waiting key).getLast?

@[simp] theorem waiting_empty (key : κ) : (empty : PromiseChain κ).waiting key = [] := rfl

theorem waiting_lt (h : t ∈ c.waiting key) : t < c.next :=
  before_lt (List.mem_filter.mp h).1

theorem before_enter (c : PromiseChain κ) (key key' : κ) :
    (c.enter key).2.before key' = if key' = key then c.next :: c.before key else c.before key' := by
  by_cases same : key' = key
  · subst same
    simp [before, enter]
  · have locks : (c.enter key).2.locks.get key' = c.locks.get key' := get_set_of_ne _ _ same
    rw [if_neg same, before, locks, before]
    cases last : c.locks.get key' with
    | none => rfl
    | some ticket =>
      have old : ticket ≠ c.next := by
        rintro rfl
        have found := c.known key' c.next last
        rw [(c.fresh c.next (Nat.le_refl _)).1] at found
        cases found
      exact congrArg (Option.getD · []) (get_set_of_ne _ _ old)

theorem waiting_enter (c : PromiseChain κ) (key key' : κ) :
    (c.enter key).2.waiting key' = if key' = key then c.next :: c.waiting key else c.waiting key' := by
  have notReleased : c.released.contains c.next = false := by
    simpa using (c.fresh c.next (Nat.le_refl _)).2
  unfold waiting
  rw [before_enter]
  split
  · rw [List.filter_cons]
    simp only [enter, notReleased, Bool.not_false, if_true]
  · rfl

/-- A ticket that is ready and has not left is at the end of the queue. -/
theorem holder_of_ready (inside : t ∈ c.waiting key) (ready : c.ready t = true) : c.holder key = some t := by
  obtain ⟨member, notReleased⟩ := List.mem_filter.mp inside
  obtain ⟨recent, earlier, found, chain⟩ := linked_before member
  have open_ : earlier.filter (fun t => !c.released.contains t) = [] := by
    rw [List.filter_eq_nil_iff]
    intro t' ht'
    have all : earlier.all (c.released.contains ·) = true := by
      simpa [PromiseChain.ready, found] using ready
    simpa using List.all_eq_true.mp all t' ht'
  rw [holder, waiting, chain, List.filter_append, List.filter_cons, notReleased, if_pos rfl, open_]
  exact List.getLast?_concat

theorem holder_enter {key'} (holds : c.holder key' = some t) (key : κ) : (c.enter key).2.holder key' = some t := by
  unfold holder at holds ⊢
  rw [waiting_enter]
  split
  · rename_i same
    subst same
    rw [List.getLast?_cons, holds]
    rfl
  · exact holds

theorem waiting_leave (holds : c.holder key = some t) (key' : κ) :
    (c.leave key t).waiting key' = (c.waiting key').filter (· ≠ t) := by
  have bound : t < c.next := waiting_lt (List.mem_of_getLast? holds)
  have split : ∀ l : List Nat, l.filter (fun t' => !(t :: c.released).contains t') =
      (l.filter fun t' => !c.released.contains t').filter (· ≠ t) := by
    intro l
    rw [List.filter_filter]
    apply List.filter_congr
    intro t' _
    by_cases same : t' = t <;> simp [same]
  have released : (c.leave key t).released = t :: c.released := if_pos bound
  unfold waiting
  rw [released]
  by_cases last : c.locks.get key = some t
  · have locks : (c.leave key t).locks = c.locks.delete key := if_pos last
    by_cases same : key' = key
    · subst same
      -- The leaver entered last and is first in line, so it was alone.
      have gone : (c.leave key' t).before key' = [] := by
        simp [before, locks, get_delete]
      have front : ∃ rest, c.before key' = t :: rest := by
        obtain ⟨chain, found⟩ := Option.isSome_iff_exists.mp (c.known key' t last)
        have member : t ∈ c.before key' := (List.mem_filter.mp (List.mem_of_getLast? holds)).1
        obtain ⟨_, earlier, self, _⟩ := linked_before member
        refine ⟨earlier, ?_⟩
        rw [before, last]
        simp [self]
      obtain ⟨rest, front⟩ := front
      have alone : (c.before key').filter (fun t' => !c.released.contains t') = [t] := by
        have inside : t ∈ (c.before key').filter fun t' => !c.released.contains t' :=
          List.mem_of_getLast? holds
        have kept := (List.mem_filter.mp inside).2
        have end_ := holds
        rw [holder, waiting, front, List.filter_cons, kept, if_pos rfl] at end_
        rw [front, List.filter_cons, kept, if_pos rfl]
        cases left : rest.filter fun t' => !c.released.contains t' with
        | nil => rfl
        | cons t' others =>
          -- The end of the queue would be an older ticket.
          exfalso
          rw [left, List.getLast?_cons_cons] at end_
          have older : t ∈ rest := by
            have := List.mem_of_getLast? end_
            rw [← left] at this
            exact (List.mem_filter.mp this).1
          exact absurd older (List.nodup_cons.mp (front ▸ c.nodup_before key')).1
      rw [gone, alone]
      simp
    · have keep : (c.leave key t).before key' = c.before key' := by
        rw [before, locks, get_delete, if_neg same]
        rfl
      rw [keep, split]
  · have keep : (c.leave key t).before key' = c.before key' := by
      simp [before, leave, last]
    rw [keep, split]

theorem holder_leave {key' t'} (holds : c.holder key = some t) (other : c.holder key' = some t') (differs : t' ≠ t) :
    (c.leave key t).holder key' = some t' := by
  unfold holder at other ⊢
  rw [waiting_leave holds]
  obtain ⟨front, queue⟩ := List.getLast?_eq_some_iff.mp other
  rw [queue, List.filter_append]
  simp [differs]

end PromiseChain

end VortexBackend

/-
Module: VortexBackend.Async.Tally
Purpose: Sums over the programs of a pool. A call changes only the share of the program that makes it.
Main exports: Config.total, Run.tallied
-/
import Mathlib.Algebra.BigOperators.Group.List.Basic
import Mathlib.Algebra.Group.Prod
import VortexBackend.Async.Discipline

namespace VortexBackend

variable {Call : Type} {Reply : Call → Type} {World Choice Drift Request Outcome M : Type} [AddCommMonoid M]

/-- The sum of the shares of a pool whose first program has the given index. -/
def shares (share : Request → List (Exchange Reply) → M) (history : List (Event Reply Request)) :
    Nat → List (Request × Program Reply Outcome) → M
  | _, [] => 0
  | pid, x :: rest => share x.1 (past pid history) + shares share history (pid + 1) rest

namespace Config

variable (share : Request → List (Exchange Reply) → M)

/-- The sum of the shares of all programs. -/
def total (c : Config Reply World Request Outcome) : M := shares share c.history 0 c.pool

end Config

variable {N : Type}

section Shares

variable {share : Request → List (Exchange Reply) → M} {history : List (Event Reply Request)}

theorem shares_append (pool pool' : List (Request × Program Reply Outcome)) (pid : Nat) :
    shares share history pid (pool ++ pool') =
      shares share history pid pool + shares share history (pid + pool.length) pool' := by
  induction pool generalizing pid with
  | nil => simp [shares]
  | cons x rest ih => simp [shares, ih, add_assoc, Nat.add_comm 1]

variable (e : Event Reply Request)

theorem shares_later {first} (later : e.actor.pid < first)
    (pool : List (Request × Program Reply Outcome)) :
    shares share (e :: history) first pool = shares share history first pool := by
  induction pool generalizing first with
  | nil => rfl
  | cons x rest ih => simp [shares, past_cons_of_ne (Nat.ne_of_lt later), ih (Nat.lt_succ_of_lt later)]

variable {pool : List (Request × Program Reply Outcome)}

theorem shares_set {first n} (own : e.actor.pid = first + n) {x} (y : Program Reply Outcome)
    (scheduled : pool[n]? = some (e.actor.request, x)) :
    ∃ rest, shares share history first pool = rest + share e.actor.request (past e.actor.pid history) ∧
      shares share (e :: history) first (pool.set n (e.actor.request, y)) =
        rest + share e.actor.request (past e.actor.pid (e :: history)) := by
  induction pool generalizing first n with
  | nil => cases scheduled
  | cons z pool ih =>
    cases n with
    | zero =>
      cases scheduled
      refine ⟨shares share history (first + 1) pool, ?_, ?_⟩
      · simp [shares, own, add_comm]
      · simp [shares, shares_later e (Nat.lt_succ_of_le (Nat.le_of_eq own)), own, add_comm]
    | succ n =>
      obtain ⟨rest, isBefore, isAfter⟩ := ih (by omega : e.actor.pid = first + 1 + n) scheduled
      have other : e.actor.pid ≠ first := by omega
      refine ⟨share z.1 (past first history) + rest, ?_, ?_⟩
      · simp [shares, isBefore, add_assoc]
      · simp [shares, isAfter, past_cons_of_ne other, add_assoc]

theorem shares_eq_sum (value : Request → M) {first}
    (known : ∀ n x, pool[n]? = some x → share x.1 (past (first + n) history) = value x.1) :
    shares share history first pool = (pool.map fun x => value x.1).sum := by
  induction pool generalizing first with
  | nil => rfl
  | cons x rest ih =>
    have later : ∀ n y, rest[n]? = some y → share y.1 (past (first + 1 + n) history) = value y.1 := by
      intro n y isNext
      have here := known (n + 1) y isNext
      rwa [show first + (n + 1) = first + 1 + n by omega] at here
    have here : share x.1 (past first history) = value x.1 := known 0 x rfl
    simp [shares, ih later, here]

theorem map_shares [AddCommMonoid N] (f : M →+ N) (pool : List (Request × Program Reply Outcome)) (first : Nat) :
    f (shares share history first pool) = shares (fun request past => f (share request past)) history first pool := by
  induction pool generalizing first with
  | nil => exact map_zero f
  | cons x rest ih => simp [shares, ih]

end Shares

namespace Config

variable {c : Config Reply World Request Outcome} {share : Request → List (Exchange Reply) → M}

theorem total_eq_sum (value : Request → M)
    (known : ∀ pid x, c.pool[pid]? = some x → share x.1 (past pid c.history) = value x.1) :
    c.total share = (c.pool.map fun x => value x.1).sum := by
  apply shares_eq_sum value
  intro n x isNth
  rw [Nat.zero_add]
  exact known n x isNth

theorem total_eq_countP {share : Request → List (Exchange Reply) → Nat} (p : Request → Bool)
    (known : ∀ pid x, c.pool[pid]? = some x → share x.1 (past pid c.history) = if p x.1 then 1 else 0) :
    c.total share = c.pool.countP fun x => p x.1 := by
  rw [total_eq_sum (fun request => if p request then 1 else 0) known]
  generalize c.pool = pool
  induction pool with
  | nil => rfl
  | cons x rest ih =>
    rw [List.map_cons, List.sum_cons, ih, List.countP_cons, Nat.add_comm]

theorem total_fst [AddCommMonoid N] (share : Request → List (Exchange Reply) → M × N)
    (c : Config Reply World Request Outcome) : (c.total share).1 = c.total fun request past => (share request past).1 :=
  map_shares (AddMonoidHom.fst M N) c.pool 0

theorem total_snd [AddCommMonoid N] (share : Request → List (Exchange Reply) → M × N)
    (c : Config Reply World Request Outcome) : (c.total share).2 = c.total fun request past => (share request past).2 :=
  map_shares (AddMonoidHom.snd M N) c.pool 0

end Config

/-- An invariant that relates the view to the sum of the shares: a call is looked at with the caller's share alone, and
    whatever the others have contributed. -/
theorem Run.tallied {S : Service Reply World Choice Drift Request Outcome} {E : Setting Reply World Request}
    {D : Discipline Reply Request Outcome} {ts : List (Transition Reply World Choice Drift Request Outcome)}
    {c : Config Reply World Request Outcome} {share : Request → List (Exchange Reply) → M}
    {I : View Reply World Request → M → Prop} (followed : D.Followed S E)
    (nothing : ∀ request, share request [] = 0)
    (initial : ∀ w, E.initial w → I ⟨w, []⟩ 0)
    (drift : ∀ v d w m, I v m → S.drift d v.world = some w → I { v with world := w } m)
    (call :
      ∀ v e v' rest, I v (rest + share e.actor.request (past e.actor.pid v.history)) → Allowed S E D v e v' →
      I v' (rest + share e.actor.request (past e.actor.pid v'.history)))
    (run : Run S E ts c) : I c.view (c.total share) := by
  induction run with
  | start isInitial => exact initial _ isInitial
  | @step ts c c' m event prior admitted moved met ih =>
    have whole : Run S E (⟨c, m, event, c'⟩ :: ts) c' := .step prior admitted moved met
    have allowed := (invariant followed (fun _ _ => trivial) (fun _ _ _ _ _ => trivial)
      (fun _ _ _ _ _ => trivial) whole (I := fun _ => True)).2 ⟨c, m, event, c'⟩ (.head _)
    cases m with
    | arrive request =>
      cases moved
      have same : Config.total share { c with pool := c.pool ++ [(request, S.start request)] } = c.total share := by
        simp [Config.total, shares_append, shares, prior.past_fresh, nothing]
      rw [same]
      exact ih
    | drift d =>
      obtain ⟨w, drifted, rfl, rfl⟩ := S.step_drift_cases moved
      exact drift c.view d w _ ih drifted
    | act pid choice =>
      obtain ⟨request, made, next, reply, w, scheduled, performed, rfl, rfl⟩ := S.step_act_cases moved
      obtain ⟨rest, isBefore, isAfter⟩ :
          ∃ rest, c.total share = rest + share request (past pid c.history) ∧
            shares share (⟨⟨pid, request⟩, made, reply⟩ :: c.history) 0 (c.pool.set pid (request, next reply)) =
              rest + share request (past pid (⟨⟨pid, request⟩, made, reply⟩ :: c.history)) :=
        shares_set ⟨⟨pid, request⟩, made, reply⟩ (Nat.zero_add pid).symm (next reply) scheduled
      rw [isBefore] at ih
      rw [Config.total, isAfter]
      exact call c.view ⟨⟨pid, request⟩, made, reply⟩ _ rest ih (allowed.2.2 _ rfl)

end VortexBackend

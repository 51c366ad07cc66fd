/-
Module: VortexBackend.Async.Embed
Purpose: A program as a part of one over a larger interface; a rule for the part is checked on the part alone.
Main exports: Embedding, Async.embed, Async.follows_embed
-/
import VortexBackend.Async.Discipline
import Mathlib.Logic.Equiv.Defs

namespace VortexBackend

variable {Call Call' : Type} {Reply : Call → Type} {Reply' : Call' → Type} {α ε M : Type}

/-- The calls of one interface among those of another. -/
structure Embedding (Reply : Call → Type) (Reply' : Call' → Type) where
  lift : Call → Call'
  reply : ∀ c, Reply' (lift c) ≃ Reply c

variable (E : Embedding Reply Reply')

/-- An exchange of the part, as the larger program sees it. -/
def Embedding.exchange (x : Exchange Reply) : Exchange Reply' :=
  ⟨E.lift x.call, (E.reply x.call).symm x.reply⟩

/-- The part inside the larger program. -/
def Program.embed (E : Embedding Reply Reply') : Program Reply α → Program Reply' α
  | .done value => .done value
  | .await call next => .await (E.lift call) fun reply => (next (E.reply call reply)).embed E

/-- The same for an asynchronous function. -/
def Async.embed (E : Embedding Reply Reply') (x : Async Reply ε α) : Async Reply' ε α :=
  ExceptT.mk (Program.embed E x.run)

variable {base : List (Exchange Reply')}

theorem Program.follows_embed {allows : List (Exchange Reply') → Call' → Prop}
    {Q : α → List (Exchange Reply') → Prop} {x : Program Reply α} :
    ∀ {recent}, x.Follows (fun recent c => allows (recent.map E.exchange ++ base) (E.lift c))
      (fun value recent => Q value (recent.map E.exchange ++ base)) recent →
      (x.embed E).Follows allows Q (recent.map E.exchange ++ base) := by
  induction x with
  | done value => exact fun h => h
  | await call next ih =>
    intro recent h
    refine ⟨h.1, fun reply => ?_⟩
    have rest := ih (E.reply call reply) (h.2 (E.reply call reply))
    rw [List.map_cons, List.cons_append, Embedding.exchange, Equiv.symm_apply_apply] at rest
    exact rest

variable {observe : M → Exchange Reply' → M} {start : M}

theorem remember_embed (recent : List (Exchange Reply)) (base : List (Exchange Reply')) :
    remember observe start (recent.map E.exchange ++ base) =
      remember (fun m x => observe m (E.exchange x)) (remember observe start base) recent := by
  induction recent with
  | nil => rfl
  | cons x recent ih => exact congrArg (observe · (E.exchange x)) ih

/-- A rule on what is remembered, checked on the part from what was remembered before it. -/
theorem Async.follows_embed {rule : M → Call' → Prop} {P : Except ε α → M → Prop}
    {x : Async Reply ε α} (h : x.Follows
      (fun recent c =>
        rule (remember (fun m x => observe m (E.exchange x)) (remember observe start base) recent) (E.lift c))
      (fun outcome recent =>
        P outcome (remember (fun m x => observe m (E.exchange x)) (remember observe start base) recent))
      []) :
    (x.embed E).Follows (fun past c => rule (remember observe start past) c)
      (fun outcome past => P outcome (remember observe start past)) base := by
  change Program.Follows _ (Program.embed E x.run) _ (([] : List (Exchange Reply)).map E.exchange ++ base)
  apply Program.follows_embed
  simp only [remember_embed]
  exact h

end VortexBackend

/-
Module: VortexBackend.Proofs.KeeperBudget
Purpose: The fees of a day stay within the budget, if the network includes only what was confirmed.
Main exports: keeper_within_budget
-/
import VortexBackend.Proofs.KeeperRule

namespace VortexBackend

open KeeperWorld KeeperStage

abbrev KeeperView := View KeeperReply KeeperWorld KeeperRequest

abbrev KeeperEvent := Event KeeperReply KeeperRequest

/-! ### The books -/

/-- What the account was charged on a day. -/
def feesOn (fees : List ChargedFee) (day : Nat) : Nat := ((fees.filter (·.day == day)).map (·.stroops)).sum

theorem feesOn_cons (fee : ChargedFee) (fees : List ChargedFee) (day : Nat) :
    feesOn (fee :: fees) day = (if fee.day = day then fee.stroops else 0) + feesOn fees day := by
  by_cases same : fee.day = day
  · simp [feesOn, same]
  · simp [feesOn, same]

theorem feesOn_eq_zero {fees day} (none : ∀ fee ∈ fees, fee.day ≠ day) : feesOn fees day = 0 := by
  have empty : fees.filter (·.day == day) = [] := by
    rw [List.filter_eq_nil_iff]
    intro fee member
    simpa using none fee member
  rw [feesOn, empty]
  rfl

/-- Today's counter and today's fees, and what the network has of the process. -/
structure Funds where
  spent : Nat
  fees : Nat
  pending : List SignedEnvelope
  included : List Nat

def KeeperWorld.funds (w : KeeperWorld) : Funds where
  spent := w.currentBudget.spentStroops
  fees := feesOn w.fees w.today
  pending := w.signer.pending
  included := w.signer.included

/-- Nothing is on its way, and the fees are counted. -/
def Funds.Settled (f : Funds) : Prop := f.pending = [] ∧ f.fees ≤ f.spent

/-- The envelope was submitted: it is on its way, the network has dropped it, or it is included and not yet counted. -/
inductive Funds.Open (f : Funds) (envelope : SignedEnvelope) : Prop where
  | pending (onWay : f.pending = [envelope]) (fresh : envelope.hash ∉ f.included) (counted : f.fees ≤ f.spent)
  | dropped (settled : f.Settled)
  | included (landed : envelope.hash ∈ f.included) (empty : f.pending = [])
      (counted : f.fees ≤ f.spent + envelope.fee)

/-- What the books say about a program at its stage. -/
def StageFunded (budget : Nat) (f : Funds) : KeeperStage → Prop
  | .outside => True
  | .idle => f.Settled
  | .reserved remaining => f.Settled ∧ f.spent + remaining ≤ budget
  | .prepared remaining envelope => f.Settled ∧ f.spent + remaining ≤ budget ∧ envelope.hash ∉ f.included
  | .sent envelope => f.Open envelope ∧ f.spent + envelope.fee ≤ budget
  | .confirmed envelope => f.pending = [] ∧ f.fees ≤ f.spent + envelope.fee ∧ f.spent + envelope.fee ≤ budget

section Funds

variable {budget : Nat} {f : Funds} {stage : KeeperStage}

section

variable (funded : StageFunded budget f stage)
include funded

theorem StageFunded.settled (free : stage.Free) : f.Settled := by
  cases stage with
  | idle => exact funded
  | reserved | prepared => exact funded.1
  | outside | sent | confirmed => cases free

theorem StageFunded.within (inside : stage ≠ .outside) (counted : f.spent ≤ budget) : f.fees ≤ budget := by
  cases stage with
  | outside => exact absurd rfl inside
  | idle => exact Nat.le_trans funded.2 counted
  | reserved | prepared => exact Nat.le_trans funded.1.2 counted
  | confirmed envelope => exact Nat.le_trans funded.2.1 funded.2.2
  | sent envelope =>
    obtain ⟨isOpen, affordable⟩ := funded
    cases isOpen with
    | pending onWay fresh covered => exact Nat.le_trans covered counted
    | dropped settled => exact Nat.le_trans settled.2 counted
    | included landed empty covered => exact Nat.le_trans covered affordable

theorem StageFunded.newDay : StageFunded budget { f with spent := 0, fees := 0 } stage := by
  cases stage with
  | outside => trivial
  | idle => exact ⟨funded.1, Nat.le_refl 0⟩
  | reserved remaining =>
    obtain ⟨settled, affordable⟩ := funded
    exact ⟨⟨settled.1, Nat.le_refl 0⟩, by dsimp only; omega⟩
  | prepared remaining envelope =>
    obtain ⟨settled, affordable, fresh⟩ := funded
    exact ⟨⟨settled.1, Nat.le_refl 0⟩, by dsimp only; omega, fresh⟩
  | confirmed envelope =>
    obtain ⟨empty, -, affordable⟩ := funded
    exact ⟨empty, Nat.zero_le _, by dsimp only; omega⟩
  | sent envelope =>
    obtain ⟨isOpen, affordable⟩ := funded
    refine ⟨?_, by dsimp only; omega⟩
    cases isOpen with
    | pending onWay fresh covered => exact .pending onWay fresh (Nat.le_refl 0)
    | dropped settled => exact .dropped ⟨settled.1, Nat.le_refl 0⟩
    | included landed empty covered => exact .included landed empty (Nat.zero_le _)

theorem StageFunded.drop (envelope : SignedEnvelope) :
    StageFunded budget { f with pending := f.pending.erase envelope } stage := by
  have settle : f.Settled → Funds.Settled { f with pending := f.pending.erase envelope } := by
    intro settled
    exact ⟨by simp [settled.1], settled.2⟩
  cases stage with
  | outside => trivial
  | idle => exact settle funded
  | reserved | prepared => exact ⟨settle funded.1, funded.2⟩
  | confirmed => exact ⟨by simp [funded.1], funded.2⟩
  | sent sentEnvelope =>
    refine ⟨?_, funded.2⟩
    cases funded.1 with
    | dropped settled => exact .dropped (settle settled)
    | included landed empty covered => exact .included landed (by simp [empty]) covered
    | pending onWay fresh covered =>
      by_cases same : sentEnvelope = envelope
      · exact .dropped ⟨by simp [onWay, same], covered⟩
      · exact .pending (by simp [onWay, same]) fresh covered

/-- The network includes something that is on its way: it can only be what the pass has submitted. -/
theorem StageFunded.include {envelope} (member : envelope ∈ f.pending) (inside : stage ≠ .outside) :
    StageFunded budget
      { spent := f.spent
        fees := envelope.fee + f.fees
        pending := f.pending.erase envelope
        included := envelope.hash :: f.included } stage := by
  have unsettled : ¬ f.Settled := by
    intro settled
    rw [settled.1] at member
    cases member
  cases stage with
  | outside => exact absurd rfl inside
  | idle => exact absurd funded unsettled
  | reserved | prepared => exact absurd funded.1 unsettled
  | confirmed =>
    rw [funded.1] at member
    cases member
  | sent sentEnvelope =>
    refine ⟨?_, funded.2⟩
    cases funded.1 with
    | dropped settled => exact absurd settled unsettled
    | included landed empty covered =>
      rw [empty] at member
      cases member
    | pending onWay fresh covered =>
      rw [onWay] at member
      obtain rfl := List.mem_singleton.mp member
      refine .included (.head _) (by simp [onWay]) ?_
      dsimp only
      omega

end

end Funds

variable {w : KeeperWorld}

theorem currentBudget_spent_of_later (counter : ∀ day, w.budget.day = some day → day < w.today) :
    w.currentBudget.spentStroops = 0 := by
  unfold currentBudget
  split
  · rename_i same
    exact absurd (counter _ same) (Nat.lt_irrefl _)
  · rfl

theorem currentBudget_spent_of_unspent (unspent : w.budget = {}) : w.currentBudget.spentStroops = 0 :=
  currentBudget_spent_of_later fun _ isDay => by simp [unspent] at isDay

/-- What holds of the world by itself. -/
structure Books (budget : Nat) (w : KeeperWorld) : Prop where
  counted : w.funds.spent ≤ budget
  earlier : ∀ day, day < w.today → feesOn w.fees day ≤ budget
  charged : ∀ fee ∈ w.fees, fee.day ≤ w.today
  counter : ∀ day, w.budget.day = some day → day ≤ w.today
  included : ∀ hash ∈ w.signer.included, hash < w.signer.built
  pending : ∀ envelope ∈ w.signer.pending, envelope.hash < w.signer.built

/-- One pass at most, and every program is where the books say. -/
structure Budgeted (budget : Nat) (w : KeeperWorld) (stages : Nat → KeeperStage) : Prop where
  books : Books budget w
  alone : ∀ pid pid', stages pid ≠ .outside → stages pid' ≠ .outside → pid = pid'
  running : ∀ pid, stages pid ≠ .outside → w.running = true
  calm : (∀ pid, stages pid = .outside) → w.funds.Settled
  funded : ∀ pid, StageFunded budget w.funds (stages pid)
  prepared : ∀ pid remaining envelope, stages pid = .prepared remaining envelope → envelope.hash < w.signer.built

namespace Budgeted

variable {budget : Nat} {w w' : KeeperWorld} {stages : Nat → KeeperStage} {pid : Nat}

section

variable (b : Budgeted budget w stages)
include b

theorem within : feesOn w.fees w.today ≤ budget := by
  by_cases somebody : ∃ pid, stages pid ≠ .outside
  · obtain ⟨pid, inside⟩ := somebody
    exact (b.funded pid).within inside b.books.counted
  · have nobody : ∀ pid, stages pid = .outside := by
      intro pid
      by_contra inside
      exact somebody ⟨pid, inside⟩
    exact Nat.le_trans (b.calm nobody).2 b.books.counted

theorem within_day (day : Nat) : feesOn w.fees day ≤ budget := by
  rcases Nat.lt_trichotomy day w.today with earlier | rfl | later
  · exact b.books.earlier day earlier
  · exact b.within
  · rw [feesOn_eq_zero]
    · exact Nat.zero_le _
    · intro fee member same
      have := b.books.charged fee member
      omega

theorem others (inside : stages pid ≠ .outside) (pid' : Nat) (other : pid' ≠ pid) : stages pid' = .outside := by
  by_contra inside'
  exact other (b.alone pid' pid inside' inside)

section

variable (books : Books budget w')
include books

theorem quiet (running : w'.running = w.running) (funds : w'.funds = w.funds)
    (built : w.signer.built ≤ w'.signer.built) : Budgeted budget w' stages where
  books
  alone := b.alone
  running pid inside := running ▸ b.running pid inside
  calm nobody := funds ▸ b.calm nobody
  funded pid := funds ▸ b.funded pid
  prepared pid remaining envelope isPrepared :=
    Nat.lt_of_lt_of_le (b.prepared pid remaining envelope isPrepared) built

omit b in
theorem only {s} (others : ∀ pid', pid' ≠ pid → stages pid' = .outside)
    (running : s ≠ .outside → w'.running = true)
    (calm : s = .outside → w'.funds.Settled) (funded : StageFunded budget w'.funds s)
    (prepared : ∀ remaining envelope, s = .prepared remaining envelope → envelope.hash < w'.signer.built) :
    Budgeted budget w' (Function.update stages pid s) := by
  have isPid : ∀ pid', Function.update stages pid s pid' ≠ .outside → pid' = pid := by
    intro pid' inside'
    by_contra other
    rw [Function.update_of_ne other] at inside'
    exact inside' (others pid' other)
  constructor
  · exact books
  · intro pid' pid'' one two
    rw [isPid pid' one, isPid pid'' two]
  · intro pid' inside'
    rw [isPid pid' inside', Function.update_self] at inside'
    exact running inside'
  · intro nobody
    have own := nobody pid
    rw [Function.update_self] at own
    exact calm own
  · refine (Function.forall_update_iff stages fun _ s =>
      StageFunded budget w'.funds s).mpr ⟨funded, fun pid' other => ?_⟩
    rw [others pid' other]
    trivial
  · intro pid' remaining envelope isPrepared
    have own : pid' = pid := isPid pid' (by simp [isPrepared])
    rw [own, Function.update_self] at isPrepared
    exact prepared remaining envelope isPrepared

theorem go {s} (inside : stages pid ≠ .outside) (still : s ≠ .outside) (running : w'.running = w.running)
    (funded : StageFunded budget w'.funds s)
    (prepared : ∀ remaining envelope, s = .prepared remaining envelope → envelope.hash < w'.signer.built) :
    Budgeted budget w' (Function.update stages pid s) := by
  refine only books (b.others inside) (fun _ => ?_) (fun outside => absurd outside still) funded prepared
  rw [running]
  exact b.running pid inside

theorem begin (idle : w.running = false) (running : w'.running = true)
    (funds : w'.funds = w.funds) : Budgeted budget w' (Function.update stages pid .idle) := by
  have nobody : ∀ pid', stages pid' = .outside := by
    intro pid'
    by_contra inside
    rw [b.running pid' inside] at idle
    cases idle
  exact only books (fun pid' _ => nobody pid') (fun _ => running) nofun (funds ▸ b.calm nobody) nofun

theorem finish (free : (stages pid).Free) (funds : w'.funds = w.funds) :
    Budgeted budget w' (Function.update stages pid .outside) := by
  have inside : stages pid ≠ .outside := by
    intro outside
    rw [outside] at free
    cases free
  refine only books (b.others inside) (absurd rfl) (fun _ => ?_) trivial nofun
  rw [funds]
  exact (b.funded pid).settled free

end

/-! ### The environment -/

theorem tick (ms : Nat) : Budgeted budget { w with now := w.now + ms } stages := by
  have grows : w.today ≤ { w with now := w.now + ms }.today := Nat.div_le_div_right (Nat.le_add_right w.now ms)
  rcases Nat.eq_or_lt_of_le grows with sameDay | newDay
  · have funds : { w with now := w.now + ms }.funds = w.funds := by
      simp only [funds, currentBudget, ← sameDay]
    have books : Books budget { w with now := w.now + ms } :=
      { b.books with
        counted := funds ▸ b.books.counted
        earlier := sameDay ▸ b.books.earlier
        charged := sameDay ▸ b.books.charged
        counter := sameDay ▸ b.books.counter }
    exact b.quiet books rfl funds le_rfl
  · -- On a new day nothing is counted yet, and nothing was charged.
    have spent : { w with now := w.now + ms }.currentBudget.spentStroops = 0 :=
      currentBudget_spent_of_later fun day isDay => Nat.lt_of_le_of_lt (b.books.counter day isDay) newDay
    have fees : feesOn w.fees { w with now := w.now + ms }.today = 0 :=
      feesOn_eq_zero fun fee member => Nat.ne_of_lt (Nat.lt_of_le_of_lt (b.books.charged fee member) newDay)
    have funds : { w with now := w.now + ms }.funds = { w.funds with spent := 0, fees := 0 } := by
      simp only [funds, spent, fees]
    refine { b with books := ?_, calm := ?_, funded := ?_ }
    · exact { b.books with
        counted := by
          rw [funds]
          exact Nat.zero_le _
        earlier := fun day _ => b.within_day day
        charged := fun fee member => Nat.le_trans (b.books.charged fee member) grows
        counter := fun day isDay => Nat.le_trans (b.books.counter day isDay) grows }
    · intro nobody
      rw [funds]
      exact ⟨(b.calm nobody).1, Nat.le_refl 0⟩
    · intro pid
      rw [funds]
      exact (b.funded pid).newDay

theorem drop (envelope : SignedEnvelope) :
    Budgeted budget { w with signer := { w.signer with pending := w.signer.pending.erase envelope } } stages where
  __ := b
  books := { b.books with pending := fun e member => b.books.pending e (List.mem_of_mem_erase member) }
  calm nobody := by
    obtain ⟨empty, covered⟩ := b.calm nobody
    have none : w.signer.pending = [] := empty
    exact ⟨by simp [funds, none], covered⟩
  funded pid := (b.funded pid).drop envelope

theorem include_ {envelope} (member : envelope ∈ w.signer.pending) :
    Budgeted budget
      { w with
        signer :=
          { w.signer with
            onChain := w.signer.onChain + 1
            pending := w.signer.pending.erase envelope
            included := envelope.hash :: w.signer.included }
        fees := { day := w.today, stroops := envelope.fee } :: w.fees } stages := by
  have unsettled : ¬ w.funds.Settled := by
    intro settled
    have none : w.signer.pending = [] := settled.1
    rw [none] at member
    cases member
  have today : feesOn ({ day := w.today, stroops := envelope.fee } :: w.fees) w.today =
      envelope.fee + feesOn w.fees w.today := by
    rw [feesOn_cons, if_pos rfl]
  refine { b with books := ?_, calm := fun nobody => absurd (b.calm nobody) unsettled, funded := ?_ }
  · exact { b.books with
      earlier := by
        intro day earlier
        have isToday : ¬ w.today = day := Nat.ne_of_gt earlier
        rw [feesOn_cons, if_neg isToday, Nat.zero_add]
        exact b.books.earlier day earlier
      charged := List.forall_mem_cons.mpr ⟨le_rfl, b.books.charged⟩
      included := List.forall_mem_cons.mpr ⟨b.books.pending envelope member, b.books.included⟩
      pending := fun e isPending => b.books.pending e (List.mem_of_mem_erase isPending) }
  · intro pid
    by_cases outside : stages pid = .outside
    · rw [outside]
      trivial
    · have funded := (b.funded pid).include member outside
      rw [funds]
      change StageFunded budget ⟨_, feesOn (_ :: w.fees) w.today, _, _⟩ _
      rw [today]
      exact funded

theorem drift {d} (drifted : KeeperWorld.drift d w = some w') : Budgeted budget w' stages := by
  cases d with
  | tick ms =>
    cases drifted
    exact b.tick ms
  | signer d =>
    cases d with
    | setKillSwitch k =>
      cases drifted
      exact b.quiet { b.books with } rfl rfl le_rfl
    | drop envelope =>
      cases drifted
      exact b.drop envelope
    | «include» envelope =>
      simp only [KeeperWorld.drift, SignerWorld.drift] at drifted
      split at drifted
      · rename_i signer included
        split at included
        · rename_i next
          cases included
          cases drifted
          exact b.include_ next.1
        · cases included
      · cases drifted

end

end Budgeted

/-! ### Calls -/

/-- A submission that is reported as failed did not reach the network, and a confirmation that reports anything but a
    success is about an envelope that the network has neither included nor kept. -/
def reportedTruly (_ : KeeperView) : KeeperEvent → KeeperWorld → Bool
  | ⟨_, .signer (.submit envelope), reply⟩, w => reply == .ok .sent || !w.signer.pending.contains envelope
  | ⟨_, .signer (.waitForConfirmation hash), reply⟩, w =>
    reply == .success || (!w.signer.included.contains hash && w.signer.pending.all (·.hash != hash))
  | _, _ => true

theorem perform_plain {call choice w w' reply} (plain : call.Plain)
    (performed : SignerWorld.perform call choice w = some (reply, w')) :
    w'.pending = w.pending ∧ w'.included = w.included ∧ w.built ≤ w'.built := by
  cases call with
  | prepare | submit | waitForConfirmation => cases plain
  | build account fee =>
    cases performed
    exact ⟨rfl, rfl, Nat.le_succ _⟩
  | wait | getAccount =>
    obtain ⟨_, ⟨⟩⟩ := Option.ite_none_right_eq_some.mp performed
    exact ⟨rfl, rfl, le_rfl⟩
  | advance =>
    simp only [SignerWorld.perform] at performed
    split at performed
    · cases performed
      exact ⟨rfl, rfl, le_rfl⟩
    · cases performed
      exact ⟨rfl, rfl, le_rfl⟩
  | _ =>
    cases performed
    exact ⟨rfl, rfl, le_rfl⟩

section Calls

variable {settings : TtlKeeperSettings} {w : KeeperWorld} {stages : Nat → KeeperStage} {pid : Nat}

theorem funds_signer (signer : SignerWorld) :
    { w with signer }.funds = { w.funds with pending := signer.pending, included := signer.included } := rfl

variable {budget : Nat} {choice : SignerChoice} {envelope : SignedEnvelope}

theorem Books.signer {signer} (books : Books budget w) (included : signer.included = w.signer.included)
    (built : w.signer.built ≤ signer.built)
    (pending : ∀ envelope ∈ signer.pending, envelope.hash < signer.built) :
    Books budget { w with signer } where
  __ := books
  included hash member := Nat.lt_of_lt_of_le (books.included hash (included ▸ member)) built
  pending := pending

theorem currentBudget_day : w.currentBudget.day = some w.today := by
  unfold currentBudget
  split
  · rename_i same
    exact same
  · rfl

theorem funds_count (stroops : Nat) :
    { w with budget := { w.currentBudget with spentStroops := w.currentBudget.spentStroops + stroops } }.funds =
      { w.funds with spent := w.funds.spent + stroops } := by
  have isToday : { w with
      budget := { w.currentBudget with spentStroops := w.currentBudget.spentStroops + stroops } }.currentBudget =
      { w.currentBudget with spentStroops := w.currentBudget.spentStroops + stroops } :=
    if_pos currentBudget_day
  simp only [funds, isToday]
  rfl

theorem Books.count {stroops} (books : Books budget w) (affordable : w.funds.spent + stroops ≤ budget) :
    Books budget
      { w with budget := { w.currentBudget with spentStroops := w.currentBudget.spentStroops + stroops } } := by
  refine { books with counted := ?_, counter := ?_ }
  · rw [funds_count]
    exact affordable
  · intro day isDay
    have same : some w.today = some day := currentBudget_day.symm.trans isDay
    exact Nat.le_of_eq (Option.some.inj same).symm

section

variable (b : Budgeted budget w stages)
include b

theorem Budgeted.plain {call signer reply} (plain : call.Plain)
    (performed : SignerWorld.perform call choice w.signer = some (reply, signer)) :
    Budgeted budget { w with signer } stages := by
  obtain ⟨pending, included, built⟩ := perform_plain plain performed
  have books : Books budget { w with signer } := by
    apply b.books.signer included built
    intro envelope member
    exact Nat.lt_of_lt_of_le (b.books.pending envelope (pending ▸ member)) built
  refine b.quiet books rfl ?_ built
  rw [funds_signer, pending, included]
  rfl

theorem Budgeted.prepare {remaining rawTx signer reply} (isReserved : stages pid = .reserved remaining)
    (performed : SignerWorld.perform (.prepare rawTx) choice w.signer = some (reply, signer)) :
    Budgeted budget { w with signer }
      (Function.update stages pid ((reserved remaining).observe settings ⟨.signer (.prepare rawTx), reply⟩)) := by
  have inside : stages pid ≠ .outside := by simp [isReserved]
  have funded := b.funded pid
  rw [isReserved] at funded
  have isSigner : signer = { w.signer with built := w.signer.built + 1 } := by
    cases performed
    rfl
  have books : Books budget { w with signer } := by
    apply b.books.signer
    · rw [isSigner]
    · rw [isSigner]
      exact Nat.le_succ _
    · rw [isSigner]
      exact fun envelope member => Nat.lt_succ_of_lt (b.books.pending envelope member)
  have funds : { w with signer }.funds = w.funds := by
    rw [isSigner]
    rfl
  cases reply with
  | error e =>
    apply b.go books inside (by simp [observe]) rfl
    · rw [funds]
      exact funded
    · exact nofun
  | ok envelope =>
    have isHash : envelope.hash = w.signer.built := by
      simp only [SignerWorld.perform, SignerWorld.answer] at performed
      cases throws : choice.throws with
      | some message => simp [throws] at performed
      | none =>
        simp only [throws, Option.some.injEq, Prod.mk.injEq, Except.ok.injEq] at performed
        rw [← performed.1]
    apply b.go books inside (by simp [observe]) rfl
    · rw [funds]
      refine ⟨funded.1, funded.2, fun member => ?_⟩
      have known : envelope.hash < w.signer.built := b.books.included _ member
      omega
    · rintro _ _ ⟨⟩
      rw [isSigner, isHash]
      exact Nat.lt_succ_self _

theorem Budgeted.submit {remaining signer reply} (isPrepared : stages pid = .prepared remaining envelope)
    (within : envelope.fee ≤ remaining) (truly : reply = .ok .sent ∨ envelope ∉ signer.pending)
    (performed : SignerWorld.perform (.submit envelope) choice w.signer = some (reply, signer)) :
    Budgeted budget { w with signer }
      (Function.update stages pid
        ((KeeperStage.prepared remaining envelope).observe settings ⟨.signer (.submit envelope), reply⟩)) := by
  have inside : stages pid ≠ .outside := by simp [isPrepared]
  have known := b.prepared pid remaining envelope isPrepared
  have funded := b.funded pid
  rw [isPrepared] at funded
  obtain ⟨⟨empty, covered⟩, affordable, fresh⟩ := funded
  have none : w.signer.pending = [] := empty
  have isSigner : signer.included = w.signer.included ∧ signer.built = w.signer.built ∧
      (signer.pending = [envelope] ∨ signer.pending = []) := by
    simp only [SignerWorld.perform, Option.some.injEq, Prod.mk.injEq] at performed
    rw [← performed.2]
    split
    · exact ⟨rfl, rfl, .inl (by simp [none])⟩
    · exact ⟨rfl, rfl, .inr none⟩
  obtain ⟨included, built, pending⟩ := isSigner
  have books : Books budget { w with signer } := by
    apply b.books.signer included built.ge
    intro e member
    rcases pending with onWay | nothing
    · rw [onWay] at member
      rw [List.mem_singleton.mp member, built]
      exact known
    · rw [nothing] at member
      cases member
  have sent : StageFunded budget { w with signer }.funds (.sent envelope) := by
    rw [funds_signer, included]
    refine ⟨?_, Nat.le_trans (Nat.add_le_add_left within _) affordable⟩
    rcases pending with onWay | nothing
    · exact .pending onWay fresh covered
    · exact .dropped ⟨nothing, covered⟩
  have failed : envelope ∉ signer.pending → StageFunded budget { w with signer }.funds .idle := by
    intro unsent
    rw [funds_signer, included]
    rcases pending with onWay | nothing
    · rw [onWay] at unsent
      exact absurd (.head _) unsent
    · exact ⟨nothing, covered⟩
  rcases reply with e | (_ | resultXdr)
  · apply b.go books inside (by simp [KeeperStage.observe]) rfl
    · exact failed (truly.resolve_left nofun)
    · exact nofun
  · apply b.go books inside (by simp [KeeperStage.observe]) rfl
    · exact sent
    · exact nofun
  · apply b.go books inside (by simp [KeeperStage.observe]) rfl
    · exact failed (truly.resolve_left nofun)
    · exact nofun

theorem Budgeted.confirm {signer reply} (isSent : stages pid = .sent envelope)
    (truly :
      reply = .success ∨ (envelope.hash ∉ signer.included ∧ ∀ e ∈ signer.pending, e.hash ≠ envelope.hash))
    (performed : SignerWorld.perform (.waitForConfirmation envelope.hash) choice w.signer = some (reply, signer)) :
    Budgeted budget { w with signer }
      (Function.update stages pid
        ((sent envelope).observe settings ⟨.signer (.waitForConfirmation envelope.hash), reply⟩)) := by
  have inside : stages pid ≠ .outside := by simp [isSent]
  have funded := b.funded pid
  rw [isSent] at funded
  obtain ⟨isOpen, affordable⟩ := funded
  obtain ⟨answered, performed⟩ := Option.ite_none_right_eq_some.mp performed
  simp only [Option.some.injEq, Prod.mk.injEq] at performed
  obtain ⟨isReply, rfl⟩ := performed
  have failed : reply ≠ .success → StageFunded budget w.funds .idle := by
    intro unsuccessful
    obtain ⟨missing, gone⟩ := truly.resolve_left unsuccessful
    cases isOpen with
    | dropped settled => exact settled
    | included landed empty covered => exact absurd landed missing
    | pending onWay fresh covered =>
      have member : envelope ∈ w.signer.pending := by
        rw [show w.signer.pending = [envelope] from onWay]
        exact .head _
      exact absurd rfl (gone envelope member)
  cases reply with
  | success =>
    have landed : envelope.hash ∈ w.signer.included := answered isReply
    apply b.go b.books inside (by simp [observe]) rfl
    · cases isOpen with
      | pending onWay fresh covered => exact absurd landed fresh
      | dropped settled => exact ⟨settled.1, Nat.le_add_right_of_le settled.2, affordable⟩
      | included _ empty covered => exact ⟨empty, covered, affordable⟩
    · exact nofun
  | _ =>
    apply b.go b.books inside (by simp [observe]) rfl
    · exact failed nofun
    · exact nofun

end

theorem Budgeted.look (b : Budgeted settings.dailyBudgetStroops w stages)
    (allowed : stages pid = .outside ∨ (stages pid).Free) :
    Budgeted settings.dailyBudgetStroops { w with budget := w.currentBudget }
      (Function.update stages pid ((stages pid).observe settings ⟨.currentBudget, w.currentBudget⟩)) := by
  have books : Books settings.dailyBudgetStroops { w with budget := w.currentBudget } :=
    b.books.count (show w.funds.spent + 0 ≤ settings.dailyBudgetStroops from b.books.counted)
  have funds : { w with budget := w.currentBudget }.funds = w.funds := funds_count 0
  rcases allowed with outside | free
  · rw [outside]
    change Budgeted _ _ (Function.update stages pid .outside)
    rw [← outside, Function.update_eq_self]
    exact b.quiet books rfl funds le_rfl
  · have inside : stages pid ≠ .outside := by
      intro outside
      rw [outside] at free
      cases free
    have reserved : (stages pid).observe settings ⟨.currentBudget, w.currentBudget⟩ =
        .reserved (settings.dailyBudgetStroops - w.currentBudget.spentStroops) := by
      cases isStage : stages pid with
      | idle | reserved | prepared => rfl
      | outside | sent | confirmed =>
        rw [isStage] at free
        cases free
    rw [reserved]
    apply b.go books inside (by simp) rfl
    · rw [funds]
      exact ⟨(b.funded pid).settled free, Nat.le_of_eq (Nat.add_sub_cancel' b.books.counted)⟩
    · exact nofun

theorem Budgeted.spend (b : Budgeted settings.dailyBudgetStroops w stages)
    (isConfirmed : stages pid = .confirmed envelope) :
    Budgeted settings.dailyBudgetStroops
      { w with budget := { w.currentBudget with spentStroops := w.currentBudget.spentStroops + envelope.fee } }
      (Function.update stages pid .idle) := by
  have inside : stages pid ≠ .outside := by simp [isConfirmed]
  have funded := b.funded pid
  rw [isConfirmed] at funded
  obtain ⟨empty, covered, affordable⟩ := funded
  apply b.go (b.books.count affordable) inside (by simp) rfl
  · rw [funds_count]
    exact ⟨empty, covered⟩
  · exact nofun

theorem Budgeted.signer {call choice w' reply} (v : KeeperView) {actor}
    (b : Budgeted settings.dailyBudgetStroops w stages) (allowed : KeeperRule (stages pid) (.signer call))
    (met : reportedTruly v ⟨actor, .signer call, reply⟩ w' = true)
    (performed : perform (.signer call) choice w = some (reply, w')) :
    Budgeted settings.dailyBudgetStroops w'
      (Function.update stages pid ((stages pid).observe settings ⟨.signer call, reply⟩)) := by
  simp only [perform] at performed
  split at performed
  · rename_i reply' signer signed
    cases performed
    by_cases plain : call.Plain
    · have same : (stages pid).observe settings ⟨.signer call, reply⟩ = stages pid := observe_plain reply plain
      rw [same, Function.update_eq_self]
      exact b.plain plain signed
    · cases call with
      | prepare rawTx =>
        obtain ⟨remaining, isReserved⟩ := allowed
        rw [isReserved]
        exact b.prepare isReserved signed
      | submit envelope =>
        obtain ⟨remaining, isPrepared, within⟩ := allowed
        rw [isPrepared]
        refine b.submit isPrepared within ?_ signed
        simpa [reportedTruly] using met
      | waitForConfirmation hash =>
        obtain ⟨envelope, isSent, rfl⟩ := allowed
        rw [isSent]
        refine b.confirm isSent ?_ signed
        simpa [reportedTruly] using met
      | _ => exact absurd trivial plain
  · cases performed

/-- Every call that keeps to the rule and is answered truly. -/
theorem Budgeted.step {call choice w' reply} (v : KeeperView) {actor}
    (b : Budgeted settings.dailyBudgetStroops w stages) (allowed : KeeperRule (stages pid) call)
    (met : reportedTruly v ⟨actor, call, reply⟩ w' = true) (performed : perform call choice w = some (reply, w')) :
    Budgeted settings.dailyBudgetStroops w'
      (Function.update stages pid ((stages pid).observe settings ⟨call, reply⟩)) := by
  have still : (stages pid).observe settings ⟨call, reply⟩ = stages pid →
      Budgeted settings.dailyBudgetStroops w' stages →
      Budgeted settings.dailyBudgetStroops w'
        (Function.update stages pid ((stages pid).observe settings ⟨call, reply⟩)) := by
    intro same b'
    rw [same, Function.update_eq_self]
    exact b'
  have books {running} : Books settings.dailyBudgetStroops { w with running } := { b.books with }
  cases call with
  | beginRun =>
    have outside : stages pid = .outside := allowed
    cases performed
    cases isRunning : w.running with
    | false => exact b.begin books isRunning rfl rfl
    | true =>
      change Budgeted _ _ (Function.update stages pid .outside)
      rw [← outside, Function.update_eq_self]
      exact b.quiet books isRunning.symm rfl le_rfl
  | joinRun =>
    simp only [perform] at performed
    split at performed
    · cases performed
    · cases performed
      apply still _ b
      cases stages pid <;> rfl
  | endRun =>
    cases performed
    have ended : (stages pid).observe settings ⟨.endRun, ()⟩ = .outside := by cases stages pid <;> rfl
    rw [ended]
    exact b.finish books allowed rfl
  | scan =>
    cases performed
    apply still _ b
    cases stages pid <;> rfl
  | currentBudget =>
    cases performed
    exact b.look allowed
  | spend stroops =>
    obtain ⟨envelope, isConfirmed, rfl⟩ := allowed
    cases performed
    rw [isConfirmed]
    exact b.spend isConfirmed
  | signer call => exact b.signer v allowed met performed

end Calls

/-! ### Runs -/

/-- A process that has just started, before anything was submitted. -/
def KeeperWorld.Fresh (w : KeeperWorld) : Prop :=
  w.running = false ∧ w.budget = {} ∧ w.fees = [] ∧ w.signer.pending = [] ∧ w.signer.included = []

/-- Every run of the process. -/
def freshKeeper : Setting KeeperReply KeeperWorld KeeperRequest where
  initial := KeeperWorld.Fresh
  admits _ := True

/-- The runs in which the network includes only what was confirmed. -/
def truthfulKeeper : Setting KeeperReply KeeperWorld KeeperRequest where
  initial := KeeperWorld.Fresh
  admits _ := True
  meets := reportedTruly

abbrev KeeperTransition :=
  Transition KeeperReply KeeperWorld KeeperChoice KeeperWorld.Drift KeeperRequest
    (Except RelayError (Option TtlKeeperReport))

/-- Where every program is. -/
def keeperStages (settings : TtlKeeperSettings) (v : KeeperView) (pid : Nat) : KeeperStage :=
  keeperStage settings (past pid v.history)

theorem keeperStages_after (settings : TtlKeeperSettings) (v : KeeperView) (e : KeeperEvent) (w : KeeperWorld) :
    keeperStages settings (v.after e w) =
      Function.update (keeperStages settings v) e.actor.pid
        ((keeperStages settings v e.actor.pid).observe settings ⟨e.call, e.reply⟩) := by
  funext pid
  by_cases own : pid = e.actor.pid
  · subst own
    rw [Function.update_self, keeperStages, past_own rfl]
    rfl
  · rw [Function.update_of_ne own, keeperStages, past_other (Ne.symm own)]
    rfl

theorem budgeted_initial {budget} (fresh : w.Fresh) : Budgeted budget w fun _ => .outside := by
  obtain ⟨idle, unspent, uncharged, nothing, never⟩ := fresh
  have spent : w.funds.spent = 0 := currentBudget_spent_of_unspent unspent
  have fees : w.funds.fees = 0 := by
    rw [funds, uncharged]
    rfl
  constructor
  · exact {
      counted := by rw [spent]; exact Nat.zero_le _
      earlier := fun day _ => by rw [uncharged]; exact Nat.zero_le _
      charged := by simp [uncharged]
      counter := by simp [unspent]
      included := by simp [never]
      pending := by simp [nothing] }
  · exact fun _ _ one => absurd rfl one
  · exact fun _ inside => absurd rfl inside
  · exact fun _ => ⟨nothing, by rw [fees]; exact Nat.zero_le _⟩
  · exact fun _ => trivial
  · exact nofun

/-- In every run of the keeper in which the network includes only what was confirmed to its pass, the extensions that
    are included in one UTC day cost at most the daily budget. -/
theorem keeper_within_budget {settings : TtlKeeperSettings} {ts : List KeeperTransition}
    {c : Config KeeperReply KeeperWorld KeeperRequest (Except RelayError (Option TtlKeeperReport))}
    (run : Run (keeperService settings) truthfulKeeper ts c) (day : Nat) :
    feesOn c.world.fees day ≤ settings.dailyBudgetStroops := by
  have budgeted : Budgeted settings.dailyBudgetStroops c.view.world (keeperStages settings c.view) :=
    (Run.invariant (I := fun v => Budgeted settings.dailyBudgetStroops v.world (keeperStages settings v))
      keeperDiscipline_followed (fun w fresh => budgeted_initial fresh)
      (fun v d w b drifted => b.drift drifted) (fun v e v' b allowed => by
        obtain ⟨choice, w, performed, rfl⟩ := allowed.performed
        rw [keeperStages_after]
        exact b.step v allowed.allowed allowed.met performed) run).1
  exact budgeted.within_day day

/-- One expiring key. -/
private def expiring : KeeperChoice where
  scan :=
    .ok (100, [{ kind := .contractInstance, keyXdr := "K", liveUntilLedgerSeq := some 110, remainingLedgers := 10 }])

/-- A pass over one expiring key, for `calls` more calls. A node that lags behind reads the account as `account`. -/
private def passFor (pid calls account : Nat) : List KeeperMove :=
  List.flatten
    [[.arrive .run, .act pid {}, .act pid expiring], List.replicate calls (.act pid { signer := { account } })]

/-- The account has number 1. -/
private def atOne : KeeperWorld where
  signer := { onChain := 1 }

/-- A pass on each of two days, with a budget for one extension a day. -/
theorem keeper_within_budget_two_days :
    ∃ (ts : List KeeperTransition) (c : _),
      Run (keeperService { dailyBudgetStroops := 150 }) truthfulKeeper ts c ∧
      c.world.fees = [⟨1, 100⟩, ⟨0, 100⟩] ∧ ∀ day, feesOn c.world.fees day ≤ 150 := by
  obtain ⟨ts, c, run, charged⟩ :=
    Run.exists_of_trace (keeperService { dailyBudgetStroops := 150 }) truthfulKeeper atOne
    (List.flatten [passFor 0 18 0, [.drift (.signer (.include ⟨2, 2, 100⟩))], List.replicate 5 (.act 0 {}),
      [.drift (.tick 86400000)], passFor 1 16 0, [.drift (.signer (.include ⟨5, 3, 100⟩))]])
    (fun _ c => c.world.fees == [⟨1, 100⟩, ⟨0, 100⟩]) ⟨rfl, rfl, rfl, rfl, rfl⟩ (fun _ _ => trivial)
      (by decide +kernel)
  exact ⟨ts, c, run, eq_of_beq charged, keeper_within_budget run⟩

/-- The first extension is included, but its confirmation times out, so nothing is counted. The second pass has the
    whole budget again, and the day costs 200 stroops of 150. -/
theorem unconfirmed_fee_exceeds_budget :
    ∃ (ts : List KeeperTransition) (c : _),
      Run (keeperService { dailyBudgetStroops := 150 }) freshKeeper ts c ∧ feesOn c.world.fees 0 = 200 := by
  obtain ⟨ts, c, run, charged⟩ :=
    Run.exists_of_trace (keeperService { dailyBudgetStroops := 150 }) freshKeeper atOne
    (List.flatten [passFor 0 18 0,
      [.drift (.signer (.include ⟨2, 2, 100⟩)), .act 0 { signer := { confirmation := .timeout } }],
      List.replicate 4 (.act 0 {}), passFor 1 18 1, [.drift (.signer (.include ⟨5, 3, 100⟩))]])
    (fun _ c => feesOn c.world.fees 0 == 200) ⟨rfl, rfl, rfl, rfl, rfl⟩ (fun _ _ => trivial) (by decide +kernel)
  exact ⟨ts, c, run, eq_of_beq charged⟩

end VortexBackend

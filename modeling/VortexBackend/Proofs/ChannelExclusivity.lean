/-
Module: VortexBackend.Proofs.ChannelExclusivity
Purpose: A channel has one live lease, if nobody releases late: the pool frees a channel by its key.
Main exports: channels_exclusive
-/
import VortexBackend.Soroban.ChannelPool

namespace VortexBackend

open Component

/-- A lease that is neither released nor past its expiry. -/
def Lease.Live (l : Lease) (now : Nat) : Prop := l.released = false ∧ now ≤ l.expiresAt

instance (l : Lease) (now : Nat) : Decidable (l.Live now) := inferInstanceAs (Decidable (_ ∧ _))

namespace ChannelPool

/-- No two live leases are on one channel account, and so no two carry the same account and sequence number. -/
structure Exclusive (p : ChannelPool) : Prop where
  one :
    ∀ (i j : Nat) (a b : Lease), p.leases[i]? = some a → p.leases[j]? = some b → a.Live p.now → b.Live p.now →
    a.publicKey = b.publicKey → i = j
  numbered :
    ∀ (i j : Nat) (a b : Lease), p.leases[i]? = some a → p.leases[j]? = some b → a.Live p.now → b.Live p.now →
    (a.publicKey, a.sequence) = (b.publicKey, b.sequence) → i = j

/-- A handle is released only while its lease stands: not for a second time, and not after its expiry. -/
def ReleasesInTime (_ : List ChannelPool) (p : ChannelPool) : PoolOp → Prop
  | .release i _ => ∀ l : Lease, p.leases[i]? = some l → l.Live p.now
  | _ => True

/-- What the pool has noted about the live leases. -/
structure Held (publicKeys : List String) (p : ChannelPool) : Prop where
  keys : p.channels.map (·.publicKey) = publicKeys
  named : ∀ (i : Nat) (l : Lease), p.leases[i]? = some l → publicKeys[l.channel]? = some l.publicKey
  noted : ∀ (i : Nat) (l : Lease), p.leases[i]? = some l → l.Live p.now →
    ∃ ch, p.channels[l.channel]? = some ch ∧ ch.leased = true ∧ ch.leaseExpiresAt = l.expiresAt
  alone :
    ∀ (i j : Nat) (a b : Lease), p.leases[i]? = some a → p.leases[j]? = some b → a.Live p.now → b.Live p.now →
    a.channel = b.channel → i = j

theorem Held.exclusive {publicKeys p} (held : Held publicKeys p) (distinct : publicKeys.Nodup) : p.Exclusive := by
  have one :
    ∀ (i j : Nat) (a b : Lease), p.leases[i]? = some a → p.leases[j]? = some b → a.Live p.now → b.Live p.now →
      a.publicKey = b.publicKey → i = j := by
    intro i j a b first second liveA liveB sameKey
    have keyA := held.named i a first
    have keyB := held.named j b second
    have inRange : a.channel < publicKeys.length := (List.getElem?_eq_some_iff.mp keyA).1
    have sameChannel : a.channel = b.channel := by
      apply (List.getElem?_inj inRange distinct).mp
      rw [keyA, keyB, sameKey]
    exact held.alone i j a b first second liveA liveB sameChannel
  constructor
  · exact one
  · intro i j a b first second liveA liveB same
    exact one i j a b first second liveA liveB (Prod.mk.inj same).1

/-! ### Steps that grant nothing -/

/-- A step without a new lease: leases keep their channel and expiry and do not come back to life, and what is noted
    about the live ones stays. -/
structure Keeps (p p' : ChannelPool) : Prop where
  keys : p'.channels.map (·.publicKey) = p.channels.map (·.publicKey)
  leases :
    ∀ (i : Nat) (l' : Lease), p'.leases[i]? = some l' → ∃ l, p.leases[i]? = some l ∧ l'.channel = l.channel ∧
    l'.publicKey = l.publicKey ∧ l'.expiresAt = l.expiresAt ∧ (l'.Live p'.now → l.Live p.now)
  noted : ∀ (i : Nat) (l' : Lease), p'.leases[i]? = some l' → l'.Live p'.now →
    ∀ ch : ChannelAccount, p.channels[l'.channel]? = some ch →
    ch.leased = true → ch.leaseExpiresAt = l'.expiresAt →
    ∃ ch', p'.channels[l'.channel]? = some ch' ∧ ch'.leased = true ∧ ch'.leaseExpiresAt = l'.expiresAt

section Steps

variable {publicKeys : List String} {p p' : ChannelPool}

theorem Held.keeps (held : Held publicKeys p) (keeps : Keeps p p') : Held publicKeys p' where
  keys := keeps.keys.trans held.keys
  named := by
    intro i l' present
    obtain ⟨l, earlier, channel, key, _⟩ := keeps.leases i l' present
    rw [channel, key]
    exact held.named i l earlier
  noted := by
    intro i l' present live
    obtain ⟨l, earlier, channel, _, expiry, wasLive⟩ := keeps.leases i l' present
    obtain ⟨ch, stored, leased, expires⟩ := held.noted i l earlier (wasLive live)
    exact keeps.noted i l' present live ch (channel ▸ stored) leased (expires.trans expiry.symm)
  alone := by
    intro i j a b first second liveA liveB same
    obtain ⟨a₀, firstWas, channelA, _, _, wasLiveA⟩ := keeps.leases i a first
    obtain ⟨b₀, secondWas, channelB, _, _, wasLiveB⟩ := keeps.leases j b second
    apply held.alone i j a₀ b₀ firstWas secondWas (wasLiveA liveA) (wasLiveB liveB)
    rw [← channelA, ← channelB, same]

theorem keeps_of_channels (sameLeases : p'.leases = p.leases) (sameTime : p'.now = p.now)
    (keys : p'.channels.map (·.publicKey) = p.channels.map (·.publicKey))
    (noted : ∀ (i : Nat) (ch : ChannelAccount), p.channels[i]? = some ch → ch.leased = true →
      p.now ≤ ch.leaseExpiresAt →
      ∃ ch', p'.channels[i]? = some ch' ∧ ch'.leased = true ∧ ch'.leaseExpiresAt = ch.leaseExpiresAt) :
        Keeps p p' where
  keys := keys
  leases := by
    intro i l present
    rw [sameLeases] at present
    rw [sameTime]
    exact ⟨l, present, rfl, rfl, rfl, id⟩
  noted := by
    intro i l present live ch stored leased expires
    rw [sameTime] at live
    obtain ⟨ch', stored', leased', expires'⟩ := noted l.channel ch stored leased (expires ▸ live.2)
    exact ⟨ch', stored', leased', expires'.trans expires⟩

theorem keys_modify {channels : List ChannelAccount} (f : ChannelAccount → ChannelAccount)
    (sameKey : ∀ ch, (f ch).publicKey = ch.publicKey) (i : Nat) :
    (channels.modify i f).map (·.publicKey) = channels.map (·.publicKey) := by
  apply List.ext_getElem?
  intro j
  rw [List.getElem?_map, List.getElem?_map, List.getElem?_modify]
  cases channels[j]? with
  | none => rfl
  | some ch =>
    by_cases isTarget : i = j
    · simp [isTarget, sameKey]
    · simp [isTarget]

theorem keeps_tick (ms : Nat) : Keeps p { p with now := p.now + ms } where
  keys := rfl
  leases := by
    intro i l present
    refine ⟨l, present, rfl, rfl, rfl, ?_⟩
    intro live
    exact ⟨live.1, Nat.le_trans (Nat.le_add_right _ _) live.2⟩
  noted := fun _ _ _ _ ch stored leased expires => ⟨ch, stored, leased, expires⟩

theorem keeps_evict : Keeps p p.evictExpiredLeases := by
  apply keeps_of_channels
  · rfl
  · rfl
  · change (p.channels.map (evict p.now)).map _ = _
    rw [List.map_map]
    apply List.map_congr_left
    intro ch _
    rw [Function.comp_apply, evict]
    split <;> rfl
  · intro i ch stored leased inTime
    -- a lease that has not expired is not evicted
    have stays : evict p.now ch = ch := by
      rw [evict, if_neg]
      simp [leased, inTime]
    refine ⟨ch, ?_, leased, rfl⟩
    change (p.channels.map (evict p.now))[i]? = some ch
    rw [List.getElem?_map, stored, Option.map_some, stays]

theorem keeps_sequence (target : Nat) (sequence : Option Nat) :
    Keeps p { p with channels := p.channels.modify target ({ · with cachedSequence := sequence }) } := by
  apply keeps_of_channels
  · rfl
  · rfl
  · exact keys_modify ({ · with cachedSequence := sequence }) (fun _ => rfl) target
  · intro i ch stored leased _
    refine ⟨if target = i then { ch with cachedSequence := sequence } else ch, ?_, ?_, ?_⟩
    · change (p.channels.modify target _)[i]? = _
      rw [List.getElem?_modify, stored]
      rfl
    · split <;> exact leased
    · split <;> rfl

/-- A change of one lease that leaves its channel and its expiry and does not take back its release. -/
theorem keeps_lease (f : Lease → Lease) (i : Nat)
    (same : ∀ l, (f l).channel = l.channel ∧ (f l).publicKey = l.publicKey ∧ (f l).expiresAt = l.expiresAt ∧
      ((f l).released = false → l.released = false)) :
    Keeps p { p with leases := p.leases.modify i f } where
  keys := rfl
  leases := by
    intro j l' present
    rw [List.getElem?_modify] at present
    obtain ⟨l, earlier, isLater⟩ := Option.map_eq_some_iff.mp present
    refine ⟨l, earlier, ?_⟩
    obtain ⟨channel, key, expiry, released⟩ := same l
    split at isLater
    · subst isLater
      exact ⟨channel, key, expiry, fun live => ⟨released live.1, expiry ▸ live.2⟩⟩
    · subst isLater
      exact ⟨rfl, rfl, rfl, id⟩
  noted := fun _ _ _ _ ch stored leased expires => ⟨ch, stored, leased, expires⟩

section

variable (held : Held publicKeys p)
include held

theorem Held.account (i : Nat) (answer : Option Nat) : Held publicKeys (p.account i answer) := by
  rw [ChannelPool.account]
  split
  · rename_i l present
    split
    · cases answer with
      | some sequence =>
        have numbered := held.keeps (keeps_sequence l.channel (some (sequence + 1)))
        exact numbered.keeps
          (keeps_lease ({ · with stage := .granted (sequence + 1) }) i fun _ => ⟨rfl, rfl, rfl, id⟩)
      | none => exact held.keeps (keeps_lease ({ · with stage := .rejected }) i fun _ => ⟨rfl, rfl, rfl, id⟩)
    · exact held
  · exact held

theorem Held.resync (publicKey : String) (sequence : Nat) :
    Held publicKeys (p.onKey publicKey ({ · with cachedSequence := some sequence })) := by
  rw [onKey]
  split
  · exact held.keeps (keeps_sequence _ _)
  · exact held

/-! ### A release -/

theorem Held.queue (waiters woken : List Nat) : Held publicKeys { p with waiters, woken } := { held with }

theorem Held.target (distinct : publicKeys.Nodup) {i target : Nat} {l : Lease} (present : p.leases[i]? = some l)
    (found : p.channels.findIdx? (·.publicKey == l.publicKey) = some target) : target = l.channel := by
  obtain ⟨inRange, isKey, _⟩ := List.findIdx?_eq_some_iff_getElem.mp found
  have key : publicKeys[target]? = some l.publicKey := by
    rw [← held.keys, List.getElem?_map, List.getElem?_eq_getElem inRange, Option.map_some, beq_iff_eq.mp isKey]
  apply (List.getElem?_inj (List.getElem?_eq_some_iff.mp key).1 distinct).mp
  rw [key, held.named i l present]

variable {i : Nat}

/-- Freeing the channel of a live lease and ending that lease: no other live lease is on the channel. -/
theorem Held.keeps_free {l : Lease} (present : p.leases[i]? = some l) (live : l.Live p.now) (success : Bool) :
    Keeps p { p with
      channels := p.channels.modify l.channel (free success)
      leases := p.leases.modify i ({ · with released := true }) } where
  keys := keys_modify (free success) (fun _ => rfl) l.channel
  leases := (keeps_lease (p := p) ({ · with released := true }) i
    fun _ => ⟨rfl, rfl, rfl, nofun⟩).leases
  noted := by
    intro j l' present' live' ch stored leased expires
    rw [List.getElem?_modify] at present'
    obtain ⟨other, earlier, isLater⟩ := Option.map_eq_some_iff.mp present'
    by_cases isReleased : i = j
    · rw [if_pos isReleased] at isLater
      subst isLater
      cases live'.1
    · rw [if_neg isReleased] at isLater
      subst isLater
      have elsewhere : l.channel ≠ other.channel :=
        fun same => isReleased (held.alone i j l other present earlier live live' same)
      refine ⟨ch, ?_, leased, expires⟩
      rw [List.getElem?_modify, stored]
      simp [elsewhere]

theorem Held.release (distinct : publicKeys.Nodup) (inTime : ∀ l : Lease, p.leases[i]? = some l → l.Live p.now)
    (success : Bool) : Held publicKeys (p.release i success) := by
  rw [ChannelPool.release]
  split
  · rename_i l present
    split
    · rw [onKey]
      split
      · rename_i target found
        rw [held.target distinct present found]
        exact (held.keeps (held.keeps_free present (inTime l present) success)).queue _ _
      · exact (held.keeps (keeps_lease ({ · with released := true }) i fun _ => ⟨rfl, rfl, rfl, nofun⟩)).queue _ _
    · exact held
  · exact held

/-! ### A new lease -/

theorem Held.grant {ch : ChannelAccount} (stored : p.channels[i]? = some ch) (isFree : ch.leased = false) :
    Held publicKeys { p with
      channels := p.channels.modify i (take p.now)
      leases := p.leases ++ [leaseOn p.now i ch] } := by
  have vacant : ∀ (j : Nat) (l : Lease), p.leases[j]? = some l → l.Live p.now → l.channel ≠ i := by
    intro j l present live isHere
    obtain ⟨ch', stored', leased, _⟩ := held.noted j l present live
    rw [isHere, stored] at stored'
    cases stored'
    rw [isFree] at leased
    cases leased
  have cases_of {j : Nat} {l : Lease} (present : (p.leases ++ [leaseOn p.now i ch])[j]? = some l) :
      p.leases[j]? = some l ∨ j = p.leases.length ∧ l = leaseOn p.now i ch := by
    rw [List.getElem?_append] at present
    split at present
    · exact .inl present
    · obtain ⟨isLast, isNew⟩ := List.getElem?_eq_some_iff.mp present
      rw [List.length_singleton] at isLast
      refine .inr ⟨by omega, ?_⟩
      rw [← isNew]
      simp
  constructor
  · exact (keys_modify (take p.now) (fun _ => rfl) i).trans held.keys
  · intro j l present
    rcases cases_of present with earlier | ⟨_, rfl⟩
    · exact held.named j l earlier
    · change publicKeys[i]? = some ch.publicKey
      rw [← held.keys, List.getElem?_map, stored, Option.map_some]
  · intro j l present live
    rw [List.getElem?_modify]
    rcases cases_of present with earlier | ⟨_, rfl⟩
    · obtain ⟨ch', stored', leased, expires⟩ := held.noted j l earlier live
      refine ⟨ch', ?_, leased, expires⟩
      rw [stored']
      simp [Ne.symm (vacant j l earlier live)]
    · refine ⟨take p.now ch, ?_, rfl, rfl⟩
      change _ <$> p.channels[i]? = _
      rw [stored]
      simp [leaseOn]
  · intro j k a b first second liveA liveB same
    rcases cases_of first with firstWas | ⟨isLastA, rfl⟩
    · rcases cases_of second with secondWas | ⟨_, rfl⟩
      · exact held.alone j k a b firstWas secondWas liveA liveB same
      · exact absurd same (vacant j a firstWas liveA)
    · rcases cases_of second with secondWas | ⟨isLastB, _⟩
      · exact absurd same.symm (vacant k b secondWas liveB)
      · rw [isLastA, isLastB]

theorem Held.takeFree (caller : Nat) : Held publicKeys (p.takeFree caller) := by
  rw [ChannelPool.takeFree]
  split
  · exact held.queue _ _
  · rename_i i found
    obtain ⟨inRange, isFree, _⟩ := List.findIdx?_eq_some_iff_getElem.mp found
    have stored := List.getElem?_eq_getElem inRange
    rw [stored]
    apply held.grant stored
    simpa using isFree

theorem Held.lease (caller : Nat) : Held publicKeys (p.lease caller) :=
  (held.keeps keeps_evict).takeFree caller

/-! ### Runs -/

theorem Held.step (distinct : publicKeys.Nodup) {past op} (inTime : ReleasesInTime past p op) :
    Held publicKeys (step p op).2 := by
  cases op with
  | tick ms => exact held.keeps (keeps_tick ms)
  | lease caller => exact held.lease caller
  | resume caller =>
    rw [ChannelPool.step]
    split
    · exact (held.queue p.waiters (p.woken.erase caller)).lease caller
    · exact held
  | account i answer => exact held.account i answer
  | release i success => exact held.release distinct inTime success
  | prefetch channel sequence => exact held.keeps (keeps_sequence channel (some sequence))
  | resync publicKey sequence => exact held.resync publicKey sequence

end

theorem held_initialise (publicKeys : List String) : Held publicKeys (initialise publicKeys) where
  keys := by
    change (publicKeys.map _).map _ = publicKeys
    rw [List.map_map]
    exact List.map_id publicKeys
  named := nofun
  noted := nofun
  alone := nofun

end Steps

/-- In every run of a pool of distinct accounts whose handles are released only while their lease stands, no channel is
    ever held by two live leases. -/
theorem channels_exclusive {publicKeys : List String} (distinct : publicKeys.Nodup) {ops : List PoolOp}
    (inTime : Component.Meets step ReleasesInTime [] (initialise publicKeys) ops) :
    ∀ p ∈ states step (initialise publicKeys) ops, p.Exclusive := by
  intro p reached
  have held : Held publicKeys p :=
    states_invariant (Held publicKeys) (fun _ _ _ held inTime => held.step distinct inTime) ops []
      (initialise publicKeys) (held_initialise publicKeys) inTime p reached
  exact held.exclusive distinct

/-- A caller waits for the only channel and gets it after the release; a later one gets it after an eviction. -/
def oneChannel : List PoolOp :=
  [.prefetch 0 100, .lease 0, .lease 1, .release 0 true, .resume 1, .tick 30001, .lease 2, .account 2 (some 7)]

theorem channels_exclusive_one_channel :
    Component.Meets step ReleasesInTime [] (initialise ["GA"]) oneChannel ∧
      ∀ p ∈ states step (initialise ["GA"]) oneChannel, p.Exclusive := by
  have inTime : Component.Meets step ReleasesInTime [] (initialise ["GA"]) oneChannel := by
    refine ⟨trivial, trivial, trivial, ?_, trivial, trivial, trivial, trivial, trivial⟩
    intro l present
    have isFirst : l = ⟨0, "GA", 30000, .granted 101, false⟩ := by
      have stored : some (⟨0, "GA", 30000, .granted 101, false⟩ : Lease) = some l := present
      exact (Option.some.inj stored).symm
    rw [isFirst]
    decide
  exact ⟨inTime, channels_exclusive (by decide) inTime⟩

/-- The first holder's lease is evicted for a second one, and then releases late: a third caller gets the channel while
    the second holds it. -/
theorem late_release_shares_channel : ∃ ops, ∃ p ∈ states step (initialise ["GA"]) ops, ¬ p.Exclusive := by
  refine ⟨[.prefetch 0 100, .lease 0, .tick 30001, .lease 1, .account 1 (some 100), .release 0 true, .lease 2],
    _, List.mem_of_getLast? rfl, ?_⟩
  intro exclusive
  have same := exclusive.one 1 2 ⟨0, "GA", 60001, .granted 101, false⟩ ⟨0, "GA", 60001, .granted 102, false⟩
    rfl rfl (by decide) (by decide) rfl
  cases same

end ChannelPool

end VortexBackend

import Smp3Multipath.Lib.KeyedList
import Smp3Multipath.Server.HelloReplay

/-!
# Admission of sessions

`admitSession` runs with `access` held: it prunes the tombstones, refuses an id with a tombstone
that has not expired, joins the session of the id, or creates one below `MaxSessions`.  The watcher
of a session removes it from the table once its Core is done, and leaves a tombstone.

A session is one object, told apart by the number of its creation; `live` are those whose Core is
not done.  `removals` is kept for the statement only.
-/

namespace Smp3Multipath.Server.SessionAdmission

open Lib.Run Lib.KeyedList Core.Wire Core.Registry Function List
open HelloReplay (helloReplayTTL)

section Model

structure Session where
  serial : Nat
  id : SessionID
  mode : UInt8
  destination : List UInt8
deriving DecidableEq

structure State where
  closed : Bool := false
  clock : Int := 0
  created : Nat := 0
  sessions : List Session := []
  live : List Session := []
  tombstones : SessionID → Option Int := fun _ => none
  lastTombstonePrune : Option Int := none
  /-- The removed ids, each with the time of its removal. -/
  removals : List (SessionID × Int) := []

inductive Admission where
  | created (session : Session)
  | joined (session : Session)
  | serverClosed
  | sessionRetired
  | sessionMode
  | sessionDestination
  | sessionLimit
deriving DecidableEq

/-- `pruneTombstonesLocked`. -/
def pruneTombstones (s : State) (now : Int) : State :=
  if s.lastTombstonePrune.any fun last => now - last < 30 * 1000000000 then s
  else
    { s with
      tombstones := fun id => (s.tombstones id).filter fun expires => now < expires
      lastTombstonePrune := some now }

/-- `admitSession`, with its two readings of the clock. -/
def admitSession (maxSessions : Int) (s : State) (hello : Hello) (destination : List UInt8)
    (now now' : Int) : Admission × State :=
  if s.closed then (.serverClosed, s)
  else
    let s := { pruneTombstones s now with clock := now' }
    if (s.tombstones hello.sessionID).any fun expires => now' < expires then (.sessionRetired, s)
    else
      match lookup Session.id s.sessions hello.sessionID with
      | some existing =>
        if existing.mode ≠ hello.mode then (.sessionMode, s)
        else if existing.destination ≠ destination then (.sessionDestination, s)
        else (.joined existing, s)
      | none =>
        if maxSessions ≤ s.sessions.length then (.sessionLimit, s)
        else
          let session : Session := ⟨s.created, hello.sessionID, hello.mode, destination⟩
          (.created session,
            { s with
              created := s.created + 1
              sessions := session :: s.sessions
              live := session :: s.live })

inductive Act where
  | admitHello (hello : Hello) (destination : List UInt8) (now now' : Int)
  /-- The Core of a session is done. -/
  | finish (session : Session)
  /-- `removeSession`, by the watcher. -/
  | remove (session : Session) (now : Int)
  | close
deriving DecidableEq

def step (maxSessions : Int) (s : State) : Act → Option State
  | .admitHello hello destination now now' =>
    if s.clock ≤ now ∧ now ≤ now' then
      some (admitSession maxSessions s hello destination now now').2
    else none
  | .finish session => some { s with live := s.live.erase session }
  | .remove session now =>
    if s.clock ≤ now ∧ session ∉ s.live then
      if session ∈ s.sessions then
        some
          { s with
            clock := now
            sessions := s.sessions.erase session
            tombstones := update s.tombstones session.id (some (now + helloReplayTTL))
            removals := (session.id, now) :: s.removals }
      else some { s with clock := now }
    else none
  | .close => some { s with closed := true, sessions := [], tombstones := fun _ => none }

/-- One live session for each id, and no more than `maxSessions`. -/
structure LiveOk (maxSessions : Int) (s : State) : Prop where
  ids : (s.live.map Session.id).Nodup
  bound : s.live.length ≤ maxSessions.toNat

/-- What an admission answers: a join of a session with the same id, mode and destination, or a
new session, whose id was removed no later than a tombstone lifetime ago. -/
def AnswerOk (s : State) (hello : Hello) (destination : List UInt8) (now' : Int) :
    Admission → Prop
  | .joined x =>
    x ∈ s.sessions ∧ x.id = hello.sessionID ∧ x.mode = hello.mode ∧ x.destination = destination
  | .created x =>
    x.id = hello.sessionID ∧ ∀ removedAt, (hello.sessionID, removedAt) ∈ s.removals →
      removedAt + helloReplayTTL ≤ now'
  | _ => True

end Model

section Invariant

variable {maxSessions : Int} {s s' : State} {a : Act} {now now' : Int}
  {hello : Hello} {destination : List UInt8}

/-- Every removal has its tombstone until the lifetime is over. -/
def Buried (s : State) : Prop :=
  ∀ id removedAt, (id, removedAt) ∈ s.removals → removedAt ≤ s.clock ∧
    ((∃ expires, s.tombstones id = some expires ∧ removedAt + helloReplayTTL ≤ expires) ∨
      removedAt + helloReplayTTL ≤ s.clock)

structure Inv (maxSessions : Int) (s : State) : Prop where
  live : LiveOk maxSessions s
  /-- The table has the live sessions. -/
  table : s.closed = false → s.live.Sublist s.sessions
  ids : (s.sessions.map Session.id).Nodup
  bound : s.sessions.length ≤ maxSessions.toNat
  buried : s.closed = false → Buried s

theorem Buried.prune (h : Buried s) (hnow : s.clock ≤ now) (hnow' : now ≤ now') :
    Buried { pruneTombstones s now with clock := now' } := by
  intro id removedAt hm
  have hremovals : (pruneTombstones s now).removals = s.removals := by
    unfold pruneTombstones
    split <;> rfl
  obtain ⟨hbefore, hcase⟩ := h id removedAt (hremovals ▸ hm)
  refine ⟨Int.le_trans hbefore (Int.le_trans hnow hnow'), ?_⟩
  rcases hcase with ⟨expires, htomb, hexpires⟩ | hpast
  · by_cases hlive : now < expires
    · left
      refine ⟨expires, ?_, hexpires⟩
      unfold pruneTombstones
      split <;> simp [htomb, hlive]
    · right
      dsimp only
      omega
  · right
    dsimp only
    omega

theorem pruneTombstones_frame :
    ∃ tombstones last, pruneTombstones s now =
      { s with tombstones := tombstones, lastTombstonePrune := last } := by
  unfold pruneTombstones
  split <;> exact ⟨_, _, rfl⟩

theorem admitSession_spec (h : Inv maxSessions s) (hnow : s.clock ≤ now) (hnow' : now ≤ now') :
    AnswerOk s hello destination now' (admitSession maxSessions s hello destination now now').1 ∧
      Inv maxSessions (admitSession maxSessions s hello destination now now').2 := by
  unfold admitSession
  split
  · exact ⟨trivial, h⟩
  · next hopen =>
    have hburied := (h.buried (by simpa using hopen)).prune hnow hnow'
    obtain ⟨tombstones, last, hprune⟩ := @pruneTombstones_frame s now
    rw [hprune] at hburied ⊢
    have hkeep : Inv maxSessions
        { s with tombstones := tombstones, lastTombstonePrune := last, clock := now' } :=
      ⟨⟨h.live.ids, h.live.bound⟩, h.table, h.ids, h.bound, fun _ => hburied⟩
    dsimp only
    split
    · exact ⟨trivial, hkeep⟩
    · next hretired =>
      split
      · next existing hfound =>
        split
        · exact ⟨trivial, hkeep⟩
        · next hmode =>
          split
          · exact ⟨trivial, hkeep⟩
          · next hdest =>
            exact ⟨⟨mem_of_lookup hfound, key_of_lookup hfound, not_not.1 hmode, not_not.1 hdest⟩,
              hkeep⟩
      · next hfree =>
        split
        · exact ⟨trivial, hkeep⟩
        · next hbelow =>
          have hfree : hello.sessionID ∉ s.sessions.map Session.id := lookup_eq_none_iff.1 hfree
          have htable : s.live.Sublist s.sessions := h.table (by simpa using hopen)
          refine ⟨⟨rfl, fun removedAt hm => ?_⟩, ⟨⟨?_, ?_⟩, fun _ => htable.cons_cons _, ?_, ?_,
            fun _ => hburied⟩⟩
          · -- a tombstone that is left has expired
            rcases (hburied _ removedAt hm).2 with ⟨expires, htomb, hexpires⟩ | hpast
            · have htomb : tombstones hello.sessionID = some expires := htomb
              have hover : ¬ now' < expires := by simpa [htomb] using hretired
              omega
            · exact hpast
          · exact nodup_cons.2 ⟨fun hm => hfree ((htable.map _).subset hm), h.live.ids⟩
          · have := htable.length_le
            simp only [length_cons]
            omega
          · exact nodup_cons.2 ⟨hfree, h.ids⟩
          · simp only [length_cons]
            omega

theorem inv_step (h : Inv maxSessions s) (hs : step maxSessions s a = some s') :
    Inv maxSessions s' := by
  cases a with
  | admitHello hello destination now now' =>
    obtain ⟨⟨hnow, hnow'⟩, ⟨⟩⟩ := Option.ite_none_right_eq_some.1 hs
    exact (admitSession_spec h hnow hnow').2
  | finish session =>
    cases hs
    have hsub : (s.live.erase session).Sublist s.live := erase_sublist
    exact ⟨⟨h.live.ids.sublist (hsub.map _), Nat.le_trans hsub.length_le h.live.bound⟩,
      fun hopen => hsub.trans (h.table hopen), h.ids, h.bound, h.buried⟩
  | remove session now =>
    obtain ⟨⟨hnow, hdone⟩, hs⟩ := Option.ite_none_right_eq_some.1 hs
    have hclock : ∀ {removedAt : Int}, removedAt + helloReplayTTL ≤ s.clock →
        removedAt + helloReplayTTL ≤ now := fun hpast => Int.le_trans hpast hnow
    split at hs <;> cases hs
    · have hsub : (s.sessions.erase session).Sublist s.sessions := erase_sublist
      refine ⟨⟨h.live.ids, h.live.bound⟩, fun hopen => ?_, h.ids.sublist (hsub.map _),
        Nat.le_trans hsub.length_le h.bound, fun hopen id removedAt hm => ?_⟩
      · have herase := (h.table hopen).erase session
        rwa [erase_of_not_mem hdone] at herase
      · rcases mem_cons.1 hm with heq | hm
        · cases heq
          exact ⟨Int.le_refl _, .inl ⟨_, update_self .., Int.le_refl _⟩⟩
        · obtain ⟨hbefore, hcase⟩ := h.buried hopen id removedAt hm
          refine ⟨Int.le_trans hbefore hnow, ?_⟩
          by_cases hid : id = session.id
          · -- the tombstone is written anew, for longer
            subst hid
            exact .inl ⟨_, update_self .., by omega⟩
          · simpa [hid] using hcase.imp_right hclock
    · exact ⟨⟨h.live.ids, h.live.bound⟩, h.table, h.ids, h.bound, fun hopen id removedAt hm =>
        (h.buried hopen id removedAt hm).imp (Int.le_trans · hnow) (Or.imp_right hclock)⟩
  | close =>
    cases hs
    exact ⟨⟨h.live.ids, h.live.bound⟩, nofun, nodup_nil, Nat.zero_le _, nofun⟩

end Invariant

/-- After every run the live sessions have distinct ids and are at most `maxSessions`, and the next
admission joins only a session of the same mode and destination and reuses no id before its
tombstone has expired. -/
theorem session_admission (maxSessions : Int) {s : State} (hs : Reachable (step maxSessions) {} s) :
    LiveOk maxSessions s ∧ ∀ hello destination now now', s.clock ≤ now → now ≤ now' →
      AnswerOk s hello destination now'
        (admitSession maxSessions s hello destination now now').1 := by
  have hinit : Inv maxSessions {} :=
    ⟨⟨nodup_nil, Nat.zero_le _⟩, fun _ => nil_sublist _, nodup_nil,
      Nat.zero_le _, fun _ => nofun⟩
  have hinv := hs.invariant hinit fun _ _ _ h hstep => inv_step h hstep
  exact ⟨hinv.live, fun hello destination now now' hnow hnow' =>
    (admitSession_spec hinv hnow hnow').1⟩

def streamHello : Hello :=
  { version := 6, sessionID := 7, legID := 0, mode := 0, timestamp := 0, nonce := 0
    capabilities := 0, destination := [] }

/-- A session is created, ends and is removed. -/
def removedRun : List Act :=
  [.admitHello streamHello [] 1 1, .finish ⟨0, 7, 0, []⟩, .remove ⟨0, 7, 0, []⟩ 2]

theorem session_admission_removed :
    ∃ s, runActs (step 1) {} removedRun = some s ∧ LiveOk 1 s ∧
      AnswerOk s streamHello [] 3 (admitSession 1 s streamHello [] 3 3).1 := by
  refine ⟨_, rfl, ?_, ?_⟩
  · exact (session_admission 1 ⟨removedRun, rfl⟩).1
  · exact (session_admission 1 ⟨removedRun, rfl⟩).2 _ _ _ _ (by decide) (by decide)

end Smp3Multipath.Server.SessionAdmission

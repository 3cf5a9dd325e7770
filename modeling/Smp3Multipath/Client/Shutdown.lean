import Mathlib.Logic.Function.Basic
import Mathlib.Tactic.Common
import Smp3Multipath.Lib.Run

/-!
# Accepted connections and `Client.Close`

The accept loop accepts a connection, tracks it and starts its handler; the handler closes the
connection on every path and then untracks it.  `Close` takes a snapshot of the tracked
connections, closes the listener and the connections of the snapshot, and waits for the loop and
the handlers.

A connection that is accepted and not yet tracked when the snapshot is taken is not in it.  Its
handler is then started all the same and reads the handshake of the remote side, with nobody left
to close the connection.
-/

namespace Smp3Multipath.Client.Shutdown

open Lib.Run Function List

section Model

/-- Where the accept loop is. -/
inductive Loop where
  | accepting
  | accepted (conn : Nat)
  | tracked (conn : Nat)
  | ended
deriving DecidableEq

/-- Where a handler is. -/
inductive Phase where
  | absent
  | handshake
  /-- `newStreamSession`, after a CONNECT. -/
  | connecting
  /-- `session.run` -/
  | running
  /-- A UDP association. -/
  | associating
  /-- What is left to do is to close the connection and to untrack it. -/
  | closing
  | untracking
  | ended
deriving DecidableEq

/-- Where the first `Close` is; a later one returns at once. -/
inductive Closer where
  | idle
  /-- The snapshot has been taken. -/
  | snapshot (conns : List Nat)
  /-- The listener is closed; these are left to close. -/
  | closing (conns : List Nat)
  | waiting
  | returned
deriving DecidableEq

structure State where
  closed : Bool
  listenerClosed : Bool
  loop : Loop
  /-- The connections are numbered in the order they are accepted. -/
  accepted : Nat
  conns : List Nat
  shut : List Nat
  phase : Nat → Phase
  closer : Closer

def init : State where
  closed := false
  listenerClosed := false
  loop := .accepting
  accepted := 0
  conns := []
  shut := []
  phase _ := .absent
  closer := .idle

inductive Move where
  /-- The handshake or the session ends, with an error or without. -/
  | ends
  | connect
  | associate
  /-- Another command. -/
  | refuse
  | startFails
  | starts
  | closeConn
  | untrackConn
deriving DecidableEq

/-- The phase after a move of the handler. -/
def Phase.next : Phase → Move → Option Phase
  | .handshake, .ends | .handshake, .refuse => some .closing
  | .handshake, .connect => some .connecting
  | .handshake, .associate => some .associating
  | .connecting, .startFails => some .closing
  | .connecting, .starts => some .running
  | .running, .ends | .associating, .ends => some .closing
  | .closing, .closeConn => some .untracking
  | .untracking, .untrackConn => some .ended
  | _, _ => none

inductive Act where
  | accept
  | acceptFails
  | trackConn
  | spawn
  | handler (conn : Nat) (m : Move)
  | closeBegin
  | closeListener
  | closeNext
  | closeWait
  | closeReturn
deriving DecidableEq

def step (s : State) : Act → Option State
  | .accept =>
    if s.loop = .accepting ∧ s.listenerClosed = false then
      some { s with loop := .accepted s.accepted, accepted := s.accepted + 1 }
    else none
  | .acceptFails =>
    if s.loop = .accepting ∧ (s.closed = true ∨ s.listenerClosed = true) then
      some { s with loop := .ended }
    else none
  | .trackConn =>
    match s.loop with
    | .accepted conn => some { s with loop := .tracked conn, conns := conn :: s.conns }
    | _ => none
  | .spawn =>
    match s.loop with
    | .tracked conn => some { s with loop := .accepting, phase := update s.phase conn .handshake }
    | _ => none
  | .handler conn m =>
    match (s.phase conn).next m with
    | none => none
    | some phase =>
      let s := { s with phase := update s.phase conn phase }
      match m with
      | .closeConn => some { s with shut := conn :: s.shut }
      | .untrackConn => some { s with conns := s.conns.filter (· ≠ conn) }
      | _ => some s
  | .closeBegin =>
    if s.closer = .idle then some { s with closed := true, closer := .snapshot s.conns } else none
  | .closeListener =>
    match s.closer with
    | .snapshot conns => some { s with listenerClosed := true, closer := .closing conns }
    | _ => none
  | .closeNext =>
    match s.closer with
    | .closing (conn :: conns) => some { s with shut := conn :: s.shut, closer := .closing conns }
    | _ => none
  | .closeWait => if s.closer = .closing [] then some { s with closer := .waiting } else none
  | .closeReturn =>
    if s.closer = .waiting ∧ s.loop = .ended ∧ ∀ conn < s.accepted, s.phase conn = .ended then
      some { s with closer := .returned }
    else none

/-- The accept loop has no connection that is not tracked. -/
def Loop.Settled : Loop → Prop
  | .accepted _ => False
  | _ => True

instance (l : Loop) : Decidable l.Settled := by
  cases l <;> unfold Loop.Settled <;> infer_instance

/-- When `Close` takes its snapshot every accepted connection is tracked, and none is accepted
after it. -/
def TrackedFirst (s : State) : Act → Prop
  | .closeBegin => s.loop.Settled
  | .accept => s.closed = false
  | _ => True

instance (s : State) (a : Act) : Decidable (TrackedFirst s a) := by
  cases a <;> unfold TrackedFirst <;> infer_instance

end Model

section Invariant

/-- What `Close` has left to close, once the snapshot is taken. -/
def Closer.Leaves (shut : List Nat) (accepted : Nat) : Closer → Prop
  | .idle => True
  | .snapshot conns | .closing conns => ∀ conn < accepted, conn ∈ shut ∨ conn ∈ conns
  | .waiting | .returned => ∀ conn < accepted, conn ∈ shut

structure Inv (s : State) : Prop where
  /-- A connection is closed, tracked or about to be. -/
  covered : ∀ conn < s.accepted, conn ∈ s.shut ∨ conn ∈ s.conns ∨ s.loop = .accepted conn
  settled : s.closed = true → s.loop.Settled
  begun : s.closed = false → s.closer = .idle
  /-- A handler untracks a connection that it has closed. -/
  closedFirst : ∀ conn, s.phase conn = .untracking → conn ∈ s.shut
  leaves : s.closer.Leaves s.shut s.accepted

theorem inv_init : Inv init where
  covered _ h := absurd h (Nat.not_lt_zero _)
  settled h := absurd h (by decide)
  begun _ := rfl
  closedFirst _ h := nomatch h
  leaves := trivial

variable {s s' : State}

theorem Closer.Leaves.mono {shut shut' : List Nat} {accepted : Nat} (hsub : shut ⊆ shut') :
    ∀ {closer : Closer}, closer.Leaves shut accepted → closer.Leaves shut' accepted
  | .idle, _ => trivial
  | .snapshot _, h | .closing _, h => fun conn hconn => (h conn hconn).imp_left (@hsub conn)
  | .waiting, h | .returned, h => fun conn hconn => hsub (h conn hconn)

/-- A connection is closed, by a handler or by `Close`. -/
theorem Inv.shut (h : Inv s) (conn : Nat) : Inv { s with shut := conn :: s.shut } where
  covered c hc := (h.covered c hc).imp_left (mem_cons_of_mem conn)
  settled := h.settled
  begun := h.begun
  closedFirst c hc := mem_cons_of_mem conn (h.closedFirst c hc)
  leaves := h.leaves.mono (subset_cons_self conn s.shut)

theorem Inv.setPhase (h : Inv s) (conn : Nat) {phase : Phase}
    (hp : phase = .untracking → conn ∈ s.shut) :
    Inv { s with phase := update s.phase conn phase } where
  covered := h.covered
  settled := h.settled
  begun := h.begun
  closedFirst c hc := by
    by_cases hcc : c = conn
    · subst hcc
      exact hp ((update_self c phase s.phase).symm.trans hc)
    · exact h.closedFirst c ((update_of_ne hcc phase s.phase).symm.trans hc)
  leaves := h.leaves

theorem Inv.untrackConn (h : Inv s) {conn : Nat} (hshut : conn ∈ s.shut) :
    Inv { s with conns := s.conns.filter (· ≠ conn) } where
  covered c hc := by
    rcases h.covered c hc with hc | hc | hc
    · exact .inl hc
    · by_cases hcc : c = conn
      · exact .inl (hcc ▸ hshut)
      · exact .inr (.inl (mem_filter.2 ⟨hc, decide_eq_true hcc⟩))
    · exact .inr (.inr hc)
  settled := h.settled
  begun := h.begun
  closedFirst := h.closedFirst
  leaves := h.leaves

theorem Inv.setLoop (h : Inv s) (hloop : ∀ conn, s.loop ≠ .accepted conn) {loop : Loop}
    (hsettled : loop.Settled) : Inv { s with loop := loop } where
  covered c hc := (h.covered c hc).imp_right fun hc => .inl (hc.resolve_right (hloop c))
  settled _ := hsettled
  begun := h.begun
  closedFirst := h.closedFirst
  leaves := h.leaves

theorem next_eq_untracking {phase : Phase} {m : Move} (h : phase.next m = some .untracking) :
    m = .closeConn := by
  cases phase <;> cases m <;> first | rfl | cases h

theorem next_untrackConn {phase phase' : Phase} (h : phase.next .untrackConn = some phase') :
    phase = .untracking ∧ phase' = .ended := by
  cases phase <;> first | exact ⟨rfl, (Option.some.inj h).symm⟩ | cases h

theorem Inv.handler (h : Inv s) {conn : Nat} {m : Move}
    (hs : step s (.handler conn m) = some s') : Inv s' := by
  simp only [step] at hs
  cases hnext : (s.phase conn).next m with
  | none =>
    rw [hnext] at hs
    cases hs
  | some phase =>
    rw [hnext] at hs
    by_cases hclose : m = .closeConn
    · subst hclose
      cases hs
      exact (h.shut conn).setPhase conn fun _ => mem_cons_self
    have hphase : phase = .untracking → conn ∈ s.shut := fun hp =>
      absurd (next_eq_untracking (hp ▸ hnext)) hclose
    cases m with
    | closeConn => exact absurd rfl hclose
    | untrackConn =>
      cases hs
      obtain ⟨hfrom, _⟩ := next_untrackConn hnext
      exact (h.setPhase conn hphase).untrackConn (h.closedFirst conn hfrom)
    | ends | connect | associate | refuse | startFails | starts =>
      cases hs
      exact h.setPhase conn hphase

theorem inv_step (s : State) (a : Act) (s' : State) (h : Inv s) (hcond : TrackedFirst s a)
    (hs : step s a = some s') : Inv s' := by
  cases a with
  | accept =>
    obtain ⟨⟨hloop, _⟩, hs'⟩ := Option.ite_none_right_eq_some.1 hs
    cases hs'
    have hclosed : s.closed = false := hcond
    refine ⟨?_, ?_, h.begun, h.closedFirst, ?_⟩
    · intro c hc
      rcases Nat.lt_succ_iff_lt_or_eq.1 hc with hlt | heq
      · rcases h.covered c hlt with hshut | htracked | haccepted
        · exact .inl hshut
        · exact .inr (.inl htracked)
        · rw [hloop] at haccepted
          cases haccepted
      · exact .inr (.inr (congrArg Loop.accepted heq.symm))
    · intro hc
      rw [hclosed] at hc
      cases hc
    · have hidle : s.closer = .idle := h.begun hclosed
      simp only [hidle, Closer.Leaves]
  | acceptFails =>
    obtain ⟨⟨hloop, _⟩, hs'⟩ := Option.ite_none_right_eq_some.1 hs
    cases hs'
    exact h.setLoop (fun c => by simp [hloop]) trivial
  | trackConn =>
    simp only [step] at hs
    cases hloop : s.loop with
    | accepted conn =>
      rw [hloop] at hs
      cases hs
      refine ⟨?_, fun _ => trivial, h.begun, h.closedFirst, h.leaves⟩
      intro c hc
      rcases h.covered c hc with hshut | htracked | haccepted
      · exact .inl hshut
      · exact .inr (.inl (mem_cons_of_mem conn htracked))
      · rw [hloop] at haccepted
        cases haccepted
        exact .inr (.inl mem_cons_self)
    | accepting | tracked _ | ended =>
      rw [hloop] at hs
      cases hs
  | spawn =>
    simp only [step] at hs
    cases hloop : s.loop with
    | tracked conn =>
      rw [hloop] at hs
      cases hs
      have hnext : Inv { s with loop := .accepting } := h.setLoop (fun c => by simp [hloop]) trivial
      exact hnext.setPhase conn nofun
    | accepting | accepted _ | ended =>
      rw [hloop] at hs
      cases hs
  | handler conn m => exact h.handler hs
  | closeBegin =>
    obtain ⟨_, ⟨⟩⟩ := Option.ite_none_right_eq_some.1 hs
    have hsettled : s.loop.Settled := hcond
    refine ⟨h.covered, fun _ => hsettled, (fun hc => by cases hc), h.closedFirst, ?_⟩
    -- no connection is about to be tracked, so the snapshot has all that are open
    intro c hc
    refine (h.covered c hc).imp_right fun hc => hc.resolve_right fun haccepted => ?_
    rw [haccepted] at hsettled
    exact hsettled
  | closeListener =>
    simp only [step] at hs
    cases hcloser : s.closer with
    | snapshot conns =>
      rw [hcloser] at hs
      cases hs
      have hleaves := h.leaves
      rw [hcloser] at hleaves
      exact ⟨h.covered, h.settled, fun hc => absurd (h.begun hc) (by simp [hcloser]), h.closedFirst,
      hleaves⟩
    | idle | closing _ | waiting | returned =>
      rw [hcloser] at hs
      cases hs
  | closeNext =>
    simp only [step] at hs
    cases hcloser : s.closer with
    | closing conns =>
      cases conns with
      | nil =>
        rw [hcloser] at hs
        cases hs
      | cons conn conns =>
        rw [hcloser] at hs
        cases hs
        have hshut := h.shut conn
        refine ⟨hshut.covered, h.settled, fun hc => absurd (h.begun hc) (by simp [hcloser]),
          hshut.closedFirst, ?_⟩
        intro c hc
        have hleaves := h.leaves
        rw [hcloser] at hleaves
        rcases hleaves c hc with hm | hm
        · exact .inl (mem_cons_of_mem conn hm)
        · rcases mem_cons.1 hm with rfl | hm
          · exact .inl mem_cons_self
          · exact .inr hm
    | idle | snapshot _ | waiting | returned =>
      rw [hcloser] at hs
      cases hs
  | closeWait =>
    obtain ⟨hcloser, ⟨⟩⟩ := Option.ite_none_right_eq_some.1 hs
    have hleaves := h.leaves
    rw [hcloser] at hleaves
    refine ⟨h.covered, h.settled, fun hc => absurd (h.begun hc) (by simp [hcloser]), h.closedFirst,
      ?_⟩
    intro c hc
    exact (hleaves c hc).resolve_right not_mem_nil
  | closeReturn =>
    obtain ⟨⟨hcloser, _⟩, hs'⟩ := Option.ite_none_right_eq_some.1 hs
    cases hs'
    have hleaves := h.leaves
    rw [hcloser] at hleaves
    exact ⟨h.covered, h.settled, fun hc => absurd (h.begun hc) (by simp [hcloser]), h.closedFirst,
      hleaves⟩

end Invariant

/-- If every accepted connection is tracked before `Close` takes its snapshot, all of them are
closed when `Close` begins to wait. -/
theorem close_closes_accepted (acts : List Act) (s : State)
    (hrun : runActs step init acts = some s) (hfirst : EachStep step TrackedFirst init acts)
    (hwait : s.closer = .waiting ∨ s.closer = .returned) : ∀ conn < s.accepted, conn ∈ s.shut := by
  have hinv : Inv s := invariant_of_eachStep inv_step inv_init hfirst hrun
  have hleaves := hinv.leaves
  rcases hwait with hwait | hwait
  · rw [hwait] at hleaves
    exact hleaves
  · rw [hwait] at hleaves
    exact hleaves

/-- Two connections: one has ended by itself, one is open when `Close` is called. -/
def orderlyActs : List Act :=
  [.accept, .trackConn, .spawn, .handler 0 .ends, .handler 0 .closeConn, .handler 0 .untrackConn,
    .accept, .trackConn, .spawn, .handler 1 .connect, .handler 1 .starts,
    .closeBegin, .closeListener, .acceptFails, .closeNext, .closeWait]

theorem close_closes_accepted_orderly :
    ∃ s, runActs step init orderlyActs = some s ∧ s.accepted = 2 ∧
      ∀ conn < s.accepted, conn ∈ s.shut :=
  ⟨_, rfl, rfl, close_closes_accepted orderlyActs _ rfl (by decide) (.inl rfl)⟩

/-- The loop tracks its connection after the snapshot. -/
def lateActs : List Act :=
  [.accept, .closeBegin, .closeListener, .closeWait, .trackConn, .spawn, .acceptFails]

/-- `Close` waits for a handler that reads a connection nobody closes. -/
theorem late_connection_left_open :
    ∃ s, runActs step init lateActs = some s ∧ s.closer = .waiting ∧
      step s .closeReturn = none ∧ ¬ ∀ conn < s.accepted, conn ∈ s.shut :=
  ⟨_, rfl, rfl, rfl, fun h => nomatch h 0 Nat.one_pos⟩

end Smp3Multipath.Client.Shutdown

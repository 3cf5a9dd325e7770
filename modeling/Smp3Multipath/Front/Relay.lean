import Mathlib.Logic.Function.Basic
import Mathlib.Tactic.Common
import Smp3Multipath.Lib.Run

/-!
# The front relay

The accept loop of the relay rejects a client or counts it, tracks it and starts its handler, under
one lock.  The handler dials the landing, tracks it unless the relay is closed, copies both ways and
removes the landing and then the client.  `Shutdown` closes the listener and waits for the loop and
the handlers; if its context ends first it closes what is tracked and waits on.

A connection is known by the client that it serves.  The steps are those under the lock and the
calls of `Close` between them.
-/

namespace Smp3Multipath.Front.Relay

open Lib.Run List Option

section Model

inductive Conn where
  | client (id : Nat)
  | landing (id : Nat)
deriving DecidableEq

/-- The client of the handler that has the connection. -/
def Conn.id : Conn → Nat
  | .client id | .landing id => id

inductive Loop where
  | notStarted
  | accepting
  /-- `Accept` has returned a client. -/
  | received (id : Nat)
  /-- The client is to be closed, and the loop to end if the relay was closed. -/
  | rejecting (id : Nat) (last : Bool)
  | ended
deriving DecidableEq

/-- Where `handle` is. -/
inductive Phase where
  | absent
  | dialing
  /-- The landing is connected and not yet tracked. -/
  | dialed
  /-- The relay was closed in the meantime. -/
  | dropLanding
  | relaying
  /-- The two halves of `removeAndClose(landing)`. -/
  | closeLanding
  | removeLanding
  /-- The two halves of `removeAndClose(client)`. -/
  | closeClient
  | removeClient
  | ended
deriving DecidableEq

structure State where
  closed : Bool
  listenerClosed : Bool
  loop : Loop
  /-- The number of clients that `Accept` has returned. -/
  received : Nat
  accepted : Nat
  active : List Conn
  clients : List Nat
  phase : Nat → Phase
  /-- The connections that are open. -/
  opened : List Conn
  /-- What `Shutdown` calls have still to close. -/
  sweeping : List Conn
  /-- A `Shutdown` has returned. -/
  returned : Bool

def init : State where
  closed := false
  listenerClosed := false
  loop := .notStarted
  received := 0
  accepted := 0
  active := []
  clients := []
  phase _ := .absent
  opened := []
  sweeping := []
  returned := false

def State.close (s : State) (conn : Conn) : State :=
  { s with opened := s.opened.filter (· ≠ conn) }

/-- The half of `removeAndClose` under the lock. -/
def State.remove (s : State) (conn : Conn) : State :=
  if conn ∈ s.active then
    let s := { s with active := s.active.filter (· ≠ conn) }
    match conn with
    | .client id =>
      if id ∈ s.clients then
        { s with
          clients := s.clients.filter (· ≠ id)
          accepted := if 0 < s.accepted then s.accepted - 1 else s.accepted }
      else s
    | .landing _ => s
  else s

def State.setPhase (s : State) (id : Nat) (p : Phase) : State :=
  { s with phase := Function.update s.phase id p }

@[grind =] theorem phase_setPhase (s : State) (id c : Nat) (p : Phase) :
    (s.setPhase id p).phase c = if c = id then p else s.phase c :=
  Function.update_apply s.phase id p c

inductive Move where
  | dialFails | dials | register | dropLanding | copied
  | closeLanding | removeLanding | closeClient | removeClient
deriving DecidableEq

/-- A move of the handler of a client. -/
def handle (s : State) (id : Nat) : Move → Option State
  | .dialFails => if s.phase id = .dialing then some (s.setPhase id .closeClient) else none
  | .dials =>
    if s.phase id = .dialing then
      some { s.setPhase id .dialed with opened := .landing id :: s.opened }
    else none
  | .register =>
    if s.phase id = .dialed then
      if s.closed then some (s.setPhase id .dropLanding)
      else some { s.setPhase id .relaying with active := .landing id :: s.active }
    else none
  | .dropLanding =>
    if s.phase id = .dropLanding then some ((s.close (.landing id)).setPhase id .closeClient)
    else none
  | .copied => if s.phase id = .relaying then some (s.setPhase id .closeLanding) else none
  | .closeLanding =>
    if s.phase id = .closeLanding then some ((s.close (.landing id)).setPhase id .removeLanding)
    else none
  | .removeLanding =>
    if s.phase id = .removeLanding then some ((s.remove (.landing id)).setPhase id .closeClient)
    else none
  | .closeClient =>
    if s.phase id = .closeClient then some ((s.close (.client id)).setPhase id .removeClient)
    else none
  | .removeClient =>
    if s.phase id = .removeClient then some ((s.remove (.client id)).setPhase id .ended)
    else none

/-- The handler has tracked its landing, so that its copies or its watcher may close both sides. -/
def Phase.Watched : Phase → Bool
  | .relaying | .closeLanding | .removeLanding | .closeClient | .removeClient | .ended => true
  | _ => false

/-- The handler counts in the wait group, and its client is tracked. -/
def Phase.Running (p : Phase) : Bool := p ≠ .absent ∧ p ≠ .ended

inductive Act where
  | start
  | accept
  | acceptFails
  | judge
  | rejectClose
  | handler (id : Nat) (m : Move)
  /-- A direction has failed, or the idle timeout is reached. -/
  | closeBoth (id : Nat)
  | shutdown
  /-- The context of a `Shutdown` has ended: it takes what is tracked. -/
  | sweep
  | sweepClose (conn : Conn)
  | shutdownReturns
deriving DecidableEq

/-- The part of the accept loop under the lock. -/
def judge (allowed : Nat → Bool) (maxConnections : Nat) (s : State) (id : Nat) : State :=
  if s.closed then { s with loop := .rejecting id true }
  else if allowed id = false then { s with loop := .rejecting id false }
  else if maxConnections ≤ s.accepted then { s with loop := .rejecting id false }
  else
    { s.setPhase id .dialing with
      loop := .accepting
      accepted := s.accepted + 1
      active := .client id :: s.active
      clients := id :: s.clients }

def step (allowed : Nat → Bool) (maxConnections : Nat) (s : State) : Act → Option State
  | .start =>
    if s.closed = false ∧ s.loop = .notStarted then some { s with loop := .accepting } else none
  | .accept =>
    if s.loop = .accepting ∧ s.listenerClosed = false then
      some { s with
        loop := .received s.received
        received := s.received + 1
        opened := .client s.received :: s.opened }
    else none
  | .acceptFails =>
    if s.loop = .accepting ∧ (s.closed ∨ s.listenerClosed) then some { s with loop := .ended }
    else none
  | .judge =>
    match s.loop with
    | .received id => some (judge allowed maxConnections s id)
    | _ => none
  | .rejectClose =>
    match s.loop with
    | .rejecting id last =>
      some { s.close (.client id) with loop := if last then .ended else .accepting }
    | _ => none
  | .handler id m => handle s id m
  | .closeBoth id =>
    if (s.phase id).Watched then some ((s.close (.client id)).close (.landing id)) else none
  | .shutdown => some { s with closed := true, listenerClosed := true }
  | .sweep => if s.closed then some { s with sweeping := s.active ++ s.sweeping } else none
  | .sweepClose conn =>
    if conn ∈ s.sweeping then
      some { s.close conn with sweeping := s.sweeping.erase conn }
    else none
  | .shutdownReturns =>
    if s.closed ∧ (s.loop = .notStarted ∨ s.loop = .ended) ∧
        ∀ id < s.received, (s.phase id).Running = false then
      some { s with returned := true }
    else none

end Model

section Invariant

/-- The handler tracks the connection. -/
def Phase.Tracks (p : Phase) : Conn → Bool
  | .client _ => p.Running
  | .landing _ => p = .relaying ∨ p = .closeLanding ∨ p = .removeLanding

/-- The handler has the connection and has not closed it. -/
def Phase.Holds (p : Phase) : Conn → Bool
  | .client _ => p.Running ∧ p ≠ .removeClient
  | .landing _ => p = .dialed ∨ p = .dropLanding ∨ p = .relaying ∨ p = .closeLanding

/-- The accept loop has the connection. -/
def Loop.Holds : Loop → Conn → Bool
  | .received id, conn | .rejecting id _, conn => conn = .client id
  | _, _ => false

structure Inv (maxConnections : Nat) (s : State) : Prop where
  count : s.accepted = s.clients.length
  limit : s.accepted ≤ maxConnections
  nodup : s.clients.Nodup
  serving : ∀ id, id ∈ s.clients ↔ (s.phase id).Running = true
  tracked : ∀ conn, conn ∈ s.active ↔ (s.phase conn.id).Tracks conn = true
  held : ∀ conn ∈ s.opened, (s.phase conn.id).Holds conn = true ∨ s.loop.Holds conn = true
  fresh : ∀ id, s.received ≤ id ∨ s.loop.Holds (.client id) = true → s.phase id = .absent
  known : ∀ id, s.loop.Holds (.client id) = true → id < s.received
  quiet : s.returned = true → s.closed = true ∧ (s.loop = .notStarted ∨ s.loop = .ended) ∧
    ∀ id, (s.phase id).Running = false

theorem inv_init (maxConnections : Nat) : Inv maxConnections init := by
  refine ⟨rfl, Nat.zero_le _, nodup_nil, ?_, ?_, ?_, fun _ _ => rfl, ?_, ?_⟩
  · exact fun _ => iff_of_false not_mem_nil Bool.false_ne_true
  · rintro (_ | _) <;> exact iff_of_false not_mem_nil Bool.false_ne_true
  · exact fun _ h => absurd h not_mem_nil
  · exact fun _ h => absurd h Bool.false_ne_true
  · exact fun h => nomatch h

variable {maxConnections : Nat} {s s' : State}

theorem Inv.close (h : Inv maxConnections s) (conn : Conn) : Inv maxConnections (s.close conn) :=
  { h with held := fun c hc => h.held c (mem_of_mem_filter hc) }

theorem Inv.setLoop (h : Inv maxConnections s) (hold : ∀ conn, s.loop.Holds conn = false)
    {loop : Loop} (hnew : ∀ conn, loop.Holds conn = false) (hquiet : s.returned ≠ true) :
    Inv maxConnections { s with loop := loop } :=
  { h with
    held := fun conn hconn => (h.held conn hconn).imp_right fun hc => by simp [hold] at hc
    fresh := fun c hc => h.fresh c (hc.imp_right fun hc => by simp [hnew] at hc)
    known := fun c hc => by simp [hnew] at hc
    quiet := fun hr => absurd hr hquiet }

/-- A handler that runs goes on to run in another phase. -/
theorem Inv.move (h : Inv maxConnections s) {id : Nat} {p : Phase}
    (hfrom : (s.phase id).Running = true) (hto : p.Running = true) (active opened : List Conn)
    (hactive : ∀ conn, conn ∈ active ↔
      if conn = .landing id then p.Tracks conn = true else conn ∈ s.active)
    (hopened : ∀ conn ∈ opened, if conn.id = id then p.Holds conn = true else conn ∈ s.opened) :
    Inv maxConnections { s.setPhase id p with active := active, opened := opened } where
  count := h.count
  limit := h.limit
  nodup := h.nodup
  serving c := by
    have hserving := h.serving c
    have hp := phase_setPhase s id c p
    show c ∈ s.clients ↔ _
    grind
  tracked conn := by
    have htracked := h.tracked conn
    have hnew := hactive conn
    have hp := phase_setPhase s id conn.id p
    show conn ∈ active ↔ _
    cases conn <;> grind [Phase.Tracks, Conn.id]
  held conn hconn := by
    have hnew := hopened conn hconn
    have hheld := h.held conn
    have hp := phase_setPhase s id conn.id p
    show ((s.setPhase id p).phase conn.id).Holds conn = true ∨ s.loop.Holds conn = true
    grind
  fresh c hc := by
    have hfresh : s.phase c = .absent := h.fresh c hc
    have hp := phase_setPhase s id c p
    have habsent : Phase.absent.Running = false := rfl
    grind
  known := h.known
  quiet hc := absurd ((h.quiet hc).2.2 id) (by simp [hfrom])

theorem Inv.holds (h : Inv maxConnections s) {conn : Conn} (hconn : conn ∈ s.opened)
    (hrunning : (s.phase conn.id).Running = true) : (s.phase conn.id).Holds conn = true := by
  refine (h.held conn hconn).resolve_right fun hloop => ?_
  have habsent : s.phase conn.id = .absent := by
    refine h.fresh conn.id (.inr ?_)
    cases conn with
    | client id => exact hloop
    | landing id => cases hl : s.loop <;> simp [hl, Loop.Holds] at hloop
  rw [habsent] at hrunning
  cases hrunning

theorem Inv.movePhase (h : Inv maxConnections s) {id : Nat} {p : Phase}
    (hfrom : (s.phase id).Running = true) (hto : p.Running = true) (opened : List Conn)
    (htracks : (s.phase id).Tracks (.landing id) = p.Tracks (.landing id))
    (hopened : ∀ conn ∈ opened, if conn.id = id then p.Holds conn = true else conn ∈ s.opened) :
    Inv maxConnections { s.setPhase id p with opened := opened } := by
  refine h.move hfrom hto s.active opened (fun conn => ?_) hopened
  split
  · next heq =>
    subst heq
    rw [h.tracked, ← htracks]
    rfl
  · rfl

theorem Inv.handler {id : Nat} {m : Move} (h : Inv maxConnections s) (hm : m ≠ .removeClient)
    (hs : handle s id m = some s') : Inv maxConnections s' := by
  have hholds : (s.phase id).Running = true → ∀ conn ∈ s.opened, conn.id = id →
      (s.phase id).Holds conn = true :=
    fun hrunning conn hconn hid => hid ▸ h.holds hconn (hid ▸ hrunning)
  have htracked := h.tracked (.landing id)
  cases m with
  | dialFails | copied =>
    obtain ⟨hp, ⟨⟩⟩ := ite_none_right_eq_some.1 hs
    refine h.movePhase (by rw [hp]; rfl) rfl s.opened (by rw [hp]; rfl) fun conn hconn => ?_
    have := hholds (by rw [hp]; rfl) conn hconn
    cases conn <;> grind [Phase.Holds, Conn.id, Phase.Running]
  | dials =>
    obtain ⟨hp, ⟨⟩⟩ := ite_none_right_eq_some.1 hs
    refine h.movePhase (by rw [hp]; rfl) rfl (.landing id :: s.opened) (by rw [hp]; rfl)
      fun conn hconn => ?_
    have := hholds (by rw [hp]; rfl) conn
    cases conn <;> grind [Phase.Holds, Conn.id, Phase.Running]
  | register =>
    obtain ⟨hp, hs'⟩ := ite_none_right_eq_some.1 hs
    have := hholds (by rw [hp]; rfl)
    split at hs' <;> cases hs'
    · refine h.movePhase (by rw [hp]; rfl) rfl s.opened (by rw [hp]; rfl)
        fun conn hconn => ?_
      cases conn <;> grind [Phase.Holds, Conn.id, Phase.Running]
    · refine h.move (by rw [hp]; rfl) rfl (.landing id :: s.active) s.opened (fun conn => ?_)
        fun conn hconn => ?_
      · grind [Phase.Tracks]
      · cases conn <;> grind [Phase.Holds, Conn.id, Phase.Running]
  | dropLanding | closeLanding =>
    obtain ⟨hp, ⟨⟩⟩ := ite_none_right_eq_some.1 hs
    refine h.movePhase (by rw [hp]; rfl) rfl (s.opened.filter (· ≠ .landing id))
      (by rw [hp]; rfl) fun conn hconn => ?_
    have := hholds (by rw [hp]; rfl) conn
    cases conn <;> grind [Phase.Holds, Conn.id, Phase.Running]
  | removeLanding =>
    obtain ⟨hp, hs'⟩ := ite_none_right_eq_some.1 hs
    have hmem : .landing id ∈ s.active := htracked.2 (by rw [Conn.id, hp]; rfl)
    rw [State.remove, if_pos hmem] at hs'
    cases hs'
    refine h.move (by rw [hp]; rfl) rfl (s.active.filter (· ≠ .landing id)) s.opened
      (fun conn => ?_) fun conn hconn => ?_
    · grind [Phase.Tracks]
    · have := hholds (by rw [hp]; rfl) conn hconn
      cases conn <;> grind [Phase.Holds, Conn.id, Phase.Running]
  | closeClient =>
    obtain ⟨hp, ⟨⟩⟩ := ite_none_right_eq_some.1 hs
    refine h.movePhase (by rw [hp]; rfl) rfl (s.opened.filter (· ≠ .client id))
      (by rw [hp]; rfl) fun conn hconn => ?_
    have := hholds (by rw [hp]; rfl) conn
    cases conn <;> grind [Phase.Holds, Conn.id, Phase.Running]
  | removeClient => exact absurd rfl hm

/-- The handler ends: its client is counted off, and the guard of the counter is not needed. -/
theorem Inv.removeClient {id : Nat} (h : Inv maxConnections s)
    (hs : handle s id .removeClient = some s') : Inv maxConnections s' := by
  obtain ⟨hp, hs'⟩ := ite_none_right_eq_some.1 hs
  have hactive : .client id ∈ s.active := (h.tracked (.client id)).2 (by rw [Conn.id, hp]; rfl)
  have hclient : id ∈ s.clients := (h.serving id).2 (by rw [hp]; rfl)
  have hcount : (s.clients.filter (· ≠ id)).length + 1 = s.clients.length := by
    have herase := h.nodup.erase_eq_filter id
    simp only [ne_eq, decide_not] at herase ⊢
    rw [← length_erase_add_one hclient, herase]
    congr 2
  have hpos : 0 < s.accepted := by
    have := h.count
    omega
  simp only [State.remove, if_pos hactive, if_pos hclient, if_pos hpos] at hs'
  cases hs'
  have hrunning : (s.phase id).Running = true := by rw [hp]; rfl
  refine ⟨?_, Nat.le_trans (Nat.sub_le _ _) h.limit, h.nodup.filter _, fun c => ?_, fun conn => ?_,
    fun conn hconn => ?_, fun c hc => ?_, h.known, fun hc => ?_⟩
  · have := h.count
    show s.accepted - 1 = (s.clients.filter (· ≠ id)).length
    omega
  · have hserving := h.serving c
    have hc := phase_setPhase s id c .ended
    show c ∈ s.clients.filter (· ≠ id) ↔ ((s.setPhase id .ended).phase c).Running = true
    grind [Phase.Running]
  · have htracked := h.tracked conn
    have hc := phase_setPhase s id conn.id .ended
    show conn ∈ s.active.filter (· ≠ .client id) ↔
      ((s.setPhase id .ended).phase conn.id).Tracks conn = true
    cases conn <;> grind [Phase.Running, Phase.Tracks, Conn.id]
  · have hheld := h.held conn hconn
    have hholds := h.holds hconn
    have hc := phase_setPhase s id conn.id .ended
    show ((s.setPhase id .ended).phase conn.id).Holds conn = true ∨ s.loop.Holds conn = true
    cases conn <;> grind [Phase.Running, Phase.Holds, Conn.id]
  · have hfresh : s.phase c = .absent := h.fresh c hc
    have hc := phase_setPhase s id c .ended
    show (s.setPhase id .ended).phase c = .absent
    grind
  · exact absurd ((h.quiet hc).2.2 id) (by simp [hrunning])

/-- A client that `Accept` has returned is counted and gets its handler, or is rejected. -/
theorem Inv.judge {id : Nat} (h : Inv maxConnections s) (allowed : Nat → Bool)
    (hloop : s.loop = .received id) : Inv maxConnections (judge allowed maxConnections s id) := by
  have hholds : ∀ conn, s.loop.Holds conn = decide (conn = .client id) := fun conn => by
    rw [hloop]; rfl
  have hquiet : s.returned = false := by
    cases hr : s.returned with
    | false => rfl
    | true => exact absurd (h.quiet hr).2.1 (by simp [hloop])
  have hreject : ∀ last, Inv maxConnections { s with loop := .rejecting id last } := fun last =>
    { h with
      held := fun conn hconn => (h.held conn hconn).imp_right fun hc => by rwa [hloop] at hc
      fresh := fun c hc => h.fresh c (hc.imp_right fun hc => by rwa [hloop])
      known := fun c hc => h.known c (by rwa [hloop])
      quiet := fun hr => absurd hr (by simp [hquiet]) }
  unfold Relay.judge
  split
  · exact hreject true
  split
  · exact hreject false
  split
  · exact hreject false
  next hlimit =>
  have habsent : s.phase id = .absent := h.fresh id (.inr (by rw [hloop]; simp [Loop.Holds]))
  have hnew : id ∉ s.clients := fun hm => by
    have := (h.serving id).1 hm
    rw [habsent] at this
    cases this
  refine ⟨?_, ?_, nodup_cons.2 ⟨hnew, h.nodup⟩, fun c => ?_, fun conn => ?_,
    fun conn hconn => ?_, fun c hc => ?_, fun c hc => ?_,
    fun hr => absurd hr (by simp [hquiet, State.setPhase])⟩
  · exact congrArg (· + 1) h.count
  · exact Nat.not_le.1 hlimit
  · have hserving := h.serving c
    have hc := phase_setPhase s id c .dialing
    show c ∈ id :: s.clients ↔ ((s.setPhase id .dialing).phase c).Running = true
    grind [Phase.Running]
  · have htracked := h.tracked conn
    have hc := phase_setPhase s id conn.id .dialing
    show conn ∈ Conn.client id :: s.active ↔
      ((s.setPhase id .dialing).phase conn.id).Tracks conn = true
    cases conn <;> grind [Phase.Running, Phase.Tracks, Conn.id]
  · have hheld := h.held conn hconn
    have hc := phase_setPhase s id conn.id .dialing
    show ((s.setPhase id .dialing).phase conn.id).Holds conn = true ∨ _
    cases conn <;> grind [Phase.Running, Phase.Holds, Conn.id]
  · have hknown := h.known id (by rw [hloop]; simp [Loop.Holds])
    have hle : s.received ≤ c := hc.resolve_right Bool.false_ne_true
    have hfresh := h.fresh c (.inl hle)
    have hc := phase_setPhase s id c .dialing
    show (s.setPhase id .dialing).phase c = .absent
    grind
  · cases hc

theorem inv_step (allowed : Nat → Bool) (s : State) (a : Act) (s' : State)
    (h : Inv maxConnections s) (hs : step allowed maxConnections s a = some s') :
    Inv maxConnections s' := by
  cases a with
  | start =>
    obtain ⟨⟨hclosed, hloop⟩, hs'⟩ := ite_none_right_eq_some.1 hs
    cases hs'
    refine h.setLoop (fun _ => by rw [hloop]; rfl) (fun _ => rfl) ?_
    exact fun hr => absurd (h.quiet hr).1 (by simp [hclosed])
  | accept =>
    obtain ⟨⟨hloop, _⟩, hs'⟩ := ite_none_right_eq_some.1 hs
    cases hs'
    have hnone : ∀ conn, s.loop.Holds conn = false := fun _ => by rw [hloop]; rfl
    exact { h with
      held := fun conn hconn => by
        rcases mem_cons.1 hconn with rfl | hconn
        · exact .inr (by simp [Loop.Holds])
        · exact .inl ((h.held conn hconn).resolve_right (by simp [hnone]))
      fresh := fun c hc => by
        refine h.fresh c (.inl ?_)
        rcases hc with hc | hc
        · exact Nat.le_of_succ_le hc
        · simp only [Loop.Holds, decide_eq_true_eq, Conn.client.injEq] at hc
          exact Nat.le_of_eq hc.symm
      known := fun c hc => by
        simp only [Loop.Holds, decide_eq_true_eq, Conn.client.injEq] at hc
        rw [hc]
        exact Nat.lt_succ_self _
      quiet := fun hr => absurd (h.quiet hr).2.1 (by simp [hloop]) }
  | acceptFails =>
    obtain ⟨⟨hloop, _⟩, hs'⟩ := ite_none_right_eq_some.1 hs
    cases hs'
    refine h.setLoop (fun _ => by rw [hloop]; rfl) (fun _ => rfl) ?_
    exact fun hr => absurd (h.quiet hr).2.1 (by simp [hloop])
  | judge =>
    simp only [step] at hs
    cases hloop : s.loop with
    | received id =>
      rw [hloop] at hs
      cases hs
      exact h.judge allowed hloop
    | notStarted | accepting | rejecting _ _ | ended =>
      rw [hloop] at hs
      cases hs
  | rejectClose =>
    simp only [step] at hs
    cases hloop : s.loop with
    | rejecting id last =>
      rw [hloop] at hs
      cases hs
      have hnone : ∀ conn, (if last then Loop.ended else Loop.accepting).Holds conn = false :=
        fun _ => by cases last <;> rfl
      exact { h with
        held := fun conn hconn => by
          obtain ⟨hmem, hne⟩ := mem_filter.1 hconn
          refine .inl ((h.held conn hmem).resolve_right fun hc => ?_)
          rw [hloop] at hc
          exact of_decide_eq_true hne (of_decide_eq_true hc)
        fresh := fun c hc => h.fresh c (hc.imp_right fun hc => by simp [hnone] at hc)
        known := fun c hc => by simp [hnone] at hc
        quiet := fun hr => absurd (h.quiet hr).2.1 (by simp [hloop]) }
    | notStarted | accepting | received _ | ended =>
      rw [hloop] at hs
      cases hs
  | handler id m =>
    by_cases hm : m = .removeClient
    · subst hm
      exact h.removeClient hs
    · exact h.handler hm hs
  | closeBoth id =>
    obtain ⟨_, ⟨⟩⟩ := ite_none_right_eq_some.1 hs
    exact (h.close _).close _
  | shutdown =>
    cases hs
    exact { h with quiet := fun hr => ⟨rfl, (h.quiet hr).2⟩ }
  | sweep =>
    obtain ⟨_, ⟨⟩⟩ := ite_none_right_eq_some.1 hs
    exact { h with }
  | sweepClose conn =>
    obtain ⟨_, ⟨⟩⟩ := ite_none_right_eq_some.1 hs
    exact { h.close conn with }
  | shutdownReturns =>
    obtain ⟨⟨hclosed, hloop, hended⟩, hs'⟩ := ite_none_right_eq_some.1 hs
    cases hs'
    refine { h with quiet := fun _ => ⟨hclosed, hloop, fun id => ?_⟩ }
    rcases Nat.lt_or_ge id s.received with hlt | hge
    · exact hended id hlt
    · rw [h.fresh id (.inl hge)]
      rfl

end Invariant

/-- In every state of every run: the counter is the number of tracked clients and within the limit,
and the tracked clients are those of the running handlers; an ended handler has left none of its connections open;
and once a `Shutdown` has returned no handler runs and no connection is open. -/
theorem relay_accounts (allowed : Nat → Bool) (maxConnections : Nat) (s : State)
    (h : Reachable (step allowed maxConnections) init s) :
    s.accepted = s.clients.length ∧ s.accepted ≤ maxConnections ∧
    (∀ id, id ∈ s.clients ↔ (s.phase id).Running = true) ∧
    (∀ id, s.phase id = .ended → .client id ∉ s.opened ∧ .landing id ∉ s.opened) ∧
    (s.returned = true → (∀ id, (s.phase id).Running = false) ∧ s.opened = []) := by
  have hinv : Inv maxConnections s := h.invariant (inv_init maxConnections) (inv_step allowed)
  -- a handler that has ended is not one the accept loop still has the client of
  have hended : ∀ conn, s.phase conn.id = .ended → conn ∉ s.opened := by
    intro conn hp hm
    rcases hinv.held conn hm with hc | hc
    · rw [hp] at hc
      cases conn <;> cases hc
    · have hfresh := hinv.fresh conn.id
      cases conn <;> cases hl : s.loop <;> grind [Loop.Holds, Conn.id]
  refine ⟨hinv.count, hinv.limit, hinv.serving, fun id hid => ⟨hended _ hid, hended _ hid⟩,
    fun hr => ⟨(hinv.quiet hr).2.2, ?_⟩⟩
  obtain ⟨_, hloop, hrunning⟩ := hinv.quiet hr
  refine eq_nil_iff_forall_not_mem.2 fun conn hm => ?_
  rcases hinv.held conn hm with hc | hc
  · have hnot := hrunning conn.id
    cases conn <;> grind [Phase.Holds, Phase.Running]
  · rcases hloop with hl | hl <;> rw [hl] at hc <;> cases hc

/-- One client is served while `Shutdown` sweeps, and one is rejected by the limit. -/
def sweptActs : List Act :=
  [.start, .accept, .judge, .handler 0 .dials, .handler 0 .register, .accept, .judge, .rejectClose,
    .shutdown, .acceptFails, .sweep, .sweepClose (.client 0), .sweepClose (.landing 0),
    .handler 0 .copied, .handler 0 .closeLanding, .handler 0 .removeLanding,
    .handler 0 .closeClient, .handler 0 .removeClient, .shutdownReturns]

theorem relay_accounts_swept :
    ∃ s, runActs (step (fun _ => true) 1) init sweptActs = some s ∧ s.returned = true ∧
      s.received = 2 ∧ s.opened = [] :=
  ⟨_, rfl, rfl, rfl, ((relay_accounts (fun _ => true) 1 _ ⟨sweptActs, rfl⟩).2.2.2.2 rfl).2⟩

end Smp3Multipath.Front.Relay

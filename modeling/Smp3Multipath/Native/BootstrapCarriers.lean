import Mathlib.Logic.Function.Basic
import Smp3Multipath.Lib.Run

/-!
# Carriers of the native bootstrap

`DialContext` and `newDatagramPacketConn` dial leg 0, and leg 1 when leg 0 fails or the bootstrap
timer fires.  The dials send their results into one buffered channel.  The first success is
attached to a new core; a dial that is still under way then is left to a companion goroutine,
which attaches its connection or closes it.

Two returns leave the channel unread: the one on cancellation and the one after a failed attach.
A dial that has succeeded, or succeeds later, then leaves its connection in the channel
(`cancelled_leaks`).

The results are received in any order, which the channel allows less of.  A connection in the hand
of a dial is one that the child outbound returned and whose hello is being written.
-/

namespace Smp3Multipath.Native.BootstrapCarriers

open Lib.Run Function

section System

inductive LegId where
  | leg0
  | leg1
deriving DecidableEq

/-- `id ^ 1`. -/
def LegId.other : LegId → LegId
  | .leg0 => .leg1
  | .leg1 => .leg0

/-- One bootstrap dial, with its result; `again` is the second attempt, over the fallback. -/
inductive Dial where
  | unstarted
  | dialing (again : Bool)
  | greeting (again : Bool) (conn : Nat)
  /-- The result is in the channel. -/
  | sent (conn : Option Nat)
  | received
deriving DecidableEq

/-- Where the call is. -/
inductive Call where
  | looping
  | attaching (id : LegId) (conn : Nat)
  /-- Returned a session that was bootstrapped via this leg. -/
  | session (id : LegId)
  | failed
deriving DecidableEq

inductive Companion where
  | unstarted
  | waiting (expected : LegId)
  | holding (expected id : LegId) (conn : Option Nat)
  | finished
deriving DecidableEq

/-- Who has a connection. -/
inductive Hand where
  | dial (id : LegId)
  | call
  | companion
deriving DecidableEq

inductive Place where
  | unborn
  | hand (h : Hand)
  /-- With a repair of `ensureLeg`. -/
  | repair
  | attached
  | closed
deriving DecidableEq

structure State where
  dials : LegId → Dial
  call : Call
  companion : Companion
  coreDone : Bool
  next : Nat
  place : Nat → Place

def init : State :=
  { dials := update (fun _ => .unstarted) .leg0 (.dialing false), call := .looping
    companion := .unstarted, coreDone := false, next := 0, place := fun _ => .unborn }

def State.move (s : State) (conn : Nat) (p : Place) : State :=
  { s with place := update s.place conn p }

def State.setDial (s : State) (id : LegId) (d : Dial) : State :=
  { s with dials := update s.dials id d }

/-- `startBootstrap(1)`. -/
def State.startLeg1 (s : State) : State :=
  if s.dials .leg1 = .unstarted then s.setDial .leg1 (.dialing false) else s

/-- A dial fails: only the first attempt on leg 1 has a second one. -/
def failDial (id : LegId) (again retry : Bool) : Dial :=
  if id = .leg1 ∧ again = false ∧ retry = true then .dialing true else .sent none

def Dial.isPending : Dial → Bool
  | .unstarted | .received => false
  | _ => true

inductive Act where
  /-- A child outbound returns a connection, or none. -/
  | dialed (id : LegId)
  | dialFailed (id : LegId) (retry : Bool)
  /-- `writeHello`. -/
  | greeted (id : LegId)
  | greetFailed (id : LegId) (retry : Bool)
  /-- The arms of the bootstrap loop. -/
  | cancel
  | timer
  | receive (id : LegId)
  | attach (ok : Bool)
  | companionReceive (id : LegId)
  | companionSettle (ok : Bool)
  | coreEnd
  /-- `ensureLeg` has dialed, and attaches or closes. -/
  | repairDialed
  | repairSettle (conn : Nat) (ok : Bool)
deriving DecidableEq

/-- The loop takes a failure from the channel. -/
def receiveFailure (s : State) (id : LegId) : State :=
  let s := s.setDial id .received
  let s := if id = .leg0 then s.startLeg1 else s
  if s.dials .leg0 = .received ∧ s.dials .leg1 = .received then { s with call := .failed } else s

/-- The companion after its read, by the data plane: on a result of the other leg the stream
closes the connection and the datagram side returns. -/
def settle (udp : Bool) (s : State) (expected id : LegId) (conn : Option Nat) (ok : Bool) : State :=
  let s := { s with companion := .finished }
  match conn with
  | none => s
  | some c =>
    if s.coreDone = true then s.move c .closed
    else if id ≠ expected then (if udp then s else s.move c .closed)
    else s.move c (if ok then .attached else .closed)

def step (udp : Bool) (s : State) : Act → Option State
  | .dialed id =>
    match s.dials id with
    | .dialing again =>
      some
        { s.setDial id (.greeting again s.next) with
          next := s.next + 1
          place := update s.place s.next (.hand (.dial id)) }
    | _ => none
  | .dialFailed id retry =>
    match s.dials id with
    | .dialing again => some (s.setDial id (failDial id again retry))
    | _ => none
  | .greeted id =>
    match s.dials id with
    | .greeting _ c => some (s.setDial id (.sent (some c)))
    | _ => none
  | .greetFailed id retry =>
    match s.dials id with
    | .greeting again c => some ((s.move c .closed).setDial id (failDial id again retry))
    | _ => none
  | .cancel => if s.call = .looping then some { s with call := .failed } else none
  | .timer => if s.call = .looping then some s.startLeg1 else none
  | .receive id =>
    if s.call = .looping then
      match s.dials id with
      | .sent none => some (receiveFailure s id)
      | .sent (some c) =>
        some { (s.move c (.hand .call)).setDial id .received with call := .attaching id c }
      | _ => none
    else none
  | .attach ok =>
    match s.call with
    | .attaching id c =>
      if ok then
        some
          { s.move c .attached with
            call := .session id
            companion :=
              if (s.dials id.other).isPending then .waiting id.other else .unstarted }
      else some { s.move c .closed with call := .failed }
    | _ => none
  | .companionReceive id =>
    match s.companion, s.dials id with
    | .waiting expected, .sent conn =>
      let s := match conn with | none => s | some c => s.move c (.hand .companion)
      some { s.setDial id .received with companion := .holding expected id conn }
    | _, _ => none
  | .companionSettle ok =>
    match s.companion with
    | .holding expected id conn => some (settle udp s expected id conn ok)
    | _ => none
  | .coreEnd =>
    match s.call with
    | .session _ =>
      some
        { s with
          coreDone := true
          place := fun c => if s.place c = .attached then .closed else s.place c }
    | _ => none
  | .repairDialed =>
    match s.call with
    | .session _ =>
      some
        { s with next := s.next + 1, place := update s.place s.next .repair }
    | _ => none
  | .repairSettle c ok =>
    if s.place c = .repair then
      some (s.move c (if ok = true ∧ s.coreDone = false then .attached else .closed))
    else none

end System

section Specification

/-- The call has returned and its goroutines have finished. -/
structure Over (s : State) : Prop where
  call : s.call = .failed ∨ ∃ id, s.call = .session id
  dials : ∀ id, match s.dials id with | .dialing _ | .greeting _ _ => False | _ => True
  companion : s.companion = .unstarted ∨ s.companion = .finished
  repair : ∀ c, s.place c ≠ .repair

/-- Once the call is over, every connection that a child outbound returned is closed, or attached
to the core of the session that the call returned. -/
def NoCarrierLeaked (s : State) : Prop :=
  Over s → ∀ c, s.place c = .unborn ∨ s.place c = .closed ∨
    (s.place c = .attached ∧ ∃ id, s.call = .session id)

def Dial.hasSent : Dial → Bool
  | .sent (some _) => true
  | _ => false

/-- No success stays unread: at an early return the channel has none, and after one no dial
succeeds. -/
def NoneUnread (s : State) : Act → Prop
  | .cancel | .attach false => (s.dials .leg0).hasSent = false ∧ (s.dials .leg1).hasSent = false
  | .greeted _ => s.call ≠ .failed
  | _ => True

instance decidableNoneUnread (s : State) (a : Act) : Decidable (NoneUnread s a) := by
  unfold NoneUnread
  split <;> infer_instance

end Specification

section Hands

variable {s s' : State}

def Dial.conn : Dial → Option Nat
  | .greeting _ c => some c
  | .sent conn => conn
  | _ => none

def Call.conn : Call → Option Nat
  | .attaching _ c => some c
  | _ => none

def Companion.conn : Companion → Option Nat
  | .holding _ _ conn => conn
  | _ => none

def State.inHand (s : State) : Hand → Option Nat
  | .dial id => (s.dials id).conn
  | .call => s.call.conn
  | .companion => s.companion.conn

/-- A connection is in the hand that its place names. -/
def Hands (s : State) : Prop :=
  ∀ c h, s.place c = .hand h → s.inHand h = some c

theorem Hands.stay (hands : Hands s) (hplace : ∀ c h, s'.place c = .hand h → s.place c = .hand h)
    (hkeep : ∀ h c, s.inHand h = some c → s'.inHand h = some c) : Hands s' :=
  fun c h hc => hkeep h c (hands c h (hplace c h hc))

theorem Hands.give (hands : Hands s) {conn : Nat} {p : Place}
    (hplace : s'.place = update s.place conn p)
    (hkeep : ∀ h c, c ≠ conn → s.inHand h = some c → s'.inHand h = some c)
    (hnew : ∀ h, p = .hand h → s'.inHand h = some conn) : Hands s' := by
  intro c h hc
  rw [hplace] at hc
  by_cases hconn : c = conn
  · subst hconn
    exact hnew h (by simpa using hc)
  · rw [update_of_ne hconn] at hc
    exact hkeep h c hconn (hands c h hc)

theorem inHand_setDial (id : LegId) (d : Dial) (h : Hand) :
    (s.setDial id d).inHand h = if h = .dial id then d.conn else s.inHand h := by
  cases h with
  | dial i =>
    by_cases hi : i = id
    · simp [State.inHand, State.setDial, hi]
    · simp [State.inHand, State.setDial, hi]
  | call | companion => rfl

theorem keeps_setDial {id : LegId} {d : Dial} (hd : ∀ c, (s.dials id).conn = some c → d.conn = some c)
    (h : Hand) (c : Nat) (hc : s.inHand h = some c) : (s.setDial id d).inHand h = some c := by
  rw [inHand_setDial]
  split
  next hh =>
    subst hh
    exact hd c hc
  · exact hc

theorem keeps_setDial_of_ne {id : LegId} {d : Dial} {b : Nat} (hd : (s.dials id).conn = some b)
    (h : Hand) (c : Nat) (hne : c ≠ b) (hc : s.inHand h = some c) :
    (s.setDial id d).inHand h = some c := by
  rw [inHand_setDial]
  split
  next hh =>
    subst hh
    exact absurd (Option.some.inj (hc.symm.trans hd)) hne
  · exact hc

theorem dials_startLeg1 (s : State) :
    s.startLeg1 = s ∨
      s.dials .leg1 = .unstarted ∧ s.startLeg1 = s.setDial .leg1 (.dialing false) := by
  unfold State.startLeg1
  split
  next h => exact .inr ⟨h, rfl⟩
  · exact .inl rfl

end Hands

section Stages

variable {s s' : State} {dials : LegId → Dial} {call : Call} {companion : Companion}
variable {id : LegId} {d : Dial}

/-- What the companion of a session that began with leg `id` says of the other dial. -/
def CompanionOk (dials : LegId → Dial) (id : LegId) : Companion → Prop
  | .waiting expected => expected = id.other
  | .holding expected i _ => i = expected ∧ (dials id.other).isPending = false
  | _ => (dials id.other).isPending = false

/-- How far the dials are, by the stage of the call. -/
def Stage (dials : LegId → Dial) (companion : Companion) : Call → Prop
  | .looping => companion = .unstarted
  | .attaching id _ => companion = .unstarted ∧ dials id = .received
  | .session id => dials id = .received ∧ CompanionOk dials id companion
  | .failed => companion = .unstarted ∧ ∀ id, (dials id).hasSent = false

theorem eq_other {i j : LegId} (h : i ≠ j) : i = j.other := by
  cases i <;> cases j <;> first | rfl | exact absurd rfl h

theorem other_ne (i : LegId) : i.other ≠ i := by
  cases i <;> simp [LegId.other]

theorem Stage.setDial (hstage : Stage dials companion call) (hold : (dials id).isPending = true)
    (hnew : call = .failed → d.hasSent = false) :
    Stage (update dials id d) companion call := by
  have hne {i : LegId} (hi : dials i = .received) : i ≠ id := by
    rintro rfl
    simp [hi, Dial.isPending] at hold
  cases call with
  | looping => exact hstage
  | attaching i c => exact ⟨hstage.1, by rw [update_of_ne (hne hstage.2)]; exact hstage.2⟩
  | session i =>
    obtain ⟨hi, hcompanion⟩ := hstage
    refine ⟨by rw [update_of_ne (hne hi)]; exact hi, ?_⟩
    have hid : id = i.other := eq_other (hne hi).symm
    -- the dial that goes on is the other one, which only a companion that waits allows
    cases companion with
    | waiting expected => exact hcompanion
    | unstarted | holding expected j conn | finished => simp [CompanionOk, ← hid, hold] at hcompanion
  | failed =>
    refine ⟨hstage.1, fun i => ?_⟩
    by_cases hi : i = id
    · simpa [hi] using hnew rfl
    · simpa [hi] using hstage.2 i

end Stages

section Runs

variable {udp : Bool} {s s' : State} {a : Act} {acts : List Act}

/-- With a session, or on the way to it. -/
def Place.joins : Place → Bool
  | .repair | .attached => true
  | _ => false

structure Inv (s : State) : Prop where
  hands : Hands s
  attached : ∀ c, (s.place c).joins = true → ∃ id, s.call = .session id
  stage : Stage s.dials s.companion s.call

theorem inv_init : Inv init where
  hands := fun _ _ h => nomatch h
  attached := fun _ h => nomatch h
  stage := rfl

theorem hasSent_failDial (id : LegId) (again retry : Bool) :
    (failDial id again retry).hasSent = false := by
  unfold failDial
  split <;> rfl

theorem Inv.setDial (hinv : Inv s) {id : LegId} {d : Dial} (hold : (s.dials id).isPending = true)
    (hd : ∀ c, (s.dials id).conn = some c → d.conn = some c)
    (hnew : s.call = .failed → d.hasSent = false) : Inv (s.setDial id d) where
  hands := hinv.hands.stay (fun _ _ hc => hc) (keeps_setDial hd)
  attached := hinv.attached
  stage := hinv.stage.setDial hold hnew

theorem Inv.setDial_looping (hinv : Inv s) (hloop : s.call = .looping) {id : LegId} {d : Dial}
    (hd : ∀ c, (s.dials id).conn = some c → d.conn = some c) : Inv (s.setDial id d) where
  hands := hinv.hands.stay (fun _ _ hc => hc) (keeps_setDial hd)
  attached := hinv.attached
  stage := by
    have hstage := hinv.stage
    change Stage _ s.companion s.call
    rw [hloop] at hstage ⊢
    exact hstage

theorem call_startLeg1 (s : State) : s.startLeg1.call = s.call := by
  rcases dials_startLeg1 s with heq | ⟨-, heq⟩
  · rw [heq]
  · rw [heq]
    rfl

theorem Inv.startLeg1 (hinv : Inv s) (hloop : s.call = .looping) : Inv s.startLeg1 := by
  rcases dials_startLeg1 s with heq | ⟨hidle, heq⟩
  · rwa [heq]
  · rw [heq]
    exact hinv.setDial_looping hloop (by simp [hidle, Dial.conn])

theorem Inv.giveUp (hinv : Inv s) (hloop : s.call = .looping)
    (hsent : ∀ id, (s.dials id).hasSent = false) : Inv { s with call := .failed } where
  hands := by
    refine hinv.hands.stay (fun _ _ hc => hc) fun h c hc => ?_
    cases h with
    | call => simp [State.inHand, hloop, Call.conn] at hc
    | dial id | companion => exact hc
  attached := by
    intro c hc
    obtain ⟨id, hid⟩ := hinv.attached c hc
    simp [hloop] at hid
  stage := by
    have hstage := hinv.stage
    rw [hloop] at hstage
    exact ⟨hstage, hsent⟩

theorem inv_receiveFailure (hinv : Inv s) (hloop : s.call = .looping) {id : LegId}
    (hid : s.dials id = .sent none) : Inv (receiveFailure s id) := by
  have hreceived : Inv (s.setDial id .received) :=
    hinv.setDial_looping hloop (by simp [hid, Dial.conn])
  unfold receiveFailure
  generalize hnext : (if id = .leg0 then (s.setDial id .received).startLeg1 else
    s.setDial id .received) = next
  have hinv' : Inv next ∧ next.call = .looping := by
    rw [← hnext]
    split
    · exact ⟨hreceived.startLeg1 hloop, (call_startLeg1 _).trans hloop⟩
    · exact ⟨hreceived, hloop⟩
  simp only [hnext]
  split
  next hboth =>
    refine hinv'.1.giveUp hinv'.2 fun i => ?_
    cases i with
    | leg0 => simp [hboth.1, Dial.hasSent]
    | leg1 => simp [hboth.2, Dial.hasSent]
  · exact hinv'.1

theorem inv_receiveSuccess (hinv : Inv s) (hloop : s.call = .looping) {id : LegId} {c : Nat}
    (hid : s.dials id = .sent (some c)) :
    Inv { (s.move c (.hand .call)).setDial id .received with call := .attaching id c } where
  hands := by
    refine hinv.hands.give rfl (fun h c' hne hc' => ?_) ?_
    · cases h with
      | call => simp [State.inHand, hloop, Call.conn] at hc'
      | dial i =>
        have hconn : (s.dials id).conn = some c := by simp [hid, Dial.conn]
        exact keeps_setDial_of_ne (s := s) hconn (.dial i) c' hne hc'
      | companion => exact hc'
    · rintro h ⟨⟩
      rfl
  attached := by
    intro c' hc'
    by_cases hne : c' = c
    · simp [State.move, State.setDial, hne, Place.joins] at hc'
    · have hold : (s.place c').joins = true := by
        simpa [State.move, State.setDial, hne] using hc'
      obtain ⟨i, hi⟩ := hinv.attached c' hold
      simp [hloop] at hi
  stage := by
    have hstage := hinv.stage
    rw [hloop] at hstage
    exact ⟨hstage, by simp [State.setDial]⟩

theorem inv_attach (hinv : Inv s) {id : LegId} {c : Nat} (hcall : s.call = .attaching id c)
    {p : Place} {call : Call} {companion : Companion} (hp : ∀ h, p ≠ .hand h)
    (hattached : p.joins = true → ∃ i, call = .session i)
    (hstage : Stage s.dials s.companion (.attaching id c) → Stage s.dials companion call) :
    Inv { s.move c p with call := call, companion := companion } where
  hands := by
    refine hinv.hands.give rfl (fun h c' hne hc' => ?_) fun h hh => absurd hh (hp h)
    cases h with
    | call =>
      simp only [State.inHand, hcall, Call.conn, Option.some.injEq] at hc'
      exact absurd hc'.symm hne
    | dial i => exact hc'
    | companion =>
      have hidle := hinv.stage
      rw [hcall] at hidle
      simp [State.inHand, hidle.1, Companion.conn] at hc'
  attached := by
    intro c' hc'
    by_cases hne : c' = c
    · exact hattached (by simpa [State.move, hne] using hc')
    · have hold : (s.place c').joins = true := by
        simpa [State.move, hne] using hc'
      obtain ⟨i, hi⟩ := hinv.attached c' hold
      simp [hcall] at hi
  stage := by
    have hold := hinv.stage
    rw [hcall] at hold
    exact hstage hold

/-- A connection that no hand has, or that its hand lets go, ends in the session. -/
theorem Inv.settle (hinv : Inv s) {id : LegId} (hcall : s.call = .session id) {c : Nat}
    {p : Place} {companion : Companion} (hp : ∀ h, p ≠ .hand h)
    (hkeep : ∀ c', c' ≠ c → s.companion.conn = some c' → companion.conn = some c')
    (hcompanion : CompanionOk s.dials id s.companion → CompanionOk s.dials id companion) :
    Inv { s.move c p with companion := companion } where
  hands := by
    refine hinv.hands.give rfl (fun h c' hne hc' => ?_) fun h hh => absurd hh (hp h)
    cases h with
    | call | dial i => exact hc'
    | companion => exact hkeep c' hne hc'
  attached := fun _ _ => ⟨id, hcall⟩
  stage := by
    have hstage := hinv.stage
    change Stage s.dials companion s.call
    rw [hcall] at hstage ⊢
    exact ⟨hstage.1, hcompanion hstage.2⟩

theorem inv_companionReceive (hinv : Inv s) {id expected i : LegId} {conn : Option Nat}
    (hcall : s.call = .session id) (hcompanion : s.companion = .waiting expected)
    (hi : s.dials i = .sent conn) :
    Inv
      { (match conn with
          | none => s
          | some c => s.move c (.hand .companion)).setDial i .received with
        companion := .holding expected i conn } := by
  have hstage := hinv.stage
  rw [hcall, hcompanion] at hstage
  obtain ⟨hfirst, hexpected⟩ := hstage
  have hother : i = id.other := eq_other (by rintro rfl; simp [hfirst] at hi)
  have hstage' : Stage (update s.dials i .received) (.holding expected i conn) s.call := by
    rw [hcall]
    refine ⟨?_, hother.trans hexpected.symm, ?_⟩
    · rwa [hother, update_of_ne (other_ne id).symm]
    · simp [hother, Dial.isPending]
  cases conn with
  | none =>
    refine ⟨hinv.hands.stay (fun _ _ hc => hc) fun h c hc => ?_, hinv.attached, hstage'⟩
    cases h with
    | call => exact hc
    | dial j => exact keeps_setDial (by simp [hi, Dial.conn]) (.dial j) c hc
    | companion => simp [State.inHand, hcompanion, Companion.conn] at hc
  | some c =>
    refine ⟨hinv.hands.give rfl (fun h c' hne hc' => ?_) ?_, fun _ _ => ⟨id, hcall⟩, hstage'⟩
    · cases h with
      | call => exact hc'
      | dial j =>
        exact keeps_setDial_of_ne (s := s) (b := c) (by simp [hi, Dial.conn]) (.dial j) c'
          hne hc'
      | companion => simp [State.inHand, hcompanion, Companion.conn] at hc'
    · rintro h ⟨⟩
      rfl

theorem Inv.session_of_companion (hinv : Inv s) (h : s.companion ≠ .unstarted) :
    ∃ id, s.call = .session id := by
  have hstage := hinv.stage
  cases hcall : s.call with
  | looping =>
    rw [hcall] at hstage
    exact absurd hstage h
  | attaching i c | failed =>
    rw [hcall] at hstage
    exact absurd hstage.1 h
  | session i => exact ⟨i, rfl⟩

theorem inv_settle (hinv : Inv s) {expected i : LegId} {conn : Option Nat} (ok : Bool)
    (hcompanion : s.companion = .holding expected i conn) :
    Inv (settle udp s expected i conn ok) := by
  obtain ⟨id, hcall⟩ := hinv.session_of_companion (by simp [hcompanion])
  have hstage := hinv.stage
  rw [hcall, hcompanion] at hstage
  obtain ⟨hfirst, hsame, hother⟩ := hstage
  cases conn with
  | none =>
    refine ⟨hinv.hands.stay (fun _ _ hc => hc) fun h c hc => ?_, hinv.attached, ?_⟩
    · cases h with
      | call | dial j => exact hc
      | companion => simp [State.inHand, hcompanion, Companion.conn] at hc
    · change Stage s.dials .finished s.call
      rw [hcall]
      exact ⟨hfirst, hother⟩
  | some c =>
    have hdone (p : Place) (hp : ∀ h, p ≠ .hand h) :
        Inv { s.move c p with companion := .finished } := by
      refine hinv.settle hcall hp (fun c' hne hc' => ?_) fun _ => hother
      simp only [hcompanion, Companion.conn, Option.some.injEq] at hc'
      exact absurd hc'.symm hne
    simp only [settle, hsame, ne_eq, not_true, if_false]
    split
    · exact hdone .closed (by simp)
    · split
      · exact hdone .attached (by simp)
      · exact hdone .closed (by simp)

theorem inv_coreEnd (hinv : Inv s) {id : LegId} (hcall : s.call = .session id) :
    Inv
      { s with
        coreDone := true
        place := fun c => if s.place c = .attached then .closed else s.place c } where
  hands := by
    refine hinv.hands.stay (fun c h hc => ?_) fun _ _ hc => hc
    by_cases hplace : s.place c = .attached
    · simp [hplace] at hc
    · simpa [hplace] using hc
  attached := fun _ _ => ⟨id, hcall⟩
  stage := hinv.stage

theorem inv_step (hinv : Inv s) (hcond : NoneUnread s a) (hs : step udp s a = some s') :
    Inv s' := by
  cases a with
  | dialed id =>
    simp only [step] at hs
    split at hs
    next again hid =>
      cases hs
      refine ⟨hinv.hands.give rfl (fun h c hne hc => ?_) ?_, fun c hc => ?_, ?_⟩
      · exact keeps_setDial (s := s) (by simp [hid, Dial.conn]) h c hc
      · rintro h ⟨⟩
        simp [State.inHand, State.setDial, Dial.conn]
      · by_cases hne : c = s.next
        · simp [hne, Place.joins] at hc
        · exact hinv.attached c (by simpa [hne] using hc)
      · exact hinv.stage.setDial (by simp [hid, Dial.isPending]) fun _ => rfl
    · cases hs
  | dialFailed id retry =>
    simp only [step] at hs
    split at hs
    next again hid =>
      cases hs
      exact hinv.setDial (by simp [hid, Dial.isPending]) (by simp [hid, Dial.conn])
        fun _ => hasSent_failDial id again retry
    · cases hs
  | greeted id =>
    simp only [step] at hs
    split at hs
    next c hid =>
      cases hs
      exact hinv.setDial (by simp [hid, Dial.isPending]) (by simp [hid, Dial.conn])
        fun hfailed => absurd hfailed hcond
    · cases hs
  | greetFailed id retry =>
    simp only [step] at hs
    split at hs
    next again c hid =>
      cases hs
      refine ⟨hinv.hands.give rfl (fun h c' hne hc' => ?_) nofun, fun c' hc' => ?_, ?_⟩
      · exact keeps_setDial_of_ne (s := s) (b := c) (by simp [hid, Dial.conn]) h c' hne hc'
      · by_cases hne : c' = c
        · simp [State.move, State.setDial, hne, Place.joins] at hc'
        · exact hinv.attached c' (by simpa [State.move, State.setDial, hne] using hc')
      · exact hinv.stage.setDial (by simp [hid, Dial.isPending])
          fun _ => hasSent_failDial id again retry
    · cases hs
  | cancel =>
    obtain ⟨hloop, ⟨⟩⟩ := Option.ite_none_right_eq_some.1 hs
    refine hinv.giveUp hloop fun id => ?_
    cases id with
    | leg0 => exact hcond.1
    | leg1 => exact hcond.2
  | timer =>
    obtain ⟨hloop, ⟨⟩⟩ := Option.ite_none_right_eq_some.1 hs
    exact hinv.startLeg1 hloop
  | receive id =>
    obtain ⟨hloop, hs'⟩ := Option.ite_none_right_eq_some.1 hs
    split at hs'
    next hid =>
      cases hs'
      exact inv_receiveFailure hinv hloop hid
    next c hid =>
      cases hs'
      exact inv_receiveSuccess hinv hloop hid
    · cases hs'
  | attach ok =>
    simp only [step] at hs
    split at hs
    next id c hcall =>
      cases ok with
      | true =>
        cases hs
        refine inv_attach hinv hcall (by simp) (fun _ => ⟨id, rfl⟩) fun hold => ?_
        refine ⟨hold.2, ?_⟩
        split
        · rfl
        next hpending => simpa [CompanionOk] using hpending
      | false =>
        cases hs
        refine inv_attach hinv hcall (by simp) (by simp [Place.joins]) fun hold => ⟨hold.1, fun i => ?_⟩
        cases i with
        | leg0 => exact hcond.1
        | leg1 => exact hcond.2
    · cases hs
  | companionReceive id =>
    simp only [step] at hs
    split at hs
    next expected conn hcompanion hid =>
      cases hs
      obtain ⟨first, hcall⟩ := hinv.session_of_companion (by simp [hcompanion])
      exact inv_companionReceive hinv hcall hcompanion hid
    · cases hs
  | companionSettle ok =>
    simp only [step] at hs
    split at hs
    next hcompanion =>
      cases hs
      exact inv_settle hinv ok hcompanion
    · cases hs
  | coreEnd =>
    simp only [step] at hs
    split at hs
    next hcall =>
      cases hs
      exact inv_coreEnd hinv hcall
    · cases hs
  | repairDialed =>
    simp only [step] at hs
    split at hs
    next id hcall =>
      cases hs
      exact ⟨hinv.hands.give rfl (fun _ _ _ hc => hc) nofun, fun _ _ => ⟨id, hcall⟩, hinv.stage⟩
    · cases hs
  | repairSettle c ok =>
    obtain ⟨hplace, ⟨⟩⟩ := Option.ite_none_right_eq_some.1 hs
    obtain ⟨id, hcall⟩ := hinv.attached c (by simp [hplace, Place.joins])
    exact hinv.settle hcall (by intro; split <;> simp) (fun _ _ hc => hc) fun h => h

/-- Nobody holds a connection any more when the call is over. -/
theorem Inv.inHand_eq_none (hinv : Inv s) (hover : Over s) (h : Hand) : s.inHand h = none := by
  have hstage := hinv.stage
  cases h with
  | call => rcases hover.call with hcall | ⟨id, hcall⟩ <;> simp [State.inHand, hcall, Call.conn]
  | companion => rcases hover.companion with h | h <;> simp [State.inHand, h, Companion.conn]
  | dial i =>
    have hfinished := hover.dials i
    have hsent : (s.dials i).hasSent = false := by
      rcases hover.call with hcall | ⟨id, hcall⟩
      · rw [hcall] at hstage
        exact hstage.2 i
      · rw [hcall] at hstage
        obtain ⟨hfirst, hcompanion⟩ := hstage
        by_cases hi : i = id
        · simp [hi, hfirst, Dial.hasSent]
        · have hother : (s.dials i).isPending = false := by
            rw [eq_other hi]
            rcases hover.companion with h | h
            · rwa [h] at hcompanion
            · rwa [h] at hcompanion
          cases hd : s.dials i <;> simp [hd, Dial.hasSent, Dial.isPending] at hother ⊢
    simp only [State.inHand]
    cases hd : s.dials i with
    | unstarted | received => rfl
    | dialing again | greeting again c => simp [hd] at hfinished
    | sent conn =>
      cases conn with
      | none => rfl
      | some c => simp [hd, Dial.hasSent] at hsent

theorem Inv.noCarrierLeaked (hinv : Inv s) : NoCarrierLeaked s := by
  intro hover c
  cases hplace : s.place c with
  | unborn | closed => simp
  | hand h =>
    have hheld := hinv.hands c h hplace
    simp [hinv.inHand_eq_none hover h] at hheld
  | repair => exact absurd hplace (hover.repair c)
  | attached =>
    have hsession := hinv.attached c (by simp [hplace, Place.joins])
    simpa using hsession

/-- In a run in which no success stays unread, every connection is closed or attached once the
call is over, in the stream and in the datagram bootstrap. -/
theorem no_carrier_leaked (hcond : EachStep (step udp) NoneUnread init acts)
    (hrun : runActs (step udp) init acts = some s) : NoCarrierLeaked s :=
  (invariant_of_eachStep (fun _ _ _ hinv hcond hs => inv_step hinv hcond hs) inv_init hcond
    hrun).noCarrierLeaked

/-- Leg 1 wins over its fallback and leg 0 joins as the companion. -/
def joinedActs : List Act :=
  [.dialed .leg0, .timer, .dialFailed .leg1 true, .dialed .leg1, .greeted .leg1, .receive .leg1,
    .attach true, .greeted .leg0, .companionReceive .leg0, .companionSettle true]

theorem no_carrier_leaked_joined :
    ∃ s, runActs (step false) init joinedActs = some s ∧ s.call = .session .leg1 ∧
      s.place 0 = .attached ∧ s.place 1 = .attached ∧ NoCarrierLeaked s := by
  have hany : ((runActs (step false) init joinedActs).any fun s =>
      decide (s.call = .session .leg1 ∧ s.place 0 = .attached ∧ s.place 1 = .attached)) = true := by
    decide +kernel
  obtain ⟨s, hrun, hs⟩ := (Option.any_eq_true ..).1 hany
  obtain ⟨hcall, h0, h1⟩ := of_decide_eq_true hs
  exact ⟨s, hrun, hcall, h0, h1, no_carrier_leaked (by decide +kernel) hrun⟩

/-- The caller's context is cancelled while the hello of leg 0 is being written. -/
def cancelledActs : List Act :=
  [.dialed .leg0, .cancel, .greeted .leg0]

theorem not_noCarrierLeaked (hover : Over s) {c : Nat} {h : Hand} (hc : s.place c = .hand h) :
    ¬ NoCarrierLeaked s := by
  intro hnone
  rcases hnone hover c with hplace | hplace | ⟨hplace, -⟩ <;> simp [hc] at hplace

theorem cancelledActs_leak (udp : Bool) :
    ∃ s, runActs (step udp) init cancelledActs = some s ∧ s.call = .failed ∧ Over s ∧
      s.place 0 = .hand (.dial .leg0) ∧ ¬ NoCarrierLeaked s := by
  have hrun : ∃ s, runActs (step udp) init cancelledActs = some s ∧ s.call = .failed ∧ Over s ∧
      s.place 0 = .hand (.dial .leg0) := by
    refine ⟨_, rfl, rfl, ⟨.inl rfl, fun id => ?_, .inl rfl, fun c => ?_⟩, rfl⟩
    · cases id with
      | leg0 | leg1 => exact trivial
    · cases c with
      | zero | succ c => exact nofun
  obtain ⟨s, hrun, hcall, hover, hplace⟩ := hrun
  exact ⟨s, hrun, hcall, hover, hplace, not_noCarrierLeaked hover hplace⟩

theorem cancelled_leaks :
    (∃ s, runActs (step false) init cancelledActs = some s ∧ s.call = .failed ∧ Over s ∧
      s.place 0 = .hand (.dial .leg0) ∧ ¬ NoCarrierLeaked s) ∧
    (∃ s, runActs (step true) init cancelledActs = some s ∧ s.call = .failed ∧ Over s ∧
      s.place 0 = .hand (.dial .leg0) ∧ ¬ NoCarrierLeaked s) :=
  ⟨cancelledActs_leak false, cancelledActs_leak true⟩

end Runs

end Smp3Multipath.Native.BootstrapCarriers

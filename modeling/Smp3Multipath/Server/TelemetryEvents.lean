import Mathlib.Tactic.Common
import Smp3Multipath.Lib.Run

/-!
# Telemetry event streams

Lifecycle events get consecutive ids and go to a ring of bounded length.  A subscriber has a
cursor, the id of the last event it was handed, and a channel for one notification.  It is handed
the events after its `Last-Event-ID` when it subscribes, and those after its cursor when it is
activated and whenever it drains; when the ring has been trimmed past its cursor it is told that it
is stale instead.

Over every run the ids that a subscriber is handed are consecutive, and an active subscriber that
is behind has been woken or will be.  Every operation holds the lock of the registry throughout, so
each is one step.  An id is a natural number here: it would wrap after 2^64 events.
-/

namespace Smp3Multipath.Server.TelemetryEvents

open Lib.Run List

section Model

def telemetryMaxSSEClients : Nat := 32

structure Event where
  id : Nat
  kind : String
  time : Int
  displaySessionID : String
  mode : String
  legID : Option UInt8
deriving DecidableEq

/-- The states that a subscriber has between two operations. -/
inductive SubscriberState where
  | starting | active | closed
deriving DecidableEq

structure Subscriber where
  id : Nat
  state : SubscriberState
  cursor : Nat
  snapshotVersion : Nat
  /-- It is in the map of subscribers. -/
  registered : Bool
  /-- A notification is in the channel. -/
  notified : Bool
  /-- The consumer has received a notification and not drained since. -/
  received : Bool
  /-- The id before the first that is handed out: the `Last-Event-ID`, or the barrier when there is
  none or it is stale; a stale indication sets it anew. -/
  base : Nat
  /-- The events handed out since. -/
  handed : List Event
deriving DecidableEq

structure Config where
  enabled : Bool
  maxEvents : Nat

structure Registry where
  nextEventID : Nat
  lifecycleRing : List Event
  snapshotSeq : Nat
  subscribers : List Subscriber
  nextSubID : Nat
  sseClosed : Bool
  sseSlowDrops : Nat

def init : Registry where
  nextEventID := 0
  lifecycleRing := []
  snapshotSeq := 0
  subscribers := []
  nextSubID := 0
  sseClosed := false
  sseSlowDrops := 0

/-- The notification of a full channel is dropped: the consumer is awake. -/
def Subscriber.notify (u : Subscriber) : Subscriber :=
  if u.registered then { u with notified := true } else u

def Registry.notifySubscribersLocked (r : Registry) : Registry :=
  { r with subscribers := r.subscribers.map Subscriber.notify }

/-- The last `max` of a ring. -/
def trim (max : Nat) (ring : List Event) : List Event := ring.drop (ring.length - max)

def Registry.publishLifecycle (cfg : Config) (r : Registry) (kind displayID mode : String)
    (leg : Option UInt8) (time : Int) : Registry :=
  if cfg.enabled = false then r
  else if r.sseClosed then r
  else
    let event : Event := ⟨r.nextEventID + 1, kind, time, displayID, mode, leg⟩
    Registry.notifySubscribersLocked { r with
      nextEventID := r.nextEventID + 1
      lifecycleRing := trim cfg.maxEvents (r.lifecycleRing ++ [event]) }

def Registry.publishSnapshot (cfg : Config) (r : Registry) : Registry :=
  if cfg.enabled = false then r
  else if r.sseClosed then r
  else Registry.notifySubscribersLocked { r with snapshotSeq := r.snapshotSeq + 1 }

/-- The events behind a position are no longer all in the ring. -/
def Registry.trimmedPast (r : Registry) (position : Nat) : Bool :=
  match r.lifecycleRing with
  | [] => position < r.nextEventID
  | oldest :: _ => 0 < oldest.id ∧ position < oldest.id - 1

def Registry.eventsAfter (r : Registry) (position : Nat) : List Event :=
  r.lifecycleRing.filter fun e => position < e.id

/-- `SubscribeSSE` for a registry that is enabled; the result of the limit is the old registry. -/
def Registry.subscribeSSE (cfg : Config) (r : Registry) (afterID : Nat) (hasAfter : Bool) :
    Registry :=
  if cfg.enabled = false then r
  else if r.sseClosed ∨
      telemetryMaxSSEClients ≤ (r.subscribers.filter Subscriber.registered).length then r
  else
    let barrier := r.nextEventID
    let stale := hasAfter ∧ (barrier < afterID ∨ r.trimmedPast afterID)
    let replay := if hasAfter ∧ ¬stale then r.eventsAfter afterID else []
    let subscriber : Subscriber :=
      { id := r.nextSubID + 1
        state := .starting
        cursor := barrier
        snapshotVersion := r.snapshotSeq
        registered := true
        notified := false
        received := false
        base := if hasAfter ∧ ¬stale then afterID else barrier
        handed := replay }
    { r with nextSubID := r.nextSubID + 1, subscribers := subscriber :: r.subscribers }

/-- `claimLifecycleLocked`: the subscriber after it, and the stale indication. -/
def Registry.claimLifecycleLocked (r : Registry) (u : Subscriber) : Subscriber × Bool :=
  let last := r.nextEventID
  if last ≤ u.cursor then (u, false)
  else if r.trimmedPast u.cursor then ({ u with cursor := last, base := last, handed := [] }, true)
  else
    let events := r.eventsAfter u.cursor
    ({ u with
      cursor := (events.getLast?.map Event.id).getD u.cursor
      handed := u.handed ++ events }, false)

def Registry.snapshotChangedLocked (r : Registry) (u : Subscriber) : Subscriber :=
  if r.snapshotSeq ≤ u.snapshotVersion then u else { u with snapshotVersion := r.snapshotSeq }

def Registry.activateSSE (r : Registry) (u : Subscriber) : Subscriber :=
  if r.sseClosed ∨ u.registered = false ∨ u.state = .closed then u
  else { r.snapshotChangedLocked (r.claimLifecycleLocked u).1 with state := .active }

/-- A subscriber leaves the map and its channel is closed. -/
def Subscriber.leave (u : Subscriber) : Subscriber :=
  { u with registered := false, state := .closed }

/-- `drainSSE`: the subscriber after it, and whether it was disconnected as slow. -/
def Registry.drainSSE (r : Registry) (u : Subscriber) : Subscriber × Bool :=
  if r.sseClosed ∨ u.registered = false ∨ u.state ≠ .active then (u, false)
  else if (r.claimLifecycleLocked u).2 then ((r.claimLifecycleLocked u).1.leave, true)
  else (r.snapshotChangedLocked (r.claimLifecycleLocked u).1, false)

/-- One subscriber changes. -/
def Registry.modify (r : Registry) (id : Nat) (f : Subscriber → Subscriber) : Registry :=
  { r with subscribers := r.subscribers.map fun u => if u.id = id then f u else u }

inductive Act where
  | publishLifecycle (kind displayID mode : String) (leg : Option UInt8) (time : Int)
  | publishSnapshot
  | subscribe (afterID : Nat) (hasAfter : Bool)
  | activate (id : Nat)
  /-- The consumer receives the notification. -/
  | receive (id : Nat)
  | drain (id : Nat)
  | unsubscribe (id : Nat)
  | closeSubscribers
deriving DecidableEq

def step (cfg : Config) (r : Registry) : Act → Option Registry
  | .publishLifecycle kind displayID mode leg time =>
    some (r.publishLifecycle cfg kind displayID mode leg time)
  | .publishSnapshot => some (r.publishSnapshot cfg)
  | .subscribe afterID hasAfter => some (r.subscribeSSE cfg afterID hasAfter)
  | .activate id => some (r.modify id r.activateSSE)
  | .receive id =>
    some (r.modify id fun u =>
      if u.notified then { u with notified := false, received := true } else u)
  | .drain id =>
    let slow := r.subscribers.any fun u => u.id = id ∧ (r.drainSSE u).2
    some { r.modify id fun u => { (r.drainSSE u).1 with received := false } with
      sseSlowDrops := if slow then r.sseSlowDrops + 1 else r.sseSlowDrops }
  | .unsubscribe id => some (r.modify id Subscriber.leave)
  | .closeSubscribers =>
    some { r with sseClosed := true, subscribers := r.subscribers.map Subscriber.leave }

end Model

section Ring

/-- The ring has the last ids in order. -/
structure RingInv (r : Registry) : Prop where
  short : r.lifecycleRing.length ≤ r.nextEventID
  ids : r.lifecycleRing.map Event.id =
    List.range' (r.nextEventID + 1 - r.lifecycleRing.length) r.lifecycleRing.length

variable {r : Registry}

theorem RingInv.publish (h : RingInv r) (max : Nat) {event : Event}
    (hid : event.id = r.nextEventID + 1) :
    RingInv { r with
      nextEventID := r.nextEventID + 1
      lifecycleRing := trim max (r.lifecycleRing ++ [event]) } := by
  have hshort := h.short
  have happend : (r.lifecycleRing ++ [event]).map Event.id =
      List.range' (r.nextEventID + 1 - r.lifecycleRing.length) (r.lifecycleRing.length + 1) := by
    rw [map_append, h.ids, map_singleton, hid, List.range'_concat]
    congr 2
    omega
  constructor
  · simp only [trim, length_drop, length_append, length_singleton]
    omega
  · simp only [trim, map_drop, happend, drop_range', length_drop,
      length_append, length_singleton]
    congr 1
    omega

theorem filter_range' {c a n : Nat} (ha : a ≤ c + 1) (hn : c + 1 ≤ a + n) :
    (List.range' a n).filter (fun i => c < i) = List.range' (c + 1) (a + n - (c + 1)) := by
  induction n generalizing a with
  | zero =>
    have hca : a + 0 - (c + 1) = 0 := by omega
    rw [hca]
    rfl
  | succ n ih =>
    rw [List.range'_succ]
    by_cases hlt : c < a
    · have hac : a = c + 1 := by omega
      have hall : ∀ i ∈ List.range' (a + 1) n, decide (c < i) = true := by
        intro i hi
        rw [mem_range'_1] at hi
        exact decide_eq_true (by omega)
      rw [filter_cons_of_pos (by simpa using hlt), filter_eq_self.2 hall, hac,
        Nat.add_sub_cancel_left, List.range'_succ]
    · rw [filter_cons_of_neg (by simpa using hlt), ih (by omega) (by omega)]
      congr 1
      omega

theorem RingInv.eventsAfter (h : RingInv r) {c : Nat} (hc : c ≤ r.nextEventID)
    (hring : r.trimmedPast c = false) :
    (r.eventsAfter c).map Event.id = List.range' (c + 1) (r.nextEventID - c) := by
  have hshort := h.short
  have hids := h.ids
  have hreach : r.nextEventID ≤ c + r.lifecycleRing.length := by
    cases hr : r.lifecycleRing with
    | nil =>
      simp only [Registry.trimmedPast, hr, decide_eq_false_iff_not] at hring
      simp only [length_nil]
      omega
    | cons oldest rest =>
      rw [hr, map_cons, length_cons, List.range'_succ, List.cons.injEq] at hids
      simp only [Registry.trimmedPast, hr, decide_eq_false_iff_not] at hring
      rw [hr] at hshort
      simp only [length_cons] at hshort ⊢
      omega
  have hfilter : (r.eventsAfter c).map Event.id =
      (r.lifecycleRing.map Event.id).filter fun i => c < i := by
    rw [filter_map]
    rfl
  rw [hfilter, hids, filter_range' (by omega) (by omega)]
  congr 1
  omega

end Ring

section Invariant

/-- What holds of a subscriber when `last` is the last id. -/
structure SubInv (closed : Bool) (last : Nat) (u : Subscriber) : Prop where
  cursor_le : u.cursor ≤ last
  base_le : u.base ≤ u.cursor
  handed : u.handed.map Event.id = List.range' (u.base + 1) (u.cursor - u.base)
  gone : closed = true → u.registered = false
  awake : u.registered = true → u.state = .active → u.cursor < last →
    u.notified = true ∨ u.received = true

structure Inv (r : Registry) : Prop where
  ring : RingInv r
  subscribers : ∀ u ∈ r.subscribers, SubInv r.sseClosed r.nextEventID u

theorem inv_init : Inv init :=
  ⟨⟨Nat.le_refl 0, rfl⟩, fun _ hu => absurd hu not_mem_nil⟩

variable {r : Registry} {u : Subscriber} {closed : Bool} {last : Nat}

/-- The same subscribers, each changed in a way that keeps what holds of it. -/
theorem Inv.modify (h : Inv r) {f : Subscriber → Subscriber} (id : Nat)
    (hf : ∀ u, SubInv r.sseClosed r.nextEventID u → SubInv r.sseClosed r.nextEventID (f u)) :
    Inv (r.modify id f) := by
  refine ⟨⟨h.ring.short, h.ring.ids⟩, fun u' hu' => ?_⟩
  obtain ⟨u, hu, rfl⟩ := mem_map.1 hu'
  have hsub := h.subscribers u hu
  split
  · exact hf u hsub
  · exact hsub

theorem SubInv.leave (h : SubInv closed last u) (closed' : Bool) : SubInv closed' last u.leave :=
  ⟨h.cursor_le, h.base_le, h.handed, fun _ => rfl, fun hr => absurd hr Bool.false_ne_true⟩

theorem SubInv.notify (h : SubInv closed last u) {last' : Nat} (hle : last ≤ last') :
    SubInv closed last' u.notify := by
  have hcursor := Nat.le_trans h.cursor_le hle
  unfold Subscriber.notify
  split
  · exact ⟨hcursor, h.base_le, h.handed, h.gone, fun _ _ _ => .inl rfl⟩
  · next hr => exact ⟨hcursor, h.base_le, h.handed, h.gone, fun hreg => absurd hreg hr⟩

theorem Inv.notifySubscribersLocked {r' : Registry} (h : Inv r) (hring : RingInv r')
    (hsubscribers : r'.subscribers = r.subscribers) (hclosed : r'.sseClosed = r.sseClosed)
    (hlast : r.nextEventID ≤ r'.nextEventID) : Inv r'.notifySubscribersLocked := by
  refine ⟨⟨hring.short, hring.ids⟩, fun u' hu' => ?_⟩
  obtain ⟨u, hu, rfl⟩ := mem_map.1 hu'
  have hsub := h.subscribers u (hsubscribers ▸ hu)
  rw [← hclosed] at hsub
  exact hsub.notify hlast

/-- A subscriber that has been brought up to the last id. -/
structure UpToDate (closed : Bool) (last : Nat) (u : Subscriber) : Prop where
  cursor_eq : u.cursor = last
  base_le : u.base ≤ last
  handed : u.handed.map Event.id = List.range' (u.base + 1) (last - u.base)
  gone : closed = true → u.registered = false

theorem UpToDate.subInv (h : UpToDate closed last u) : SubInv closed last u where
  cursor_le := Nat.le_of_eq h.cursor_eq
  base_le := Nat.le_trans h.base_le (Nat.le_of_eq h.cursor_eq.symm)
  handed := by rw [h.cursor_eq, h.handed]
  gone := h.gone
  awake _ _ hlt := absurd h.cursor_eq (Nat.ne_of_lt hlt)

/-- A claim brings the subscriber up to the last id: the new ids go on where the old ones end. -/
theorem SubInv.claimLifecycleLocked (hring : RingInv r) (h : SubInv closed r.nextEventID u) :
    UpToDate closed r.nextEventID (r.claimLifecycleLocked u).1 := by
  have hbase := h.base_le
  have hle := h.cursor_le
  simp only [Registry.claimLifecycleLocked]
  split
  · next hge =>
    have hcursor := Nat.le_antisymm hle hge
    exact ⟨hcursor, Nat.le_trans hbase hle, by rw [h.handed, hcursor], h.gone⟩
  split
  · refine ⟨rfl, Nat.le_refl _, ?_, h.gone⟩
    simp only [map_nil, Nat.sub_self, List.range'_zero]
  · next hlt htrimmed =>
    have hids := hring.eventsAfter hle (Bool.eq_false_iff.2 htrimmed)
    refine ⟨?_, Nat.le_trans hbase hle, ?_, h.gone⟩
    · simp only
      rw [← getLast?_map, hids, getLast?_range', if_neg (by omega), Option.getD_some]
      omega
    · have hjoin : u.cursor + 1 = u.base + 1 + (u.cursor - u.base) := by omega
      have hlength : r.nextEventID - u.base =
          (u.cursor - u.base) + (r.nextEventID - u.cursor) := by omega
      simp only
      rw [map_append, h.handed, hids, hjoin, List.range'_append_1, hlength]

theorem UpToDate.snapshotChangedLocked (h : UpToDate closed last u) :
    UpToDate closed last (r.snapshotChangedLocked u) := by
  unfold Registry.snapshotChangedLocked
  split
  · exact h
  · exact ⟨h.cursor_eq, h.base_le, h.handed, h.gone⟩

theorem SubInv.activate (hring : RingInv r) (h : SubInv closed r.nextEventID u) :
    SubInv closed r.nextEventID (r.activateSSE u) := by
  unfold Registry.activateSSE
  split
  · exact h
  · have hclaim := (h.claimLifecycleLocked hring).snapshotChangedLocked (r := r)
    exact UpToDate.subInv ⟨hclaim.cursor_eq, hclaim.base_le, hclaim.handed, hclaim.gone⟩

/-- After a drain an active subscriber is not behind, so that it needs no notification. -/
theorem SubInv.drain (hring : RingInv r) (h : SubInv r.sseClosed r.nextEventID u) :
    SubInv r.sseClosed r.nextEventID { (r.drainSSE u).1 with received := false } := by
  unfold Registry.drainSSE
  split
  · next hc =>
    refine ⟨h.cursor_le, h.base_le, h.handed, h.gone, fun hreg hactive => ?_⟩
    have hreg : u.registered = true := hreg
    have hactive : u.state = .active := hactive
    have hgone := h.gone
    grind
  split
  · have hleave := (h.claimLifecycleLocked hring).subInv.leave r.sseClosed
    exact ⟨hleave.cursor_le, hleave.base_le, hleave.handed, hleave.gone,
      fun hr => absurd hr Bool.false_ne_true⟩
  · have hclaim := (h.claimLifecycleLocked hring).snapshotChangedLocked (r := r)
    exact UpToDate.subInv ⟨hclaim.cursor_eq, hclaim.base_le, hclaim.handed, hclaim.gone⟩

theorem SubInv.receive (h : SubInv closed last u) : SubInv closed last
    (if u.notified then { u with notified := false, received := true } else u) := by
  split
  · exact ⟨h.cursor_le, h.base_le, h.handed, h.gone, fun _ _ _ => .inr rfl⟩
  · exact h

theorem Inv.subscribe (cfg : Config) (h : Inv r) (afterID : Nat) (hasAfter : Bool) :
    Inv (r.subscribeSSE cfg afterID hasAfter) := by
  unfold Registry.subscribeSSE
  split
  · exact h
  split
  · exact h
  next hopen =>
  refine ⟨⟨h.ring.short, h.ring.ids⟩, forall_mem_cons.2 ⟨?_, h.subscribers⟩⟩
  refine UpToDate.subInv ⟨rfl, ?_, ?_, fun hc => absurd (.inl hc) hopen⟩
  · dsimp only
    split
    · next hafter =>
      have hstale := hafter.2
      simp only [hafter.1, true_and, not_or, Nat.not_lt] at hstale
      exact hstale.1
    · exact Nat.le_refl _
  · dsimp only
    split
    · next hafter =>
      have hstale := hafter.2
      simp only [hafter.1, true_and, not_or, Nat.not_lt] at hstale
      exact h.ring.eventsAfter hstale.1 (Bool.eq_false_iff.2 hstale.2)
    · simp only [map_nil, Nat.sub_self, List.range'_zero]

theorem inv_step (cfg : Config) (r : Registry) (a : Act) (r' : Registry) (h : Inv r)
    (hs : step cfg r a = some r') : Inv r' := by
  cases a with
  | publishLifecycle kind displayID mode leg time =>
    cases hs
    unfold Registry.publishLifecycle
    split
    · exact h
    split
    · exact h
    · exact h.notifySubscribersLocked (h.ring.publish cfg.maxEvents rfl) rfl rfl (Nat.le_succ _)
  | publishSnapshot =>
    cases hs
    unfold Registry.publishSnapshot
    split
    · exact h
    split
    · exact h
    · exact h.notifySubscribersLocked ⟨h.ring.short, h.ring.ids⟩ rfl rfl (Nat.le_refl _)
  | subscribe afterID hasAfter =>
    cases hs
    exact h.subscribe cfg afterID hasAfter
  | activate id =>
    cases hs
    exact h.modify id fun _ hu => hu.activate h.ring
  | receive id =>
    cases hs
    exact h.modify id fun _ hu => hu.receive
  | drain id =>
    cases hs
    have hdrain := h.modify (f := fun u => { (r.drainSSE u).1 with received := false }) id
      fun _ hu => hu.drain h.ring
    exact ⟨⟨hdrain.ring.short, hdrain.ring.ids⟩, hdrain.subscribers⟩
  | unsubscribe id =>
    cases hs
    exact h.modify id fun _ hu => hu.leave r.sseClosed
  | closeSubscribers =>
    cases hs
    refine ⟨⟨h.ring.short, h.ring.ids⟩, fun u' hu' => ?_⟩
    obtain ⟨u, hu, rfl⟩ := mem_map.1 hu'
    exact (h.subscribers u hu).leave true

end Invariant

/-- In every state of every run, for every subscriber: the ids it has been handed since it
subscribed, or since it was last told that it is stale, are those after its base up to its cursor;
and if it is active and behind, a notification is in its channel or has been received and not
drained. -/
theorem streams_gap_free (cfg : Config) (r : Registry) (h : Reachable (step cfg) init r) :
    ∀ u ∈ r.subscribers,
      u.handed.map Event.id = List.range' (u.base + 1) (u.cursor - u.base) ∧
      (u.registered = true → u.state = .active → u.cursor < r.nextEventID →
        u.notified = true ∨ u.received = true) := by
  intro u hu
  have hsub := (h.invariant inv_init (inv_step cfg)).subscribers u hu
  exact ⟨hsub.handed, hsub.awake⟩

/-- A ring of two events; the subscriber comes back with the first id, and an event is published
after it has drained. -/
def resumedActs : List Act :=
  [.publishLifecycle "a" "s" "stream" none 1, .publishLifecycle "b" "s" "stream" none 2,
    .subscribe 1 true, .publishLifecycle "c" "s" "stream" none 3, .activate 1, .receive 1, .drain 1,
    .publishLifecycle "d" "s" "stream" none 4]

theorem streams_gap_free_resumed :
    ∃ r, runActs (step ⟨true, 2⟩) init resumedActs = some r ∧
      ∀ u ∈ r.subscribers, u.base = 1 ∧ u.handed.map Event.id = [2, 3] ∧ u.notified = true := by
  refine ⟨_, rfl, ?_⟩
  intro u hu
  have hstream := streams_gap_free ⟨true, 2⟩ _ ⟨resumedActs, rfl⟩ u hu
  rw [mem_singleton.1 hu] at hstream ⊢
  exact ⟨rfl, hstream.1, (hstream.2 rfl rfl (by decide)).resolve_right (by decide)⟩

end Smp3Multipath.Server.TelemetryEvents

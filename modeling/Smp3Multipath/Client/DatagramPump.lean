import Mathlib.Logic.Function.Basic
import Smp3Multipath.Lib.Run

/-!
# The pump of a datagram association

`pumpCore` reads the current engine, receives from it, and waits on the engine event when there is
no engine or when the engine has ended.  `ensureEngine` replaces an engine that has ended, and
swaps the event for a new one, under `engineMu`.  The pump reads the engine and the event in two
critical sections: when a replacement comes between them, the pump waits on the event of the next
replacement while the new engine is live.

Engines and events are numbered in the order in which they come; the events before the current one
are closed.
-/

namespace Smp3Multipath.Client.DatagramPump

open Lib.Run Function Option

section System

/-- Where `pumpCore` is. -/
inductive Pump where
  | top
  /-- There was no engine. -/
  | noEngine
  | receiving (engine : Nat)
  /-- `Receive` has returned `ErrDatagramClosed`. -/
  | ended (engine : Nat)
  | waiting (event : Nat)
  | exited
deriving DecidableEq

structure State where
  engine : Option Nat
  engines : Nat
  done : Nat → Bool
  event : Nat
  closed : Bool
  /-- `ctx` is done. -/
  cancelled : Bool
  /-- `ensureEngine` holds `engineMu` and has found no live engine. -/
  ensuring : Bool
  /-- `Close` is past its critical section. -/
  swept : Bool
  pump : Pump

def init : State :=
  { engine := none, engines := 0, done := fun _ => false, event := 0, closed := false
    cancelled := false, ensuring := false, swept := false, pump := .top }

/-- The current engine, unless it has ended. -/
def State.live (s : State) : Option Nat :=
  s.engine.filter fun e => !s.done e

inductive Act where
  /-- `ensureEngine` goes to dial, and returns with an error or a new engine. -/
  | ensure
  | giveUp
  | replace
  /-- An engine ends: idle, without legs, or closed. -/
  | terminate (engine : Nat)
  | readEngine
  /-- `Receive` returns a datagram, which is written to the local peer. -/
  | datagram
  | receiveClosed
  | readEvent
  | wake
  /-- `Close` sets the flag. -/
  | close
  /-- `Close` cancels the context, or the client does. -/
  | cancel
  /-- `Close` closes the event under `engineMu`, and the engine. -/
  | sweep
deriving DecidableEq

def step (s : State) : Act → Option State
  | .ensure =>
    if s.ensuring = false ∧ s.closed = false ∧ s.live = none then
      some { s with ensuring := true }
    else none
  | .giveUp => if s.ensuring = true then some { s with ensuring := false } else none
  -- the old engine is closed; it has ended before
  | .replace =>
    if s.ensuring = true then
      some
        { s with
          engine := some s.engines
          engines := s.engines + 1
          event := s.event + 1
          ensuring := false }
    else none
  | .terminate e => if e < s.engines then some { s with done := update s.done e true } else none
  | .readEngine =>
    if s.pump = .top ∧ s.ensuring = false then
      some { s with pump := match s.engine with | none => .noEngine | some e => .receiving e }
    else none
  | .datagram =>
    match s.pump with
    | .receiving _ => some { s with pump := .top }
    | _ => none
  | .receiveClosed =>
    match s.pump with
    | .receiving e =>
      if s.done e = true then some { s with pump := if s.closed then .exited else .ended e }
      else none
    | _ => none
  | .readEvent =>
    match s.pump with
    | .noEngine | .ended _ =>
      if s.ensuring = false then some { s with pump := .waiting s.event } else none
    | _ => none
  | .wake =>
    match s.pump with
    | .waiting ev =>
      if s.cancelled = true then some { s with pump := .exited }
      else if ev < s.event then some { s with pump := .top }
      else none
    | _ => none
  | .close => some { s with closed := true }
  | .cancel => some { s with cancelled := true }
  | .sweep =>
    if s.closed = true ∧ s.cancelled = true ∧ s.swept = false ∧ s.ensuring = false then
      some
        { s with
          event := s.event + 1
          done := match s.engine with | none => s.done | some e => update s.done e true
          swept := true }
    else none

end System

section Specification

/-- The association is neither closed nor cancelled. -/
def State.isOpen (s : State) : Prop :=
  s.closed = false ∧ s.cancelled = false
deriving Decidable

/-- While the association is open and has a live engine, the pump has not left, does not wait on
the event of the next replacement, and receives from no other engine that is live. -/
def Pumping (s : State) : Prop :=
  s.isOpen → ∀ e, s.live = some e →
    s.pump ≠ .exited ∧ s.pump ≠ .waiting s.event ∧
      ∀ e', s.pump = .receiving e' → e' = e ∨ s.done e' = true

/-- The pump has read the engine, and will read the event next when `Receive` finds it ended. -/
def Pump.exposed : Pump → Bool
  | .noEngine | .receiving _ | .ended _ => true
  | _ => false

/-- No engine is installed between the pump's read of the engine and its read of the event. -/
def NoSwap (s : State) (a : Act) : Prop :=
  a = .replace → s.pump.exposed = false
deriving Decidable

end Specification

section Engines

variable {s : State} {e : Nat}

theorem live_eq_some : s.live = some e ↔ s.engine = some e ∧ s.done e = false := by
  simp [State.live, filter_eq_some_iff]

theorem live_eq_none : s.live = none ↔ ∀ e, s.engine = some e → s.done e = true := by
  simp [State.live, filter_eq_none_iff]

theorem live_terminate (d : Nat) (hlive : s.live = none) :
    State.live { s with done := update s.done d true } = none := by
  rw [live_eq_none] at hlive ⊢
  intro e he
  by_cases hd : e = d
  · simp [hd]
  · simpa [hd] using hlive e he

end Engines

section Runs

variable {s s' : State} {a : Act} {acts : List Act}

/-- What the pump knows of the engine. -/
def PumpOk (s : State) : Pump → Prop
  | .top => True
  | .noEngine => s.engine = none
  | .receiving e => s.engine = some e
  | .ended e => s.engine = some e ∧ s.done e = true
  | .waiting ev => ev ≤ s.event ∧ (ev = s.event → s.live = none)
  | .exited => False

structure Inv (s : State) : Prop where
  pump : s.isOpen → PumpOk s s.pump
  ensuring : s.ensuring = true → s.live = none

theorem inv_init : Inv init where
  pump := fun _ => trivial
  ensuring := fun h => nomatch h

theorem pumpOk_terminate (d : Nat) {p : Pump} (hp : PumpOk s p) :
    PumpOk { s with done := update s.done d true } p := by
  cases p with
  | top => trivial
  | noEngine | receiving e | exited => exact hp
  | ended e =>
    refine ⟨hp.1, ?_⟩
    by_cases hd : e = d
    · simp [hd]
    · simpa [hd] using hp.2
  | waiting ev => exact ⟨hp.1, fun hev => live_terminate d (hp.2 hev)⟩

/-- A pump that is not between its reads is woken by the replacement, if it waits. -/
theorem pumpOk_replace (hp : PumpOk s s.pump) (hexposed : s.pump.exposed = false) :
    PumpOk
      { s with
        engine := some s.engines, engines := s.engines + 1, event := s.event + 1
        ensuring := false }
      s.pump := by
  generalize s.pump = p at hp hexposed
  cases p with
  | top => trivial
  | noEngine | receiving e | ended e => cases hexposed
  | waiting ev =>
    obtain ⟨hle, -⟩ := hp
    refine ⟨?_, fun hev => ?_⟩
    · change ev ≤ s.event + 1
      omega
    · change ev = s.event + 1 at hev
      omega
  | exited => exact hp

theorem inv_step (hinv : Inv s) (hcond : NoSwap s a) (hs : step s a = some s') : Inv s' := by
  cases a with
  | ensure =>
    obtain ⟨⟨-, -, hlive⟩, hs'⟩ := ite_none_right_eq_some.1 hs
    cases hs'
    exact ⟨hinv.pump, fun _ => hlive⟩
  | giveUp =>
    obtain ⟨-, ⟨⟩⟩ := ite_none_right_eq_some.1 hs
    exact ⟨hinv.pump, fun h => nomatch h⟩
  | replace =>
    obtain ⟨-, ⟨⟩⟩ := ite_none_right_eq_some.1 hs
    exact ⟨fun hopen => pumpOk_replace (hinv.pump hopen) (hcond rfl), fun h => nomatch h⟩
  | terminate d =>
    obtain ⟨-, ⟨⟩⟩ := ite_none_right_eq_some.1 hs
    exact ⟨fun hopen => pumpOk_terminate d (hinv.pump hopen),
      fun h => live_terminate d (hinv.ensuring h)⟩
  | readEngine =>
    obtain ⟨-, ⟨⟩⟩ := ite_none_right_eq_some.1 hs
    refine ⟨fun _ => ?_, hinv.ensuring⟩
    cases s.engine with
    | none | some e => rfl
  | datagram =>
    simp only [step] at hs
    split at hs <;> cases hs
    exact ⟨fun _ => trivial, hinv.ensuring⟩
  | receiveClosed =>
    simp only [step] at hs
    split at hs
    next e hpump =>
      obtain ⟨hdone, ⟨⟩⟩ := ite_none_right_eq_some.1 hs
      refine ⟨fun hopen => ?_, hinv.ensuring⟩
      have hp := hinv.pump hopen
      have hclosed : s.closed = false := hopen.1
      simp only [hpump, hclosed] at hp ⊢
      exact ⟨hp, hdone⟩
    · cases hs
  | readEvent =>
    have hwait (hp : s.isOpen → s.live = none) : Inv { s with pump := .waiting s.event } :=
      ⟨fun hopen => ⟨Nat.le_refl _, fun _ => hp hopen⟩, hinv.ensuring⟩
    simp only [step] at hs
    split at hs
    next hpump =>
      obtain ⟨-, ⟨⟩⟩ := ite_none_right_eq_some.1 hs
      refine hwait fun hopen => live_eq_none.2 fun e he => ?_
      have hp := hinv.pump hopen
      simp [hpump, PumpOk, he] at hp
    next d hpump =>
      obtain ⟨-, ⟨⟩⟩ := ite_none_right_eq_some.1 hs
      refine hwait fun hopen => live_eq_none.2 fun e he => ?_
      have hp := hinv.pump hopen
      simp only [hpump, PumpOk, he, Option.some.injEq] at hp
      exact hp.1 ▸ hp.2
    · cases hs
  | wake =>
    simp only [step] at hs
    split at hs
    · split at hs
      next hcancelled =>
        cases hs
        refine ⟨fun hopen => ?_, hinv.ensuring⟩
        have : s.cancelled = false := hopen.2
        simp [this] at hcancelled
      · obtain ⟨-, ⟨⟩⟩ := ite_none_right_eq_some.1 hs
        exact ⟨fun _ => trivial, hinv.ensuring⟩
    · cases hs
  | close =>
    cases hs
    exact ⟨fun hopen => absurd hopen.1 (by simp), hinv.ensuring⟩
  | cancel =>
    cases hs
    exact ⟨fun hopen => absurd hopen.2 (by simp), hinv.ensuring⟩
  | sweep =>
    obtain ⟨⟨hclosed, -, -, hfree⟩, hs'⟩ := ite_none_right_eq_some.1 hs
    cases hs'
    refine ⟨fun hopen => ?_, fun h => ?_⟩
    · have : s.closed = false := hopen.1
      simp [this] at hclosed
    · change s.ensuring = true at h
      simp [h] at hfree

theorem Inv.pumping (hinv : Inv s) : Pumping s := by
  intro hopen e hlive
  have hp := hinv.pump hopen
  refine ⟨fun hpump => ?_, fun hpump => ?_, fun e' hpump => ?_⟩
  · rw [hpump] at hp
    exact hp
  · rw [hpump] at hp
    simp [hp.2 rfl] at hlive
  · rw [hpump] at hp
    have he : s.engine = some e := (live_eq_some.1 hlive).1
    left
    simpa [PumpOk, he, eq_comm] using hp

/-- In a run in which no engine is installed between the pump's two reads, the pump serves the
live engine in every state reached. -/
theorem pump_serves_live (hcond : EachStep step NoSwap init acts)
    (hrun : runActs step init acts = some s) : Pumping s :=
  (invariant_of_eachStep (fun _ _ _ hinv hcond hs => inv_step hinv hcond hs) inv_init hcond
    hrun).pumping

/-- The pump waits for the first engine, receives, and waits for the second one. -/
def servedActs : List Act :=
  [.readEngine, .readEvent, .ensure, .replace, .wake, .readEngine, .datagram, .readEngine,
    .terminate 0, .receiveClosed, .readEvent, .ensure, .replace, .wake, .readEngine]

theorem pump_serves_second :
    ∃ s, runActs step init servedActs = some s ∧ s.live = some 1 ∧ s.pump = .receiving 1 ∧
      Pumping s := by
  have hany : ((runActs step init servedActs).any fun s =>
      decide (s.live = some 1 ∧ s.pump = .receiving 1)) = true := by
    decide +kernel
  obtain ⟨s, hrun, hs⟩ := (any_eq_true ..).1 hany
  obtain ⟨hlive, hpump⟩ := of_decide_eq_true hs
  exact ⟨s, hrun, hlive, hpump, pump_serves_live (by decide +kernel) hrun⟩

/-- The pump finds no engine, the first engine is installed, and the pump reads the event that
only the second one closes. -/
theorem firstEngine_unserved :
    ∃ s, runActs step init [.readEngine, .ensure, .replace, .readEvent] = some s ∧ s.isOpen ∧
      s.live = some 0 ∧ s.pump = .waiting s.event ∧ step s .wake = none ∧ ¬ Pumping s := by
  have hany : ((runActs step init [.readEngine, .ensure, .replace, .readEvent]).any fun s =>
      decide (s.isOpen ∧ s.live = some 0 ∧ s.pump = .waiting s.event ∧
        (step s .wake).isNone = true)) = true := by
    decide +kernel
  obtain ⟨s, hrun, hs⟩ := (any_eq_true ..).1 hany
  obtain ⟨hopen, hlive, hpump, hwake⟩ := of_decide_eq_true hs
  refine ⟨s, hrun, hopen, hlive, hpump, isNone_iff_eq_none.1 hwake, fun hpumping => ?_⟩
  exact (hpumping hopen 0 hlive).2.1 hpump

end Runs

end Smp3Multipath.Client.DatagramPump

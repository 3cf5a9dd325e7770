import Smp3Multipath.Core.StreamTx
import Smp3Multipath.Lib.Run

/-!
# Telemetry records of a session

A carrier handler registers its session with the telemetry, binds it and marks its leg as up after
the Core has attached the carrier: the session is live by then.  The watcher's `RemoveSession` and
the carrier's `DetachLeg` do nothing if there is no record yet, so a registration that comes after
the removal leaves a record that nobody closes, and a mark that comes after the detachment leaves
a leg up whose carrier is gone.

The model is of one session, with any number of carriers.  A leg that is up names the carrier it
was marked for.
-/

namespace Smp3Multipath.Server.TelemetryRecords

open Lib.Run Smp3Multipath.Core Function Option

/-- `telemetrySessionRecord`: is `closedAt` set, and which legs are up? -/
structure Record where
  closed : Bool := false
  up : LegID → Option Nat := fun _ => none

/-- `telemetryOnce`. -/
inductive Once where
  | fresh
  /-- Handler `i` has registered the session and has still to bind it. -/
  | registered (i : Nat)
  | bound
deriving DecidableEq

inductive Phase where
  | idle
  /-- The Core has the carrier, and the telemetry has not. -/
  | attached
  /-- `AttachLegWithRole` has run. -/
  | tracked
deriving DecidableEq

structure Carrier where
  leg : LegID := 0
  phase : Phase := .idle
  closed : Bool := false
  /-- The close callback has run. -/
  detached : Bool := false
deriving DecidableEq

structure State where
  record : Option Record := none
  once : Once := .fresh
  carriers : Nat → Carrier := fun _ => {}
  /-- The watcher has removed the session. -/
  removed : Bool := false

def State.setCarrier (s : State) (i : Nat) (c : Carrier) : State :=
  { s with carriers := update s.carriers i c }

/-- `RegisterSessionWithRole`; `full` says that the registry is at its limit. -/
def registerSession (full : Bool) (record : Option Record) : Option Record :=
  if record.isSome then record else if full then none else some {}

def attachLegWithRole (i : Nat) (leg : LegID) (record : Option Record) : Option Record :=
  record.map fun r => { r with up := update r.up leg (some i) }

def detachLeg (leg : LegID) (record : Option Record) : Option Record :=
  record.map fun r => { r with up := update r.up leg none }

def removeSession (record : Option Record) : Option Record :=
  record.map fun r => if r.closed then r else { closed := true }

inductive Act where
  | attach (i : Nat) (leg : LegID)
  | register (i : Nat) (full : Bool)
  | bind (i : Nat)
  | track (i : Nat)
  | closeCarrier (i : Nat)
  | detach (i : Nat)
  | remove
  /-- `pruneClosedLocked`, once the grace of a closed record is over. -/
  | prune
deriving DecidableEq

def step (s : State) : Act → Option State
  | .attach i leg =>
    if (s.carriers i).phase = .idle then
      some (s.setCarrier i { leg := leg, phase := .attached })
    else none
  | .register i full =>
    if (s.carriers i).phase = .attached ∧ s.once = .fresh then
      some { s with record := registerSession full s.record, once := .registered i }
    else none
  | .bind i => if s.once = .registered i then some { s with once := .bound } else none
  | .track i =>
    let c := s.carriers i
    if c.phase = .attached ∧ s.once = .bound then
      some
        { s.setCarrier i { c with phase := .tracked } with
          record := attachLegWithRole i c.leg s.record }
    else none
  | .closeCarrier i =>
    let c := s.carriers i
    if c.phase ≠ .idle then some (s.setCarrier i { c with closed := true }) else none
  | .detach i =>
    let c := s.carriers i
    if c.closed = true ∧ c.detached = false then
      some
        { s.setCarrier i { c with detached := true } with record := detachLeg c.leg s.record }
    else none
  | .remove =>
    if s.removed = false then some { s with removed := true, record := removeSession s.record }
    else none
  | .prune => if s.record.any Record.closed then some { s with record := none } else none

/-- The handlers and the callbacks have finished, and the session is removed. -/
structure Completed (s : State) : Prop where
  removed : s.removed = true
  tracked : ∀ i, (s.carriers i).phase ≠ .attached
  detached : ∀ i, (s.carriers i).closed = true → (s.carriers i).detached = true

/-- No record is left unclosed, and no leg is up whose carrier is closed. -/
def Clean (s : State) : Prop :=
  ∀ r, s.record = some r → r.closed = true ∧
    ∀ leg i, r.up leg = some i → (s.carriers i).closed = false

/-- The removal comes after the last handler, and a detachment after the mark of its leg. -/
def InOrder (s : State) : Act → Prop
  | .attach _ _ => s.removed = false
  | .detach i => (s.carriers i).phase = .tracked
  | .remove => ∀ i, (s.carriers i).phase ≠ .attached
  | _ => True

section Invariant

variable {s s' : State} {a : Act} {record : Option Record}

/-- The carrier that a leg is up for. -/
def marked (record : Option Record) (leg : LegID) : Option Nat :=
  record.bind fun r => r.up leg

/-- A carrier under its number: none is left to register after the removal, it is detached only
after it was tracked, and a leg that is up for it is its leg, tracked and not detached. -/
structure CarrierOk (removed : Bool) (record : Option Record) (i : Nat) (c : Carrier) : Prop where
  late : removed = true → c.phase ≠ .attached
  unmarked : c.phase ≠ .tracked → c.detached = false
  up : ∀ leg, marked record leg = some i →
    c.leg = leg ∧ c.phase = .tracked ∧ c.detached = false

structure Inv (s : State) : Prop where
  closed : s.removed = true → ∀ r, s.record = some r → r.closed = true
  carriers : ∀ i, CarrierOk s.removed s.record i (s.carriers i)

theorem marked_attachLegWithRole {i j : Nat} {leg leg' : LegID}
    (h : marked (attachLegWithRole i leg record) leg' = some j) :
    leg' = leg ∧ j = i ∨ marked record leg' = some j := by
  cases record with
  | none => cases h
  | some r =>
    by_cases hleg : leg' = leg
    · subst hleg
      simp only [marked, attachLegWithRole, map_some, bind_some,
        update_self, Option.some.injEq] at h
      exact .inl ⟨rfl, h.symm⟩
    · right
      simpa [marked, attachLegWithRole, hleg] using h

theorem marked_detachLeg {j : Nat} {leg leg' : LegID}
    (h : marked (detachLeg leg record) leg' = some j) :
    leg' ≠ leg ∧ marked record leg' = some j := by
  cases record with
  | none => cases h
  | some r =>
    by_cases hleg : leg' = leg
    · subst hleg
      simp [marked, detachLeg] at h
    · refine ⟨hleg, ?_⟩
      simpa [marked, detachLeg, hleg] using h

theorem marked_removeSession {j : Nat} {leg : LegID}
    (h : marked (removeSession record) leg = some j) : marked record leg = some j := by
  cases record with
  | none => cases h
  | some r =>
    simp only [marked, removeSession, map_some, bind_some] at h ⊢
    split at h
    · exact h
    · cases h

theorem marked_registerSession {j : Nat} {leg : LegID} {full : Bool}
    (h : marked (registerSession full record) leg = some j) : marked record leg = some j := by
  unfold registerSession at h
  split_ifs at h
  · exact h
  · cases h
  · cases h

theorem Inv.setCarrier {i : Nat} {c : Carrier} (h : Inv s)
    (hclosed : s.removed = true → ∀ r, record = some r → r.closed = true)
    (hmarked : ∀ leg j, j ≠ i → marked record leg = some j → marked s.record leg = some j)
    (hi : CarrierOk s.removed record i c) : Inv { s.setCarrier i c with record := record } := by
  refine ⟨hclosed, fun j => ?_⟩
  by_cases hj : j = i
  · subst hj
    simpa [State.setCarrier] using hi
  · obtain ⟨hlate, hunmarked, hup⟩ := h.carriers j
    have hok : CarrierOk s.removed record j (s.carriers j) :=
      ⟨hlate, hunmarked, fun leg hleg => hup leg (hmarked leg j hj hleg)⟩
    simpa [State.setCarrier, hj] using hok

theorem inv_step (h : Inv s) (hord : InOrder s a) (hs : step s a = some s') : Inv s' := by
  cases a with
  | attach i leg =>
    obtain ⟨hidle, ⟨⟩⟩ := ite_none_right_eq_some.1 hs
    refine h.setCarrier h.closed (fun _ _ _ hm => hm) ⟨fun hrem => ?_, fun _ => rfl, fun l hl => ?_⟩
    · rw [show s.removed = false from hord] at hrem
      cases hrem
    · have htracked := ((h.carriers i).up l hl).2.1
      rw [hidle] at htracked
      cases htracked
  | register i full =>
    obtain ⟨⟨hattached, _⟩, ⟨⟩⟩ := ite_none_right_eq_some.1 hs
    refine ⟨fun hrem => absurd hattached ((h.carriers i).late hrem), fun j => ?_⟩
    obtain ⟨hlate, hunmarked, hup⟩ := h.carriers j
    exact ⟨hlate, hunmarked, fun leg hleg => hup leg (marked_registerSession hleg)⟩
  | bind i =>
    obtain ⟨_, ⟨⟩⟩ := ite_none_right_eq_some.1 hs
    exact ⟨h.closed, h.carriers⟩
  | track i =>
    obtain ⟨⟨hattached, _⟩, ⟨⟩⟩ := ite_none_right_eq_some.1 hs
    have hopen : ¬ s.removed = true := fun hrem => (h.carriers i).late hrem hattached
    have hnot : (s.carriers i).detached = false := (h.carriers i).unmarked (by rw [hattached]; nofun)
    refine h.setCarrier (fun hrem => absurd hrem hopen) (fun leg j hj hm => ?_)
      ⟨fun hrem => absurd hrem hopen, fun hne => absurd rfl hne, fun leg hm => ?_⟩
    · exact (marked_attachLegWithRole hm).resolve_left fun hji => hj hji.2
    · rcases marked_attachLegWithRole hm with ⟨hleg, _⟩ | hm
      · exact ⟨hleg.symm, rfl, hnot⟩
      · exact ⟨((h.carriers i).up leg hm).1, rfl, hnot⟩
  | closeCarrier i =>
    obtain ⟨_, ⟨⟩⟩ := ite_none_right_eq_some.1 hs
    obtain ⟨hlate, hunmarked, hup⟩ := h.carriers i
    exact h.setCarrier h.closed (fun _ _ _ hm => hm) ⟨hlate, hunmarked, hup⟩
  | detach i =>
    obtain ⟨_, ⟨⟩⟩ := ite_none_right_eq_some.1 hs
    have htracked : (s.carriers i).phase = .tracked := hord
    refine h.setCarrier (fun hrem r hr => ?_) (fun leg j _ hm => (marked_detachLeg hm).2)
      ⟨(h.carriers i).late, fun hne => absurd htracked hne, fun leg hm => ?_⟩
    · obtain ⟨r₀, hr₀, rfl⟩ := map_eq_some_iff.1 hr
      exact h.closed hrem r₀ hr₀
    · obtain ⟨hne, hm⟩ := marked_detachLeg hm
      exact absurd ((h.carriers i).up leg hm).1.symm hne
  | remove =>
    obtain ⟨_, ⟨⟩⟩ := ite_none_right_eq_some.1 hs
    refine ⟨fun _ r hr => ?_, fun j => ?_⟩
    · obtain ⟨r₀, _, rfl⟩ := map_eq_some_iff.1 hr
      split
      · assumption
      · rfl
    · obtain ⟨_, hunmarked, hup⟩ := h.carriers j
      exact ⟨fun _ => hord j, hunmarked, fun leg hleg => hup leg (marked_removeSession hleg)⟩
  | prune =>
    obtain ⟨_, ⟨⟩⟩ := ite_none_right_eq_some.1 hs
    refine ⟨fun _ => nofun, fun j => ?_⟩
    obtain ⟨hlate, hunmarked, _⟩ := h.carriers j
    exact ⟨hlate, hunmarked, nofun⟩

end Invariant

/-- Once everybody has finished in this order, nothing is left behind. -/
theorem telemetry_clean {acts : List Act} {s : State} (hord : EachStep step InOrder {} acts)
    (hrun : runActs step {} acts = some s) (hcompleted : Completed s) : Clean s := by
  have hinit : Inv {} := ⟨nofun, fun i => ⟨nofun, fun _ => rfl, nofun⟩⟩
  have hinv : Inv s := invariant_of_eachStep (fun _ _ _ h ho hs => inv_step h ho hs) hinit hord hrun
  refine fun r hr => ⟨hinv.closed hcompleted.removed r hr, fun leg i hup => ?_⟩
  have hmarked : marked s.record leg = some i := by
    rw [hr]
    exact hup
  have hnot := ((hinv.carriers i).up leg hmarked).2.2
  cases hclosed : (s.carriers i).closed with
  | false => rfl
  | true =>
    rw [hcompleted.detached i hclosed] at hnot
    cases hnot

/-- One carrier, in order. -/
def orderlyRun : List Act :=
  [.attach 0 0, .register 0 false, .bind 0, .track 0, .closeCarrier 0, .detach 0, .remove]

theorem telemetry_clean_orderly :
    ∃ s, runActs step {} orderlyRun = some s ∧ s.record.isSome = true ∧ Clean s := by
  have hothers : ∀ i, (update (fun _ => ({} : Carrier)) 0
      { phase := .tracked, closed := true, detached := true } i).phase ≠ .attached := by
    intro i
    by_cases hi : i = 0 <;> simp [hi]
  refine ⟨_, rfl, rfl, @telemetry_clean orderlyRun _ ?_ rfl ⟨rfl, fun i => ?_, fun i => ?_⟩⟩
  · simpa [EachStep, orderlyRun, step, InOrder, State.setCarrier] using hothers
  · simpa [State.setCarrier] using hothers i
  · by_cases hi : i = 0 <;> simp [State.setCarrier, hi]

/-- The Core attaches the carrier and ends; the removal and the detachment come before the handler
registers the session and marks its leg. -/
theorem late_registration_leaks :
    ((runActs step {} [.attach 0 0, .closeCarrier 0, .detach 0, .remove, .register 0 false, .bind 0,
      .track 0]).any fun s =>
        decide (s.removed = true ∧ (s.carriers 0).phase = .tracked ∧
          (s.carriers 0).closed = true ∧ (s.carriers 0).detached = true ∧
          s.record.any (fun r => !r.closed && r.up 0 == some 0) = true)) = true := by
  decide

end Smp3Multipath.Server.TelemetryRecords

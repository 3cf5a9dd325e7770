import Smp3Multipath.Native.Probation

/-!
# The carrier of leg 1

A dial of leg 1 asks `carrierForLeg1` for its carrier before it starts.  `switchToFallback` changes
the carrier at any time and then replaces the leg (`onFallback`).  If the leg is just being dialed
there is nothing to replace: `scheduleLeg` only remembers a deferred repair, and that is dropped
when the dial, which goes through the old carrier, has attached the leg.  And if the core has begun
to close, `onFallback` returns without replacing an attached leg.

The state has what decides about leg 1 of one TCP session: the carrier of the `adaptiveConn`, the
carrier the attached connection was dialed through, the dials that have chosen theirs, the flags of
`scheduleLeg` and `ensureLeg`, and how far the core is.  When legs fail, dials succeed, decisions
fall and repairs are asked for is open.
-/

namespace Smp3Multipath.Native.CarrierMatch

open Lib.Run Probation Option

structure State where
  selected : Bool := false
  carrier : Carrier := .primary
  /-- The carrier that leg 1 was dialed through, if it is attached. -/
  leg : Option Carrier := none
  /-- The dials under way: the bootstrap's, and that of the goroutine of `ensureLeg`. -/
  dials : List Carrier := []
  joining : Bool := false
  /-- The goroutine of `ensureLeg` is in its loop and not dialing. -/
  looping : Bool := false
  scheduled : Bool := false
  deferredRepair : Bool := false
  /-- `switchToFallback` has changed the carrier, and `onFallback` has not replaced the leg. -/
  replacing : Bool := false
  /-- `newCore` has returned. -/
  core : Bool := false
  active : Bool := false
  closing : Bool := false
  finalizing : Bool := false
deriving DecidableEq

/-- A repair of leg 1 goes on: there is a core, active and not at its end. -/
def Repairs (s : State) : Prop := s.core = true ∧ s.finalizing = false ∧ s.active = true

instance (s : State) : Decidable (Repairs s) := inferInstanceAs (Decidable (_ ∧ _))

/-- `scheduleLeg(1, delay)`. -/
def scheduleLeg (s : State) : State :=
  if ¬ Repairs s ∨ s.leg.isSome then s
  else if s.joining then { s with deferredRepair := true }
  else { s with scheduled := true }

/-- `ensureLeg(1)`. -/
def ensureLeg (s : State) : State :=
  if ¬ Repairs s ∨ s.leg.isSome ∨ s.joining then s
  else { s with joining := true, looping := true }

/-- `carrierForLeg1` at the start of a dial; `grant` is what the global health would select. -/
def carrierForLeg1 (s : State) (grant : Carrier) : State :=
  if s.selected then { s with dials := s.carrier :: s.dials }
  else { s with selected := true, carrier := grant, dials := grant :: s.dials }

inductive Act where
  | bootstrapDial (grant : Carrier)
  /-- The goroutine that waits for the bootstrap of leg 1 sets `joining`, or resets it. -/
  | companion (waits : Bool)
  | ensureLeg
  /-- The timer of `scheduleLeg`. -/
  | timer
  | dial (grant : Carrier)
  /-- `addLeg` after a dial through `c`. -/
  | addLeg (c : Carrier)
  /-- A dial through `c` is over without the leg; the goroutine may go on. -/
  | dialFails (c : Carrier) (again : Bool)
  /-- The goroutine returns: its deferred function. -/
  | leave
  | legFails
  /-- `OnLegDown`, the health loop or the companion asks for a repair. -/
  | scheduleLeg
  | switchToFallback
  | onFallback
  | newCore
  | activate
  /-- The application closes, or the peer's CLOSE has come. -/
  | close
  | finalize
deriving DecidableEq

def step (s : State) : Act → Option State
  | .bootstrapDial grant => some (carrierForLeg1 s grant)
  | .companion waits => some { s with joining := waits }
  | .ensureLeg => some (CarrierMatch.ensureLeg s)
  | .timer =>
    if s.scheduled then some (CarrierMatch.ensureLeg { s with scheduled := false }) else none
  | .dial grant =>
    if s.looping ∧ Repairs s ∧ s.leg = none then
      some { carrierForLeg1 s grant with looping := false }
    else none
  | .addLeg c =>
    if c ∈ s.dials ∧ s.leg = none ∧ s.core ∧ ¬ s.finalizing then
      some { s with dials := s.dials.erase c, leg := some c }
    else none
  | .dialFails c again =>
    if c ∈ s.dials then
      some { s with dials := s.dials.erase c, looping := again && s.joining }
    else none
  | .leave =>
    if s.joining then
      let repair := s.deferredRepair
      let s := { s with joining := false, looping := false, deferredRepair := false }
      some (if repair then CarrierMatch.scheduleLeg s else s)
    else none
  | .legFails => if s.leg.isSome then some { s with leg := none } else none
  | .scheduleLeg => some (CarrierMatch.scheduleLeg s)
  | .switchToFallback =>
    if s.selected ∧ s.carrier = .primary then
      some { s with carrier := .fallback, replacing := true }
    else none
  | .onFallback =>
    if s.replacing then
      let s := { s with replacing := false }
      if ¬ s.core ∨ s.closing ∨ s.finalizing then some s
      -- `replaceLeg`
      else if s.leg.isSome then some { s with leg := none }
      else some (CarrierMatch.scheduleLeg s)
    else none
  | .newCore => some { s with core := true }
  | .activate => some { s with active := true }
  | .close => some { s with closing := true }
  | .finalize => some { s with finalizing := true }

/-- Leg 1 is on the carrier that the connection reports, unless it is being replaced. -/
def OnSelected (s : State) : Prop :=
  s.replacing = false → ∀ c, s.leg = some c → c = s.carrier

instance (s : State) : Decidable (OnSelected s) :=
  inferInstanceAs (Decidable (s.replacing = false → ∀ c ∈ s.leg, c = s.carrier))

/-- The carrier does not change during a dial, and a leg that is to be replaced still can be. -/
def Undisturbed (s : State) : Act → Prop
  | .switchToFallback => .primary ∉ s.dials
  | .onFallback => s.leg.isSome → s.closing = false ∧ s.finalizing = false
  | _ => True

instance (s : State) (a : Act) : Decidable (Undisturbed s a) := by
  unfold Undisturbed
  split <;> infer_instance

section Invariant

variable {s s' : State} {a : Act} {grant : Carrier}

structure Inv (s : State) : Prop where
  /-- Before the first choice there is no dial. -/
  unselected : s.selected = false → s.leg = none ∧ s.dials = []
  dialed : ∀ c ∈ s.dials, c = s.carrier
  attached : s.leg.isSome → s.core = true
  onSelected : OnSelected s

/-- A step that leaves the carriers alone. -/
theorem Inv.of_eq (h : Inv s)
    (hsame : s' = { s' with
      selected := s.selected, carrier := s.carrier, leg := s.leg, dials := s.dials
      replacing := s.replacing })
    (hcore : s.core = true → s'.core = true) : Inv s' := by
  rw [hsame]
  exact ⟨h.unselected, h.dialed, fun hleg => hcore (h.attached hleg), h.onSelected⟩

/-- A leg that is gone is on no carrier. -/
theorem Inv.of_gone (h : Inv s) (replacing : Bool) :
    Inv { s with leg := none, replacing := replacing } :=
  ⟨fun hsel => ⟨rfl, (h.unselected hsel).2⟩, h.dialed, nofun, fun _ _ hc => nomatch hc⟩

theorem Inv.scheduleLeg (h : Inv s) : Inv (scheduleLeg s) := by
  unfold CarrierMatch.scheduleLeg
  split_ifs
  · exact h
  · exact h.of_eq rfl id
  · exact h.of_eq rfl id

theorem Inv.ensureLeg (h : Inv s) : Inv (ensureLeg s) := by
  unfold CarrierMatch.ensureLeg
  split
  · exact h
  · exact h.of_eq rfl id

theorem Inv.carrierForLeg1 (h : Inv s) : Inv (carrierForLeg1 s grant) := by
  unfold CarrierMatch.carrierForLeg1
  split
  · next hselected =>
    refine ⟨(fun hsel => by simp [hselected] at hsel), fun c hc => ?_, h.attached, h.onSelected⟩
    exact (List.mem_cons.1 hc).elim id (h.dialed c)
  · next hselected =>
    obtain ⟨hnone, hempty⟩ := h.unselected (Bool.eq_false_iff.2 hselected)
    refine ⟨nofun, fun c hc => ?_, h.attached, fun _ c hc => ?_⟩
    · rw [hempty] at hc
      exact List.mem_singleton.1 hc
    · rw [show s.leg = none from hnone] at hc
      cases hc

/-- One step, with the carrier of every dial and of an attached leg that is not being replaced. -/
theorem inv_step (h : Inv s) (hcond : Undisturbed s a) (hs : step s a = some s') : Inv s' := by
  cases a with
  | bootstrapDial grant =>
    cases hs
    exact h.carrierForLeg1
  | companion waits | activate | close | finalize =>
    cases hs
    exact h.of_eq rfl id
  | ensureLeg =>
    cases hs
    exact h.ensureLeg
  | timer =>
    obtain ⟨_, ⟨⟩⟩ := ite_none_right_eq_some.1 hs
    have hfired : Inv { s with scheduled := false } := h.of_eq rfl id
    exact hfired.ensureLeg
  | dial grant =>
    obtain ⟨_, ⟨⟩⟩ := ite_none_right_eq_some.1 hs
    exact h.carrierForLeg1.of_eq rfl id
  | addLeg c =>
    obtain ⟨⟨hm, _, hcore, _⟩, ⟨⟩⟩ := ite_none_right_eq_some.1 hs
    refine ⟨fun hsel => ?_, fun d hd => ?_, fun _ => hcore, fun _ d hd => ?_⟩
    · rw [(h.unselected hsel).2] at hm
      cases hm
    · exact h.dialed d (List.mem_of_mem_erase hd)
    · cases hd
      exact h.dialed c hm
  | dialFails c again =>
    obtain ⟨_, ⟨⟩⟩ := ite_none_right_eq_some.1 hs
    refine ⟨fun hsel => ?_, fun d hd => ?_, h.attached, h.onSelected⟩
    · obtain ⟨hnone, hempty⟩ := h.unselected hsel
      exact ⟨hnone, by simp [hempty]⟩
    · exact h.dialed d (List.mem_of_mem_erase hd)
  | leave =>
    obtain ⟨_, ⟨⟩⟩ := ite_none_right_eq_some.1 hs
    have hleft : Inv { s with joining := false, looping := false, deferredRepair := false } :=
      h.of_eq rfl id
    split
    · exact hleft.scheduleLeg
    · exact hleft
  | legFails =>
    obtain ⟨_, ⟨⟩⟩ := ite_none_right_eq_some.1 hs
    exact h.of_gone _
  | scheduleLeg =>
    cases hs
    exact h.scheduleLeg
  | switchToFallback =>
    obtain ⟨⟨hselected, hprimary⟩, ⟨⟩⟩ := ite_none_right_eq_some.1 hs
    refine ⟨(fun hsel => by simp [hselected] at hsel), fun c hc => ?_, h.attached, nofun⟩
    rw [h.dialed c hc, hprimary] at hc
    exact absurd hc hcond
  | onFallback =>
    obtain ⟨_, hs⟩ := ite_none_right_eq_some.1 hs
    -- without a leg, the switch is over at once
    have hover : s.leg = none → Inv { s with replacing := false } := fun hnone => by
      have hgone := h.of_gone false
      rwa [← hnone] at hgone
    dsimp only at hs
    split_ifs at hs with hending hleg
    · cases hs
      refine hover (not_isSome_iff_eq_none.1 fun hleg => ?_)
      obtain ⟨hopen, hgoing⟩ := hcond hleg
      simp [h.attached hleg, hopen, hgoing] at hending
    · cases hs
      exact h.of_gone _
    · cases hs
      exact (hover (not_isSome_iff_eq_none.1 hleg)).scheduleLeg
  | newCore =>
    cases hs
    exact h.of_eq rfl fun _ => rfl

end Invariant

/-- Along every run in which the carrier does not change during a dial, nor with an attached leg
while the core is closing, leg 1 is on the carrier that the connection reports. -/
theorem leg1_on_selected_carrier
    {acts : List Act}
    {s : State}
    (hcond : EachStep step Undisturbed {} acts)
    (hrun : runActs step {} acts = some s) :
    OnSelected s := by
  have hinit : Inv {} := ⟨fun _ => ⟨rfl, rfl⟩, nofun, nofun, nofun⟩
  exact (invariant_of_eachStep (fun _ _ _ h hu hs => inv_step h hu hs) hinit hcond hrun).onSelected

/-- Leg 1 is up through the primary carrier. -/
def primaryUp : List Act :=
  [.bootstrapDial .primary, .newCore, .addLeg .primary, .activate]

/-- The leg is replaced, and dialed again through the fallback. -/
def replacedRun : List Act :=
  primaryUp ++ [.switchToFallback, .onFallback, .scheduleLeg, .timer, .dial .primary,
    .addLeg .fallback, .leave]

theorem leg1_on_selected_carrier_replaced :
    ∃ s, runActs step {} replacedRun = some s ∧ s.leg = some .fallback ∧ OnSelected s :=
  ⟨_, rfl, rfl, @leg1_on_selected_carrier replacedRun _ (by decide) rfl⟩

/-- Leg 1 has failed, and the switch comes while it is dialed again: the leg is attached through
the primary carrier, and the deferred repair is dropped. -/
def switchDuringDial : List Act :=
  primaryUp ++ [.legFails, .scheduleLeg, .timer, .dial .primary, .switchToFallback, .onFallback,
    .addLeg .primary, .leave]

/-- The application closes after the health loop has looked for that. -/
def switchWhileClosing : List Act :=
  primaryUp ++ [.close, .switchToFallback, .onFallback]

/-- The run ends with the leg on another carrier and no dial or repair to come. -/
def Strands (acts : List Act) : Prop :=
  ∃ s, runActs step {} acts = some s ∧ ¬ OnSelected s ∧ s.dials = [] ∧ s.scheduled = false ∧
    s.joining = false ∧ s.deferredRepair = false

theorem switch_mismatches : Strands switchDuringDial ∧ Strands switchWhileClosing :=
  ⟨⟨_, rfl, by decide, rfl, rfl, rfl, rfl⟩, _, rfl, by decide, rfl, rfl, rfl, rfl⟩

end Smp3Multipath.Native.CarrierMatch

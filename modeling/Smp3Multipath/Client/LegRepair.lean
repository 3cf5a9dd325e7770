import Mathlib
import Smp3Multipath.Lib.Run

/-!
# Repair of the legs of a stream session

A leg that is wanted and not attached is brought up by one of three parties: the dials at the
start of the session, the repair goroutine of the leg, or a callback of the engine that starts
this goroutine.  `scheduleRepair` does nothing while the busy flag of the leg is set, and the
callbacks do nothing while startup is in flight; a request that is given up like this is not made
again.

The model has the session with its engine reduced to its table of legs and to the callbacks that
have not run.  `Covered` names who still cares for a leg, and `Kept` is the condition on a step
that it gives up no request that a leg depends on.  A reload can change the flags, the number of
routes and the legs at any time.
-/

namespace Smp3Multipath.Client.LegRepair

open Lib.Run Function List Option

section System

/-- The repair goroutine of a leg; it has its busy flag until it is `idle` again. -/
inductive Repair where
  | idle
  | running
  /-- Out of its loop, before the deferred reset of the flag. -/
  | leaving
deriving DecidableEq

/-- The activation callback. -/
inductive Activation where
  | none
  /-- Called, and startup not yet looked at. -/
  | called
  /-- At leg `k` of its loop. -/
  | looping (k : Nat)
deriving DecidableEq

structure State where
  /-- `configuredLegCount`. -/
  count : Nat
  desired : UInt8 → Bool
  attached : UInt8 → Bool
  repair : UInt8 → Repair
  /-- Legs that were taken out of the table by `handleLegFailure`, which has not yet decided on
  the callback. -/
  falling : List UInt8
  /-- Legs whose `onLegDown` has not run. -/
  downs : List UInt8
  activation : Activation
  active : Bool
  /-- Done, finalizing, or closing with nothing outstanding. -/
  ending : Bool
  closed : Bool
  startup : Bool
  /-- Dials of `startPreferred` whose result was not handled. -/
  outstanding : List UInt8
  /-- Has a dial of `startPreferred` been attached? -/
  joined : Bool

/-- The session after `newStreamSession` has set its flags: with the preferred policy all legs are
being dialled, otherwise leg 0 is attached. -/
def init (count : Nat) (preferred : Bool) : State :=
  { count := count
    desired := fun id => decide (id.toNat < count)
    attached := fun id => !preferred && decide (id = 0)
    repair := fun _ => .idle
    falling := []
    downs := []
    activation := .none
    active := false
    ending := false
    closed := false
    startup := preferred
    outstanding := if preferred then (List.range count).map UInt8.ofNat else []
    joined := false }

def scheduleRepair (s : State) (id : UInt8) : State :=
  if s.count ≤ id.toNat ∨ s.desired id = false ∨ s.closed = true ∨ s.repair id ≠ .idle then s
  else { s with repair := update s.repair id .running }

inductive Act where
  /-- A dial of `startPreferred` is handled; `ok` says that it can be attached. -/
  | bootstrap (id : UInt8) (ok : Bool)
  | endStartup
  /-- `handleLegFailure` takes a leg out, and then decides on the callback. -/
  | failLeg (id : UInt8)
  | report (id : UInt8)
  | onLegDown (id : UInt8)
  | activate
  | onActivate
  | repairAttach (id : UInt8)
  /-- The goroutine finds its session closed, or its leg attached or not wanted. -/
  | repairStop (id : UInt8)
  | repairEnd (id : UInt8)
  | finalize
  | close
  /-- What a reload does. -/
  | setCount (count : Nat)
  | setDesired (id : UInt8) (desired : Bool)
  | attachLeg (id : UInt8)
  | removeLeg (id : UInt8)
  | schedule (id : UInt8)

def step (s : State) : Act → Option State
  | .bootstrap id ok =>
    if id ∈ s.outstanding then
      let s := { s with outstanding := s.outstanding.erase id }
      if ok = true ∧ s.closed = false ∧ s.ending = false ∧ s.attached id = false ∧
          (s.joined = false ∨ s.desired id = true) then
        some { s with attached := update s.attached id true, joined := true }
      else some s
    else none
  -- `startPreferred` closes the session when no dial could be attached
  | .endStartup =>
    if s.startup = true ∧ s.outstanding = [] ∧ (s.joined = true ∨ s.closed = true) then
      some { s with startup := false }
    else none
  | .failLeg id =>
    if s.attached id = true then
      some { s with attached := update s.attached id false, falling := id :: s.falling }
    else none
  -- the loss of leg 0 activates the engine first
  | .report id =>
    if id ∈ s.falling ∧ (s.ending = true ∨ id ≠ 0 ∨ s.active = true) then
      some
        { s with
          falling := s.falling.erase id
          downs := if s.ending then s.downs else id :: s.downs }
    else none
  | .onLegDown id =>
    if id ∈ s.downs then
      let s := { s with downs := s.downs.erase id }
      some (if s.startup then s else scheduleRepair s id)
    else none
  | .activate =>
    if s.active = false then some { s with active := true, activation := .called } else none
  | .onActivate =>
    match s.activation with
    | .none => none
    | .called => some { s with activation := if s.startup then .none else .looping 1 }
    | .looping k =>
      if k < s.count then
        some (scheduleRepair { s with activation := .looping (k + 1) } (UInt8.ofNat k))
      else some { s with activation := .none }
  | .repairAttach id =>
    if s.repair id = .running ∧ s.attached id = false then
      some
        { s with
          attached := update s.attached id true
          repair := update s.repair id .leaving }
    else none
  | .repairStop id =>
    if s.repair id = .running ∧
        (s.closed = true ∨ s.desired id = false ∨ s.attached id = true) then
      some { s with repair := update s.repair id .leaving }
    else none
  | .repairEnd id =>
    if s.repair id = .leaving then
      some { s with repair := update s.repair id .idle }
    else none
  | .finalize => some { s with ending := true }
  | .close => some { s with closed := true }
  | .setCount count => some { s with count := count }
  | .setDesired id desired => some { s with desired := update s.desired id desired }
  | .attachLeg id => some { s with attached := update s.attached id true }
  | .removeLeg id => some { s with attached := update s.attached id false }
  | .schedule id => some (scheduleRepair s id)

end System

section Specification

/-- The callback has the leg before it. -/
def Activation.Ahead (id : UInt8) (activation : Activation) : Prop :=
  activation = .called ∧ id ≠ 0 ∨ ∃ k, activation = .looping k ∧ k ≤ id.toNat

/-- Someone cares for the leg: it is attached, its goroutine is in its loop, or a callback for it
has not run. -/
def Covered (s : State) (id : UInt8) : Prop :=
  s.attached id = true ∨ s.repair id = .running ∨ id ∈ s.falling ∨ id ∈ s.downs ∨
    s.activation.Ahead id

/-- In an open session with an active engine, after its startup, every leg that is wanted is
covered. -/
def NoneForgotten (s : State) : Prop :=
  s.closed = false → s.active = true → s.startup = false →
    ∀ id, s.desired id = true → Covered s id

/-- The leg is wanted, and neither attached nor under repair. -/
def Idle (s : State) (id : UInt8) : Prop :=
  s.closed = false ∧ s.desired id = true ∧ s.attached id = false ∧ s.repair id ≠ .running

/-- The activation is still to come, and will ask for the leg. -/
def Awaited (s : State) (id : UInt8) : Prop :=
  s.active = false ∧ id ≠ 0

/-- A step gives up no request that a leg depends on. -/
def Kept (s : State) : Act → Prop
  | .bootstrap id ok => Idle s id → (ok = true ∧ s.ending = false) ∨ Awaited s id
  | .report id => Idle s id → s.ending = false ∨ Awaited s id
  | .onLegDown id =>
    Idle s id →
      (s.startup = false ∧ id.toNat < s.count ∧ s.repair id ≠ .leaving) ∨ Awaited s id
  | .onActivate =>
    (s.activation = .called → s.startup = true →
      ∀ id, id ≠ 0 → Idle s id → id ∈ s.outstanding) ∧
    ∀ k, s.activation = .looping k → ∀ id, Idle s id → k ≤ id.toNat →
      k < s.count ∧ (id.toNat = k → s.repair id ≠ .leaving)
  | .setDesired id desired =>
    desired = true → s.closed = false →
      s.attached id = true ∨ s.repair id = .running ∨ Awaited s id
  | .removeLeg id => s.closed = false → s.desired id = true → s.repair id = .running ∨ Awaited s id
  | _ => True

end Specification

section Repair

variable {s s' : State} {a : Act} {id j : UInt8}

/-- The leg is covered, or will be: its first dial or the activation is still to come. -/
def Promised (s : State) (id : UInt8) : Prop :=
  Covered s id ∨ id ∈ s.outstanding ∨ Awaited s id

structure Inv (s : State) : Prop where
  started : s.startup = false → s.outstanding = []
  inactive : s.active = false → s.activation = .none
  promised : s.closed = false → ∀ id, s.desired id = true → Promised s id

theorem scheduleRepair_frame :
    ∃ repair, scheduleRepair s id = { s with repair := repair } ∧
      ∀ j, s.repair j = .running → repair j = .running := by
  unfold scheduleRepair
  split
  · exact ⟨s.repair, rfl, fun _ hj => hj⟩
  · refine ⟨_, rfl, fun j hj => ?_⟩
    by_cases hne : j = id <;> simp [hne, hj]

/-- A request that is not given up has its goroutine. -/
theorem scheduleRepair_running (hidle : Idle s id) (hcount : id.toNat < s.count)
    (hrepair : s.repair id ≠ .leaving) : (scheduleRepair s id).repair id = .running := by
  obtain ⟨hopen, hdesired, -, hrunning⟩ := hidle
  have hidle : s.repair id = .idle := by
    cases h : s.repair id with
    | idle => rfl
    | running => exact absurd h hrunning
    | leaving => exact absurd h hrepair
  simp [scheduleRepair, hopen, hdesired, hidle, Nat.not_le.2 hcount]

theorem Promised.scheduleRepair (h : Promised s j) : Promised (scheduleRepair s id) j := by
  obtain ⟨repair, hs, hrunning⟩ := @scheduleRepair_frame s id
  rw [hs]
  rcases h with (h | h | h) | h
  · exact .inl (.inl h)
  · exact .inl (.inr (.inl (hrunning j h)))
  · exact .inl (.inr (.inr h))
  · exact .inr h

theorem promised_or_idle (hopen : s.closed = false) (hdesired : s.desired id = true) :
    s.attached id = true ∨ s.repair id = .running ∨ Idle s id := by
  cases hattached : s.attached id with
  | true => exact .inl rfl
  | false =>
    by_cases hrepair : s.repair id = .running
    · exact .inr (.inl hrepair)
    · exact .inr (.inr ⟨hopen, hdesired, hattached, hrepair⟩)

theorem Promised.mono (h : Promised s id)
    (hattached : s.attached id = true → s'.attached id = true)
    (hrepair : s.repair id = .running → s'.repair id = .running ∨ s'.attached id = true)
    (hfalling : id ∈ s.falling → id ∈ s'.falling ∨ id ∈ s'.downs)
    (hdowns : id ∈ s.downs → id ∈ s'.downs)
    (hahead : s.activation.Ahead id → s'.activation.Ahead id)
    (houtstanding : id ∈ s.outstanding → id ∈ s'.outstanding)
    (hawaited : Awaited s id → Awaited s' id) : Promised s' id := by
  unfold Promised Covered at *
  grind

theorem Inv.leg {attached : UInt8 → Bool} {repair : UInt8 → Repair} {falling downs : List UInt8}
    {ending : Bool} (id : UInt8) (h : Inv s)
    (hothers : ∀ j, j ≠ id → attached j = s.attached j ∧ repair j = s.repair j ∧
      (j ∈ s.falling → j ∈ falling) ∧ (j ∈ s.downs → j ∈ downs))
    (hid : s.closed = false → s.desired id = true → Promised s id →
      Promised { s with attached := attached, repair := repair, falling := falling, downs := downs
                        ending := ending } id) :
    Inv { s with attached := attached, repair := repair, falling := falling, downs := downs
                 ending := ending } := by
  refine ⟨h.started, h.inactive, fun hopen j hj => ?_⟩
  have hold := h.promised hopen j hj
  by_cases hne : j = id
  · subst hne
    exact hid hopen hj hold
  · obtain ⟨hattached, hrepair, hfalling, hdowns⟩ := hothers j hne
    exact hold.mono (fun ha => hattached.trans ha) (fun hr => .inl (hrepair.trans hr))
      (fun hf => .inl (hfalling hf)) hdowns (fun ha => ha) (fun ho => ho) fun ha => ha

/-- The handling of a dial attaches its leg, or the leg does not depend on it. -/
theorem inv_bootstrap {ok : Bool} (h : Inv s) (hkept : Kept s (.bootstrap id ok))
    (hs : step s (.bootstrap id ok) = some s') : Inv s' := by
  obtain ⟨-, hs'⟩ := ite_none_right_eq_some.1 hs
  dsimp only at hs'
  have hstarted : s.startup = false → s.outstanding.erase id = [] := by
    intro hstart
    rw [h.started hstart]
    rfl
  split at hs'
  · cases hs'
    refine ⟨hstarted, h.inactive, fun hopen j hj => ?_⟩
    by_cases hne : j = id
    · exact .inl (.inl (by simp [hne]))
    · exact (h.promised hopen j hj).mono (by simp [hne]) .inl .inl (fun hd => hd)
        (fun ha => ha) (mem_erase_of_ne hne).2 fun ha => ha
  · rename_i hrefused
    cases hs'
    refine ⟨hstarted, h.inactive, fun hopen j hj => ?_⟩
    by_cases hne : j = id
    · subst hne
      rcases promised_or_idle hopen hj with hattached | hrunning | hidle
      · exact .inl (.inl hattached)
      · exact .inl (.inr (.inl hrunning))
      · rcases hkept hidle with hok | hawaited
        · exact absurd ⟨hok.1, hopen, hok.2, hidle.2.2.1, .inr hj⟩ hrefused
        · exact .inr (.inr hawaited)
    · exact (h.promised hopen j hj).mono (fun ha => ha) .inl .inl (fun hd => hd)
        (fun ha => ha) (mem_erase_of_ne hne).2 fun ha => ha

/-- A request that is not given up can be the only care for its leg. -/
theorem inv_scheduleRepair (hstarted : s.startup = false → s.outstanding = [])
    (hinactive : s.active = false → s.activation = .none)
    (hpromised : s.closed = false → ∀ j, s.desired j = true → Promised s j ∨
      j = id ∧ Idle s id ∧ id.toNat < s.count ∧ s.repair id ≠ .leaving) :
    Inv (scheduleRepair s id) := by
  have hrunning := @scheduleRepair_running s id
  have hschedule := fun j => @Promised.scheduleRepair s id j
  obtain ⟨repair, hs, -⟩ := @scheduleRepair_frame s id
  rw [hs] at hrunning hschedule ⊢
  refine ⟨hstarted, hinactive, fun hopen j hj => ?_⟩
  rcases hpromised hopen j hj with hp | ⟨rfl, hidle, hcount, hleaving⟩
  · exact hschedule j hp
  · exact .inl (.inr (.inl (hrunning hidle hcount hleaving)))

/-- A callback either starts the goroutine of its leg, or the leg does not depend on it. -/
theorem inv_onLegDown (h : Inv s) (hkept : Kept s (.onLegDown id))
    (hs : step s (.onLegDown id) = some s') : Inv s' := by
  obtain ⟨-, hs'⟩ := ite_none_right_eq_some.1 hs
  dsimp only at hs'
  have hcases : s.closed = false → ∀ j, s.desired j = true →
      Promised { s with downs := s.downs.erase id } j ∨
        j = id ∧ Idle s id ∧ s.startup = false ∧ id.toNat < s.count ∧ s.repair id ≠ .leaving := by
    intro hopen j hj
    by_cases hne : j = id
    · subst hne
      rcases promised_or_idle hopen hj with hattached | hrunning | hidle
      · exact .inl (.inl (.inl hattached))
      · exact .inl (.inl (.inr (.inl hrunning)))
      · rcases hkept hidle with hok | hawaited
        · exact .inr ⟨rfl, hidle, hok⟩
        · exact .inl (.inr (.inr hawaited))
    · exact .inl ((h.promised hopen j hj).mono (fun ha => ha) .inl .inl
        (mem_erase_of_ne hne).2 (fun ha => ha) (fun ho => ho) fun ha => ha)
  split at hs'
  · rename_i hstartup
    cases hs'
    refine ⟨h.started, h.inactive, fun hopen j hj =>
      (hcases hopen j hj).resolve_right fun hlost => ?_⟩
    rw [hlost.2.2.1] at hstartup
    cases hstartup
  · cases hs'
    exact inv_scheduleRepair h.started h.inactive fun hopen j hj =>
      (hcases hopen j hj).imp_right fun ⟨heq, hidle, _, hok⟩ => ⟨heq, hidle, hok⟩

theorem inv_onActivate (h : Inv s) (hkept : Kept s .onActivate)
    (hs : step s .onActivate = some s') : Inv s' := by
  have hactive : s.activation ≠ .none → ¬ s.active = false :=
    fun hne hinactive => hne (h.inactive hinactive)
  -- a leg that only the callback cares for is idle
  have hcases : s.closed = false → ∀ j, s.desired j = true → s.activation.Ahead j ∧ Idle s j ∨
      ∀ activation, Promised { s with activation := activation } j := by
    intro hopen j hj
    rcases promised_or_idle hopen hj with hattached | hrunning | hidle
    · exact .inr fun _ => .inl (.inl hattached)
    · exact .inr fun _ => .inl (.inr (.inl hrunning))
    · rcases h.promised hopen j hj with (hc | hc | hc | hc | hc) | hp
      · exact .inr fun _ => .inl (.inl hc)
      · exact .inr fun _ => .inl (.inr (.inl hc))
      · exact .inr fun _ => .inl (.inr (.inr (.inl hc)))
      · exact .inr fun _ => .inl (.inr (.inr (.inr (.inl hc))))
      · exact .inl ⟨hc, hidle⟩
      · exact .inr fun _ => .inr hp
  rw [step] at hs
  split at hs
  · cases hs
  · rename_i hcalled
    cases hs
    refine ⟨h.started, fun hf => absurd hf (hactive (hcalled ▸ nofun)), fun hopen j hj => ?_⟩
    rcases hcases hopen j hj with ⟨hahead, hidle⟩ | hp
    · have hne : j ≠ 0 := by simpa [Activation.Ahead, hcalled] using hahead
      by_cases hstartup : s.startup = true
      · exact .inr (.inl (hkept.1 hcalled hstartup j hne hidle))
      · refine .inl (.inr (.inr (.inr (.inr ?_))))
        have hpos : 1 ≤ j.toNat :=
          Nat.one_le_iff_ne_zero.2 fun hzero => hne (UInt8.toNat_inj.1 hzero)
        simp [Activation.Ahead, hstartup, hpos]
    · exact hp _
  · rename_i k hlooping
    split at hs
    · cases hs
      refine inv_scheduleRepair h.started (fun hf => absurd hf (hactive (hlooping ▸ nofun)))
        fun hopen j hj => ?_
      rcases hcases hopen j hj with ⟨hahead, hidle⟩ | hp
      · have hk : k ≤ j.toNat := by simpa [Activation.Ahead, hlooping] using hahead
        obtain ⟨hcount, hleaving⟩ := hkept.2 k hlooping j hidle hk
        by_cases heq : j.toNat = k
        · have hid : j = UInt8.ofNat k := by rw [← heq, UInt8.ofNat_toNat]
          subst hid
          exact .inr ⟨rfl, hidle, by rwa [heq], hleaving heq⟩
        · refine .inl (.inl (.inr (.inr (.inr (.inr (.inr ⟨k + 1, rfl, ?_⟩))))))
          omega
      · exact .inl (hp _)
    · rename_i hend
      cases hs
      refine ⟨h.started, fun _ => rfl, fun hopen j hj => ?_⟩
      rcases hcases hopen j hj with ⟨hahead, hidle⟩ | hp
      · have hk : k ≤ j.toNat := by simpa [Activation.Ahead, hlooping] using hahead
        exact absurd (hkept.2 k hlooping j hidle hk).1 hend
      · exact hp _

theorem inv_step (h : Inv s) (hkept : Kept s a) (hs : step s a = some s') : Inv s' := by
  cases a with
  | bootstrap id ok => exact inv_bootstrap h hkept hs
  | endStartup =>
    obtain ⟨⟨-, hdone, -⟩, hs'⟩ := ite_none_right_eq_some.1 hs
    cases hs'
    exact ⟨fun _ => hdone, h.inactive, h.promised⟩
  | failLeg id =>
    obtain ⟨-, ⟨⟩⟩ := ite_none_right_eq_some.1 hs
    exact h.leg id (fun j hne => ⟨by simp [hne], rfl, mem_cons_of_mem _, fun hd => hd⟩)
      fun _ _ _ => .inl (.inr (.inr (.inl mem_cons_self)))
  | report id =>
    obtain ⟨-, ⟨⟩⟩ := ite_none_right_eq_some.1 hs
    refine h.leg id (fun j hne => ⟨rfl, rfl, (mem_erase_of_ne hne).2, fun hd => ?_⟩)
      fun hopen hj _ => ?_
    · split
      · exact hd
      · exact mem_cons_of_mem _ hd
    · rcases promised_or_idle hopen hj with hattached | hrunning | hidle
      · exact .inl (.inl hattached)
      · exact .inl (.inr (.inl hrunning))
      · rcases hkept hidle with hending | hawaited
        · exact .inl (.inr (.inr (.inr (.inl (by simp [hending])))))
        · exact .inr (.inr hawaited)
  | onLegDown id => exact inv_onLegDown h hkept hs
  | activate =>
    obtain ⟨hinactive, ⟨⟩⟩ := ite_none_right_eq_some.1 hs
    refine ⟨h.started, nofun, fun hopen j hj => ?_⟩
    rcases h.promised hopen j hj with (hc | hc | hc | hc | hc) | hc | hc
    · exact .inl (.inl hc)
    · exact .inl (.inr (.inl hc))
    · exact .inl (.inr (.inr (.inl hc)))
    · exact .inl (.inr (.inr (.inr (.inl hc))))
    · simp [Activation.Ahead, h.inactive hinactive] at hc
    · exact .inr (.inl hc)
    · exact .inl (.inr (.inr (.inr (.inr (.inl ⟨rfl, hc.2⟩)))))
  | onActivate => exact inv_onActivate h hkept hs
  | repairAttach id =>
    obtain ⟨-, ⟨⟩⟩ := ite_none_right_eq_some.1 hs
    exact h.leg id (fun j hne => ⟨by simp [hne], by simp [hne], fun hf => hf, fun hd => hd⟩)
      fun _ _ _ => .inl (.inl (by simp))
  | repairStop id =>
    obtain ⟨⟨-, hstop⟩, hs'⟩ := ite_none_right_eq_some.1 hs
    cases hs'
    refine h.leg id (fun j hne => ⟨rfl, by simp [hne], fun hf => hf, fun hd => hd⟩)
      fun hopen hj _ => .inl (.inl ?_)
    simpa [hopen, hj] using hstop
  | repairEnd id =>
    obtain ⟨hleaving, ⟨⟩⟩ := ite_none_right_eq_some.1 hs
    refine h.leg id (fun j hne => ⟨rfl, by simp [hne], fun hf => hf, fun hd => hd⟩)
      fun _ _ hold => hold.mono (fun ha => ha) (fun hr => ?_) .inl (fun hd => hd)
        (fun ha => ha) (fun ho => ho) fun ha => ha
    rw [hleaving] at hr
    cases hr
  | finalize | setCount count =>
    cases hs
    exact ⟨h.started, h.inactive, h.promised⟩
  | close =>
    cases hs
    exact ⟨h.started, h.inactive, nofun⟩
  | setDesired id desired =>
    cases hs
    refine ⟨h.started, h.inactive, fun hopen j hj => ?_⟩
    by_cases hne : j = id
    · subst hne
      rcases hkept (by simpa using hj) hopen with hattached | hrunning | hawaited
      · exact .inl (.inl hattached)
      · exact .inl (.inr (.inl hrunning))
      · exact .inr (.inr hawaited)
    · exact h.promised hopen j (by simpa [hne] using hj)
  | attachLeg id =>
    cases hs
    exact h.leg id (fun j hne => ⟨by simp [hne], rfl, fun hf => hf, fun hd => hd⟩)
      fun _ _ _ => .inl (.inl (by simp))
  | removeLeg id =>
    cases hs
    refine h.leg id (fun j hne => ⟨by simp [hne], rfl, fun hf => hf, fun hd => hd⟩)
      fun hopen hj _ => ?_
    rcases hkept hopen hj with hrunning | hawaited
    · exact .inl (.inr (.inl hrunning))
    · exact .inr (.inr hawaited)
  | schedule id =>
    cases hs
    exact inv_scheduleRepair h.started h.inactive fun hopen j hj => .inl (h.promised hopen j hj)

theorem inv_init (count : Nat) (preferred : Bool) : Inv (init count preferred) := by
  refine ⟨fun hstart => ?_, fun _ => rfl, fun _ id hid => ?_⟩
  · change preferred = false at hstart
    simp [init, hstart]
  · cases preferred with
    | true =>
      refine .inr (.inl (mem_map.2 ⟨id.toNat, ?_, UInt8.ofNat_toNat⟩))
      exact mem_range.2 (of_decide_eq_true hid)
    | false =>
      by_cases hne : id = 0
      · exact .inl (.inl (by simp [init, hne]))
      · exact .inr (.inr ⟨rfl, hne⟩)

/-- In every run in which no step gives up a request that a leg depends on, no leg is forgotten. -/
theorem none_forgotten (count : Nat) (preferred : Bool) {acts : List Act}
    (hkept : EachStep step Kept (init count preferred) acts)
    (hrun : runActs step (init count preferred) acts = some s) : NoneForgotten s := by
  have hinv : Inv s :=
    invariant_of_eachStep (fun _ _ _ h hkept hs => inv_step h hkept hs)
      (inv_init count preferred) hkept hrun
  intro hopen hactive hstartup id hid
  refine (hinv.promised hopen id hid).resolve_right ?_
  rintro (hout | hawaited)
  · rw [hinv.started hstartup] at hout
    cases hout
  · exact absurd hactive (Bool.eq_false_iff.1 hawaited.1)

/-- The engine becomes active, and leg 1 is brought up. -/
def bringsUp : List Act :=
  [.activate, .onActivate, .onActivate, .onActivate, .repairAttach 1]

theorem none_forgotten_bringsUp :
    ∃ s, runActs step (init 2 false) bringsUp = some s ∧ s.closed = false ∧ s.active = true ∧
      s.attached 1 = true ∧ NoneForgotten s := by
  have hkept : EachStep step Kept (init 2 false) bringsUp := by
    refine ⟨trivial, fun s₁ h₁ => ?_⟩
    cases h₁
    refine ⟨⟨nofun, nofun⟩, fun s₂ h₂ => ?_⟩
    cases h₂
    refine ⟨⟨nofun, fun k hk id _ _ => ?_⟩, fun s₃ h₃ => ?_⟩
    · cases hk
      exact ⟨by decide, nofun⟩
    cases h₃
    refine ⟨⟨nofun, fun k hk id hidle hle => ?_⟩, fun s₄ h₄ => ?_⟩
    · cases hk
      have hlt : id.toNat < 2 := of_decide_eq_true hidle.2.1
      omega
    cases h₄
    exact ⟨trivial, fun _ _ => trivial⟩
  have hend : ((runActs step (init 2 false) bringsUp).any fun s =>
      decide (s.closed = false ∧ s.active = true ∧ s.attached 1 = true)) = true := by
    decide
  obtain ⟨s, hrun, hs⟩ := (Option.any_eq_true ..).1 hend
  obtain ⟨hopen, hactive, hattached⟩ := of_decide_eq_true hs
  exact ⟨s, hrun, hopen, hactive, hattached, none_forgotten 2 false hkept hrun⟩

/-- Leg 1 fails right after its goroutine has attached it, and its callback finds the busy flag
still set. -/
def failsAtOnce : List Act :=
  bringsUp ++ [.failLeg 1, .report 1, .onLegDown 1, .repairEnd 1]

theorem failsAtOnce_forgets :
    ∃ s, runActs step (init 2 false) failsAtOnce = some s ∧ ¬ NoneForgotten s := by
  have hend : ((runActs step (init 2 false) failsAtOnce).any fun s =>
      decide (s.closed = false ∧ s.active = true ∧ s.startup = false ∧ s.desired 1 = true ∧
        s.attached 1 = false ∧ s.repair 1 = .idle ∧ s.falling = [] ∧ s.downs = [] ∧
        s.activation = .none)) = true := by
    decide
  obtain ⟨s, hrun, hs⟩ := (Option.any_eq_true ..).1 hend
  obtain ⟨hopen, hactive, hstartup, hdesired, hattached, hidle, hfalling, hdowns, hnone⟩ :=
    of_decide_eq_true hs
  refine ⟨s, hrun, fun hall => ?_⟩
  have hcovered := hall hopen hactive hstartup 1 hdesired
  simp [Covered, Activation.Ahead, hattached, hidle, hfalling, hdowns, hnone] at hcovered

end Repair

end Smp3Multipath.Client.LegRepair

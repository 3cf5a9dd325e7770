import Mathlib.Logic.Function.Basic
import Smp3Multipath.Lib.Run

/-!
# The probation slot of the primary carrier

After a cooldown one connection of the outbound is granted a probation of the primary carrier, and
`probationInFlight` is set until it ends.  The slot is taken when a connection selects the carrier
of leg 1 and is given back by what the connection calls on `primaryCarrierHealth`: a fallback, a
recovery, the end of the health loop, or the release of a UDP connection.

A TCP connection gives the slot back through its health loop only, which starts when leg 1 is
ready: if it ends while leg 1 is still being dialed the slot stays taken
(`cancelledProbation_leaks`).  A UDP connection releases once, and a dial that selects after that
keeps the slot.

Any number of connections run; the adaptive mode is on, since without it no carrier is selected.
When a fallback, a recovery or an end comes is left open.  The callbacks on `primaryCarrierHealth`
run after the lock of the connection is given up and are steps of their own.
-/

namespace Smp3Multipath.Native.Probation

open Lib.Run List Option

section Health

/-- The settings that `primaryCarrierHealth` reads. -/
structure Settings where
  cooldown : Int
  maxCooldown : Int
  initialFailureThreshold : Nat
  initialFailureWindow : Int

inductive HealthState where
  | available
  | cooldown
  | probation
deriving DecidableEq

/-- `primaryCarrierHealth`. -/
structure Health where
  state : HealthState
  cooldownUntil : Int
  cooldownPenalty : Int
  probationInFlight : Bool
  initialFailures : List Int
deriving DecidableEq

inductive Carrier where
  | primary
  | fallback
deriving DecidableEq

variable (settings : Settings)

/-- `selectCarrier`: the carrier, whether it is on probation, and the health after it. -/
def selectCarrier (now : Int) (h : Health) : (Carrier × Bool) × Health :=
  if h.state = .cooldown ∧ now < h.cooldownUntil then ((.fallback, false), h)
  else
    let h := if h.state = .cooldown then { h with state := .probation } else h
    if h.state = .probation then
      if h.probationInFlight then ((.fallback, false), h)
      else ((.primary, true), { h with probationInFlight := true })
    else ((.primary, false), h)

def noteFallbackLocked (now : Int) (h : Health) : Health :=
  let penalty := if h.cooldownPenalty > 0 then h.cooldownPenalty * 2 else settings.cooldown
  let penalty := if penalty > settings.maxCooldown then settings.maxCooldown else penalty
  { h with
    cooldownPenalty := penalty
    cooldownUntil := now + penalty
    state := .cooldown
    probationInFlight := false }

def noteFallback (now : Int) (probation : Bool) (h : Health) : Health :=
  if h.state = .cooldown ∧ now < h.cooldownUntil ∧ probation = false then h
  else noteFallbackLocked settings now h

def noteInitialFailure (now : Int) (h : Health) : Health :=
  if h.state = .cooldown then h
  else
    let kept := h.initialFailures.filter fun t => !decide (t < now - settings.initialFailureWindow)
    let failures := kept ++ [now]
    if failures.length < settings.initialFailureThreshold then
      { h with initialFailures := failures }
    else noteFallbackLocked settings now { h with initialFailures := [] }

def noteActiveSuccess (h : Health) : Health :=
  { h with initialFailures := [] }

def noteRecovery (h : Health) : Health :=
  { h with
    state := .available, cooldownUntil := 0, cooldownPenalty := 0, probationInFlight := false
    initialFailures := [] }

def releaseProbation (h : Health) : Health :=
  if h.state = .probation then { h with probationInFlight := false } else h

end Health

section System

/-- A call on `primaryCarrierHealth` that a connection has still to make. -/
inductive Callback where
  /-- `onFallback` with a cooldown or from a probation, and the abnormal end of `finishProbation`. -/
  | fallback (probation : Bool)
  | recovery
  | release
deriving DecidableEq

def Callback.run (settings : Settings) (now : Int) (h : Health) : Callback → Health
  | .fallback probation => noteFallback settings now probation h
  | .recovery => noteRecovery h
  | .release => releaseProbation h

inductive Loop where
  | unstarted
  | running
  | finished
deriving DecidableEq

/-- A logical connection with its `adaptiveConn`. -/
structure Conn where
  udp : Bool
  opened : Bool
  /-- Attempts on leg 1 that have not selected the carrier, and that have. -/
  spawned : Nat
  dialing : Nat
  selected : Bool
  carrier : Carrier
  probation : Bool
  recoveryReported : Bool
  /-- `ctrl` is not nil. -/
  ctrl : Bool
  loop : Loop
  /-- The call has returned an error, or the core is done. -/
  stopped : Bool
  /-- `releaseUnusedProbation` has run. -/
  released : Bool
  callbacks : List Callback
deriving DecidableEq

def Conn.new (udp opened : Bool) : Conn :=
  { udp := udp, opened := opened, spawned := 0, dialing := 0, selected := false
    carrier := .primary, probation := false, recoveryReported := false, ctrl := false
    loop := .unstarted, stopped := false, released := false, callbacks := [] }

def Conn.switchToFallback (c : Conn) (cooldown : Bool) : Conn :=
  if c.carrier ≠ .primary then c
  else
    { c with
      carrier := .fallback
      probation := false
      ctrl := false
      callbacks :=
        if cooldown || c.probation then .fallback c.probation :: c.callbacks else c.callbacks }

/-- The checks of `observeCanary`, and of `completeProbationRecovery` on the UDP side. -/
def Conn.canRecover (c : Conn) : Bool :=
  c.probation && if c.udp then c.carrier == .primary else !c.recoveryReported

/-- A probation with enough useful traffic ends well. -/
def Conn.recover (c : Conn) : Conn :=
  if c.canRecover = true then
    { c with probation := false, recoveryReported := true, callbacks := .recovery :: c.callbacks }
  else c

/-- `markLegReady`, which starts the health loop once. -/
def Conn.markLegReady (c : Conn) : Conn :=
  if c.carrier ≠ .primary ∨ c.ctrl = true then c
  else
    { c with
      recoveryReported := false
      ctrl := true
      loop := if c.loop = .unstarted then .running else c.loop }

/-- `finishProbation`, at the end of the health loop. -/
def Conn.finishProbation (c : Conn) (closing : Bool) : Conn :=
  if c.probation = true ∧ c.recoveryReported = false ∧ c.carrier = .primary then
    { c with
      loop := .finished
      callbacks := (if closing then .release else .fallback true) :: c.callbacks }
  else { c with loop := .finished }

def Conn.releaseUnusedProbation (c : Conn) : Conn :=
  if c.carrier ≠ .primary ∨ c.probation = false then { c with released := true }
  else { c with released := true, probation := false, callbacks := .release :: c.callbacks }

structure State where
  health : Health
  conns : Nat → Conn

def init : State :=
  { health :=
      { state := .available, cooldownUntil := 0, cooldownPenalty := 0, probationInFlight := false
        initialFailures := [] }
    conns := fun _ => Conn.new false false }

def State.setConn (s : State) (i : Nat) (c : Conn) : State :=
  { s with conns := Function.update s.conns i c }

inductive Act where
  | openConn (i : Nat) (udp : Bool)
  /-- A bootstrap dial or an `ensureLeg` of leg 1 starts, and calls `carrierForLeg1`. -/
  | spawn (i : Nat)
  | select (i : Nat) (now : Int)
  /-- The attempt is over; on the TCP side leg 1 may be ready. -/
  | attemptEnd (i : Nat) (ready : Bool)
  | fallback (i : Nat) (cooldown : Bool)
  | recover (i : Nat)
  | healthEnd (i : Nat) (closing : Bool)
  | stop (i : Nat)
  | release (i : Nat)
  | callback (i : Nat) (cb : Callback) (now : Int)
  | initialFailure (now : Int)
  | activeSuccess
deriving DecidableEq

def carrierForLeg1 (s : State) (i : Nat) (now : Int) : State :=
  let c := s.conns i
  let c := { c with spawned := c.spawned - 1, dialing := c.dialing + 1 }
  if c.selected = true then s.setConn i c
  else
    match selectCarrier now s.health with
    | ((carrier, probation), health) =>
      { s.setConn i { c with selected := true, carrier := carrier, probation := probation } with
        health := health }

def step (settings : Settings) (s : State) : Act → Option State
  | .openConn i udp =>
    if (s.conns i).opened = false then some (s.setConn i (Conn.new udp true)) else none
  | .spawn i =>
    let c := s.conns i
    if c.opened = true ∧ c.stopped = false then
      some (s.setConn i { c with spawned := c.spawned + 1 })
    else none
  | .select i now => if 0 < (s.conns i).spawned then some (carrierForLeg1 s i now) else none
  | .attemptEnd i ready =>
    let c := s.conns i
    if 0 < c.dialing then
      let c := { c with dialing := c.dialing - 1 }
      some (s.setConn i (if ready = true ∧ c.udp = false then c.markLegReady else c))
    else none
  | .fallback i cooldown =>
    if (s.conns i).opened = true then
      some (s.setConn i ((s.conns i).switchToFallback cooldown))
    else none
  | .recover i => if (s.conns i).opened = true then some (s.setConn i (s.conns i).recover) else none
  | .healthEnd i closing =>
    if (s.conns i).loop = .running then
      some (s.setConn i ((s.conns i).finishProbation closing))
    else none
  | .stop i =>
    if (s.conns i).opened = true then some (s.setConn i { s.conns i with stopped := true })
    else none
  | .release i =>
    let c := s.conns i
    if c.udp = true ∧ c.stopped = true then some (s.setConn i c.releaseUnusedProbation) else none
  | .callback i cb now =>
    let c := s.conns i
    if cb ∈ c.callbacks then
      some
        { s.setConn i { c with callbacks := c.callbacks.erase cb } with
          health := cb.run settings now s.health }
    else none
  | .initialFailure now => some { s with health := noteInitialFailure settings now s.health }
  | .activeSuccess => some { s with health := noteActiveSuccess s.health }

end System

section Specification

/-- A connection has ended and its goroutines have finished. -/
def Conn.over (c : Conn) : Bool :=
  !c.opened || c.stopped && (c.spawned == 0) && (c.dialing == 0) && (c.loop != .running) &&
    c.callbacks.isEmpty && (!c.udp || c.released)

/-- Once every connection is over the slot is free. -/
def SlotFree (s : State) : Prop :=
  (∀ i, (s.conns i).over = true) → s.health.probationInFlight = false

/-- A TCP connection does not end while it holds the probation and leg 1 is not ready, and none
selects its carrier after it has ended, or on the UDP side after its release. -/
def Timely (s : State) : Act → Prop
  | .stop i =>
    ¬ ((s.conns i).udp = false ∧ (s.conns i).probation = true ∧ (s.conns i).loop = .unstarted)
  | .select i _ =>
    (s.conns i).selected = true ∨
      (if (s.conns i).udp then (s.conns i).released else (s.conns i).stopped) = false
  | _ => True

instance decidableTimely (s : State) (a : Act) : Decidable (Timely s a) := by
  unfold Timely
  split <;> infer_instance

end Specification

section HealthFacts

variable {settings : Settings} {now : Int} {h : Health}

/-- The slot is taken in the probation state only. -/
def Health.Ok (h : Health) : Prop :=
  h.probationInFlight = true → h.state = .probation

/-- A call that takes no slot. -/
structure Calms (h h' : Health) : Prop where
  inFlight : h'.probationInFlight = true → h.probationInFlight = true
  ok : h.Ok → h'.Ok

theorem calms_noteFallbackLocked : Calms h (noteFallbackLocked settings now h) :=
  ⟨nofun, fun _ => nofun⟩

theorem calms_noteFallback (probation : Bool) :
    Calms h (noteFallback settings now probation h) := by
  unfold noteFallback
  split
  · exact ⟨id, id⟩
  · exact calms_noteFallbackLocked

theorem calms_noteInitialFailure : Calms h (noteInitialFailure settings now h) := by
  unfold noteInitialFailure
  split
  · exact ⟨id, id⟩
  · dsimp only
    split
    · exact ⟨id, id⟩
    · exact ⟨nofun, fun _ => nofun⟩

/-- These calls give the slot back. -/
def Callback.clears : Callback → Bool
  | .fallback probation => probation
  | .recovery | .release => true

theorem calms_run (cb : Callback) : Calms h (cb.run settings now h) := by
  cases cb with
  | fallback probation => exact calms_noteFallback probation
  | recovery => exact ⟨nofun, fun _ => nofun⟩
  | release =>
    simp only [Callback.run, releaseProbation]
    split
    · exact ⟨nofun, fun _ => nofun⟩
    · exact ⟨id, id⟩

theorem not_inFlight_of_clears {cb : Callback} (hcb : cb.clears = true) (hok : h.Ok) :
    (cb.run settings now h).probationInFlight = false := by
  cases cb with
  | fallback probation =>
    have hprobation : probation = true := hcb
    simp [Callback.run, noteFallback, noteFallbackLocked, hprobation]
  | recovery => rfl
  | release =>
    simp only [Callback.run, releaseProbation]
    split
    · rfl
    next hstate => simpa using mt hok hstate

theorem selectCarrier_spec {carrier : Carrier} {probation : Bool} {h' : Health} (hok : h.Ok)
    (hselect : selectCarrier now h = ((carrier, probation), h')) :
    h'.Ok ∧ (probation = true → carrier = .primary) ∧
      (h'.probationInFlight = true → h.probationInFlight = true ∨ probation = true) := by
  unfold selectCarrier at hselect
  split at hselect
  · cases hselect
    exact ⟨hok, nofun, .inl⟩
  · dsimp only at hselect
    generalize hnext : (if h.state = .cooldown then { h with state := .probation } else h) = next
      at hselect
    have hsame : next.probationInFlight = h.probationInFlight ∧
        (next.state = h.state ∨ next.state = .probation) := by
      rw [← hnext]
      split
      · exact ⟨rfl, .inr rfl⟩
      · exact ⟨rfl, .inl rfl⟩
    obtain ⟨hflight, hstate⟩ := hsame
    have hnextOk : next.Ok := by
      intro htaken
      rcases hstate with hstate | hstate
      · rw [hstate]
        exact hok (hflight ▸ htaken)
      · exact hstate
    split at hselect
    next hprobation =>
      split at hselect <;> cases hselect
      · exact ⟨hnextOk, nofun, fun htaken => .inl (hflight ▸ htaken)⟩
      · exact ⟨fun _ => hprobation, fun _ => rfl, fun _ => .inr rfl⟩
    · cases hselect
      exact ⟨hnextOk, nofun, fun htaken => .inl (hflight ▸ htaken)⟩

end HealthFacts

section Owners

variable {c c' : Conn}

/-- The connection holds the slot, or has still to make the call that gives it back. -/
def Conn.Owns (c : Conn) : Prop :=
  (c.probation = true ∧ c.loop ≠ .finished) ∨ ∃ cb ∈ c.callbacks, cb.clears = true

structure ConnOk (c : Conn) : Prop where
  fresh : c.opened = false → c = Conn.new false false
  probation : c.probation = true → c.carrier = .primary ∧ c.recoveryReported = false
  selected : 0 < c.dialing ∨ c.loop ≠ .unstarted → c.selected = true
  tcp : c.udp = false → c.stopped = true → c.probation = true → c.loop ≠ .unstarted
  udp : c.udp = true → c.released = true → c.probation = false
  unselected : c.selected = false → c.probation = false ∧ c.recoveryReported = false

theorem connOk_new (udp opened : Bool) (h : opened = false → udp = false) :
    ConnOk (Conn.new udp opened) where
  fresh := fun hopened => by
    have hfalse : opened = false := hopened
    rw [hfalse, h hfalse]
  probation := nofun
  selected := by simp [Conn.new]
  tcp := nofun
  udp := fun _ _ => rfl
  unselected := fun _ => ⟨rfl, rfl⟩

theorem ConnOk.not_owns (hok : ConnOk c) (hover : c.over = true) : ¬ c.Owns := by
  simp only [Conn.over, Bool.or_eq_true, Bool.not_eq_true', Bool.and_eq_true, beq_iff_eq,
    bne_iff_ne, List.isEmpty_iff] at hover
  rcases hover with hclosed | ⟨⟨⟨⟨⟨hstopped, -⟩, -⟩, hloop⟩, hcallbacks⟩, hkind⟩
  · rw [hok.fresh hclosed]
    simp [Conn.Owns, Conn.new]
  · rintro (⟨hprobation, hrunning⟩ | ⟨cb, hcb, -⟩)
    · cases hudp : c.udp with
      | true =>
        have hreleased : c.released = true := by simpa [hudp] using hkind
        simp [hok.udp hudp hreleased] at hprobation
      | false =>
        have hstarted := hok.tcp hudp hstopped hprobation
        cases hl : c.loop <;> simp [hl] at hloop hrunning hstarted
    · simp [hcallbacks] at hcb

/-- A step of a connection that leaves it in order and gives no ownership up. -/
structure Keeps (c c' : Conn) : Prop where
  ok : ConnOk c'
  owns : c.Owns → c'.Owns

/-- A callback is added. -/
theorem owns_cons {cb : Callback} {callbacks : List Callback}
    (h : ∃ cb ∈ callbacks, cb.clears = true) : ∃ cb' ∈ cb :: callbacks, cb'.clears = true :=
  h.imp fun _ hcb => ⟨mem_cons_of_mem _ hcb.1, hcb.2⟩

theorem keeps_spawn (hok : ConnOk c) (hopened : c.opened = true) :
    Keeps c { c with spawned := c.spawned + 1 } :=
  ⟨⟨by simp [hopened], hok.probation, hok.selected, hok.tcp, hok.udp, hok.unselected⟩, id⟩

/-- An attempt ends. -/
theorem keeps_dialing (hok : ConnOk c) (hopened : c.opened = true) :
    Keeps c { c with dialing := c.dialing - 1 } := by
  refine ⟨⟨by simp [hopened], hok.probation, fun h => hok.selected ?_, hok.tcp, hok.udp,
    hok.unselected⟩, id⟩
  exact h.imp_left fun hpos : 0 < c.dialing - 1 => by omega

theorem keeps_markLegReady (hok : ConnOk c) (hopened : c.opened = true)
    (hselected : c.selected = true) : Keeps c c.markLegReady := by
  unfold Conn.markLegReady
  split
  · exact ⟨hok, id⟩
  · refine ⟨⟨by simp [hopened], fun h => ⟨(hok.probation h).1, rfl⟩, fun _ => hselected,
      fun _ _ _ => ?_, hok.udp, by simp [hselected]⟩,
      fun howns => howns.imp_left fun h => ⟨h.1, ?_⟩⟩
    · dsimp only
      split
      · simp
      · assumption
    · dsimp only
      split
      · simp
      · exact h.2

theorem keeps_switchToFallback (hok : ConnOk c) (hopened : c.opened = true) (cooldown : Bool) :
    Keeps c (c.switchToFallback cooldown) := by
  unfold Conn.switchToFallback
  split
  · exact ⟨hok, id⟩
  · refine ⟨⟨by simp [hopened], by simp, hok.selected, by simp, by simp,
      fun h => ⟨rfl, (hok.unselected h).2⟩⟩, ?_⟩
    rintro (⟨hprobation, -⟩ | hcallback)
    · exact .inr ⟨.fallback c.probation, by simp [hprobation], hprobation⟩
    · refine .inr ?_
      dsimp only
      split
      · exact owns_cons hcallback
      · exact hcallback

theorem keeps_recover (hok : ConnOk c) (hopened : c.opened = true) : Keeps c c.recover := by
  unfold Conn.recover
  split
  next hrecover =>
    have hprobation : c.probation = true := ((Bool.and_eq_true ..).mp hrecover).1
    refine ⟨⟨by simp [hopened], by simp, hok.selected, by simp, by simp, fun h => ?_⟩,
      fun _ => .inr ⟨.recovery, mem_cons_self, rfl⟩⟩
    simp [(hok.unselected h).1] at hprobation
  · exact ⟨hok, id⟩

theorem keeps_finishProbation (hok : ConnOk c) (hopened : c.opened = true)
    (hloop : c.loop = .running) (closing : Bool) : Keeps c (c.finishProbation closing) := by
  have hselected : c.selected = true := hok.selected (.inr (by simp [hloop]))
  unfold Conn.finishProbation
  split
  · refine ⟨⟨by simp [hopened], hok.probation, fun _ => hselected, by simp, hok.udp,
      hok.unselected⟩, fun _ => ?_⟩
    refine .inr ⟨_, mem_cons_self, ?_⟩
    split <;> rfl
  next hnone =>
    refine ⟨⟨by simp [hopened], hok.probation, fun _ => hselected, by simp, hok.udp,
      hok.unselected⟩, ?_⟩
    rintro (⟨hprobation, -⟩ | hcallback)
    · obtain ⟨hprimary, hreported⟩ := hok.probation hprobation
      exact absurd ⟨hprobation, hreported, hprimary⟩ hnone
    · exact .inr hcallback

theorem keeps_stop (hok : ConnOk c) (hopened : c.opened = true)
    (hcond : ¬ (c.udp = false ∧ c.probation = true ∧ c.loop = .unstarted)) :
    Keeps c { c with stopped := true } :=
  ⟨⟨by simp [hopened], hok.probation, hok.selected,
    fun hudp _ hprobation hloop => hcond ⟨hudp, hprobation, hloop⟩, hok.udp, hok.unselected⟩, id⟩

theorem keeps_releaseUnusedProbation (hok : ConnOk c) (hopened : c.opened = true) :
    Keeps c c.releaseUnusedProbation := by
  unfold Conn.releaseUnusedProbation
  split
  next hunused =>
    refine ⟨⟨by simp [hopened], hok.probation, hok.selected, hok.tcp, fun _ _ => ?_,
      hok.unselected⟩, id⟩
    rcases hunused with hcarrier | hnone
    · simpa using mt (fun h => (hok.probation h).1) hcarrier
    · exact hnone
  · exact ⟨⟨by simp [hopened], by simp, hok.selected, by simp, by simp,
      fun h => ⟨rfl, (hok.unselected h).2⟩⟩, fun _ => .inr ⟨.release, mem_cons_self, rfl⟩⟩

theorem ConnOk.erase (hok : ConnOk c) (hopened : c.opened = true) (cb : Callback) :
    ConnOk { c with callbacks := c.callbacks.erase cb } :=
  ⟨by simp [hopened], hok.probation, hok.selected, hok.tcp, hok.udp, hok.unselected⟩

/-- A call that gives nothing back is made. -/
theorem keeps_erase (hok : ConnOk c) (hopened : c.opened = true) {cb : Callback}
    (hcb : cb.clears = false) : Keeps c { c with callbacks := c.callbacks.erase cb } := by
  refine ⟨hok.erase hopened cb, ?_⟩
  rintro (hprobation | ⟨cb', hm, hclears⟩)
  · exact .inl hprobation
  · refine .inr ⟨cb', (mem_erase_of_ne ?_).2 hm, hclears⟩
    rintro rfl
    simp [hcb] at hclears

end Owners

section Runs

variable {settings : Settings} {s s' : State} {a : Act} {acts : List Act} {i : Nat}

structure Inv (s : State) : Prop where
  health : s.health.Ok
  conns : ∀ i, ConnOk (s.conns i)
  owner : s.health.probationInFlight = true → ∃ i, (s.conns i).Owns

theorem inv_init : Inv init where
  health := nofun
  conns := fun _ => connOk_new false false fun _ => rfl
  owner := nofun

theorem Inv.setConn (hinv : Inv s) {c : Conn} {health : Health} (hkeeps : Keeps (s.conns i) c)
    (hhealth : Calms s.health health) : Inv { s.setConn i c with health := health } where
  health := hhealth.ok hinv.health
  conns := by
    intro j
    by_cases hj : j = i
    · simpa [State.setConn, hj] using hkeeps.ok
    · simpa [State.setConn, hj] using hinv.conns j
  owner := by
    intro htaken
    obtain ⟨j, hj⟩ := hinv.owner (hhealth.inFlight htaken)
    refine ⟨j, ?_⟩
    by_cases hji : j = i
    · subst hji
      simpa [State.setConn] using hkeeps.owns hj
    · simpa [State.setConn, hji] using hj

theorem calms_refl (h : Health) : Calms h h :=
  ⟨id, id⟩

theorem ConnOk.opened {c : Conn} (hok : ConnOk c)
    (h : 0 < c.spawned ∨ 0 < c.dialing ∨ c.loop ≠ .unstarted ∨ c.stopped = true ∨
      c.callbacks ≠ []) : c.opened = true := by
  by_contra hclosed
  have hnew := hok.fresh (by simpa using hclosed)
  rw [hnew] at h
  simp [Conn.new] at h

theorem inv_carrierForLeg1 {now : Int} (hinv : Inv s) (hspawned : 0 < (s.conns i).spawned)
    (hcond : Timely s (.select i now)) : Inv (carrierForLeg1 s i now) := by
  have hok := hinv.conns i
  have hopened := hok.opened (.inl hspawned)
  unfold carrierForLeg1
  dsimp only
  split
  next hselected =>
    have hs : Keeps (s.conns i)
        { s.conns i with
          spawned := (s.conns i).spawned - 1, dialing := (s.conns i).dialing + 1 } :=
      ⟨⟨by simp [hopened], hok.probation, fun _ => hselected, hok.tcp, hok.udp, hok.unselected⟩,
        id⟩
    exact hinv.setConn hs (calms_refl _)
  next hunselected =>
    generalize hselect : selectCarrier now s.health = out
    obtain ⟨⟨carrier, probation⟩, health⟩ := out
    obtain ⟨hhealth, hprimary, htaken⟩ := selectCarrier_spec hinv.health hselect
    -- the connection was not stopped, or on the UDP side not released
    have hopen := hcond.resolve_left hunselected
    have hloop : (s.conns i).loop = .unstarted := by
      by_contra hloop
      exact hunselected (hok.selected (.inr hloop))
    obtain ⟨hnone, hreported⟩ := hok.unselected (by simpa using hunselected)
    have hok' : ConnOk
        { s.conns i with
          spawned := (s.conns i).spawned - 1, dialing := (s.conns i).dialing + 1
          selected := true, carrier := carrier, probation := probation } := by
      refine ⟨by simp [hopened], fun h => ⟨hprimary h, hreported⟩, by simp, fun hudp hstopped => ?_,
        fun hudp hreleased => ?_, by simp⟩
      · dsimp only at hudp hstopped
        simp [hudp, hstopped] at hopen
      · dsimp only at hudp hreleased
        simp [hudp, hreleased] at hopen
    refine ⟨hhealth, fun j => ?_, fun h => ?_⟩
    · by_cases hj : j = i
      · simpa [State.setConn, hj] using hok'
      · simpa [State.setConn, hj] using hinv.conns j
    · rcases htaken h with hbefore | hgranted
      · obtain ⟨j, hj⟩ := hinv.owner hbefore
        refine ⟨j, ?_⟩
        by_cases hji : j = i
        · subst hji
          -- it owned by a callback, which it still has to make
          simp only [Conn.Owns, hnone, Bool.false_eq_true, false_and, false_or] at hj
          simpa [State.setConn, Conn.Owns] using .inr hj
        · simpa [State.setConn, hji] using hj
      · exact ⟨i, .inl (by simp [State.setConn, hgranted, hloop])⟩

theorem inv_step (hinv : Inv s) (hcond : Timely s a) (hs : step settings s a = some s') :
    Inv s' := by
  cases a with
  | openConn i udp =>
    obtain ⟨hclosed, ⟨⟩⟩ := ite_none_right_eq_some.1 hs
    refine hinv.setConn ⟨connOk_new udp true nofun, fun howns => ?_⟩ (calms_refl _)
    rw [(hinv.conns i).fresh hclosed] at howns
    simp [Conn.Owns, Conn.new] at howns
  | spawn i =>
    obtain ⟨⟨hopened, -⟩, hs'⟩ := ite_none_right_eq_some.1 hs
    cases hs'
    exact hinv.setConn (keeps_spawn (hinv.conns i) hopened) (calms_refl _)
  | select i now =>
    obtain ⟨hspawned, ⟨⟩⟩ := ite_none_right_eq_some.1 hs
    exact inv_carrierForLeg1 hinv hspawned hcond
  | attemptEnd i ready =>
    obtain ⟨hdialing, ⟨⟩⟩ := ite_none_right_eq_some.1 hs
    have hok := hinv.conns i
    have hopened := hok.opened (.inr (.inl hdialing))
    have hended := keeps_dialing hok hopened
    split
    · have hready := keeps_markLegReady hended.ok hopened (hok.selected (.inl hdialing))
      exact hinv.setConn ⟨hready.ok, fun h => hready.owns (hended.owns h)⟩ (calms_refl _)
    · exact hinv.setConn hended (calms_refl _)
  | fallback i cooldown =>
    obtain ⟨hopened, ⟨⟩⟩ := ite_none_right_eq_some.1 hs
    exact hinv.setConn (keeps_switchToFallback (hinv.conns i) hopened cooldown) (calms_refl _)
  | recover i =>
    obtain ⟨hopened, ⟨⟩⟩ := ite_none_right_eq_some.1 hs
    exact hinv.setConn (keeps_recover (hinv.conns i) hopened) (calms_refl _)
  | healthEnd i closing =>
    obtain ⟨hloop, ⟨⟩⟩ := ite_none_right_eq_some.1 hs
    have hopened := (hinv.conns i).opened (.inr (.inr (.inl (by simp [hloop]))))
    exact hinv.setConn (keeps_finishProbation (hinv.conns i) hopened hloop closing) (calms_refl _)
  | stop i =>
    obtain ⟨hopened, ⟨⟩⟩ := ite_none_right_eq_some.1 hs
    exact hinv.setConn (keeps_stop (hinv.conns i) hopened hcond) (calms_refl _)
  | release i =>
    obtain ⟨⟨-, hstopped⟩, hs'⟩ := ite_none_right_eq_some.1 hs
    cases hs'
    have hopened := (hinv.conns i).opened (.inr (.inr (.inr (.inl hstopped))))
    exact hinv.setConn (keeps_releaseUnusedProbation (hinv.conns i) hopened) (calms_refl _)
  | callback i cb now =>
    obtain ⟨hm, ⟨⟩⟩ := ite_none_right_eq_some.1 hs
    have hok := hinv.conns i
    have hopened := hok.opened (.inr (.inr (.inr (.inr (ne_nil_of_mem hm)))))
    cases hclears : cb.clears with
    | true =>
      refine ⟨(calms_run cb).ok hinv.health, fun j => ?_, fun htaken => ?_⟩
      · by_cases hj : j = i
        · simpa [State.setConn, hj] using hok.erase hopened cb
        · simpa [State.setConn, hj] using hinv.conns j
      · rw [not_inFlight_of_clears hclears hinv.health] at htaken
        cases htaken
    | false => exact hinv.setConn (keeps_erase hok hopened hclears) (calms_run cb)
  | initialFailure now =>
    cases hs
    have hcalms := @calms_noteInitialFailure settings now s.health
    exact ⟨hcalms.ok hinv.health, hinv.conns, fun h => hinv.owner (hcalms.inFlight h)⟩
  | activeSuccess =>
    cases hs
    exact ⟨hinv.health, hinv.conns, hinv.owner⟩

/-- In a run in which TCP connections that hold the probation end only with leg 1 ready, and none
selects after its end or its release, the slot is free in every state in which all have ended. -/
theorem slot_free (hcond : EachStep (step settings) Timely init acts)
    (hrun : runActs (step settings) init acts = some s) : SlotFree s := by
  intro hover
  have hinv : Inv s :=
    invariant_of_eachStep (fun _ _ _ hinv hcond hs => inv_step hinv hcond hs) inv_init hcond
      hrun
  by_contra htaken
  obtain ⟨i, hi⟩ := hinv.owner (by simpa using htaken)
  exact (hinv.conns i).not_owns (hover i) hi

/-- Cooldown after the first initial failure. -/
def strict : Settings :=
  { cooldown := 90, maxCooldown := 300, initialFailureThreshold := 1, initialFailureWindow := 30 }

/-- A connection whose first dial over the primary carrier fails. -/
def failedActs : List Act :=
  [.openConn 0 false, .spawn 0, .select 0 0, .initialFailure 1, .fallback 0 false,
    .attemptEnd 0 false, .stop 0]

/-- A probation that ends with its health loop, on the way of an ordinary close. -/
theorem slot_free_closed :
    ∃ s, runActs (step strict) init
        (failedActs ++ [.openConn 1 false, .spawn 1, .select 1 91, .attemptEnd 1 true, .stop 1,
          .healthEnd 1 true, .callback 1 .release 100]) = some s ∧
      s.health.state = .probation ∧ SlotFree s := by
  have hany : ((runActs (step strict) init
      (failedActs ++ [.openConn 1 false, .spawn 1, .select 1 91, .attemptEnd 1 true, .stop 1,
        .healthEnd 1 true, .callback 1 .release 100])).any fun s =>
      decide (s.health.state = .probation)) = true := by
    decide +kernel
  obtain ⟨s, hrun, hs⟩ := (Option.any_eq_true ..).1 hany
  exact ⟨s, hrun, of_decide_eq_true hs, slot_free (by decide +kernel) hrun⟩

/-- The caller gives up while the probation of leg 1 is being dialed, and the dial ends without a
record: the slot stays taken, and no later selection is granted it. -/
theorem cancelledProbation_leaks :
    ∃ s, runActs (step strict) init
        (failedActs ++ [.openConn 1 false, .spawn 1, .select 1 91, .stop 1,
          .attemptEnd 1 false]) = some s ∧
      (∀ i, (s.conns i).over = true) ∧ s.health.probationInFlight = true ∧
      (∀ now, (selectCarrier now s.health).1 = (.fallback, false)) ∧ ¬ SlotFree s := by
  have hrun : ∃ s, runActs (step strict) init
      (failedActs ++ [.openConn 1 false, .spawn 1, .select 1 91, .stop 1,
        .attemptEnd 1 false]) = some s ∧
      (∀ i, (s.conns i).over = true) ∧ s.health.probationInFlight = true ∧
      s.health.state = .probation := by
    refine ⟨_, rfl, fun i => ?_, rfl, rfl⟩
    match i with
    | 0 => rfl
    | 1 => rfl
    | _ + 2 => rfl
  obtain ⟨s, hrun, hover, htaken, hstate⟩ := hrun
  refine ⟨s, hrun, hover, htaken, fun now => ?_, fun hfree => ?_⟩
  · simp [selectCarrier, hstate, htaken]
  · simp [hfree hover] at htaken

end Runs

end Smp3Multipath.Native.Probation

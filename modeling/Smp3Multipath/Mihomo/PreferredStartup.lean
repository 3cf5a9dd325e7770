import Mathlib.Logic.Function.Basic
import Smp3Multipath.Lib.Custody
import Smp3Multipath.Lib.Run

/-!
# Preferred startup of a Mihomo stream session

`dialPreferred` dials all legs at once and returns with the first one that is attached;
`finishPreferredCompanions` sees to the other results.  A dial that failed is not repeated there.
A leg is asked for again by the activation of the engine, which goes through the legs but leg 0,
and by a timer after the leg went down.  Both use `ensureLeg`, which does nothing while the
`joining` flag of the leg is set.

The first dials, the callbacks, the timers and the join goroutines are one list of tasks.
-/

namespace Smp3Multipath.Mihomo.PreferredStartup

open Lib.Run Lib.Custody Function List Option

section Model

/-- How far a task for a leg has come. -/
inductive Stage where
  /-- A dial of `dialPreferred`, before its result is received. -/
  | dialing
  /-- After `finishJoining`, with a carrier that is to be attached. -/
  | attaching
  /-- In `handleLegFailure`, with the leg out of the table. -/
  | falling
  /-- `OnLegDown` was called and has not run. -/
  | calling
  /-- The timer of `scheduleLeg`. -/
  | timer
  /-- The goroutine of `ensureLeg`, in its loop. -/
  | joining
  /-- Out of its loop, before the deferred reset of the flag. -/
  | leaving
deriving DecidableEq

structure Task where
  leg : Nat
  stage : Stage
deriving DecidableEq

/-- Where `dialPreferred` is. -/
inductive Phase where
  /-- In `NewStreamEngine`; `ss.engine` is not set. -/
  | creating
  /-- `ss.engine` is set, and no leg is dialled. -/
  | created
  | collecting
  /-- A leg is attached. -/
  | connected
deriving DecidableEq

structure State where
  /-- The number of configured legs. -/
  count : Nat
  phase : Phase := .creating
  attached : Nat → Bool := fun _ => false
  joining : Nat → Bool := fun _ => false
  tasks : List Task := []
  active : Bool := false
  /-- The leg at which the loop of `ensureCompanionLegs` is. -/
  activation : Option Nat := none
  /-- The engine is finalizing or done, or the context is cancelled. -/
  closed : Bool := false

def State.drop (s : State) (t : Task) : State :=
  { s with tasks := s.tasks.erase t }

def State.turn (s : State) (t : Task) (stage : Stage) : State :=
  { s with tasks := ⟨t.leg, stage⟩ :: s.tasks.erase t }

def ensureLeg (s : State) (id : Nat) : State :=
  if s.count ≤ id ∨ s.phase = .creating ∨ s.attached id = true ∨ s.joining id = true then s
  else
    { s with
      joining := update s.joining id true
      tasks := ⟨id, .joining⟩ :: s.tasks }

/-- The first dials that are not settled. -/
def Stage.first (stage : Stage) : Prop :=
  stage = .dialing ∨ stage = .attaching

instance (stage : Stage) : Decidable stage.first :=
  inferInstanceAs (Decidable (_ ∨ _))

inductive Act where
  | assign
  | launch
  /-- A result is received; `ok` says that the dial succeeded. -/
  | result (t : Task) (ok : Bool)
  /-- Its carrier is attached, unless `AttachLeg` fails. -/
  | attach (t : Task) (ok : Bool)
  /-- No result gave a leg. -/
  | abandon
  | failLeg (id : Nat)
  | report (t : Task)
  | onLegDown (t : Task)
  | fire (t : Task)
  | activate
  | companion
  | joinAttach (t : Task)
  | joinStop (t : Task)
  | leave (t : Task)
  | close

def step (s : State) : Act → Option State
  | .assign => if s.phase = .creating then some { s with phase := .created } else none
  | .launch =>
    if s.phase = .created then
      some
        { s with
          phase := .collecting
          joining := fun id => decide (id < s.count)
          tasks := (List.range s.count).map (⟨·, .dialing⟩) ++ s.tasks }
    else none
  | .result t ok =>
    if t ∈ s.tasks ∧ t.stage = .dialing ∧ (s.phase = .collecting ∨ s.phase = .connected) ∧
        ∀ u ∈ s.tasks, u.stage ≠ .attaching then
      some
        { s with
          joining := update s.joining t.leg false
          tasks := if ok then ⟨t.leg, .attaching⟩ :: s.tasks.erase t else s.tasks.erase t }
    else none
  | .attach t ok =>
    if t ∈ s.tasks ∧ t.stage = .attaching ∧ (s.phase = .collecting ∨ s.phase = .connected) then
      if ok = true ∧ s.closed = false ∧ s.attached t.leg = false then
        some
          { s.drop t with
            phase := .connected
            attached := update s.attached t.leg true }
      else some (s.drop t)
    else none
  | .abandon =>
    if s.phase = .collecting ∧ ∀ t ∈ s.tasks, ¬ t.stage.first then
      some { s with closed := true }
    else none
  | .failLeg id =>
    if s.attached id = true then
      some
        { s with
          attached := update s.attached id false
          tasks := ⟨id, .falling⟩ :: s.tasks }
    else none
  -- the loss of leg 0 activates the engine first
  | .report t =>
    if t ∈ s.tasks ∧ t.stage = .falling ∧ (s.closed = true ∨ t.leg ≠ 0 ∨ s.active = true) then
      some (if s.closed then s.drop t else s.turn t .calling)
    else none
  | .onLegDown t =>
    if t ∈ s.tasks ∧ t.stage = .calling then
      some (if s.count ≤ t.leg then s.drop t else s.turn t .timer)
    else none
  | .fire t => if t ∈ s.tasks ∧ t.stage = .timer then some (ensureLeg (s.drop t) t.leg) else none
  | .activate =>
    if s.active = false then some { s with active := true, activation := some 1 } else none
  | .companion =>
    match s.activation with
    | some k =>
      if k < s.count then some (ensureLeg { s with activation := some (k + 1) } k)
      else some { s with activation := none }
    | none => none
  | .joinAttach t =>
    if t ∈ s.tasks ∧ t.stage = .joining ∧ s.closed = false ∧ s.attached t.leg = false then
      some { s.turn t .leaving with attached := update s.attached t.leg true }
    else none
  | .joinStop t =>
    if t ∈ s.tasks ∧ t.stage = .joining ∧ (s.closed = true ∨ s.attached t.leg = true) then
      some (s.turn t .leaving)
    else none
  | .leave t =>
    if t ∈ s.tasks ∧ t.stage = .leaving then
      some { s.drop t with joining := update s.joining t.leg false }
    else none
  | .close => some { s with closed := true }

end Model

section Specification

/-- The leg that a task will see to; a goroutine out of its loop sees to none. -/
def Task.sees (t : Task) : Option Nat :=
  if t.stage = .leaving then none else some t.leg

/-- The loop of the activation has the leg before it. -/
def Ahead (s : State) (id : Nat) : Prop :=
  id ≠ 0 ∧ ∃ k ∈ s.activation, k ≤ id

def Awaited (s : State) (id : Nat) : Prop :=
  s.active = false ∧ id ≠ 0

/-- Of an open session with an active engine, when all results are consumed, every leg is attached
or has a task, or the activation is still to ask for it. -/
def NoneForgotten (s : State) : Prop :=
  s.phase = .connected → s.closed = false → s.active = true →
    (∀ t ∈ s.tasks, ¬ t.stage.first) →
    ∀ id < s.count,
      s.attached id = true ∨ Held Task.sees s.tasks (some id) ∨ Ahead s id

/-- The flag of a leg that is not attached is not the one of a goroutine out of its loop. -/
def Free (s : State) (id : Nat) : Prop :=
  s.joining id = true → s.attached id = true ∨
    ∃ t ∈ s.tasks, t.leg = id ∧ (t.stage.first ∨ t.stage = .joining)

/-- The leg needs no first dial. -/
def Spared (s : State) (id : Nat) : Prop :=
  s.attached id = true ∨ Ahead s id ∨ Awaited s id

/-- A step gives up no request that a leg depends on. -/
def Kept (s : State) : Act → Prop
  | .result t ok | .attach t ok => ok = true ∨ Spared s t.leg
  | .companion => ∀ k ∈ s.activation, Free s k
  | .fire t => Free s t.leg
  | _ => True

end Specification

section Legs

variable {s s' : State} {a : Act} {t : Task} {id : Nat}

/-- The leg is still to be asked for. -/
def ToCome (s : State) (id : Nat) : Prop :=
  Ahead s id ∨ Awaited s id ∨ s.phase = .creating ∨ s.phase = .created

def Cared (s : State) (id : Nat) : Prop :=
  s.attached id = true ∨ Held Task.sees s.tasks (some id)

def Inv (s : State) : Prop :=
  s.closed = false → ∀ id < s.count, Cared s id ∨ ToCome s id

theorem Inv.legs {phase : Phase} {attached joining : Nat → Bool} {tasks : List Task} (h : Inv s)
    (hp : s.phase = .creating ∨ s.phase = .created → phase = .creating ∨ phase = .created)
    (hcared : ∀ id < s.count, s.closed = false → Cared s id →
      (attached id = true ∨ Held Task.sees tasks (some id)) ∨ ToCome s id) :
    Inv { s with phase := phase, attached := attached, joining := joining, tasks := tasks } := by
  intro hopen id hid
  rcases (h hopen id hid).elim (hcared id hid hopen) .inr with hc | hc
  · exact .inl hc
  · exact .inr (hc.imp_right (Or.imp_right hp))

theorem sees_of_ne (h : t.stage ≠ .leaving) : t.sees = some t.leg :=
  if_neg h

theorem leg_of_sees (h : t.sees = some id) : t.leg = id :=
  Option.some.inj (ite_none_left_eq_some.1 h).2

/-- A task that goes on for its leg. -/
theorem Inv.turn {stage : Stage} (h : Inv s) (hstage : t.stage ≠ .leaving)
    (hstage' : stage ≠ .leaving) : Inv (s.turn t stage) :=
  h.legs (fun hp => hp) fun _ _ _ hc => .inl (hc.imp_right fun hh =>
    hh.turn (by simp [Task.sees, hstage, hstage']))

/-- A task that ends is not missed. -/
theorem Inv.drop {joining : Nat → Bool} (h : Inv s)
    (ht : t.leg < s.count → s.closed = false → t.sees = some t.leg →
      s.attached t.leg = true ∨ ToCome s t.leg) : Inv { s.drop t with joining := joining } := by
  refine h.legs (fun hp => hp) fun id hid hopen hc => ?_
  rcases hc with hatt | hh
  · exact .inl (.inl hatt)
  · rcases hh.erase (t := t) with hsees | hh
    · cases leg_of_sees hsees
      exact (ht hid hopen hsees).imp_left .inl
    · exact .inl (.inr hh)

/-- A task that ends, or leaves its loop, with its leg attached. -/
theorem Inv.served {phase : Phase} {attached : Nat → Bool} {tasks : List Task} (h : Inv s)
    (hp : s.phase = .creating ∨ s.phase = .created → phase = .creating ∨ phase = .created)
    (hmono : ∀ id, s.attached id = true → attached id = true)
    (htasks : ∀ u ∈ s.tasks.erase t, u ∈ tasks) (ht : s.closed = false → attached t.leg = true) :
    Inv { s with phase := phase, attached := attached, tasks := tasks } := by
  refine h.legs hp fun id _ hopen hc => .inl ?_
  rcases hc with hatt | hh
  · exact .inl (hmono id hatt)
  · rcases hh.erase (t := t) with hsees | ⟨u, hu, hsees⟩
    · exact .inl (leg_of_sees hsees ▸ ht hopen)
    · exact .inr ⟨u, htasks u hu, hsees⟩

theorem attached_update {k : Nat} (h : s.attached id = true) :
    update s.attached k true id = true := by
  by_cases hk : id = k <;> simp [hk, h]

theorem Spared.toCome (h : Spared s id) : s.attached id = true ∨ ToCome s id :=
  h.imp_right fun h => h.elim .inl fun h => .inr (.inl h)

theorem cared_ensureLeg {k : Nat} (h : Cared s id ∨ ToCome s id) :
    Cared (ensureLeg s k) id ∨ ToCome (ensureLeg s k) id := by
  unfold ensureLeg
  split
  · exact h
  · exact h.imp_left fun hc => hc.imp_right Held.cons

/-- `ensureLeg` leaves its leg cared for, if the flag is not in its way. -/
theorem ensureLeg_cared (hid : id < s.count) (hfree : Free s id) :
    Cared (ensureLeg s id) id ∨ ToCome (ensureLeg s id) id := by
  unfold ensureLeg
  split
  · next hskip =>
    rcases hskip with hle | hp | hatt | hjoin
    · exact absurd hid (Nat.not_lt.2 hle)
    · exact .inr (.inr (.inr (.inl hp)))
    · exact .inl (.inl hatt)
    · refine .inl ((hfree hjoin).imp_right fun ⟨u, hu, hleg, hstage⟩ => ⟨u, hu, ?_⟩)
      rw [sees_of_ne fun hl => by simp [hl, Stage.first] at hstage, hleg]
  · exact .inl (.inr held_cons_self)

theorem Inv.ensureLeg {k : Nat}
    (hothers : s.closed = false → ∀ id < s.count, id ≠ k → Cared s id ∨ ToCome s id)
    (hfree : Free s k) : Inv (ensureLeg s k) := by
  have hframe : (PreferredStartup.ensureLeg s k).closed = s.closed ∧
      (PreferredStartup.ensureLeg s k).count = s.count := by
    unfold PreferredStartup.ensureLeg
    split <;> exact ⟨rfl, rfl⟩
  intro hopen id hid
  rw [hframe.1] at hopen
  rw [hframe.2] at hid
  by_cases hk : id = k
  · subst hk
    exact ensureLeg_cared hid hfree
  · exact cared_ensureLeg (hothers hopen id hid hk)

theorem inv_step (h : Inv s) (hkept : Kept s a) (hs : step s a = some s') : Inv s' := by
  cases a with
  | assign =>
    obtain ⟨_, ⟨⟩⟩ := ite_none_right_eq_some.1 hs
    exact h.legs (fun _ => .inr rfl) fun _ _ _ hc => .inl hc
  | launch =>
    obtain ⟨_, ⟨⟩⟩ := ite_none_right_eq_some.1 hs
    -- every leg has its first dial now
    refine fun _ id hid => .inl (.inr ⟨⟨id, .dialing⟩, mem_append_left _ ?_, rfl⟩)
    exact mem_map.2 ⟨id, mem_range.2 hid, rfl⟩
  | result t ok =>
    obtain ⟨⟨_, hstage, _, _⟩, ⟨⟩⟩ := ite_none_right_eq_some.1 hs
    cases ok with
    | true =>
      exact h.legs (fun hp => hp) fun _ _ _ hc => .inl (hc.imp_right fun hh =>
        hh.turn (by simp [Task.sees, hstage]))
    | false => exact h.drop fun _ _ _ => (hkept.resolve_left nofun).toCome
  | attach t ok =>
    obtain ⟨⟨_, _, hphase⟩, hs⟩ := ite_none_right_eq_some.1 hs
    split at hs
    · cases hs
      refine h.served (fun hp => ?_) (fun _ => attached_update) (fun _ hu => hu)
        fun _ => update_self ..
      rcases hphase with hphase | hphase <;> simp [hphase] at hp
    · next hfail =>
      cases hs
      refine h.drop fun _ hopen _ => ?_
      rcases hkept with rfl | hspared
      · refine .inl ?_
        simpa [hopen] using hfail
      · exact hspared.toCome
  | abandon =>
    obtain ⟨_, ⟨⟩⟩ := ite_none_right_eq_some.1 hs
    exact nofun
  | close =>
    cases hs
    exact nofun
  | failLeg id =>
    obtain ⟨_, ⟨⟩⟩ := ite_none_right_eq_some.1 hs
    refine h.legs (fun hp => hp) fun j _ _ hc => .inl ?_
    by_cases hj : j = id
    · exact .inr (hj ▸ held_cons_self)
    · exact hc.imp (fun hatt => by simpa [hj] using hatt) Held.cons
  | report t =>
    obtain ⟨⟨_, hstage, _⟩, ⟨⟩⟩ := ite_none_right_eq_some.1 hs
    split
    · next hclosed => exact h.drop fun _ hopen _ => by simp [hopen] at hclosed
    · exact h.turn (by simp [hstage]) nofun
  | onLegDown t =>
    obtain ⟨⟨_, hstage⟩, ⟨⟩⟩ := ite_none_right_eq_some.1 hs
    split
    · next hle => exact h.drop fun hlt => absurd hlt (Nat.not_lt.2 hle)
    · exact h.turn (by simp [hstage]) nofun
  | fire t =>
    obtain ⟨⟨_, hstage⟩, ⟨⟩⟩ := ite_none_right_eq_some.1 hs
    refine Inv.ensureLeg (fun hopen id hid hne => ?_) fun hjoin => ?_
    · refine (h hopen id hid).imp_left fun hc => hc.imp_right fun hh => ?_
      exact hh.erase.resolve_left fun hsees => hne (leg_of_sees hsees).symm
    · refine (hkept hjoin).imp_right fun ⟨u, hu, hleg, hu'⟩ =>
        ⟨u, (mem_erase_of_ne fun heq => ?_).2 hu, hleg, hu'⟩
      simp [heq, hstage, Stage.first] at hu'
  | activate =>
    obtain ⟨_, ⟨⟩⟩ := ite_none_right_eq_some.1 hs
    refine fun hopen id hid => (h hopen id hid).imp_right fun hc => ?_
    rcases hc with hahead | hawaited | hphase
    · exact .inl ⟨hahead.1, 1, rfl, Nat.one_le_iff_ne_zero.2 hahead.1⟩
    · exact .inl ⟨hawaited.2, 1, rfl, Nat.one_le_iff_ne_zero.2 hawaited.2⟩
    · exact .inr (.inr hphase)
  | companion =>
    simp only [step] at hs
    split at hs
    · next k hk =>
      split at hs
      · cases hs
        refine Inv.ensureLeg (fun hopen id hid hne => ?_) (hkept k hk)
        refine (h hopen id hid).imp_right fun hc => hc.imp_left fun ⟨hzero, k', hk', hle⟩ => ?_
        cases hk.symm.trans hk'
        exact ⟨hzero, k + 1, rfl, Nat.lt_of_le_of_ne hle (Ne.symm hne)⟩
      · next hend =>
        cases hs
        refine fun hopen id hid => (h hopen id hid).imp_right fun hc => ?_
        refine hc.imp_left fun ⟨_, k', hk', hle⟩ => ?_
        cases hk.symm.trans hk'
        exact absurd (Nat.lt_of_le_of_lt hle hid) hend
    · cases hs
  | joinAttach t =>
    obtain ⟨_, ⟨⟩⟩ := ite_none_right_eq_some.1 hs
    exact h.served (fun hp => hp) (fun _ => attached_update)
      (fun _ hu => mem_cons_of_mem _ hu) fun _ => update_self ..
  | joinStop t =>
    obtain ⟨⟨_, _, hwhy⟩, ⟨⟩⟩ := ite_none_right_eq_some.1 hs
    refine h.served (fun hp => hp) (fun _ hatt => hatt) (fun _ hu => mem_cons_of_mem _ hu)
      fun hopen => hwhy.resolve_left ?_
    simp [hopen]
  | leave t =>
    obtain ⟨⟨_, hstage⟩, ⟨⟩⟩ := ite_none_right_eq_some.1 hs
    refine h.drop fun _ _ hsees => ?_
    simp [Task.sees, hstage] at hsees

end Legs

/-- Along every run that gives up no request, preferred startup forgets no leg. -/
theorem preferred_startup_keeps_legs (count : Nat) {acts : List Act} {s : State}
    (hkept : EachStep step Kept { count := count } acts)
    (hrun : runActs step { count := count } acts = some s) : NoneForgotten s := by
  have hinit : Inv { count := count } := fun _ id _ => .inr (.inr (.inr (.inl rfl)))
  have hinv := invariant_of_eachStep (fun _ _ _ h hk hs => inv_step h hk hs) hinit hkept hrun
  intro hp hopen hactive _ id hid
  rcases hinv hopen id hid with hc | hahead | hawaited | hearly
  · exact hc.elim .inl fun hh => .inr (.inl hh)
  · exact .inr (.inr hahead)
  · simp [Awaited, hactive] at hawaited
  · simp [hp] at hearly

/-- The dial of leg 1 fails before the activation, which brings the leg up. -/
def joinedRun : List Act :=
  [.assign, .launch, .result ⟨0, .dialing⟩ true, .attach ⟨0, .attaching⟩ true,
    .result ⟨1, .dialing⟩ false, .activate, .companion, .companion, .joinAttach ⟨1, .joining⟩,
    .leave ⟨1, .leaving⟩]

theorem preferred_startup_keeps_legs_joined :
    ∃ s, runActs step { count := 2 } joinedRun = some s ∧ s.attached 1 = true ∧
      NoneForgotten s := by
  refine ⟨_, rfl, rfl, @preferred_startup_keeps_legs 2 joinedRun _ ?_ rfl⟩
  simp [EachStep, joinedRun, step, Kept, Spared, Awaited, Free, ensureLeg, State.drop, State.turn]

/-- The dial of leg 0 fails; no activation asks for it. -/
theorem lost_leg0_never_joined :
    ∃ s, runActs step { count := 2 } [.assign, .launch, .result ⟨0, .dialing⟩ false,
      .result ⟨1, .dialing⟩ true, .attach ⟨1, .attaching⟩ true, .activate, .companion,
      .companion] = some s ∧ ¬ NoneForgotten s := by
  refine ⟨_, rfl, fun h => ?_⟩
  rcases h rfl rfl rfl (fun t ht => nomatch ht) 0 Nat.two_pos with hattached | ⟨t, ht, _⟩ | hahead
  · cases hattached
  · cases ht
  · exact hahead.1 rfl

end Smp3Multipath.Mihomo.PreferredStartup

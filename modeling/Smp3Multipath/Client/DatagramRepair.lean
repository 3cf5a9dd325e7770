import Mathlib.Logic.Function.Basic
import Smp3Multipath.Lib.Custody
import Smp3Multipath.Lib.Run

/-!
# Repair of the legs of a datagram association

`ensureEngine` replaces an engine that is done: it attaches leg 0 to a new one, makes it the
current one and leaves leg 1 to `bootstrapLeg`.  All of this happens with `engineMu` held, so
whoever asks for the current engine waits.  A leg that fails is reported to `scheduleRepair`, which
starts a goroutine for the engine unless the busy flag of the leg is set.  The flag is one for all
engines, and it is reset only when the goroutine has returned: a request that finds it set by a
goroutine of another engine, or by one that has left its loop, is lost.

A cancelled context counts as a closed association.
-/

namespace Smp3Multipath.Client.DatagramRepair

open Lib.Run Lib.Custody Function List Option

/-- Where a goroutine is that will see to a leg. -/
inductive Stage where
  /-- Before or in `scheduleRepair`, with the current engine not yet looked at. -/
  | calling
  /-- In `scheduleRepair`, past that test. -/
  | asking
  /-- In `bootstrapLeg`. -/
  | dialing
  /-- In the loop of the repair goroutine. -/
  | repairing
deriving DecidableEq

structure Task where
  engine : Nat
  leg : Fin 2
  stage : Stage
deriving DecidableEq

def Task.key (t : Task) : Nat × Fin 2 :=
  (t.engine, t.leg)

structure State where
  closed : Bool := false
  /-- How many engines have leg 0 attached by `ensureEngine`. -/
  created : Nat := 0
  current : Option Nat := none
  /-- The new engine of the `ensureEngine` that holds `engineMu`. -/
  building : Option Nat := none
  done : Nat → Bool := fun _ => false
  attached : Nat → Fin 2 → Bool := fun _ _ => false
  tasks : List Task := []
  repairing : Fin 2 → Bool := fun _ => false

/-- No engine, or one that is done. -/
def State.terminated (s : State) : Bool :=
  s.current.all s.done

def State.attach (s : State) (t : Task) : State :=
  { s with
    attached := update s.attached t.engine
      (update (s.attached t.engine) t.leg true)
    tasks := s.tasks.erase t }

def State.drop (s : State) (t : Task) : State :=
  { s with tasks := s.tasks.erase t }

def State.turn (s : State) (t : Task) (stage : Stage) : State :=
  { s with tasks := { t with stage := stage } :: s.tasks.erase t }

inductive Act where
  /-- `ensureEngine` has dialed and attached leg 0 of a new engine. -/
  | build
  | install
  /-- The association was closed meanwhile. -/
  | abandon
  /-- An engine ends. -/
  | finish (g : Nat)
  /-- `handleLegFailure`; it starts the callback. -/
  | failLeg (g : Nat) (id : Fin 2)
  | check (t : Task)
  | takeFlag (t : Task)
  /-- The dial or the attach of `bootstrapLeg` fails. -/
  | bootstrapFails (t : Task)
  | bootstrapStale (t : Task)
  /-- `AttachLeg` of `bootstrapLeg` or of the repair goroutine. -/
  | attach (t : Task)
  /-- The repair goroutine returns from its loop. -/
  | leave (t : Task)
  | resetFlag (id : Fin 2)
  | close
deriving DecidableEq

def step (s : State) : Act → Option State
  | .build =>
    if s.closed = false ∧ s.building = none ∧ s.terminated then
      some
        { s with
          building := some s.created
          created := s.created + 1
          attached := update s.attached s.created fun id => id == 0 }
    else none
  | .install =>
    match s.building with
    | some g =>
      if s.closed = false then
        some { s with building := none, current := some g, tasks := ⟨g, 1, .dialing⟩ :: s.tasks }
      else none
    | none => none
  | .abandon =>
    match s.building with
    | some g =>
      if s.closed = true then
        some { s with building := none, done := update s.done g true }
      else none
    | none => none
  | .finish g => some { s with done := update s.done g true }
  | .failLeg g id =>
    -- with the engine done the leg stays in the table
    if g < s.created ∧ s.done g = false ∧ s.attached g id = true then
      some
        { s with
          attached := update s.attached g (update (s.attached g) id false)
          tasks := ⟨g, id, .calling⟩ :: s.tasks }
    else none
  | .check t =>
    if t ∈ s.tasks ∧ t.stage = .calling ∧ s.building = none then
      some (if s.closed = true ∨ s.current ≠ some t.engine then s.drop t else s.turn t .asking)
    else none
  | .takeFlag t =>
    if t ∈ s.tasks ∧ t.stage = .asking then
      some (if s.repairing t.leg then s.drop t
        else { s.turn t .repairing with repairing := update s.repairing t.leg true })
    else none
  | .bootstrapFails t => if t ∈ s.tasks ∧ t.stage = .dialing then some (s.turn t .calling) else none
  | .bootstrapStale t =>
    if t ∈ s.tasks ∧ t.stage = .dialing ∧
        (s.closed = true ∨ s.building = none ∧ s.current ≠ some t.engine) then some (s.drop t)
    else none
  | .attach t =>
    if t ∈ s.tasks ∧ (t.stage = .dialing ∨ t.stage = .repairing) ∧
        s.attached t.engine t.leg = false then some (s.attach t)
    else none
  | .leave t =>
    if t ∈ s.tasks ∧ t.stage = .repairing ∧
        (s.closed = true ∨ s.building = none ∧ s.current ≠ some t.engine ∨
          s.done t.engine = true ∨ s.attached t.engine t.leg = true) then some (s.drop t)
    else none
  | .resetFlag id =>
    if s.repairing id = true ∧ ∀ t ∈ s.tasks, t.leg = id → t.stage ≠ .repairing then
      some { s with repairing := update s.repairing id false }
    else none
  | .close => some { s with closed := true }

/-- The leg is attached to the engine, or some goroutine will see to it. -/
def Covered (s : State) (g : Nat) (id : Fin 2) : Prop :=
  s.attached g id = true ∨ Held Task.key s.tasks (g, id)

/-- The legs of the current engine of an open association are all covered. -/
def NoLegForgotten (s : State) : Prop :=
  s.closed = false → ∀ g, s.current = some g → s.done g = false → ∀ id, Covered s g id

/-- A request for the current engine finds the busy flag set only if its leg is attached or the
goroutine that set the flag works for this engine and is in its loop. -/
def FlagOfEngine (s : State) : Act → Prop
  | .takeFlag t =>
    s.current = some t.engine → s.repairing t.leg = true →
      s.attached t.engine t.leg = true ∨ { t with stage := .repairing } ∈ s.tasks
  | _ => True

section Invariant

variable {s s' : State} {a : Act} {g : Nat} {id : Fin 2} {t : Task}

structure Inv (s : State) : Prop where
  known : ∀ t ∈ s.tasks, t.engine < s.created
  /-- Nobody is past the test of the current engine for one that is being built. -/
  waits : ∀ g, s.building = some g → ∀ t ∈ s.tasks, t.engine = g → t.stage = .calling
  fresh : ∀ g, s.building = some g → g < s.created ∧ (s.done g = false → Covered s g 0)
  covered : NoLegForgotten s

theorem Covered.drop (h : Covered s g id)
    (ht : t.key = (g, id) → s.attached g id = true ∨ Held Task.key (s.tasks.erase t) (g, id)) :
    Covered (s.drop t) g id := by
  rcases h with h | h
  · exact .inl h
  · rcases h.erase (t := t) with hkey | h
    · exact ht hkey
    · exact .inr h

theorem Covered.turn (h : Covered s g id) (stage : Stage) : Covered (s.turn t stage) g id :=
  h.imp_right fun h => h.turn rfl

theorem Covered.attach (h : Covered s g id) : Covered (s.attach t) g id := by
  by_cases hkey : t.key = (g, id)
  · cases hkey
    exact .inl (by simp [State.attach])
  · rcases h with h | h
    · left
      by_cases hg : g = t.engine
      · subst hg
        by_cases hid : id = t.leg
        · exact absurd (by rw [hid]; rfl) hkey
        · simpa [State.attach, hid] using h
      · simpa [State.attach, hg] using h
    · exact .inr (h.erase.resolve_left hkey)

/-- A step that changes neither the engines nor the close flag keeps the invariant if it keeps
what is covered: of the current engine, and of one being built. -/
theorem Inv.of_legs {attached : Nat → Fin 2 → Bool} {tasks : List Task} {repairing : Fin 2 → Bool}
    (h : Inv s)
    (hknown : ∀ t ∈ tasks, t ∈ s.tasks ∨ t.engine < s.created ∧
      (s.building = some t.engine → t.stage = .calling))
    (hcovered : ∀ g id, s.done g = false →
      s.building = some g ∨ s.closed = false ∧ s.current = some g →
      Covered s g id →
      Covered { s with attached := attached, tasks := tasks, repairing := repairing } g id) :
    Inv { s with attached := attached, tasks := tasks, repairing := repairing } where
  known t ht := (hknown t ht).elim (h.known t) And.left
  waits g hg t ht hengine := by
    rcases hknown t ht with hold | ⟨_, hnew⟩
    · exact h.waits g hg t hold hengine
    · exact hnew (hengine ▸ hg)
  fresh g hg :=
    ⟨(h.fresh g hg).1, fun hdone => hcovered g 0 hdone (.inl hg) ((h.fresh g hg).2 hdone)⟩
  covered hopen g hg hdone id :=
    hcovered g id hdone (.inr ⟨hopen, hg⟩) (h.covered hopen g hg hdone id)

/-- The end of a task that nobody waits for. -/
theorem Inv.drop (h : Inv s)
    (ht : s.done t.engine = false →
      s.building = some t.engine ∨ s.closed = false ∧ s.current = some t.engine →
      s.attached t.engine t.leg = true ∨ Held Task.key (s.tasks.erase t) t.key) :
    Inv (s.drop t) := by
  refine h.of_legs (fun u hu => .inl (mem_of_mem_erase hu)) fun g id hdone hg hc => ?_
  refine hc.drop fun hkey => ?_
  cases hkey
  exact ht hdone hg

theorem Inv.turn (h : Inv s) (hm : t ∈ s.tasks) {stage : Stage} {repairing : Fin 2 → Bool}
    (hstage : s.building = some t.engine → stage = .calling) :
    Inv { s.turn t stage with repairing := repairing } := by
  refine h.of_legs (fun u hu => ?_) fun g id _ _ hc => hc.turn stage
  rcases mem_cons.1 hu with rfl | hu
  · exact .inr ⟨h.known t hm, hstage⟩
  · exact .inl (mem_of_mem_erase hu)

theorem Inv.building_ne (h : Inv s) (hm : t ∈ s.tasks) (hstage : t.stage ≠ .calling) :
    s.building ≠ some t.engine :=
  fun hg => hstage (h.waits _ hg t hm rfl)

theorem inv_step (hinv : Inv s) (hflag : FlagOfEngine s a) (hs : step s a = some s') :
    Inv s' := by
  cases a with
  | build =>
    obtain ⟨⟨_, _, hterm⟩, ⟨⟩⟩ := ite_none_right_eq_some.1 hs
    refine ⟨fun t ht => Nat.lt_succ_of_lt (hinv.known t ht), fun g hg t ht hengine => ?_,
      fun g hg => ?_, fun _ g hg hdone id => ?_⟩
    · cases hg
      exact absurd (hengine ▸ hinv.known t ht) (Nat.lt_irrefl _)
    · cases hg
      exact ⟨Nat.lt_succ_self _, fun _ => .inl (by simp)⟩
    · -- the engine before is done
      have hg : s.current = some g := hg
      rw [State.terminated, hg, all_some, show s.done g = false from hdone] at hterm
      cases hterm
  | install =>
    simp only [step] at hs
    split at hs
    · next g hg =>
      obtain ⟨_, ⟨⟩⟩ := ite_none_right_eq_some.1 hs
      obtain ⟨hlt, hzero⟩ := hinv.fresh g hg
      refine ⟨fun t ht => ?_, nofun, nofun, fun _ g' hg' hdone id => ?_⟩
      · rcases mem_cons.1 ht with rfl | ht
        · exact hlt
        · exact hinv.known t ht
      · cases hg'
        match id with
        | 0 => exact (hzero hdone).imp_right Held.cons
        | 1 => exact .inr held_cons_self
    · cases hs
  | abandon =>
    simp only [step] at hs
    split at hs
    · obtain ⟨hclosed, ⟨⟩⟩ := ite_none_right_eq_some.1 hs
      exact ⟨hinv.known, nofun, nofun, fun hopen => by simp [hclosed] at hopen⟩
    · cases hs
  | finish g =>
    cases hs
    have hdone : ∀ {g'}, update s.done g true g' = false → s.done g' = false := by
      intro g' hg'
      by_cases heq : g' = g
      · simp [heq] at hg'
      · simpa [heq] using hg'
    exact ⟨hinv.known, hinv.waits,
      fun g' hg' => ⟨(hinv.fresh g' hg').1, fun h => (hinv.fresh g' hg').2 (hdone h)⟩,
      fun hopen g' hg' h => hinv.covered hopen g' hg' (hdone h)⟩
  | failLeg g id =>
    obtain ⟨⟨hlt, _⟩, ⟨⟩⟩ := ite_none_right_eq_some.1 hs
    refine hinv.of_legs (fun t ht => ?_) fun g' id' _ _ hc => ?_
    · rcases mem_cons.1 ht with rfl | ht
      · exact .inr ⟨hlt, fun _ => rfl⟩
      · exact .inl ht
    · by_cases hkey : g' = g ∧ id' = id
      · obtain ⟨rfl, rfl⟩ := hkey
        exact .inr held_cons_self
      · rcases hc with ha | hh
        · left
          by_cases hg : g' = g
          · subst hg
            simpa [show id' ≠ id from fun h => hkey ⟨rfl, h⟩] using ha
          · simpa [hg] using ha
        · exact .inr hh.cons
  | check t =>
    obtain ⟨⟨hm, _, hbuilding⟩, ⟨⟩⟩ := ite_none_right_eq_some.1 hs
    split
    · next hstale =>
      refine hinv.drop fun _ hg => ?_
      rw [hbuilding] at hg
      rcases hg with hg | ⟨hopen, hg⟩
      · cases hg
      · rcases hstale with hclosed | hne
        · rw [hopen] at hclosed
          cases hclosed
        · exact absurd hg hne
    · exact hinv.turn hm fun hg => by rw [hbuilding] at hg; cases hg
  | takeFlag t =>
    obtain ⟨⟨hm, hstage⟩, ⟨⟩⟩ := ite_none_right_eq_some.1 hs
    have hne : s.building ≠ some t.engine := hinv.building_ne hm (by rw [hstage]; nofun)
    split
    · next hset =>
      refine hinv.drop fun _ hg => ?_
      rcases hflag (hg.resolve_left hne).2 hset with ha | hother
      · exact .inl ha
      · refine .inr ⟨_, (mem_erase_of_ne ?_).2 hother, rfl⟩
        intro heq
        rw [← heq] at hstage
        cases hstage
    · exact hinv.turn hm fun hg => absurd hg hne
  | bootstrapFails t =>
    obtain ⟨⟨hm, hstage⟩, ⟨⟩⟩ := ite_none_right_eq_some.1 hs
    exact hinv.turn hm fun _ => rfl
  | bootstrapStale t =>
    obtain ⟨⟨hm, hstage, hstale⟩, ⟨⟩⟩ := ite_none_right_eq_some.1 hs
    have hne : s.building ≠ some t.engine := hinv.building_ne hm (by rw [hstage]; nofun)
    refine hinv.drop fun _ hg => ?_
    obtain ⟨hopen, hg⟩ := hg.resolve_left hne
    simp [hopen, hg] at hstale
  | attach t =>
    obtain ⟨_, ⟨⟩⟩ := ite_none_right_eq_some.1 hs
    exact hinv.of_legs (fun u hu => .inl (mem_of_mem_erase hu)) fun g id _ _ hc => hc.attach
  | leave t =>
    obtain ⟨⟨hm, hstage, hwhy⟩, ⟨⟩⟩ := ite_none_right_eq_some.1 hs
    have hne : s.building ≠ some t.engine := hinv.building_ne hm (by rw [hstage]; nofun)
    refine hinv.drop fun hdone hg => .inl ?_
    obtain ⟨hopen, hg⟩ := hg.resolve_left hne
    simpa [hopen, hg, hdone] using hwhy
  | resetFlag id =>
    obtain ⟨_, ⟨⟩⟩ := ite_none_right_eq_some.1 hs
    exact hinv.of_legs (fun u hu => .inl hu) fun _ _ _ _ hc => hc
  | close =>
    cases hs
    exact ⟨hinv.known, hinv.waits, hinv.fresh, nofun⟩

end Invariant

/-- Along every run whose requests meet the flag of their own engine, no leg is forgotten. -/
theorem no_leg_forgotten {acts : List Act} {s : State}
    (hflag : EachStep step FlagOfEngine {} acts) (hrun : runActs step {} acts = some s) :
    NoLegForgotten s := by
  have hinit : Inv {} := ⟨nofun, nofun, nofun, nofun⟩
  exact (invariant_of_eachStep (fun _ _ _ h hc hs => inv_step h hc hs) hinit hflag hrun).covered

/-- Leg 1 of the first engine is attached, lost and repaired. -/
def repairedRun : List Act :=
  [.build, .install, .attach ⟨0, 1, .dialing⟩, .failLeg 0 1, .check ⟨0, 1, .calling⟩,
    .takeFlag ⟨0, 1, .asking⟩, .attach ⟨0, 1, .repairing⟩, .resetFlag 1]

instance : DecidablePred (FlagOfEngine s) := fun a =>
  match a with
  | .takeFlag _ => by unfold FlagOfEngine; infer_instance
  | .build | .install | .abandon | .finish _ | .failLeg .. | .check _ | .bootstrapFails _
  | .bootstrapStale _ | .attach _ | .leave _ | .resetFlag _ | .close => .isTrue trivial

theorem no_leg_forgotten_repaired :
    ∃ s, runActs step {} repairedRun = some s ∧ s.current = some 0 ∧ NoLegForgotten s :=
  ⟨_, rfl, rfl, @no_leg_forgotten repairedRun _ (by decide) rfl⟩

/-- The first engine ends while the repair goroutine of its leg 1 waits for its next dial; the dial
of the second engine's leg 1 fails, and its request finds the flag set. -/
theorem repair_lost_to_old_engine :
    ∃ s, runActs step {} [.build, .install, .bootstrapFails ⟨0, 1, .dialing⟩,
      .check ⟨0, 1, .calling⟩, .takeFlag ⟨0, 1, .asking⟩, .finish 0, .build, .install,
      .bootstrapFails ⟨1, 1, .dialing⟩, .check ⟨1, 1, .calling⟩, .takeFlag ⟨1, 1, .asking⟩,
      .leave ⟨0, 1, .repairing⟩, .resetFlag 1] = some s ∧ ¬ NoLegForgotten s := by
  refine ⟨_, rfl, fun h => ?_⟩
  rcases h rfl 1 rfl rfl 1 with hattached | ⟨t, ht, _⟩
  · cases hattached
  · cases ht

end Smp3Multipath.Client.DatagramRepair

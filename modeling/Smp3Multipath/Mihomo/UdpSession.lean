import Mathlib
import Smp3Multipath.Lib.Custody
import Smp3Multipath.Lib.Run

/-!
# The dual-leg UDP session of the Mihomo adapter

The session bootstraps leg 0 and, with a delay or when leg 0 fails, leg 1.  The bootstrap loop ends
with the first success; what is still to come is then left to the goroutines.
`recreateTerminalEngine` replaces an engine that is done: it holds `recreateMu`, creates an engine,
attaches leg 0 to it and makes it the current one, unless the session closes.  `Close` takes the
same lock.

A request for a repair is given up if the session is not bootstrapped, if its engine is not the
current one or if the busy flag of the leg is set.  The first test loses a leg that fails before
`bootstrapped` is set, the second one a leg of a new engine that fails before it is installed, and
the third one what a goroutine of an older engine stands in the way of.  A bootstrap that fails and
reports to the channel after the loop has returned is lost too.

Session ids are drawn such that they differ from those installed before.  A cancelled context
counts as a closed session: the watcher cancels it without `Close`.
-/

namespace Smp3Multipath.Mihomo.UdpSession

open Lib.Run Lib.Custody Function List Option

local instance neZero_two : NeZero 2 := ⟨two_ne_zero⟩

section Model

/-- Where a goroutine is that will see to a leg. -/
inductive Stage where
  /-- In `bootstrapLeg`. -/
  | bootstrapping
  /-- `bootstrapLeg` has failed, and `bootstrapped` is not yet looked at. -/
  | failed
  /-- Before the send of the error to the bootstrap loop. -/
  | pushing
  /-- Before `scheduleRepair` reads the current engine. -/
  | reporting
  /-- In `scheduleRepairForEngine`, before its tests and past them. -/
  | calling
  | asking
  /-- In `bootstrapReplacementLeg`. -/
  | dialing
  /-- In the loop of the repair goroutine. -/
  | repairing
deriving DecidableEq

structure Task where
  engine : Nat
  leg : Fin 2
  stage : Stage
deriving DecidableEq

def Task.key (t : Task) : Nat × Fin 2 :=
  (t.engine, t.leg)

/-- `recreateTerminalEngine` with the new engine, its session id, and whether leg 0 is attached. -/
structure Recreation where
  engine : Nat
  id : Nat
  attached : Bool
deriving DecidableEq

structure State where
  current : Nat := 0
  engineGeneration : Nat := 1
  id : Nat
  /-- The session ids that were installed. -/
  ids : List Nat
  created : Nat := 1
  done : Nat → Bool := fun _ => false
  /-- Who holds `recreateMu`. -/
  recreating : Option Recreation := none
  closing : Bool := false
  closeReturned : Bool := false
  bootstrapped : Bool := false
  attached : Nat → Fin 2 → Bool := fun _ _ => false
  tasks : List Task := [⟨0, 0, .bootstrapping⟩]
  repairing : Fin 2 → Bool := fun _ => false
  /-- Has `start(1)` run? -/
  started : Bool := false
  /-- The timer of `start(1)` that the bootstrap loop leaves behind. -/
  startPending : Bool := false
  /-- Bootstraps that have attached their leg and not looked at `bootstrapped`. -/
  succeeded : List (Fin 2) := []
  /-- The channel of the bootstrap loop: legs, and whether they are attached. -/
  results : List (Fin 2 × Bool) := []
  /-- The errors that the loop has read. -/
  errs : Fin 2 → Bool := fun _ => false

def init (id : Nat) : State :=
  { id := id, ids := [id] }

def State.attach (s : State) (t : Task) : State :=
  { s with
    attached := update s.attached t.engine
      (update (s.attached t.engine) t.leg true)
    tasks := s.tasks.erase t }

def State.drop (s : State) (t : Task) : State :=
  { s with tasks := s.tasks.erase t }

def State.turn (s : State) (t : Task) (stage : Stage) : State :=
  { s with tasks := { t with stage := stage } :: s.tasks.erase t }

def State.finish (s : State) (g : Nat) : State :=
  { s with done := update s.done g true }

/-- Some test of a goroutine for the engine tells it to give up. -/
def State.stale (s : State) (t : Task) : Prop :=
  s.closing = true ∨ s.current ≠ t.engine ∨ s.done t.engine = true

instance (s : State) (t : Task) : Decidable (s.stale t) :=
  inferInstanceAs (Decidable (_ ∨ _))

/-- The bootstrap loop reads a result. -/
def State.readResult (s : State) (id : Fin 2) (ok : Bool) (rest : List (Fin 2 × Bool)) : State :=
  if ok then
    { s with
      results := rest
      bootstrapped := true
      tasks := if s.errs (1 - id) then ⟨s.current, 1 - id, .reporting⟩ :: s.tasks else s.tasks
      startPending := !s.started }
  else
    { s with
      results := rest
      errs := update s.errs id true
      closing := s.closing || s.errs (1 - id) }

inductive Act where
  /-- `bootstrapLeg(1)` starts. -/
  | start
  | bootstrapFails (t : Task)
  | bootstrapAttaches (t : Task)
  /-- A bootstrap that has attached its leg looks at `bootstrapped`. -/
  | bootstrapEnds (id : Fin 2)
  | checkBootstrapped (t : Task)
  | push (t : Task)
  | readResult
  /-- `handleLegFailure`. -/
  | failLeg (g : Nat) (id : Fin 2)
  /-- `scheduleRepair`. -/
  | report (t : Task)
  | check (t : Task)
  | takeFlag (t : Task)
  | replacementFails (t : Task)
  | attach (t : Task)
  | leave (t : Task)
  | resetFlag (id : Fin 2)
  /-- An engine ends. -/
  | finish (g : Nat)
  /-- `recreateTerminalEngine`, called by anybody. -/
  | recreate (id : Nat)
  | attachFresh
  | recreateFails
  | install
  | beginClose
  | closeEngine
deriving DecidableEq

def step (s : State) : Act → Option State
  | .start =>
    if s.started = false ∧ (s.bootstrapped = false ∨ s.startPending = true) then
      some
        { s with
          started := true
          startPending := false
          tasks := ⟨s.current, 1, .bootstrapping⟩ :: s.tasks }
    else none
  | .bootstrapFails t =>
    if t ∈ s.tasks ∧ t.stage = .bootstrapping then some (s.turn t .failed) else none
  | .bootstrapAttaches t =>
    if t ∈ s.tasks ∧ t.stage = .bootstrapping ∧ s.attached t.engine t.leg = false then
      some { s.attach t with succeeded := t.leg :: s.succeeded }
    else none
  | .bootstrapEnds id =>
    if id ∈ s.succeeded then
      some
        { s with
          succeeded := s.succeeded.erase id
          results := if s.bootstrapped then s.results else s.results ++ [(id, true)] }
    else none
  | .checkBootstrapped t =>
    if t ∈ s.tasks ∧ t.stage = .failed then
      some (s.turn t (if s.bootstrapped then .reporting else .pushing))
    else none
  | .push t =>
    if t ∈ s.tasks ∧ t.stage = .pushing then
      some { s.drop t with results := s.results ++ [(t.leg, false)] }
    else none
  | .readResult =>
    match s.results with
    | (id, ok) :: rest =>
      if s.bootstrapped = false ∧ s.closing = false then some (s.readResult id ok rest) else none
    | [] => none
  | .failLeg g id =>
    if g < s.created ∧ s.done g = false ∧ s.attached g id = true then
      some
        { s with
          attached := update s.attached g (update (s.attached g) id false)
          tasks := ⟨g, id, if g = 0 then .reporting else .calling⟩ :: s.tasks }
    else none
  | .report t =>
    if t ∈ s.tasks ∧ t.stage = .reporting then
      some { s with tasks := ⟨s.current, t.leg, .calling⟩ :: s.tasks.erase t }
    else none
  | .check t =>
    if t ∈ s.tasks ∧ t.stage = .calling then
      some (if s.bootstrapped = false ∨ s.stale t then s.drop t else s.turn t .asking)
    else none
  | .takeFlag t =>
    if t ∈ s.tasks ∧ t.stage = .asking then
      some (if s.repairing t.leg then s.drop t
        else { s.turn t .repairing with repairing := update s.repairing t.leg true })
    else none
  | .replacementFails t =>
    if t ∈ s.tasks ∧ t.stage = .dialing then some (s.turn t .calling) else none
  | .attach t =>
    if t ∈ s.tasks ∧ (t.stage = .dialing ∨ t.stage = .repairing) ∧
        s.attached t.engine t.leg = false then some (s.attach t)
    else none
  | .leave t =>
    if t ∈ s.tasks ∧ (t.stage = .dialing ∨ t.stage = .repairing) ∧ s.stale t then some (s.drop t)
    else none
  | .resetFlag id =>
    if s.repairing id = true ∧ ∀ t ∈ s.tasks, t.leg = id → t.stage ≠ .repairing then
      some { s with repairing := update s.repairing id false }
    else none
  | .finish g => some (s.finish g)
  | .recreate id =>
    if s.recreating = none ∧ s.closing = false ∧ s.bootstrapped = true ∧ s.done s.current = true ∧
        id ∉ s.ids then
      some { s with recreating := some ⟨s.created, id, false⟩, created := s.created + 1 }
    else none
  | .attachFresh =>
    match s.recreating with
    | some r =>
      if r.attached = false ∧ s.done r.engine = false then
        some
          { s with
            recreating := some { r with attached := true }
            attached := update s.attached r.engine fun id => id == 0 }
      else none
    | none => none
  | .recreateFails =>
    match s.recreating with
    | some r => some { s.finish r.engine with recreating := none }
    | none => none
  | .install =>
    match s.recreating with
    | some r =>
      if r.attached = true then
        some (if s.closing = true ∨ s.done s.current = false then
            { s.finish r.engine with recreating := none }
          else
            { s with
              current := r.engine
              id := r.id
              ids := r.id :: s.ids
              engineGeneration := s.engineGeneration + 1
              recreating := none
              tasks := ⟨r.engine, 1, .dialing⟩ :: s.tasks })
      else none
    | none => none
  | .beginClose => some { s with closing := true }
  | .closeEngine =>
    if s.closing = true ∧ s.recreating = none then
      some { s.finish s.current with closeReturned := true }
    else none

end Model

section Replacement

variable {s s' : State} {a : Act}

/-- Every engine is the current one, closed, or in the hands of `recreateTerminalEngine`; once
`Close` has returned the current one is closed. -/
structure OneEngine (s : State) : Prop where
  others : ∀ g < s.created, g ≠ s.current → s.done g = false →
    ∃ r, s.recreating = some r ∧ r.engine = g
  closed : s.closeReturned = true → s.closing = true ∧ s.done s.current = true

/-- A step leaves engine, id and generation alone, or replaces all three: an engine that is done,
of a session that `Close` has not returned for, by another one with a new id. -/
def Replaces (s s' : State) : Prop :=
  (s'.current = s.current ∧ s'.id = s.id ∧ s'.engineGeneration = s.engineGeneration) ∨
    (s.done s.current = true ∧ s.closeReturned = false ∧ s'.current ≠ s.current ∧
      s'.id ∉ s.ids ∧ s'.engineGeneration = s.engineGeneration + 1)

/-- What makes a replacement right. -/
structure EngineInv (s : State) : Prop where
  one : OneEngine s
  bound : s.current < s.created
  fresh : ∀ r, s.recreating = some r →
    r.engine < s.created ∧ r.engine ≠ s.current ∧ r.id ∉ s.ids ∧ s.closeReturned = false

theorem EngineInv.finish (h : EngineInv s) (g : Nat) : EngineInv (s.finish g) := by
  have hmono : ∀ {g'}, (s.finish g).done g' = false → s.done g' = false := by
    intro g' hg'
    by_cases heq : g' = g
    · simp [State.finish, heq] at hg'
    · simpa [State.finish, heq] using hg'
  refine ⟨⟨fun g' hlt hne hg' => h.one.others g' hlt hne (hmono hg'), fun hret => ?_⟩, h.bound,
    h.fresh⟩
  obtain ⟨hclosing, hdone⟩ := h.one.closed hret
  refine ⟨hclosing, ?_⟩
  by_contra hnot
  exact Bool.false_ne_true ((hmono (Bool.eq_false_iff.2 hnot)).symm.trans hdone)

theorem EngineInv.giveUp (h : EngineInv s) {r : Recreation} (hr : s.recreating = some r) :
    EngineInv { s.finish r.engine with recreating := none } := by
  have hf := h.finish r.engine
  refine ⟨⟨fun g hlt hne hg => ?_, hf.one.closed⟩, hf.bound, nofun⟩
  obtain ⟨r', hr', hg'⟩ := hf.one.others g hlt hne hg
  rw [show s.recreating = some r' from hr'] at hr
  cases hr
  simp [State.finish, ← hg'] at hg

/-- Engines and ids change in `install` only; the other steps leave them to the invariant. -/
theorem engineInv_step (h : EngineInv s) (hs : step s a = some s') :
    EngineInv s' ∧ Replaces s s' := by
  cases a with
  | finish g =>
    cases hs
    exact ⟨h.finish g, .inl ⟨rfl, rfl, rfl⟩⟩
  | recreate id =>
    obtain ⟨⟨hnone, hclosing, _, _, hid⟩, ⟨⟩⟩ := ite_none_right_eq_some.1 hs
    have hret : s.closeReturned = false := by
      refine Bool.eq_false_iff.2 fun hret => ?_
      rw [(h.one.closed hret).1] at hclosing
      cases hclosing
    refine ⟨⟨⟨fun g hlt hne hg => ?_, h.one.closed⟩, Nat.lt_succ_of_lt h.bound, fun r hr => ?_⟩,
      .inl ⟨rfl, rfl, rfl⟩⟩
    · by_cases heq : g = s.created
      · exact ⟨_, rfl, heq.symm⟩
      · have hlt : g < s.created + 1 := hlt
        obtain ⟨r, hr, _⟩ := h.one.others g (by omega) hne hg
        rw [hnone] at hr
        cases hr
    · cases hr
      exact ⟨Nat.lt_succ_self _, (Nat.ne_of_lt h.bound).symm, hid, hret⟩
  | attachFresh =>
    simp only [step] at hs
    split at hs
    · next r hr =>
      obtain ⟨_, ⟨⟩⟩ := ite_none_right_eq_some.1 hs
      refine ⟨⟨⟨fun g hlt hne hg => ?_, h.one.closed⟩, h.bound, fun r' hr' => ?_⟩,
        .inl ⟨rfl, rfl, rfl⟩⟩
      · obtain ⟨r', hr', hg'⟩ := h.one.others g hlt hne hg
        rw [hr] at hr'
        cases hr'
        exact ⟨_, rfl, hg'⟩
      · cases hr'
        exact h.fresh r hr
    · cases hs
  | recreateFails =>
    simp only [step] at hs
    split at hs
    · next r hr =>
      cases hs
      exact ⟨h.giveUp hr, .inl ⟨rfl, rfl, rfl⟩⟩
    · cases hs
  | install =>
    simp only [step] at hs
    split at hs
    · next r hr =>
      obtain ⟨_, ⟨⟩⟩ := ite_none_right_eq_some.1 hs
      split
      · exact ⟨h.giveUp hr, .inl ⟨rfl, rfl, rfl⟩⟩
      · next hgo =>
        obtain ⟨hlt, hne, hid, hret⟩ := h.fresh r hr
        have hdone : s.done s.current = true := by
          by_contra hnot
          exact hgo (.inr (Bool.eq_false_iff.2 hnot))
        refine ⟨⟨⟨fun g hg hgr hopen => ?_, fun hret' => ?_⟩, hlt, nofun⟩,
          .inr ⟨hdone, hret, hne, hid, rfl⟩⟩
        · -- the engine before was done, and every other one too
          by_cases heq : g = s.current
          · rw [heq, show s.done s.current = true from hdone] at hopen
            cases hopen
          · obtain ⟨r', hr', hg'⟩ := h.one.others g hg heq hopen
            rw [hr] at hr'
            cases hr'
            exact absurd hg'.symm hgr
        · rw [show s.closeReturned = true from hret'] at hret
          cases hret
    · cases hs
  | beginClose =>
    cases hs
    exact ⟨⟨⟨h.one.others, fun hret => ⟨rfl, (h.one.closed hret).2⟩⟩, h.bound, h.fresh⟩,
      .inl ⟨rfl, rfl, rfl⟩⟩
  | closeEngine =>
    obtain ⟨⟨hclosing, hnone⟩, ⟨⟩⟩ := ite_none_right_eq_some.1 hs
    have hf := h.finish s.current
    refine ⟨⟨⟨hf.one.others, fun _ => ⟨hclosing, update_self ..⟩⟩, hf.bound,
      fun r hr => ?_⟩, .inl ⟨rfl, rfl, rfl⟩⟩
    rw [show s.recreating = some r from hr] at hnone
    cases hnone
  | readResult =>
    simp only [step] at hs
    split at hs
    · obtain ⟨_, ⟨⟩⟩ := ite_none_right_eq_some.1 hs
      unfold State.readResult
      split
      · exact ⟨⟨⟨h.one.others, h.one.closed⟩, h.bound, h.fresh⟩, .inl ⟨rfl, rfl, rfl⟩⟩
      · refine ⟨⟨⟨h.one.others, fun hret => ?_⟩, h.bound, h.fresh⟩, .inl ⟨rfl, rfl, rfl⟩⟩
        obtain ⟨hclosing, hdone⟩ := h.one.closed hret
        exact ⟨by simp [hclosing], hdone⟩
    · cases hs
  | check t | takeFlag t =>
    obtain ⟨_, ⟨⟩⟩ := ite_none_right_eq_some.1 hs
    split <;> exact ⟨⟨⟨h.one.others, h.one.closed⟩, h.bound, h.fresh⟩, .inl ⟨rfl, rfl, rfl⟩⟩
  | start | bootstrapFails t | bootstrapAttaches t | bootstrapEnds id | checkBootstrapped t | push t
  | failLeg g id | report t | replacementFails t | attach t | leave t | resetFlag id =>
    obtain ⟨_, ⟨⟩⟩ := ite_none_right_eq_some.1 hs
    exact ⟨⟨⟨h.one.others, h.one.closed⟩, h.bound, h.fresh⟩, .inl ⟨rfl, rfl, rfl⟩⟩

/-- After every run one engine is in use and the others are closed, but for one that is being made;
the next step replaces it only as a whole and only when it is done. -/
theorem engine_replacement (id : Nat) {s : State} (hs : Reachable step (init id) s) :
    OneEngine s ∧ ∀ a s', step s a = some s' → Replaces s s' := by
  have hinit : EngineInv (init id) := by
    refine ⟨⟨fun g hlt hne => ?_, nofun⟩, Nat.zero_lt_one, nofun⟩
    exact absurd (Nat.lt_one_iff.1 hlt) hne
  have hinv := hs.invariant hinit fun _ _ _ h hstep => (engineInv_step h hstep).1
  exact ⟨hinv.one, fun a s' hstep => (engineInv_step hinv hstep).2⟩

/-- Leg 0 is attached, and the session bootstrapped. -/
def bootstrappedRun : List Act :=
  [.bootstrapAttaches ⟨0, 0, .bootstrapping⟩, .bootstrapEnds 0, .readResult]

def replacedRun : List Act :=
  bootstrappedRun ++ [.finish 0, .recreate 8, .attachFresh, .install]

theorem engine_replacement_replaced :
    ∃ s, runActs step (init 7) replacedRun = some s ∧ s.current = 1 ∧ OneEngine s :=
  ⟨_, rfl, rfl, (engine_replacement 7 ⟨replacedRun, rfl⟩).1⟩

/-- While `recreateTerminalEngine` dials, its engine is neither current nor closed. -/
theorem engine_in_the_making :
    ∃ s, runActs step (init 7) (bootstrappedRun ++ [.finish 0, .recreate 8]) = some s ∧
      ¬ ∀ g < s.created, g ≠ s.current → s.done g = true :=
  ⟨_, rfl, fun h => nomatch h 1 (Nat.lt_succ_self 1) Nat.one_ne_zero⟩

end Replacement

section Legs

/-- The leg is attached to the engine, or some goroutine will see to it. -/
def Cared (s : State) (g : Nat) (id : Fin 2) : Prop :=
  s.attached g id = true ∨ Held Task.key s.tasks (g, id)

/-- Of an open session, once it is bootstrapped and while its engine runs, every leg is cared for,
or its bootstrap is still to start. -/
def NoLegForgotten (s : State) : Prop :=
  s.bootstrapped = true → s.closing = false → s.done s.current = false →
    ∀ id, Cared s s.current id ∨ id = 1 ∧ s.startPending = true

/-- No request is given up that a leg depends on: the tests of `scheduleRepairForEngine` come after
the bootstrap and after the installation of the engine, the busy flag is set only by a goroutine
for the same engine in its loop (or the leg is attached), and the bootstrap loop reads every
error. -/
def Heard (s : State) : Act → Prop
  | .check t => s.bootstrapped = true ∧ ∀ r, s.recreating = some r → r.engine ≠ t.engine
  | .takeFlag t =>
    s.current = t.engine → s.repairing t.leg = true →
      s.attached t.engine t.leg = true ∨ { t with stage := .repairing } ∈ s.tasks
  | .push _ => s.bootstrapped = false
  | .readResult => ∀ id rest, s.results = (id, true) :: rest → (1 - id, false) ∉ rest
  | _ => True

/-- The task is one of those that a failure of the leg sets off. -/
def Stage.late : Stage → Bool
  | .reporting | .calling | .asking | .repairing => true
  | _ => false

def Task.lateKey (t : Task) : (Nat × Fin 2) × Bool :=
  (t.key, t.stage.late)

/-- The leg is attached, or its failure is being seen to. -/
def Tended (s : State) (id : Fin 2) : Prop :=
  s.attached s.current id = true ∨ Held Task.lateKey s.tasks ((s.current, id), true)

variable {s s' : State} {a : Act} {t : Task} {g : Nat} {id : Fin 2}

structure LegInv (s : State) : Prop where
  bound : s.current < s.created
  known : ∀ t ∈ s.tasks, t.engine < s.created
  early : s.bootstrapped = false → s.created = 1 ∧ s.current = 0 ∧ s.recreating = none
  /-- Nobody is past the tests for an engine that is not installed. -/
  waits : ∀ r, s.recreating = some r → ∀ t ∈ s.tasks, t.engine = r.engine → t.stage = .calling
  fresh : ∀ r, s.recreating = some r → (0 < r.engine ∧ r.engine < s.created ∧
    r.engine ≠ s.current) ∧ (r.attached = true → s.done r.engine = false → Cared s r.engine 0)
  /-- Before the end of the bootstrap a leg may also depend on the loop. -/
  pending : s.bootstrapped = false → s.closing = false → s.done s.current = false →
    ∀ id, id = 0 ∨ s.started = true →
      Cared s s.current id ∨ s.errs id = true ∨ (id, false) ∈ s.results
  succeeded : s.bootstrapped = false → s.closing = false → s.done s.current = false →
    ∀ id, id ∈ s.succeeded ∨ (id, true) ∈ s.results → Tended s id
  covered : NoLegForgotten s

theorem of_lateKey {late : Bool} (h : t.lateKey = ((g, id), late)) :
    t.engine = g ∧ t.leg = id ∧ t.stage.late = late := by
  simpa only [Task.lateKey, Task.key, Prod.mk.injEq, and_assoc] using h

/-- Engines are recreated after the bootstrap only. -/
theorem LegInv.not_early (h : LegInv s) {r : Recreation} (hr : s.recreating = some r) :
    ¬ s.bootstrapped = false := by
  intro hboot
  rw [(h.early hboot).2.2] at hr
  cases hr

/-- A step of the legs: it keeps who is cared for, but for an error that the loop will read. -/
theorem LegInv.of_legs {attached : Nat → Fin 2 → Bool} {tasks : List Task}
    {repairing : Fin 2 → Bool} {succeeded : List (Fin 2)} {results : List (Fin 2 × Bool)}
    (h : LegInv s)
    (hknown : ∀ t ∈ tasks, t ∈ s.tasks ∨ t.engine < s.created ∧
      ∀ r, s.recreating = some r → r.engine = t.engine → t.stage = .calling)
    (hcared : ∀ g id, s.done g = false →
      (s.closing = false ∧ g = s.current ∨ ∃ r, s.recreating = some r ∧ r.engine = g) →
      Cared s g id →
      (attached g id = true ∨ Held Task.key tasks (g, id)) ∨
        s.bootstrapped = false ∧ (id, false) ∈ results)
    (hresults : ∀ x ∈ s.results, x.2 = false → x ∈ results)
    (htended : ∀ id, s.bootstrapped = false → s.closing = false → s.done s.current = false →
      Tended s id →
      attached s.current id = true ∨ Held Task.lateKey tasks ((s.current, id), true))
    (hnew : ∀ id, s.bootstrapped = false → id ∈ succeeded ∨ (id, true) ∈ results →
      (id ∈ s.succeeded ∨ (id, true) ∈ s.results) ∨ attached s.current id = true) :
    LegInv
      { s with
        attached := attached, tasks := tasks, repairing := repairing, succeeded := succeeded
        results := results } where
  bound := h.bound
  known t ht := (hknown t ht).elim (h.known t) And.left
  early := h.early
  waits r hr t ht hengine := by
    rcases hknown t ht with hold | ⟨_, hnew⟩
    · exact h.waits r hr t hold hengine
    · exact hnew r hr hengine.symm
  fresh r hr := by
    refine ⟨(h.fresh r hr).1, fun hatt hdone => ?_⟩
    refine (hcared r.engine 0 hdone (.inr ⟨r, hr, rfl⟩) ((h.fresh r hr).2 hatt hdone)).resolve_right
      fun hboot => h.not_early hr hboot.1
  pending hboot hopen hdone id hid := by
    rcases h.pending hboot hopen hdone id hid with hc | herr | hres
    · exact (hcared _ id hdone (.inl ⟨hopen, rfl⟩) hc).imp_right fun hr => .inr hr.2
    · exact .inr (.inl herr)
    · exact .inr (.inr (hresults _ hres rfl))
  succeeded hboot hopen hdone id hid := by
    rcases hnew id hboot hid with hold | hatt
    · exact htended id hboot hopen hdone (h.succeeded hboot hopen hdone id hold)
    · exact .inl hatt
  covered hboot hopen hdone id := by
    refine (h.covered hboot hopen hdone id).imp_left fun hc => ?_
    refine (hcared _ id hdone (.inl ⟨hopen, rfl⟩) hc).resolve_right fun hnot => ?_
    rw [show s.bootstrapped = true from hboot] at hnot
    cases hnot.1

theorem LegInv.turn (h : LegInv s) (hm : t ∈ s.tasks) {stage : Stage} {repairing : Fin 2 → Bool}
    (hlate : t.stage.late = true → stage.late = true)
    (hstage : ∀ r, s.recreating = some r → r.engine = t.engine → stage = .calling) :
    LegInv { s.turn t stage with repairing := repairing } := by
  refine h.of_legs (fun u hu => ?_) (fun g id _ _ hc => .inl (hc.imp_right fun hh => hh.turn rfl))
    (fun _ hx _ => hx) (fun id _ _ _ ht => ht.imp_right fun hh => ?_) fun _ _ hid => .inl hid
  · rcases mem_cons.1 hu with rfl | hu
    · exact .inr ⟨h.known t hm, hstage⟩
    · exact .inl (mem_of_mem_erase hu)
  · rcases hh.erase (t := t) with hkey | hh
    · refine ⟨_, mem_cons_self, ?_⟩
      simp only [Task.lateKey, Prod.mk.injEq] at hkey ⊢
      exact ⟨hkey.1, hlate hkey.2⟩
    · exact hh.cons

theorem LegInv.drop (h : LegInv s)
    (ht : s.done t.engine = false →
      (s.closing = false ∧ t.engine = s.current ∨
        ∃ r, s.recreating = some r ∧ r.engine = t.engine) →
      s.attached t.engine t.leg = true ∨
        ∃ u ∈ s.tasks, u ≠ t ∧ u.key = t.key ∧ u.stage = .repairing) : LegInv (s.drop t) := by
  refine h.of_legs (fun u hu => .inl (mem_of_mem_erase hu)) (fun g id hdone hg hc => .inl ?_)
    (fun _ hx _ => hx) (fun id _ hopen hdone htend => ?_) fun _ _ hid => .inl hid
  · rcases hc with hatt | hh
    · exact .inl hatt
    · rcases hh.erase (t := t) with hkey | hh
      · cases hkey
        refine (ht hdone hg).imp_right fun ⟨u, hu, hne, hkey, _⟩ => ?_
        exact ⟨u, (mem_erase_of_ne hne).2 hu, hkey⟩
      · exact .inr hh
  · rcases htend with hatt | hh
    · exact .inl hatt
    · rcases hh.erase (t := t) with hkey | hh
      · obtain ⟨heng, hleg, _⟩ := of_lateKey hkey
        rw [← heng] at hdone
        rcases ht hdone (.inl ⟨hopen, heng⟩) with hatt | ⟨u, hu, hne, hukey, hrep⟩
        · exact .inl (by rw [← heng, ← hleg]; exact hatt)
        · refine .inr ⟨u, (mem_erase_of_ne hne).2 hu, ?_⟩
          rw [Task.lateKey, hukey, hrep, Task.key, heng, hleg]
          rfl
      · exact .inr hh

theorem LegInv.attach (h : LegInv s) (hm : t ∈ s.tasks) (succeeded : List (Fin 2))
    (hnew : ∀ id ∈ succeeded, id ∈ s.succeeded ∨ id = t.leg) :
    LegInv { s.attach t with succeeded := succeeded } := by
  have hmono : ∀ g id, s.attached g id = true → (s.attach t).attached g id = true := by
    intro g id hatt
    by_cases hg : g = t.engine
    · subst hg
      by_cases hid : id = t.leg <;> simp [State.attach, hid, hatt]
    · simpa [State.attach, hg] using hatt
  have hself : (s.attach t).attached t.engine t.leg = true := by simp [State.attach]
  refine h.of_legs (fun u hu => .inl (mem_of_mem_erase hu)) (fun g id _ _ hc => .inl ?_)
    (fun _ hx _ => hx) (fun id _ _ _ htend => ?_) fun id hboot hid => ?_
  · rcases hc with hatt | hh
    · exact .inl (hmono g id hatt)
    · rcases hh.erase (t := t) with hkey | hh
      · cases hkey
        exact .inl hself
      · exact .inr hh
  · rcases htend with hatt | hh
    · exact .inl (hmono _ id hatt)
    · rcases hh.erase (t := t) with hkey | hh
      · obtain ⟨heng, hleg, _⟩ := of_lateKey hkey
        exact .inl (heng ▸ hleg ▸ hself)
      · exact .inr hh
  · rcases hid with hid | hid
    · rcases hnew id hid with hold | rfl
      · exact .inl (.inl hold)
      · -- before the end of the bootstrap there is only one engine
        obtain ⟨hone, hzero, _⟩ := h.early hboot
        have hlt := h.known t hm
        have heng : t.engine = s.current := by omega
        exact .inr (heng ▸ hself)
    · exact .inl (.inr hid)

theorem LegInv.of_engines {done : Nat → Bool} {recreating : Option Recreation} {created : Nat}
    {closing closeReturned : Bool} (h : LegInv s) (hdone : ∀ g, done g = false → s.done g = false)
    (hclosing : closing = false → s.closing = false) (hcreated : s.created ≤ created)
    (hearly : s.bootstrapped = false → created = s.created ∧ recreating = none)
    (hrec : ∀ r, recreating = some r → s.recreating = some r ∨
      r.engine = s.created ∧ s.created < created ∧ r.attached = false) :
    LegInv
      { s with
        done := done, recreating := recreating, created := created, closing := closing
        closeReturned := closeReturned } where
  bound := Nat.lt_of_lt_of_le h.bound hcreated
  known t ht := Nat.lt_of_lt_of_le (h.known t ht) hcreated
  early hboot := ⟨(hearly hboot).1.trans (h.early hboot).1, (h.early hboot).2.1, (hearly hboot).2⟩
  waits r hr t ht hengine := by
    rcases hrec r hr with hr | ⟨hnew, _⟩
    · exact h.waits r hr t ht hengine
    · exact absurd (h.known t ht) (by omega)
  fresh r hr := by
    rcases hrec r hr with hr | ⟨hnew, hlt, hatt⟩
    · obtain ⟨⟨hpos, hlt, hne⟩, hcared⟩ := h.fresh r hr
      exact ⟨⟨hpos, Nat.lt_of_lt_of_le hlt hcreated, hne⟩, fun hatt hd => hcared hatt (hdone _ hd)⟩
    · have hbound := h.bound
      refine ⟨⟨by omega, hnew ▸ hlt, fun heq => ?_⟩, fun hatt' => ?_⟩
      · have heq : r.engine = s.current := heq
        omega
      · rw [hatt] at hatt'
        cases hatt'
  pending hboot hopen hd := h.pending hboot (hclosing hopen) (hdone _ hd)
  succeeded hboot hopen hd := h.succeeded hboot (hclosing hopen) (hdone _ hd)
  covered hboot hopen hd := h.covered hboot (hclosing hopen) (hdone _ hd)

/-- A task past the tests is not one of an engine in the making. -/
theorem LegInv.installed (h : LegInv s) (hm : t ∈ s.tasks) (hstage : t.stage ≠ .calling)
    (r : Recreation) (hr : s.recreating = some r) : r.engine ≠ t.engine :=
  fun heq => hstage (h.waits r hr t hm heq.symm)

theorem LegInv.finish (h : LegInv s) (g : Nat) : LegInv (s.finish g) := by
  refine h.of_engines (fun g' hg' => ?_) id (Nat.le_refl _)
    (fun hboot => ⟨rfl, (h.early hboot).2.2⟩) fun r hr => .inl hr
  by_cases heq : g' = g
  · simp [heq] at hg'
  · simpa [heq] using hg'

theorem LegInv.giveUp (h : LegInv s) (g : Nat) : LegInv { s.finish g with recreating := none } :=
  (h.finish g).of_engines (fun _ hg => hg) (fun hc => hc) (Nat.le_refl _)
    (fun _ => ⟨rfl, rfl⟩) nofun

theorem not_stale (hopen : s.closing = false) (hcur : t.engine = s.current)
    (hdone : s.done t.engine = false) : ¬ s.stale t := by
  simp [State.stale, hopen, hcur.symm, hdone]

theorem other_leg : ∀ j id : Fin 2, j ≠ id → j = 1 - id := by
  decide

/-- The loop reads a success: the other leg is started, or its error is passed on. -/
theorem LegInv.readSuccess (h : LegInv s) {rest : List (Fin 2 × Bool)}
    (hres : s.results = (id, true) :: rest) (hboot : s.bootstrapped = false)
    (hheard : (1 - id, false) ∉ rest) : LegInv (s.readResult id true rest) := by
  obtain ⟨hone, hzero, hnone⟩ := h.early hboot
  simp only [State.readResult, if_true]
  have hsub : ∀ u ∈ s.tasks, u ∈ (if s.errs (1 - id) then
      ⟨s.current, 1 - id, .reporting⟩ :: s.tasks else s.tasks) := by
    intro u hu
    split
    · exact mem_cons_of_mem _ hu
    · exact hu
  refine ⟨h.bound, fun u hu => ?_, nofun, fun r hr => ?_, fun r hr => ?_, nofun, nofun,
    fun _ hopen hdone j => ?_⟩
  · dsimp only at hu
    split at hu
    · rcases mem_cons.1 hu with rfl | hu
      · exact hone ▸ hzero ▸ Nat.zero_lt_one
      · exact h.known u hu
    · exact h.known u hu
  · rw [show s.recreating = some r from hr] at hnone
    cases hnone
  · rw [show s.recreating = some r from hr] at hnone
    cases hnone
  · by_cases hj : j = id
    · -- the leg that succeeded is attached, or its failure is on its way
      subst hj
      left
      rcases h.succeeded hboot hopen hdone j (.inr (by simp [hres])) with hatt | ⟨u, hu, hkey⟩
      · exact .inl hatt
      · exact .inr ⟨u, hsub u hu, congrArg Prod.fst hkey⟩
    · have hj : j = 1 - id := other_leg j id hj
      by_cases hstarted : j = 0 ∨ s.started = true
      · left
        rcases h.pending hboot hopen hdone j hstarted with hc | herr | hin
        · exact hc.imp_right fun ⟨u, hu, hkey⟩ => ⟨u, hsub u hu, hkey⟩
        · right
          refine ⟨⟨s.current, j, .reporting⟩, ?_, rfl⟩
          rw [← hj, if_pos herr]
          exact mem_cons_self
        · rw [hres, mem_cons] at hin
          rcases hin with heq | hin
          · cases heq
          · exact absurd (hj ▸ hin) hheard
      · obtain ⟨hj, hstarted⟩ := not_or.1 hstarted
        exact .inr ⟨other_leg j 0 hj, by simpa using hstarted⟩

theorem LegInv.start (h : LegInv s) :
    LegInv
      { s with
        started := true, startPending := false
        tasks := ⟨s.current, 1, .bootstrapping⟩ :: s.tasks } := by
  have hcons : ∀ {g id}, Cared s g id → s.attached g id = true ∨
      Held Task.key (⟨s.current, 1, .bootstrapping⟩ :: s.tasks) (g, id) :=
    fun hc => hc.imp_right Held.cons
  refine ⟨h.bound, fun u hu => ?_, h.early, fun r hr u hu hengine => ?_, fun r hr => ?_,
    fun hboot hopen hdone id _ => ?_, fun hboot hopen hdone id hid => ?_,
    fun hboot hopen hdone id => .inl ?_⟩
  · rcases mem_cons.1 hu with rfl | hu
    · exact h.bound
    · exact h.known u hu
  · rcases mem_cons.1 hu with rfl | hu
    · exact absurd hengine.symm (h.fresh r hr).1.2.2
    · exact h.waits r hr u hu hengine
  · exact ⟨(h.fresh r hr).1, fun hatt hdone => hcons ((h.fresh r hr).2 hatt hdone)⟩
  · by_cases hid : id = 0
    · exact (h.pending hboot hopen hdone id (.inl hid)).imp_left hcons
    · exact .inl (.inr (other_leg id 0 hid ▸ held_cons_self))
  · exact (h.succeeded hboot hopen hdone id hid).imp_right Held.cons
  · by_cases hid : id = 0
    · refine hcons ((h.covered hboot hopen hdone id).resolve_right fun hone => ?_)
      exact absurd (hid.symm.trans hone.1) (by decide)
    · exact .inr (other_leg id 0 hid ▸ held_cons_self)

/-- A bootstrap error goes to the loop. -/
theorem LegInv.push (h : LegInv s) (hstage : t.stage = .pushing) (hboot : s.bootstrapped = false) :
    LegInv { s.drop t with results := s.results ++ [(t.leg, false)] } := by
  refine h.of_legs (fun u hu => .inl (mem_of_mem_erase hu)) (fun g id _ _ hc => ?_)
    (fun x hx _ => mem_append_left _ hx) (fun id _ _ _ ht => ?_) fun id _ hid => .inl ?_
  · rcases hc with hatt | hh
    · exact .inl (.inl hatt)
    · rcases hh.erase (t := t) with hkey | hh
      · cases hkey
        exact .inr ⟨hboot, by simp⟩
      · exact .inl (.inr hh)
  · refine ht.imp_right fun hh => hh.erase.resolve_left fun hkey => ?_
    obtain ⟨_, _, hlate⟩ := of_lateKey hkey
    rw [hstage] at hlate
    cases hlate
  · exact hid.imp_right fun hin => by simpa using hin

theorem LegInv.readFailure (h : LegInv s) {rest : List (Fin 2 × Bool)}
    (hres : s.results = (id, false) :: rest) (hboot : s.bootstrapped = false)
    (hopen : s.closing = false) : LegInv (s.readResult id false rest) := by
  refine ⟨h.bound, h.known, h.early, h.waits, h.fresh, fun hboot _ hdone j hj => ?_,
    fun hboot _ hdone j hj => ?_, fun hboot' => ?_⟩
  · refine (h.pending hboot hopen hdone j hj).imp_right fun hor => ?_
    by_cases hji : j = id
    · exact .inl (by simp [State.readResult, hji])
    · rcases hor with herr | hin
      · exact .inl (by simpa [State.readResult, hji] using herr)
      · exact .inr (by simpa [State.readResult, hres, hji] using hin)
  · refine h.succeeded hboot hopen hdone j (hj.imp_right fun hin => ?_)
    rw [hres]
    exact mem_cons_of_mem _ hin
  · rw [show s.bootstrapped = true from hboot'] at hboot
    cases hboot

/-- A leg fails, and its failure is on its way. -/
theorem LegInv.failLeg (h : LegInv s) (hlt : g < s.created) :
    LegInv
      { s with
        attached := update s.attached g (update (s.attached g) id false)
        tasks := ⟨g, id, if g = 0 then .reporting else .calling⟩ :: s.tasks } := by
  have hkeep : ∀ {g' id'}, ¬ (g' = g ∧ id' = id) → s.attached g' id' = true →
      update s.attached g (update (s.attached g) id false) g' id' = true := by
    intro g' id' hne hatt'
    by_cases hg : g' = g
    · subst hg
      have hid : id' ≠ id := fun heq => hne ⟨rfl, heq⟩
      simpa [hid] using hatt'
    · simpa [hg] using hatt'
  refine h.of_legs (fun u hu => ?_) (fun g' id' _ _ hc => .inl ?_) (fun _ hx _ => hx)
    (fun id' _ _ _ ht => ?_) fun _ _ hid => .inl hid
  · rcases mem_cons.1 hu with rfl | hu
    · refine .inr ⟨hlt, fun r hr heq => if_neg fun hg => ?_⟩
      have hpos := (h.fresh r hr).1.1
      have heq : r.engine = g := heq
      omega
    · exact .inl hu
  · by_cases hkey : g' = g ∧ id' = id
    · obtain ⟨rfl, rfl⟩ := hkey
      exact .inr held_cons_self
    · exact hc.imp (hkeep hkey) Held.cons
  · by_cases hkey : s.current = g ∧ id' = id
    · obtain ⟨rfl, rfl⟩ := hkey
      refine .inr ⟨_, mem_cons_self, ?_⟩
      simp only [Task.lateKey, Task.key, Prod.mk.injEq, true_and]
      split <;> rfl
    · exact ht.imp (hkeep hkey) Held.cons

/-- The callback of the first engine asks for the current one. -/
theorem LegInv.report (h : LegInv s) (hm : t ∈ s.tasks) (hstage : t.stage = .reporting) :
    LegInv { s with tasks := ⟨s.current, t.leg, .calling⟩ :: s.tasks.erase t } := by
  refine h.of_legs (fun u hu => ?_) (fun g id _ hg hc => .inl (hc.imp_right fun hh => ?_))
    (fun _ hx _ => hx) (fun id _ _ _ ht => ht.imp_right fun hh => ?_) fun _ _ hid => .inl hid
  · rcases mem_cons.1 hu with rfl | hu
    · exact .inr ⟨h.bound, fun _ _ _ => rfl⟩
    · exact .inl (mem_of_mem_erase hu)
  · rcases hh.erase (t := t) with hkey | hh
    · have heng : t.engine = g := congrArg Prod.fst hkey
      have hleg : t.leg = id := congrArg Prod.snd hkey
      rcases hg with ⟨_, rfl⟩ | ⟨r, hr, heq⟩
      · exact ⟨_, mem_cons_self, by rw [← hleg]; rfl⟩
      · exact absurd (heq.trans heng.symm) (h.installed hm (by simp [hstage]) r hr)
    · exact hh.cons
  · rcases hh.erase (t := t) with hkey | hh
    · obtain ⟨_, hleg, _⟩ := of_lateKey hkey
      exact ⟨_, mem_cons_self, by rw [← hleg]; rfl⟩
    · exact hh.cons

theorem LegInv.attachFresh (h : LegInv s) {r : Recreation} (hr : s.recreating = some r) :
    LegInv
      { s with
        recreating := some { r with attached := true }
        attached := update s.attached r.engine fun id => id == 0 } := by
  obtain ⟨hplace, _⟩ := h.fresh r hr
  have hother : ∀ g id, g ≠ r.engine → s.attached g id = true →
      update s.attached r.engine (fun id => id == 0) g id = true := by
    intro g id hne hatt
    simpa [hne] using hatt
  have hcur := fun id => hother s.current id (Ne.symm hplace.2.2)
  have hlate := h.not_early hr
  refine ⟨h.bound, h.known, fun hboot => absurd hboot hlate, fun r' hr' => ?_, fun r' hr' => ?_,
    fun hboot => absurd hboot hlate, fun hboot => absurd hboot hlate,
    fun hboot hopen hdone id => ?_⟩
  · cases hr'
    exact h.waits r hr
  · cases hr'
    exact ⟨hplace, fun _ _ => .inl (by simp)⟩
  · exact (h.covered hboot hopen hdone id).imp_left fun hc => hc.imp_left (hcur id)

theorem LegInv.install (h : LegInv s) {r : Recreation} (hr : s.recreating = some r)
    (hatt : r.attached = true) {ids : List Nat} :
    LegInv
      { s with
        current := r.engine, engineGeneration := s.engineGeneration + 1, id := r.id, ids := ids
        recreating := none, tasks := ⟨r.engine, 1, .dialing⟩ :: s.tasks } := by
  obtain ⟨⟨_, hlt, _⟩, hzero⟩ := h.fresh r hr
  have hlate := h.not_early hr
  refine ⟨hlt, fun u hu => ?_, fun hboot => absurd hboot hlate, nofun, nofun,
    fun hboot => absurd hboot hlate, fun hboot => absurd hboot hlate,
    fun _ _ hdone id => .inl ?_⟩
  · rcases mem_cons.1 hu with rfl | hu
    · exact hlt
    · exact h.known u hu
  · by_cases hid : id = 0
    · subst hid
      exact (hzero hatt hdone).imp_right Held.cons
    · exact .inr (other_leg id 0 hid ▸ held_cons_self)

theorem legInv_step (h : LegInv s) (hheard : Heard s a) (hs : step s a = some s') :
    LegInv s' := by
  cases a with
  | start =>
    obtain ⟨_, ⟨⟩⟩ := ite_none_right_eq_some.1 hs
    exact h.start
  | bootstrapFails t | checkBootstrapped t =>
    obtain ⟨⟨hm, hstage⟩, ⟨⟩⟩ := ite_none_right_eq_some.1 hs
    refine h.turn hm (by simp [hstage, Stage.late]) fun r hr heq => ?_
    exact absurd heq (h.installed hm (by simp [hstage]) r hr)
  | bootstrapAttaches t =>
    obtain ⟨⟨hm, _⟩, ⟨⟩⟩ := ite_none_right_eq_some.1 hs
    exact h.attach hm _ fun id hid => (mem_cons.1 hid).symm
  | bootstrapEnds id =>
    obtain ⟨hm, ⟨⟩⟩ := ite_none_right_eq_some.1 hs
    refine h.of_legs (fun u hu => .inl hu) (fun _ _ _ _ hc => .inl hc) (fun x hx _ => ?_)
      (fun _ _ _ _ ht => ht) fun j hboot hj => .inl ?_
    · split
      · exact hx
      · exact mem_append_left _ hx
    · rw [if_neg (by simp [hboot])] at hj
      rcases hj with hj | hj
      · exact .inl (mem_of_mem_erase hj)
      · rcases mem_append.1 hj with hj | hj
        · exact .inr hj
        · cases mem_singleton.1 hj
          exact .inl hm
  | push t =>
    obtain ⟨⟨_, hstage⟩, ⟨⟩⟩ := ite_none_right_eq_some.1 hs
    exact h.push hstage hheard
  | readResult =>
    simp only [step] at hs
    split at hs
    · next id ok rest hres =>
      obtain ⟨⟨hboot, hopen⟩, ⟨⟩⟩ := ite_none_right_eq_some.1 hs
      cases ok with
      | true => exact h.readSuccess hres hboot (hheard id rest hres)
      | false => exact h.readFailure hres hboot hopen
    · cases hs
  | failLeg g id =>
    obtain ⟨⟨hlt, _⟩, ⟨⟩⟩ := ite_none_right_eq_some.1 hs
    exact h.failLeg hlt
  | report t =>
    obtain ⟨⟨hm, hstage⟩, ⟨⟩⟩ := ite_none_right_eq_some.1 hs
    exact h.report hm hstage
  | check t =>
    obtain ⟨⟨hm, _⟩, ⟨⟩⟩ := ite_none_right_eq_some.1 hs
    obtain ⟨hboot, hinst⟩ := hheard
    split
    · next hstale =>
      refine h.drop fun hdone hg => ?_
      rcases hg with ⟨hopen, hcur⟩ | ⟨r, hr, heq⟩
      · rw [hboot] at hstale
        exact absurd (hstale.resolve_left nofun) (not_stale hopen hcur hdone)
      · exact absurd heq (hinst r hr)
    · exact h.turn hm (fun _ => rfl) fun r hr heq => absurd heq (hinst r hr)
  | takeFlag t =>
    obtain ⟨⟨hm, hstage⟩, ⟨⟩⟩ := ite_none_right_eq_some.1 hs
    have hinst := h.installed hm (by simp [hstage])
    split
    · next hset =>
      refine h.drop fun _ hg => ?_
      rcases hg with ⟨_, hcur⟩ | ⟨r, hr, heq⟩
      · refine (hheard hcur.symm hset).imp_right fun hother =>
          ⟨{ t with stage := .repairing }, hother, fun heq => ?_, rfl, rfl⟩
        rw [← heq] at hstage
        cases hstage
      · exact absurd heq (hinst r hr)
    · exact h.turn hm (fun _ => rfl) fun r hr heq => absurd heq (hinst r hr)
  | replacementFails t =>
    obtain ⟨⟨hm, hstage⟩, ⟨⟩⟩ := ite_none_right_eq_some.1 hs
    exact h.turn hm (fun _ => rfl) fun _ _ _ => rfl
  | attach t =>
    obtain ⟨⟨hm, _⟩, ⟨⟩⟩ := ite_none_right_eq_some.1 hs
    exact h.attach hm s.succeeded fun id hid => .inl hid
  | leave t =>
    obtain ⟨⟨hm, hstage, hstale⟩, ⟨⟩⟩ := ite_none_right_eq_some.1 hs
    refine h.drop fun hdone hg => ?_
    rcases hg with ⟨hopen, hcur⟩ | ⟨r, hr, heq⟩
    · exact absurd hstale (not_stale hopen hcur hdone)
    · refine absurd heq (h.installed hm ?_ r hr)
      rcases hstage with hstage | hstage <;> simp [hstage]
  | resetFlag id =>
    obtain ⟨_, ⟨⟩⟩ := ite_none_right_eq_some.1 hs
    exact h.of_legs (fun u hu => .inl hu) (fun _ _ _ _ hc => .inl hc) (fun _ hx _ => hx)
      (fun _ _ _ _ ht => ht) fun _ _ hid => .inl hid
  | finish g =>
    cases hs
    exact h.finish g
  | recreate id =>
    obtain ⟨⟨_, _, hboot, _⟩, ⟨⟩⟩ := ite_none_right_eq_some.1 hs
    refine h.of_engines (fun _ hg => hg) (fun hc => hc) (Nat.le_succ _) (fun hnot => ?_)
      fun r hr => ?_
    · rw [hboot] at hnot
      cases hnot
    · cases hr
      exact .inr ⟨rfl, Nat.lt_succ_self _, rfl⟩
  | attachFresh =>
    simp only [step] at hs
    split at hs
    · next r hr =>
      obtain ⟨_, ⟨⟩⟩ := ite_none_right_eq_some.1 hs
      exact h.attachFresh hr
    · cases hs
  | recreateFails =>
    simp only [step] at hs
    split at hs
    · next r hr =>
      cases hs
      exact h.giveUp r.engine
    · cases hs
  | install =>
    simp only [step] at hs
    split at hs
    · next r hr =>
      obtain ⟨hatt, ⟨⟩⟩ := ite_none_right_eq_some.1 hs
      split
      · exact h.giveUp r.engine
      · exact h.install hr hatt
    · cases hs
  | beginClose =>
    cases hs
    exact h.of_engines (fun _ hg => hg) nofun (Nat.le_refl _)
      (fun hboot => ⟨rfl, (h.early hboot).2.2⟩) fun r hr => .inl hr
  | closeEngine =>
    obtain ⟨_, ⟨⟩⟩ := ite_none_right_eq_some.1 hs
    exact (h.finish s.current).of_engines (fun _ hg => hg) (fun hc => hc) (Nat.le_refl _)
      (fun hboot => ⟨rfl, (h.early hboot).2.2⟩) fun r hr => .inl hr

end Legs

/-- Leg 1 is started after leg 0, and its failed bootstrap repaired. -/
def repairedRun : List Act :=
  bootstrappedRun ++ [.start, .bootstrapFails ⟨0, 1, .bootstrapping⟩,
    .checkBootstrapped ⟨0, 1, .failed⟩, .report ⟨0, 1, .reporting⟩, .check ⟨0, 1, .calling⟩,
    .takeFlag ⟨0, 1, .asking⟩, .attach ⟨0, 1, .repairing⟩, .resetFlag 1]

end Smp3Multipath.Mihomo.UdpSession

import Smp3Multipath.Core.StreamTx
import Smp3Multipath.Lib.Run

/-!
# Sending the CLOSE frame

`sendCloseFrame` queues a CLOSE on every leg of a snapshot and waits for one write to succeed,
for the preferred leg if there is one.  The writers complete in their own time; a goroutine
for each leg forwards the completion, or the leg's end, whichever its `select` picks.

What the loop returns is settled by two invariants: a success that it has heard of did happen,
and a leg whose success it has not heard of is open.  The second holds along runs that lose no
success (`Heeds`): the loop gives up when it finds every leg closed, which says nothing about a
write that succeeded before its leg closed.
-/

namespace Smp3Multipath.Core.CloseFrame

open Lib.Run Function List Option

section Model

/-- One call: the snapshot of available legs and the leg that `preferredCloseLeg` names. -/
structure Config where
  legs : List LegID
  maxActiveLegs : Nat
  preferred : Option LegID

/-- A leg's CLOSE control: in the leg's queue, written, its outcome on the completion channel. -/
inductive Frame where
  | unsent
  | queued
  | written (ok : Bool)
  | reported (ok : Bool)
deriving DecidableEq

/-- The goroutine that forwards the outcome of one leg. -/
inductive Forwarder where
  | absent
  | waiting
  | holding (ok : Bool)
  | ended
deriving DecidableEq

/-- Where the loop is. -/
inductive Loop where
  /-- Going over the legs; `live` once one of them was found open. -/
  | scanning (rest : List LegID) (live : Bool)
  /-- In `queueControl` for a leg found open. -/
  | queueing (id : LegID) (rest : List LegID)
  | selecting
  | returned (result : Bool)
deriving DecidableEq

structure State where
  loop : Loop
  queued : LegID → Bool
  preferredFailed : Bool
  fallbackWriteSucceeded : Bool
  /-- `preferredFallbackTimer` was started. -/
  fallbackTimer : Bool
  results : List (LegID × Bool)
  frame : LegID → Frame
  forwarder : LegID → Forwarder
  /-- `leg.closed`, and then `leg.done`. -/
  closed : LegID → Bool
  legDone : LegID → Bool
  /-- Removed from the engine's leg table. -/
  removed : LegID → Bool
  /-- An open leg that was attached under the same id later. -/
  replaced : LegID → Bool
  done : Bool
  /-- The recovery timeout has run out. -/
  expired : Bool

/-- Steps of `sendCloseFrame` itself; each `select` alternative is a step. -/
inductive LoopAct where
  | look
  | queueControl (accepted : Bool)
  | endScan
  | done
  | timer
  | result
  | fallbackTimer
  | tick
deriving DecidableEq

/-- Steps of a leg's writer, of its forwarder, and of its failure. -/
inductive LegAct where
  | write (ok : Bool)
  | report
  | takeCompletion
  | takeLegDone
  | deliver
  | stop
  | close
  | closeDone
  | remove
  | replace
  | replacementCloses
deriving DecidableEq

inductive Act where
  | loop (a : LoopAct)
  | leg (id : LegID) (a : LegAct)
  | engineDone
  | expire
deriving DecidableEq

def start (cfg : Config) : State :=
  { loop := if cfg.legs = [] then .returned false else .scanning cfg.legs false
    queued := fun _ => false
    preferredFailed := false
    fallbackWriteSucceeded := false
    fallbackTimer := false
    results := []
    frame := fun _ => .unsent
    forwarder := fun _ => .absent
    closed := fun _ => false
    legDone := fun _ => false
    removed := fun _ => false
    replaced := fun _ => false
    done := false
    expired := false }

/-- The leg's CLOSE write has completed successfully. -/
def State.Succeeded (s : State) (id : LegID) : Prop :=
  s.frame id = .written true ∨ s.frame id = .reported true

instance (s : State) (id : LegID) : Decidable (s.Succeeded id) :=
  inferInstanceAs (Decidable (_ ∨ _))

def preferredCanStillSend (cfg : Config) (s : State) : Bool :=
  match cfg.preferred with
  | none => false
  | some id => s.replaced id || !s.removed id && !s.closed id

/-- The top of the loop. -/
def rescan (cfg : Config) (s : State) : State :=
  { s with loop := .scanning cfg.legs false }

/-- The loop's arm for a forwarded outcome. -/
def takeResult (cfg : Config) (s : State) (id : LegID) (ok : Bool) : State :=
  if ok ∧ (cfg.preferred = none ∨ cfg.preferred = some id) then
    { s with loop := .returned true }
  else if ¬ ok ∧ cfg.preferred = some id then
    let s := { s with preferredFailed := true }
    if s.fallbackWriteSucceeded then { s with loop := .returned true } else rescan cfg s
  else if ok then
    let s := { s with fallbackWriteSucceeded := true }
    if cfg.preferred = none ∨ s.preferredFailed ∨ ¬ preferredCanStillSend cfg s then
      { s with loop := .returned true }
    else
      rescan cfg { s with fallbackTimer := true }
  else
    rescan cfg s

def loopStep (cfg : Config) (s : State) : LoopAct → Option State
  | .look =>
    match s.loop with
    | .scanning (id :: rest) live =>
      if s.closed id then some { s with loop := .scanning rest live }
      else if id < cfg.maxActiveLegs ∧ ¬ s.queued id then
        some { s with loop := .queueing id rest }
      else some { s with loop := .scanning rest true }
    | _ => none
  -- the queue may be full, and a leg that fails under the call may still accept
  | .queueControl accepted =>
    match s.loop with
    | .queueing id rest =>
      let s := { s with loop := .scanning rest true }
      if accepted then
        some { s with
          queued := update s.queued id true
          frame := update s.frame id .queued
          forwarder := update s.forwarder id .waiting }
      else some s
    | _ => none
  | .endScan =>
    match s.loop with
    | .scanning [] live =>
      if ¬ live then some { s with loop := .returned s.fallbackWriteSucceeded }
      else if s.fallbackWriteSucceeded ∧
          (s.preferredFailed ∨ ¬ preferredCanStillSend cfg s) then
        some { s with loop := .returned true }
      else some { s with loop := .selecting }
    | _ => none
  | .done => if s.loop = .selecting ∧ s.done then some { s with loop := .returned false } else none
  | .timer =>
    if s.loop = .selecting ∧ s.expired then
      some { s with loop := .returned s.fallbackWriteSucceeded }
    else none
  | .result =>
    match s.loop, s.results with
    | .selecting, (id, ok) :: results => some (takeResult cfg { s with results := results } id ok)
    | _, _ => none
  | .fallbackTimer =>
    if s.loop = .selecting ∧ s.fallbackTimer then
      if s.fallbackWriteSucceeded then some { s with loop := .returned true }
      else some (rescan cfg s)
    else none
  | .tick => if s.loop = .selecting then some (rescan cfg s) else none

def legStep (s : State) (id : LegID) : LegAct → Option State
  | .write ok =>
    if s.frame id = .queued then some { s with frame := update s.frame id (.written ok) }
    else none
  | .report =>
    match s.frame id with
    | .written ok => some { s with frame := update s.frame id (.reported ok) }
    | _ => none
  | .takeCompletion =>
    match s.forwarder id, s.frame id with
    | .waiting, .reported ok => some { s with forwarder := update s.forwarder id (.holding ok) }
    | _, _ => none
  | .takeLegDone =>
    if s.forwarder id = .waiting ∧ s.legDone id then
      some { s with forwarder := update s.forwarder id (.holding false) }
    else none
  | .deliver =>
    match s.forwarder id with
    | .holding ok =>
      some { s with
        forwarder := update s.forwarder id .ended
        results := s.results ++ [(id, ok)] }
    | _ => none
  | .stop =>
    if s.done ∧ s.forwarder id ≠ .absent then
      some { s with forwarder := update s.forwarder id .ended }
    else none
  | .close => some { s with closed := update s.closed id true }
  | .closeDone => if s.closed id then some { s with legDone := update s.legDone id true } else none
  | .remove => if s.closed id then some { s with removed := update s.removed id true } else none
  | .replace => if s.removed id then some { s with replaced := update s.replaced id true } else none
  | .replacementCloses => some { s with replaced := update s.replaced id false }

/-- One step; the run ends with the return. -/
def step (cfg : Config) (s : State) (a : Act) : Option State :=
  match s.loop with
  | .returned _ => none
  | _ =>
    match a with
    | .loop a => loopStep cfg s a
    | .leg id a => legStep s id a
    | .engineDone => some { s with done := true }
    | .expire => some { s with expired := true }

end Model

section Invariant

variable {cfg : Config} {s s' : State}

/-- What a step of the writers, the forwarders and the failures leaves alone. -/
structure LegEffect (s s' : State) : Prop where
  loop : s'.loop = s.loop
  queued : s'.queued = s.queued
  fallback : s'.fallbackWriteSucceeded = s.fallbackWriteSucceeded
  closed : ∀ id, s.closed id = true → s'.closed id = true
  unsent : ∀ id, s'.frame id = .unsent ↔ s.frame id = .unsent
  succeeded : ∀ id, s.Succeeded id → s'.Succeeded id
  /-- News of a success is either old or true. -/
  results : ∀ id, (id, true) ∈ s'.results →
    (id, true) ∈ s.results ∨ s.forwarder id = .holding true
  holding : ∀ id, s'.forwarder id = .holding true →
    s.forwarder id = .holding true ∨ s'.Succeeded id

/-- A step that touches neither outcomes nor forwarders. -/
theorem LegEffect.of_marks (hclosed : ∀ id, s.closed id = true → s'.closed id = true)
    (hsame : s' = { s with
      closed := s'.closed, legDone := s'.legDone, removed := s'.removed
      replaced := s'.replaced }) :
    LegEffect s s' := by
  rw [hsame]
  exact ⟨rfl, rfl, rfl, hclosed, fun _ => .rfl, fun _ h => h, fun _ => .inl,
    fun _ => .inl⟩

/-- An outcome moves on; a successful one stays one. -/
theorem LegEffect.of_frame {id : LegID} {f : Frame} (hsent : s.frame id ≠ .unsent)
    (hf : f ≠ .unsent) (hkeep : s.Succeeded id → f = .written true ∨ f = .reported true) :
    LegEffect s { s with frame := update s.frame id f } := by
  refine ⟨rfl, rfl, rfl, fun _ h => h, fun i => ?_, fun i h => ?_, fun _ => .inl,
    fun _ => .inl⟩
  · by_cases hi : i = id
    · subst hi
      simp [hsent, hf]
    · simp [hi]
  · by_cases hi : i = id
    · subst hi
      simpa [State.Succeeded] using hkeep h
    · simpa [State.Succeeded, hi] using h

theorem LegEffect.of_forwarder {id : LegID} {f : Forwarder} {results : List (LegID × Bool)}
    (hresults : ∀ i, (i, true) ∈ results → (i, true) ∈ s.results ∨ s.forwarder i = .holding true)
    (hf : f = .holding true → s.Succeeded id) :
    LegEffect s { s with
      forwarder := update s.forwarder id f, results := results } := by
  refine ⟨rfl, rfl, rfl, fun _ h => h, fun _ => .rfl, fun _ h => h, hresults,
    fun i hi => ?_⟩
  dsimp only at hi
  by_cases hid : i = id
  · subst hid
    rw [update_self] at hi
    exact .inr (hf hi)
  · rw [update_of_ne hid] at hi
    exact .inl hi

theorem legStep_effect {id : LegID} {a : LegAct} (h : legStep s id a = some s') :
    LegEffect s s' := by
  have hset : ∀ {mark : LegID → Bool} (i : LegID), mark i = true →
      update mark id true i = true := by
    intro mark i hi
    by_cases hid : i = id
    · rw [hid, update_self]
    · rwa [update_of_ne hid]
  cases a with
  | write ok =>
    obtain ⟨hqueued, ⟨⟩⟩ := ite_none_right_eq_some.1 h
    refine LegEffect.of_frame (by simp [hqueued]) (by simp) fun hs => ?_
    simp [State.Succeeded, hqueued] at hs
  | report =>
    rw [legStep] at h
    split at h
    · next ok hwritten =>
      cases h
      refine LegEffect.of_frame (by simp [hwritten]) (by simp) fun hs => ?_
      simpa [State.Succeeded, hwritten] using hs
    · cases h
  | takeCompletion =>
    rw [legStep] at h
    split at h
    · next ok _ hreported =>
      cases h
      refine LegEffect.of_forwarder (fun _ => .inl) fun hok => ?_
      cases hok
      exact .inr hreported
    · cases h
  | takeLegDone | stop =>
    obtain ⟨_, ⟨⟩⟩ := ite_none_right_eq_some.1 h
    exact LegEffect.of_forwarder (fun _ => .inl) fun hok => nomatch hok
  | deliver =>
    rw [legStep] at h
    split at h
    · next ok hholding =>
      cases h
      refine LegEffect.of_forwarder (fun i hi => ?_) fun hok => nomatch hok
      rcases mem_append.1 hi with hi | hi
      · exact .inl hi
      · cases mem_singleton.1 hi
        exact .inr hholding
    · cases h
  | close =>
    cases h
    exact LegEffect.of_marks hset rfl
  | closeDone | remove | replace =>
    obtain ⟨_, ⟨⟩⟩ := ite_none_right_eq_some.1 h
    exact LegEffect.of_marks (fun _ hi => hi) rfl
  | replacementCloses =>
    cases h
    exact LegEffect.of_marks (fun _ hi => hi) rfl

/-- What the position of the loop tells. -/
def LoopOK (cfg : Config) (s : State) : Loop → Prop
  | .scanning rest live => (∀ id ∈ rest, id ∈ cfg.legs) ∧
      (live = false → ∀ id ∈ cfg.legs, id ∈ rest ∨ s.closed id = true)
  | .queueing id rest => id ∈ cfg.legs ∧ s.queued id = false ∧ ∀ i ∈ rest, i ∈ cfg.legs
  | .selecting => True
  | .returned true => ∃ id, s.Succeeded id
  | .returned false => True

structure Inv (cfg : Config) (s : State) : Prop where
  fresh : ∀ id, s.queued id = false → s.frame id = .unsent
  snapshot : ∀ id, s.frame id ≠ .unsent → id ∈ cfg.legs
  results : ∀ id, (id, true) ∈ s.results → s.Succeeded id
  holding : ∀ id, s.forwarder id = .holding true → s.Succeeded id
  fallback : s.fallbackWriteSucceeded = true → ∃ id, s.Succeeded id
  loop : LoopOK cfg s s.loop

theorem inv_start (cfg : Config) : Inv cfg (start cfg) where
  fresh _ _ := rfl
  snapshot id h := absurd rfl h
  results id h := by cases h
  holding id h := by cases h
  fallback h := by cases h
  loop := by
    unfold start
    dsimp only
    split
    · trivial
    · exact ⟨fun _ hid => hid, fun _ id hid => .inl hid⟩

theorem LoopOK.grow {p : Loop} (h : LoopOK cfg s p) (hqueued : s'.queued = s.queued)
    (hclosed : ∀ id, s.closed id = true → s'.closed id = true)
    (hsucceeded : ∀ id, s.Succeeded id → s'.Succeeded id) : LoopOK cfg s' p := by
  cases p with
  | scanning rest live => exact ⟨h.1, fun hlive id hid => (h.2 hlive id hid).imp_right (hclosed id)⟩
  | queueing id rest => exact ⟨h.1, hqueued ▸ h.2.1, h.2.2⟩
  | selecting => trivial
  | returned result =>
    cases result with
    | true => exact h.imp hsucceeded
    | false => trivial

theorem inv_legEffect (hinv : Inv cfg s) (h : LegEffect s s') : Inv cfg s' where
  fresh id hid := (h.unsent id).2 (hinv.fresh id (h.queued ▸ hid))
  snapshot id hid := hinv.snapshot id fun hnone => hid ((h.unsent id).2 hnone)
  results id hid := (h.results id hid).elim
    (fun hold => h.succeeded id (hinv.results id hold))
    fun hold => h.succeeded id (hinv.holding id hold)
  holding id hid := (h.holding id hid).elim
    (fun hold => h.succeeded id (hinv.holding id hold)) fun hnew => hnew
  fallback hid := (hinv.fallback (h.fallback ▸ hid)).imp h.succeeded
  loop := by
    rw [h.loop]
    exact hinv.loop.grow h.queued h.closed h.succeeded

theorem Inv.move (hinv : Inv cfg s) {p : Loop} {failed fallback timer : Bool}
    {results : List (LegID × Bool)} (hresults : ∀ r ∈ results, r ∈ s.results)
    (hfallback : fallback = true → ∃ id, s.Succeeded id) (hp : LoopOK cfg s p) :
    Inv cfg { s with
      loop := p, preferredFailed := failed, fallbackWriteSucceeded := fallback
      fallbackTimer := timer, results := results } where
  fresh := hinv.fresh
  snapshot := hinv.snapshot
  results id hid := hinv.results id (hresults _ hid)
  holding := hinv.holding
  fallback := hfallback
  loop := by
    cases p with
    | returned result => cases result <;> exact hp
    | _ => exact hp

theorem loopOK_rescan : LoopOK cfg s (.scanning cfg.legs false) :=
  ⟨fun _ hid => hid, fun _ _ hid => .inl hid⟩

theorem Inv.loopOK_fallback (hinv : Inv cfg s) :
    LoopOK cfg s (.returned s.fallbackWriteSucceeded) := by
  cases hf : s.fallbackWriteSucceeded with
  | true => exact hinv.fallback hf
  | false => trivial

theorem inv_takeResult (hinv : Inv cfg s) {id : LegID} {ok : Bool} {results : List (LegID × Bool)}
    (hr : s.results = (id, ok) :: results) :
    Inv cfg (takeResult cfg { s with results := results } id ok) := by
  have htail : ∀ r ∈ results, r ∈ s.results := fun r hm => hr ▸ mem_cons_of_mem _ hm
  have hhead : ok = true → ∃ id, s.Succeeded id := by
    rintro rfl
    exact ⟨id, hinv.results id (hr ▸ mem_cons_self)⟩
  unfold takeResult rescan
  dsimp only
  split
  · next h => exact hinv.move htail hinv.fallback (hhead h.1)
  · split
    · split
      · next hf => exact hinv.move htail hinv.fallback (hinv.fallback hf)
      · exact hinv.move htail hinv.fallback loopOK_rescan
    · split
      · next hok =>
        split
        · exact hinv.move htail (fun _ => hhead hok) (hhead hok)
        · exact hinv.move htail (fun _ => hhead hok) loopOK_rescan
      · exact hinv.move htail hinv.fallback loopOK_rescan

theorem inv_queueControl (hinv : Inv cfg s) {id : LegID} {rest : List LegID}
    (hloop : s.loop = .queueing id rest) :
    Inv cfg { s with
      loop := .scanning rest true
      queued := update s.queued id true
      frame := update s.frame id .queued
      forwarder := update s.forwarder id .waiting } := by
  have hok := hinv.loop
  rw [hloop] at hok
  obtain ⟨hm, hfree, hrest⟩ := hok
  have hunsent := hinv.fresh id hfree
  -- the leg's control was unsent, so nothing that succeeded is overwritten
  have hkeep : ∀ i, s.Succeeded i → (update s.frame id .queued i = .written true ∨
      update s.frame id .queued i = .reported true) := by
    intro i hi
    have hne : i ≠ id := by
      rintro rfl
      simp [State.Succeeded, hunsent] at hi
    rwa [update_of_ne hne]
  refine ⟨fun i hi => ?_, fun i hi => ?_, fun i hi => hkeep i (hinv.results i hi), fun i hi => ?_,
    fun hi => (hinv.fallback hi).imp hkeep, hrest, fun hlive => nomatch hlive⟩
  · dsimp only at hi ⊢
    by_cases hid : i = id
    · rw [hid, update_self] at hi
      cases hi
    · rw [update_of_ne hid] at hi ⊢
      exact hinv.fresh i hi
  · dsimp only at hi
    by_cases hid : i = id
    · rwa [hid]
    · rw [update_of_ne hid] at hi
      exact hinv.snapshot i hi
  · dsimp only at hi
    by_cases hid : i = id
    · rw [hid, update_self] at hi
      cases hi
    · rw [update_of_ne hid] at hi
      exact hkeep i (hinv.holding i hi)

theorem inv_loopStep (hinv : Inv cfg s) {a : LoopAct} (h : loopStep cfg s a = some s') :
    Inv cfg s' := by
  have hmove : ∀ {p}, LoopOK cfg s p → Inv cfg { s with loop := p } :=
    fun hp => hinv.move (fun _ hr => hr) hinv.fallback hp
  have hok := hinv.loop
  cases a with
  | look =>
    rw [loopStep] at h
    split at h
    · next id rest live hloop =>
      rw [hloop] at hok
      have hrest : ∀ i ∈ rest, i ∈ cfg.legs := fun i hi => hok.1 i (mem_cons_of_mem _ hi)
      split_ifs at h with hclosed hfree
      · cases h
        refine hmove ⟨hrest, fun hlive i hi => ?_⟩
        rcases hok.2 hlive i hi with hm | hdown
        · rcases mem_cons.1 hm with rfl | hm
          · exact .inr hclosed
          · exact .inl hm
        · exact .inr hdown
      · cases h
        exact hmove ⟨hok.1 id mem_cons_self, by simpa using hfree.2, hrest⟩
      · cases h
        exact hmove ⟨hrest, fun hlive => nomatch hlive⟩
    · cases h
  | queueControl accepted =>
    rw [loopStep] at h
    split at h
    · next id rest hloop =>
      rw [hloop] at hok
      dsimp only at h
      split at h <;> cases h
      · exact inv_queueControl hinv hloop
      · exact hmove ⟨hok.2.2, fun hlive => nomatch hlive⟩
    · cases h
  | endScan =>
    rw [loopStep] at h
    split at h
    · next live hloop =>
      rw [hloop] at hok
      split_ifs at h with hlive hfallback
      · cases h
        exact hmove (p := .returned true) (hinv.fallback hfallback.1)
      · cases h
        exact hmove trivial
      · cases h
        exact hmove hinv.loopOK_fallback
    · cases h
  | done =>
    obtain ⟨_, ⟨⟩⟩ := ite_none_right_eq_some.1 h
    exact hmove (p := .returned false) trivial
  | timer =>
    obtain ⟨_, ⟨⟩⟩ := ite_none_right_eq_some.1 h
    exact hmove hinv.loopOK_fallback
  | result =>
    rw [loopStep] at h
    split at h
    · next id ok results _ hresults =>
      cases h
      exact inv_takeResult hinv hresults
    · cases h
  | fallbackTimer =>
    obtain ⟨_, heq⟩ := ite_none_right_eq_some.1 h
    split at heq
    · next hfallback =>
      cases heq
      exact hmove (p := .returned true) (hinv.fallback hfallback)
    · cases heq
      exact hmove loopOK_rescan
  | tick =>
    obtain ⟨_, ⟨⟩⟩ := ite_none_right_eq_some.1 h
    exact hmove loopOK_rescan

theorem inv_step (hinv : Inv cfg s) {a : Act} (h : step cfg s a = some s') : Inv cfg s' := by
  unfold step at h
  split at h
  · cases h
  · cases a with
    | loop a => exact inv_loopStep hinv h
    | leg id a => exact inv_legEffect hinv (legStep_effect h)
    | engineDone | expire =>
      cases h
      exact { hinv with loop := hinv.loop.grow rfl (fun _ hi => hi) fun _ hi => hi }

end Invariant

section Heeded

variable {cfg : Config} {s s' : State}

/-- The step loses no success, as long as the loop has not counted one: no leg closes whose write
has succeeded, no write succeeds on a leg that has closed, and the deadline is not taken over a
write that has succeeded. -/
def Heeds (cfg : Config) (s : State) : Act → Prop
  | .leg id .close => s.fallbackWriteSucceeded = false → ¬ s.Succeeded id
  | .leg id (.write true) => s.fallbackWriteSucceeded = false → s.closed id = false
  | .loop .timer => s.fallbackWriteSucceeded = false → ∀ id ∈ cfg.legs, ¬ s.Succeeded id
  | _ => True

instance (cfg : Config) (s : State) (a : Act) : Decidable (Heeds cfg s a) := by
  unfold Heeds
  split <;> infer_instance

/-- What a return of the call tells. -/
structure Exact (s : State) : Prop where
  sent : s.loop = .returned true → ∃ id, s.Succeeded id
  notSent : s.loop = .returned false → s.done = true ∨ ∀ id, ¬ s.Succeeded id

/-- The invariant of runs that lose no success. -/
structure Heeded (s : State) : Prop where
  isOpen : s.fallbackWriteSucceeded = false → ∀ id, s.Succeeded id → s.closed id = false
  notSent : s.loop = .returned false → s.done = true ∨ ∀ id, ¬ s.Succeeded id

/-- What a leg's step can add: a success by its write, and an end by its failure. -/
theorem legStep_news {id : LegID} {a : LegAct} (h : legStep s id a = some s') (i : LegID) :
    (s'.Succeeded i → s.Succeeded i ∨ i = id ∧ a = .write true) ∧
      (s'.closed i = true → s.closed i = true ∨ i = id ∧ a = .close) := by
  cases a with
  | write ok =>
    obtain ⟨_, ⟨⟩⟩ := ite_none_right_eq_some.1 h
    refine ⟨fun hs => ?_, .inl⟩
    by_cases hi : i = id
    · subst hi
      cases ok <;> simp [State.Succeeded] at hs ⊢
    · exact .inl (by simpa [State.Succeeded, hi] using hs)
  | report =>
    rw [legStep] at h
    split at h
    · next ok hwritten =>
      cases h
      refine ⟨fun hs => .inl ?_, .inl⟩
      by_cases hi : i = id
      · subst hi
        simpa [State.Succeeded, hwritten] using hs
      · simpa [State.Succeeded, hi] using hs
    · cases h
  | takeCompletion | deliver =>
    rw [legStep] at h
    split at h <;> cases h
    exact ⟨.inl, .inl⟩
  | takeLegDone | stop | closeDone | remove | replace =>
    obtain ⟨_, ⟨⟩⟩ := ite_none_right_eq_some.1 h
    exact ⟨.inl, .inl⟩
  | close =>
    cases h
    refine ⟨.inl, fun hc => ?_⟩
    by_cases hi : i = id
    · exact .inr ⟨hi, rfl⟩
    · exact .inl (by simpa [hi] using hc)
  | replacementCloses =>
    cases h
    exact ⟨.inl, .inl⟩

/-- A leg's step that loses no success keeps every leg with one open. -/
theorem Heeded.legStep (hheeded : Heeded s) {id : LegID} {a : LegAct}
    (hheeds : Heeds cfg s (.leg id a)) (h : legStep s id a = some s')
    (hnone : s'.fallbackWriteSucceeded = false) (i : LegID) (hs : s'.Succeeded i) :
    s'.closed i = false := by
  have hsame := (legStep_effect h).fallback
  obtain ⟨hsucceeded, hclosed⟩ := legStep_news h i
  rw [hsame] at hnone
  refine Bool.eq_false_iff.2 fun hc => ?_
  rcases hsucceeded hs with hold | ⟨rfl, rfl⟩
  · rcases hclosed hc with hc | ⟨rfl, rfl⟩
    · rw [hheeded.isOpen hnone i hold] at hc
      cases hc
    · exact hheeds hnone hold
  · rcases hclosed hc with hc | ⟨_, hact⟩
    · rw [hheeds hnone] at hc
      cases hc
    · cases hact

/-- What the loop's own steps leave alone. -/
structure LoopEffect (s s' : State) : Prop where
  closed : s'.closed = s.closed
  succeeded : ∀ id, s'.Succeeded id → s.Succeeded id
  fallback : s'.fallbackWriteSucceeded = false → s.fallbackWriteSucceeded = false

theorem takeResult_effect (s : State) (id : LegID) (ok : Bool) :
    LoopEffect s (takeResult cfg s id ok) ∧
      (takeResult cfg s id ok).loop ≠ .returned false := by
  unfold takeResult rescan
  dsimp only
  split_ifs <;> exact ⟨⟨rfl, fun _ h => h, fun h => by first | exact h | cases h⟩, nofun⟩

/-- When the loop gives up: with the engine, at the deadline, or with every leg closed. -/
theorem loopStep_effect {a : LoopAct} (h : loopStep cfg s a = some s') :
    LoopEffect s s' ∧ (s'.loop = .returned false →
      (s.done = true ∧ s' = { s with loop := .returned false }) ∨
      s.fallbackWriteSucceeded = false ∧ (a = .timer ∨ s.loop = .scanning [] false)) := by
  have hmove : ∀ p, LoopEffect s { s with loop := p } := fun _ => ⟨rfl, fun _ h => h, fun h => h⟩
  cases a with
  | look =>
    rw [loopStep] at h
    split at h
    · split_ifs at h <;> cases h <;> exact ⟨hmove _, nofun⟩
    · cases h
  | queueControl accepted =>
    rw [loopStep] at h
    split at h
    · next id rest _ =>
      dsimp only at h
      split at h <;> cases h
      · refine ⟨⟨rfl, fun i hs => ?_, fun h => h⟩, nofun⟩
        by_cases hi : i = id
        · subst hi
          simp [State.Succeeded] at hs
        · simpa [State.Succeeded, hi] using hs
      · exact ⟨hmove _, nofun⟩
    · cases h
  | endScan =>
    rw [loopStep] at h
    split at h
    · next live hloop =>
      split_ifs at h with hlive hfallback
      · cases h
        exact ⟨hmove _, nofun⟩
      · cases h
        exact ⟨hmove _, nofun⟩
      · cases h
        refine ⟨hmove _, fun hreturn => .inr ⟨by simpa using hreturn, .inr ?_⟩⟩
        rw [hloop, Bool.eq_false_iff.2 hlive]
    · cases h
  | done =>
    obtain ⟨hdone, ⟨⟩⟩ := ite_none_right_eq_some.1 h
    exact ⟨hmove _, fun _ => .inl ⟨hdone.2, rfl⟩⟩
  | timer =>
    obtain ⟨_, ⟨⟩⟩ := ite_none_right_eq_some.1 h
    exact ⟨hmove _, fun hreturn => .inr ⟨by simpa using hreturn, .inl rfl⟩⟩
  | result =>
    rw [loopStep] at h
    split at h
    · next id ok results _ _ =>
      cases h
      obtain ⟨heffect, hloop⟩ := @takeResult_effect cfg { s with results := results } id ok
      exact ⟨⟨heffect.closed, heffect.succeeded, heffect.fallback⟩, fun hreturn => absurd hreturn hloop⟩
    · cases h
  | fallbackTimer =>
    obtain ⟨_, heq⟩ := ite_none_right_eq_some.1 h
    split at heq <;> cases heq <;> exact ⟨hmove _, nofun⟩
  | tick =>
    obtain ⟨_, ⟨⟩⟩ := ite_none_right_eq_some.1 h
    exact ⟨hmove _, nofun⟩

theorem succeeded_mem (hinv : Inv cfg s) {id : LegID} (h : s.Succeeded id) : id ∈ cfg.legs := by
  refine hinv.snapshot id fun hunsent => ?_
  simp [State.Succeeded, hunsent] at h

theorem Heeded.loopStep (hinv : Inv cfg s) (hheeded : Heeded s) {a : LoopAct}
    (hheeds : Heeds cfg s (.loop a)) (h : loopStep cfg s a = some s') : Heeded s' := by
  obtain ⟨heffect, hreturn⟩ := loopStep_effect h
  refine ⟨fun hnone i hs => ?_, fun hfalse => ?_⟩
  · rw [heffect.closed]
    exact hheeded.isOpen (heffect.fallback hnone) i (heffect.succeeded i hs)
  · rcases hreturn hfalse with ⟨hdone, rfl⟩ | ⟨hnone, rfl | hloop⟩
    · exact .inl hdone
    · exact .inr fun i hs =>
        hheeds hnone i (succeeded_mem hinv (heffect.succeeded i hs)) (heffect.succeeded i hs)
    · -- every leg was found closed, and a leg with a success is open
      refine .inr fun i hs => ?_
      have hold := heffect.succeeded i hs
      have hscan := hinv.loop
      rw [hloop] at hscan
      have hdown := (hscan.2 rfl i (succeeded_mem hinv hold)).resolve_left not_mem_nil
      rw [hheeded.isOpen hnone i hold] at hdown
      cases hdown

theorem heeded_step (hinv : Inv cfg s) (hheeded : Heeded s) {a : Act} (hheeds : Heeds cfg s a)
    (h : step cfg s a = some s') : Heeded s' := by
  unfold step at h
  split at h
  · cases h
  · next hgoing =>
    cases a with
    | loop a => exact hheeded.loopStep hinv hheeds h
    | leg id a =>
      refine ⟨hheeded.legStep hheeds h, fun hfalse => ?_⟩
      exact absurd ((legStep_effect h).loop ▸ hfalse) (hgoing false)
    | engineDone | expire =>
      cases h
      exact ⟨hheeded.isOpen, fun hfalse => absurd hfalse (hgoing false)⟩

end Heeded

section Result

variable {cfg : Config} {s : State}

/-- `true` is returned only if some write succeeded.  Along every run that loses no success `false`
is returned only if the engine is done or no write has succeeded. -/
theorem close_result_exact {acts : List Act} (hrun : runActs (step cfg) (start cfg) acts = some s) :
    (s.loop = .returned true → ∃ id, s.Succeeded id) ∧
      (EachStep (step cfg) (Heeds cfg) (start cfg) acts → Exact s) := by
  have hinv : Inv cfg s :=
    Reachable.invariant ⟨acts, hrun⟩ (inv_start cfg) fun _ _ _ hinv h => inv_step hinv h
  have hsent : s.loop = .returned true → ∃ id, s.Succeeded id := by
    intro hreturn
    have hok := hinv.loop
    rwa [hreturn] at hok
  refine ⟨hsent, fun hheeds => ⟨hsent, ?_⟩⟩
  have hnone : ∀ id, ¬ (start cfg).Succeeded id := fun id h => nomatch h
  have hstart : Inv cfg (start cfg) ∧ Heeded (start cfg) :=
    ⟨inv_start cfg, fun _ id h => absurd h (hnone id), fun _ => .inr hnone⟩
  have hrest : Inv cfg s ∧ Heeded s := by
    refine @invariant_of_eachStep _ _ _ _ _ (fun s => Inv cfg s ∧ Heeded s) _ ?_ _ hstart hheeds hrun
    exact fun _ _ _ h hheeds hs => ⟨inv_step h.1 hs, heeded_step h.1 h.2 hheeds hs⟩
  exact hrest.2.notSent

/-- Leg 0 alone, no leg preferred. -/
def oneLeg : Config :=
  { legs := [0], maxActiveLegs := 2, preferred := none }

/-- The CLOSE is queued and written, and the writer has reported it. -/
def written : List Act :=
  [.loop .look, .loop (.queueControl true), .loop .endScan, .leg 0 (.write true), .leg 0 .report]

/-- The peer, which has the CLOSE, closes the carrier; the next pass finds no open leg. -/
def peerHangsUp : List Act :=
  written ++ [.leg 0 .close, .loop .tick, .loop .look, .loop .endScan]

theorem false_after_written :
    ∃ s, runActs (step oneLeg) (start oneLeg) peerHangsUp = some s ∧ s.expired = false ∧
      ¬ Exact s := by
  refine ⟨_, rfl, rfl, fun h => ?_⟩
  rcases h.notSent rfl with hdone | hnone
  · cases hdone
  · exact hnone 0 (.inr rfl)

/-- The loop hears of the write. -/
def heard : List Act :=
  written ++ [.leg 0 .takeCompletion, .leg 0 .deliver, .loop .result]

/-- The leg's queue is full until the deadline. -/
def neverQueued : List Act :=
  [.loop .look, .loop (.queueControl false), .loop .endScan, .expire, .loop .timer]

theorem close_result_exact_oneLeg :
    (∃ s, runActs (step oneLeg) (start oneLeg) heard = some s ∧ s.loop = .returned true ∧
      ∃ id, s.Succeeded id) ∧
    ∃ s, runActs (step oneLeg) (start oneLeg) neverQueued = some s ∧ s.loop = .returned false ∧
      (s.done = true ∨ ∀ id, ¬ s.Succeeded id) :=
  ⟨⟨_, rfl, rfl, (@close_result_exact oneLeg _ heard rfl).1 rfl⟩,
    _, rfl, rfl, ((@close_result_exact oneLeg _ neverQueued rfl).2 (by decide)).notSent rfl⟩

end Result

end Smp3Multipath.Core.CloseFrame

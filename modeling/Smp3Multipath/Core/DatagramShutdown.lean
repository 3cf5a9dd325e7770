import Mathlib.Logic.Function.Basic
import Smp3Multipath.Lib.KeyedList
import Smp3Multipath.Lib.Run

/-!
# Shutdown of a datagram engine

`AttachLeg` looks at `done` and enters its leg into the table in a later critical section.
`Close` closes `done`, copies the table under the lock and closes the legs of the copy.  A leg
that is entered after the copy was made is closed by neither: its writer returns on `done` without
closing it and its reader stays in `Read` until the peer ends the carrier.

Any number of calls of `AttachLeg` run beside `Close` and the failures of legs.  A leg is known by
its id and the call that attached it.
-/

namespace Smp3Multipath.Core.DatagramShutdown

open Lib.Run Lib.KeyedList Function List Option

section System

/-- `datagramLeg`. -/
structure Leg where
  id : Nat
  call : Nat
deriving DecidableEq

/-- Where a call of `AttachLeg` is. -/
inductive Call where
  | absent
  /-- At the top of the loop. -/
  | entered (id : Nat)
  /-- `done` was open. -/
  | checked (id : Nat)
  /-- Waiting for a leg under the same id to retire. -/
  | waiting (id : Nat) (leg : Leg)
  /-- Returned nil. -/
  | attached (id : Nat)
  /-- Returned an error. -/
  | refused
deriving DecidableEq

/-- A call of `handleLegFailure`, after its look at `done` and after it has closed the leg. -/
inductive Failure where
  | checked (leg : Leg) (down : Bool)
  | closed (leg : Leg)
deriving DecidableEq

/-- Where `Close` is. -/
inductive Closer where
  | idle
  | doneClosed
  /-- The table is copied; these legs of the copy are still to be closed. -/
  | closing (todo : List Leg)
  | returned
deriving DecidableEq

structure State where
  calls : Nat → Call
  legs : List Leg
  retiring : List Leg
  /-- The goroutines that wait for the workers of a leg. -/
  leaving : List Leg
  failures : List Failure
  closed : Leg → Bool
  retired : Leg → Bool
  closer : Closer

def init : State :=
  { calls := fun _ => .absent, legs := [], retiring := [], leaving := [], failures := []
    closed := fun _ => false, retired := fun _ => false, closer := .idle }

def State.done (s : State) : Bool :=
  s.closer ≠ .idle

def State.setCall (s : State) (c : Nat) (call : Call) : State :=
  { s with calls := update s.calls c call }

/-- `datagramLeg.close`. -/
def State.close (s : State) (leg : Leg) : State :=
  { s with closed := update s.closed leg true }

inductive Act where
  /-- A call of `AttachLeg`: its start, its look at `done`, its critical section, and the two ends
  of its wait. -/
  | enter (c id : Nat)
  | check (c : Nat)
  | insert (c : Nat)
  | resume (c : Nat)
  | abandon (c : Nat)
  /-- A call of `handleLegFailure` by the reader, the writer or `ReplaceLeg`. -/
  | fail (leg : Leg)
  | failClose (leg : Leg) (down : Bool)
  | failRemove (leg : Leg)
  | retire (leg : Leg)
  /-- `Close`, by its owner, `idleLoop` or `failIfNoLegRecovers`. -/
  | close
  | copyLegs
  | closeLeg (leg : Leg)
  | closeReturn
deriving DecidableEq

/-- The critical section of `AttachLeg`. -/
def insert (s : State) (c id : Nat) : State :=
  match lookup Leg.id s.legs id with
  | some _ => s.setCall c .refused
  | none =>
    match lookup Leg.id s.retiring id with
    | some leg => s.setCall c (.waiting id leg)
    | none => { s.setCall c (.attached id) with legs := put Leg.id s.legs ⟨id, c⟩ }

/-- The critical section of `handleLegFailure`. -/
def failRemove (s : State) (leg : Leg) : State :=
  if lookup Leg.id s.legs leg.id = some leg then
    { s with
      legs := remove Leg.id s.legs leg.id
      retiring := put Leg.id s.retiring leg
      leaving := leg :: s.leaving }
  else s

def step (s : State) : Act → Option State
  | .enter c id =>
    if s.calls c = .absent then
      some (s.setCall c (if 1 < id then .refused else .entered id))
    else none
  | .check c =>
    match s.calls c with
    | .entered id => some (s.setCall c (if s.done then .refused else .checked id))
    | _ => none
  | .insert c =>
    match s.calls c with
    | .checked id => some (insert s c id)
    | _ => none
  | .resume c =>
    match s.calls c with
    | .waiting id leg => if s.retired leg = true then some (s.setCall c (.entered id)) else none
    | _ => none
  | .abandon c =>
    match s.calls c with
    | .waiting _ _ => if s.done = true then some (s.setCall c .refused) else none
    | _ => none
  | .fail leg =>
    if s.calls leg.call = .attached leg.id then
      some { s with failures := .checked leg s.done :: s.failures }
    else none
  | .failClose leg down =>
    if .checked leg down ∈ s.failures then
      let failures := s.failures.erase (.checked leg down)
      some
        { s.close leg with
          failures := if down then failures else .closed leg :: failures }
    else none
  | .failRemove leg =>
    if .closed leg ∈ s.failures then
      some (failRemove { s with failures := s.failures.erase (.closed leg) } leg)
    else none
  | .retire leg =>
    if leg ∈ s.leaving then
      some
        { s with
          leaving := s.leaving.erase leg
          retiring :=
            if lookup Leg.id s.retiring leg.id = some leg then
              remove Leg.id s.retiring leg.id
            else s.retiring
          retired := update s.retired leg true }
    else none
  | .close => if s.closer = .idle then some { s with closer := .doneClosed } else none
  | .copyLegs => if s.closer = .doneClosed then some { s with closer := .closing s.legs } else none
  | .closeLeg leg =>
    match s.closer with
    | .closing todo =>
      if leg ∈ todo then some { s.close leg with closer := .closing (todo.erase leg) }
      else none
    | _ => none
  | .closeReturn => if s.closer = .closing [] then some { s with closer := .returned } else none

end System

section Specification

def Call.isOver : Call → Bool
  | .absent | .attached _ | .refused => true
  | _ => false

/-- Once `Close` and the calls of `AttachLeg` have returned, the leg of every call that returned
nil is closed. -/
def NoLegLeft (s : State) : Prop :=
  s.closer = .returned → (∀ c, (s.calls c).isOver = true) →
    ∀ c id, s.calls c = .attached id → s.closed ⟨id, c⟩ = true

/-- `Close` has copied the table. -/
def Closer.hasCopied : Closer → Bool
  | .idle | .doneClosed => false
  | _ => true

/-- This step of `AttachLeg` enters its leg into the table. -/
def State.enters (s : State) : Act → Bool
  | .insert c =>
    match s.calls c with
    | .checked id => (lookup Leg.id s.legs id).isNone && (lookup Leg.id s.retiring id).isNone
    | _ => false
  | _ => false

/-- No leg is entered into the table after `Close` has copied it. -/
def NoLateInsert (s : State) (a : Act) : Prop :=
  s.enters a = true → s.closer.hasCopied = false
deriving Decidable

end Specification

section Runs

variable {s s' : State} {a : Act} {acts : List Act} {closer : Closer} {leg : Leg}

/-- The legs that `Close` still has to reach, when this is the table. -/
def Closer.pending (legs : List Leg) : Closer → List Leg
  | .idle | .doneClosed => legs
  | .closing todo => todo
  | .returned => []

theorem pending_of_not_copied (legs : List Leg) (h : closer.hasCopied = false) :
    closer.pending legs = legs := by
  cases closer with
  | idle | doneClosed => rfl
  | closing todo | returned => cases h

/-- After the copy the table does not matter. -/
theorem pending_of_copied (legs legs' : List Leg) (h : closer.hasCopied = true) :
    closer.pending legs = closer.pending legs' := by
  cases closer with
  | idle | doneClosed => cases h
  | closing todo | returned => rfl

structure Inv (s : State) : Prop where
  keys : (s.legs.map Leg.id).Nodup
  failed : ∀ leg, .closed leg ∈ s.failures → s.closed leg = true
  attached : ∀ c id, s.calls c = .attached id →
    s.closed ⟨id, c⟩ = true ∨ ⟨id, c⟩ ∈ s.closer.pending s.legs

theorem inv_init : Inv init where
  keys := nodup_nil
  failed := fun _ h => nomatch h
  attached := fun _ _ h => nomatch h

theorem closed_close_self : (s.close leg).closed leg = true := by
  simp [State.close]

theorem closed_close_of {other : Leg} (h : s.closed other = true) :
    (s.close leg).closed other = true := by
  by_cases hleg : other = leg
  · simp [State.close, hleg]
  · simpa [State.close, hleg] using h

theorem Inv.setCall (hinv : Inv s) (c : Nat) {call : Call} (hcall : ∀ id, call ≠ .attached id) :
    Inv (s.setCall c call) where
  keys := hinv.keys
  failed := hinv.failed
  attached := by
    intro d id hd
    by_cases hdc : d = c
    · subst hdc
      simp only [State.setCall, update_self] at hd
      exact absurd hd (hcall id)
    · simp only [State.setCall, update_of_ne hdc] at hd
      exact hinv.attached d id hd

theorem inv_insert {c id : Nat} (hinv : Inv s)
    (hcond : lookup Leg.id s.legs id = none → lookup Leg.id s.retiring id = none →
      s.closer.hasCopied = false) : Inv (insert s c id) := by
  unfold insert
  split
  · exact hinv.setCall c (by simp)
  next hfree =>
    split
    · exact hinv.setCall c (by simp)
    next hretired =>
      have hcopied : s.closer.hasCopied = false := hcond hfree hretired
      refine ⟨nodup_put hinv.keys _, hinv.failed, fun d id' hd => ?_⟩
      change s.closed ⟨id', d⟩ = true ∨ ⟨id', d⟩ ∈ s.closer.pending (put Leg.id s.legs ⟨id, c⟩)
      rw [pending_of_not_copied _ hcopied, mem_put_iff]
      by_cases hdc : d = c
      · have hid : id = id' := by
          simpa [State.setCall, hdc] using hd
        simp [hdc, hid]
      · have hd' : s.calls d = .attached id' := by
          simpa [State.setCall, hdc] using hd
        refine (hinv.attached d id' hd').imp_right fun hm => .inr ?_
        rw [pending_of_not_copied _ hcopied] at hm
        -- the id was free, so no leg of the table has it
        refine ⟨hm, fun hid => lookup_eq_none_iff.1 hfree ?_⟩
        exact mem_map.2 ⟨_, hm, hid⟩

/-- The leg that leaves the table is closed. -/
theorem inv_failRemove (hinv : Inv s) (hclosed : s.closed leg = true) : Inv (failRemove s leg) := by
  unfold failRemove
  split
  next hfound =>
    refine ⟨nodup_remove hinv.keys _, hinv.failed, fun c id hc => ?_⟩
    change s.closed ⟨id, c⟩ = true ∨ ⟨id, c⟩ ∈ s.closer.pending (remove Leg.id s.legs leg.id)
    rcases hinv.attached c id hc with h | hm
    · exact .inl h
    · by_cases hleg : (⟨id, c⟩ : Leg) = leg
      · exact .inl (hleg ▸ hclosed)
      · right
        cases hcopied : s.closer.hasCopied with
        | true => rwa [pending_of_copied _ s.legs hcopied]
        | false =>
          rw [pending_of_not_copied _ hcopied] at hm ⊢
          refine mem_remove_iff.2 ⟨hm, fun hid => hleg ?_⟩
          have hself := lookup_of_mem hinv.keys hm
          rw [hid, hfound] at hself
          exact (Option.some.inj hself).symm
  · exact hinv

theorem inv_failClose {failures : List Failure} (hinv : Inv s)
    (hfailures : ∀ other, .closed other ∈ failures → other = leg ∨ .closed other ∈ s.failures) :
    Inv { s.close leg with failures := failures } where
  keys := hinv.keys
  failed := by
    intro other hother
    rcases hfailures other hother with rfl | hold
    · exact closed_close_self
    · exact closed_close_of (hinv.failed other hold)
  attached := fun c id hc => (hinv.attached c id hc).imp_left closed_close_of

theorem inv_closeLeg {todo : List Leg} (hinv : Inv s) (hcloser : s.closer = .closing todo) :
    Inv { s.close leg with closer := .closing (todo.erase leg) } where
  keys := hinv.keys
  failed := fun other hother => closed_close_of (hinv.failed other hother)
  attached := by
    intro c id hc
    have hattached := hinv.attached c id hc
    rw [hcloser] at hattached
    by_cases hleg : (⟨id, c⟩ : Leg) = leg
    · exact .inl (hleg ▸ closed_close_self)
    · exact hattached.imp closed_close_of fun hm => (mem_erase_of_ne hleg).2 hm

/-- `Close` goes on with no leg left behind. -/
theorem Inv.goOn (hinv : Inv s) {next : Closer}
    (hpending : ∀ leg ∈ s.closer.pending s.legs, leg ∈ next.pending s.legs) :
    Inv { s with closer := next } :=
  ⟨hinv.keys, hinv.failed, fun c id hc => (hinv.attached c id hc).imp_right (hpending _)⟩

theorem inv_step (hinv : Inv s) (hcond : NoLateInsert s a) (hs : step s a = some s') :
    Inv s' := by
  cases a with
  | enter c id =>
    obtain ⟨-, ⟨⟩⟩ := ite_none_right_eq_some.1 hs
    exact hinv.setCall c (by intro; split <;> simp)
  | check c =>
    simp only [step] at hs
    split at hs <;> cases hs
    exact hinv.setCall c (by intro; split <;> simp)
  | insert c =>
    simp only [step] at hs
    split at hs
    next id hc =>
      cases hs
      refine inv_insert hinv fun hfree hretired => hcond ?_
      simp [State.enters, hc, hfree, hretired]
    · cases hs
  | resume c | abandon c =>
    simp only [step] at hs
    split at hs
    · obtain ⟨-, ⟨⟩⟩ := ite_none_right_eq_some.1 hs
      exact hinv.setCall c (by simp)
    · cases hs
  | fail leg =>
    obtain ⟨-, ⟨⟩⟩ := ite_none_right_eq_some.1 hs
    exact ⟨hinv.keys, fun other hother => hinv.failed other (by simpa using hother),
      hinv.attached⟩
  | failClose leg down =>
    obtain ⟨-, ⟨⟩⟩ := ite_none_right_eq_some.1 hs
    refine inv_failClose hinv fun other hother => ?_
    split at hother
    · exact .inr (mem_of_mem_erase hother)
    · rcases mem_cons.1 hother with heq | hold
      · exact .inl (Failure.closed.inj heq)
      · exact .inr (mem_of_mem_erase hold)
  | failRemove leg =>
    obtain ⟨hm, ⟨⟩⟩ := ite_none_right_eq_some.1 hs
    refine inv_failRemove ⟨hinv.keys, fun other hother => ?_, hinv.attached⟩
      (hinv.failed leg hm)
    exact hinv.failed other (mem_of_mem_erase hother)
  | retire leg =>
    obtain ⟨-, ⟨⟩⟩ := ite_none_right_eq_some.1 hs
    exact ⟨hinv.keys, hinv.failed, hinv.attached⟩
  | close =>
    obtain ⟨hidle, ⟨⟩⟩ := ite_none_right_eq_some.1 hs
    exact hinv.goOn fun leg hleg => by simpa [hidle, Closer.pending] using hleg
  | copyLegs =>
    obtain ⟨hdone, ⟨⟩⟩ := ite_none_right_eq_some.1 hs
    exact hinv.goOn fun leg hleg => by simpa [hdone, Closer.pending] using hleg
  | closeLeg leg =>
    simp only [step] at hs
    split at hs
    next hcloser =>
      obtain ⟨-, ⟨⟩⟩ := ite_none_right_eq_some.1 hs
      exact inv_closeLeg hinv hcloser
    · cases hs
  | closeReturn =>
    obtain ⟨hempty, ⟨⟩⟩ := ite_none_right_eq_some.1 hs
    exact hinv.goOn fun leg hleg => by simp [hempty, Closer.pending] at hleg

/-- In a run in which no leg is entered after `Close` has copied the table, every state reached
has the legs of the calls that returned nil closed once everyone has returned. -/
theorem no_leg_left (hcond : EachStep step NoLateInsert init acts)
    (hrun : runActs step init acts = some s) : NoLegLeft s := by
  intro hreturned _ c id hc
  have hinv : Inv s :=
    invariant_of_eachStep (fun _ _ _ hinv hcond hs => inv_step hinv hcond hs) inv_init
      hcond hrun
  simpa [hreturned, Closer.pending] using hinv.attached c id hc

/-- A leg that fails, one that replaces it, and one that is refused. -/
def closedActs : List Act :=
  [.enter 0 0, .check 0, .insert 0, .fail ⟨0, 0⟩, .failClose ⟨0, 0⟩ false, .failRemove ⟨0, 0⟩,
    .enter 1 0, .check 1, .insert 1, .retire ⟨0, 0⟩, .resume 1, .check 1, .insert 1, .enter 2 1,
    .close, .check 2, .copyLegs, .closeLeg ⟨0, 1⟩, .closeReturn]

theorem no_leg_left_replaced :
    ∃ s, runActs step init closedActs = some s ∧ s.closer = .returned ∧
      s.calls 1 = .attached 0 ∧ s.closed ⟨0, 1⟩ = true ∧ NoLegLeft s := by
  have hany : ((runActs step init closedActs).any fun s =>
      decide (s.closer = .returned ∧ s.calls 1 = .attached 0 ∧ s.closed ⟨0, 1⟩ = true)) = true := by
    decide +kernel
  obtain ⟨s, hrun, hs⟩ := (Option.any_eq_true ..).1 hany
  obtain ⟨hreturned, hcall, hclosed⟩ := of_decide_eq_true hs
  exact ⟨s, hrun, hreturned, hcall, hclosed, no_leg_left (by decide +kernel) hrun⟩

/-- `Close` runs to its end between the look at `done` and the critical section of `AttachLeg`. -/
theorem lateInsert_leaks :
    ∃ s, runActs step init
        [.enter 0 0, .check 0, .close, .copyLegs, .closeReturn, .insert 0] = some s ∧
      s.closer = .returned ∧ s.calls 0 = .attached 0 ∧ s.closed ⟨0, 0⟩ = false ∧
      ¬ NoLegLeft s := by
  refine ⟨_, rfl, rfl, rfl, rfl, fun hleft => ?_⟩
  have hclosed := hleft rfl ?_ 0 0 rfl
  · cases hclosed
  · intro c
    cases c with
    | zero | succ c => rfl

end Runs

end Smp3Multipath.Core.DatagramShutdown

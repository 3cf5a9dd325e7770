import Smp3Multipath.Server.LegReservation

/-!
# Failures of the handler that created a session

A handler whose reservation, READY or attach fails rejects its carrier.  If its `admitSession` had
created the session it also closes the session, whoever has joined meanwhile; a handler that joined
only rejects its carrier.

The handlers of one session run as in the model of the reservations.  The first one that arrives is
the creator.
-/

namespace Smp3Multipath.Server.CreatorFailure

open Lib.Run LegReservation

structure State where
  session : LegReservation.State := LegReservation.init
  /-- The handler that `admitSession` gave `created`. -/
  creator : Option Nat := none
  /-- The creator has failed and has still to call `session.close`. -/
  closing : Bool := false

/-- Handler `i` fails in `reserveLeg`, in the write of READY or in the attach. -/
def fails (s s' : LegReservation.State) (i : Nat) : Bool :=
  (s'.phase i == .failed && s.phase i != .failed) ||
    (s'.phase i == .exited && (s.phase i == .arrived || s.phase i == .reserving))

inductive Act where
  | handler (a : LegReservation.Act)
  /-- `session.close` of the creator. -/
  | closeSession
deriving DecidableEq

/-- `created` of the handler that arrives. -/
def creatorAfter (creator : Option Nat) : LegReservation.Act → Option Nat
  | .arrive i _ _ => creator <|> some i
  | _ => creator

def step (cfg : Config) (s : State) : Act → Option State
  | .handler a =>
    (LegReservation.step cfg s.session a).map fun session =>
      { session := session
        creator := creatorAfter s.creator a
        closing := s.closing || s.creator.any (fails s.session session) }
  | .closeSession =>
    if s.closing then
      some { s with session := { s.session with coreClosed := true }, closing := false }
    else none

/-- The step is no failure of the creator, and not the end of the Core by itself. -/
def CreatorFine (cfg : Config) (s : State) : Act → Prop
  | .handler a =>
    a ≠ .coreCloses ∧ ∀ i, s.creator = some i →
      ((LegReservation.step cfg s.session a).all fun session => !fails s.session session i) = true
  | .closeSession => True

section Survival

variable {cfg : Config} {s s' : State} {t t' : LegReservation.State}

theorem releaseLeg_coreClosed (i : Nat) (id : Core.LegID) :
    (releaseLeg t i id).coreClosed = t.coreClosed := by
  unfold releaseLeg
  split <;> rfl

theorem coreClosed_step {a : LegReservation.Act} (ha : a ≠ .coreCloses)
    (hs : LegReservation.step cfg t a = some t') : t'.coreClosed = t.coreClosed := by
  cases a with
  | coreCloses => exact absurd rfl ha
  | reserveCheck i | reserveCommit i =>
    obtain ⟨_, hs⟩ := Option.ite_none_right_eq_some.1 hs
    split at hs <;> cases hs <;> rfl
  | attach i refused =>
    obtain ⟨_, ⟨⟩⟩ := Option.ite_none_right_eq_some.1 hs
    unfold attachLeg
    split_ifs <;> rfl
  | promote i | leave i =>
    obtain ⟨_, ⟨⟩⟩ := Option.ite_none_right_eq_some.1 hs
    exact releaseLeg_coreClosed ..
  | arrive i leg ingress | writeReady i ok | legFails id =>
    obtain ⟨_, ⟨⟩⟩ := Option.ite_none_right_eq_some.1 hs
    rfl

/-- Nobody closes the session, or is about to. -/
theorem open_step {a : Act} (h : s.session.coreClosed = false ∧ s.closing = false)
    (hfine : CreatorFine cfg s a) (hs : step cfg s a = some s') :
    s'.session.coreClosed = false ∧ s'.closing = false := by
  cases a with
  | handler a =>
    obtain ⟨session, hsession, rfl⟩ := Option.map_eq_some_iff.1 hs
    refine ⟨(coreClosed_step hfine.1 hsession).trans h.1, ?_⟩
    dsimp only
    rw [h.2, Bool.false_or]
    cases hcreator : s.creator with
    | none => rfl
    | some i => simpa [hsession] using hfine.2 i hcreator
  | closeSession => simp [step, h.2] at hs

end Survival

/-- However many handlers fail, the session stays open as long as the one that created it does
not. -/
theorem session_survives_joiners (cfg : Config) {acts : List Act} {s : State}
    (hfine : EachStep (step cfg) (CreatorFine cfg) {} acts)
    (hrun : runActs (step cfg) {} acts = some s) : s.session.coreClosed = false := by
  have hinit : ({} : State).session.coreClosed = false ∧ ({} : State).closing = false := ⟨rfl, rfl⟩
  exact (invariant_of_eachStep (fun _ _ _ h hf hs => open_step h hf hs) hinit hfine hrun).1

def streamConfig : Config := { mode := .stream, maxActiveLegs := 4 }

instance (cfg : Config) (s : State) (a : Act) : Decidable (CreatorFine cfg s a) :=
  match a, s.creator with
  | .closeSession, _ => .isTrue trivial
  | .handler a, _ => by
    unfold CreatorFine
    infer_instance

/-- The creator attaches leg 0, and a joiner fails to write READY. -/
def joinerFails : List Act :=
  [.handler (.arrive 0 0 .negotiated), .handler (.reserveCheck 0), .handler (.reserveCommit 0),
    .handler (.writeReady 0 true), .handler (.attach 0 false), .handler (.arrive 1 1 .negotiated),
    .handler (.reserveCheck 1), .handler (.reserveCommit 1), .handler (.writeReady 1 false)]

theorem session_survives_joiners_ready :
    ∃ s, runActs (step streamConfig) {} joinerFails = some s ∧ s.session.phase 1 = .failed ∧
      s.session.coreClosed = false :=
  ⟨_, rfl, rfl, @session_survives_joiners streamConfig joinerFails _ (by decide) rfl⟩

/-- Handler 1 joins and attaches leg 1 while the creator writes READY; the write fails and the
session is closed. -/
theorem creator_closes_working_session :
    ((runActs (step streamConfig) {} [.handler (.arrive 0 0 .negotiated),
      .handler (.reserveCheck 0), .handler (.reserveCommit 0), .handler (.arrive 1 1 .negotiated),
      .handler (.reserveCheck 1), .handler (.reserveCommit 1), .handler (.writeReady 1 true),
      .handler (.attach 1 false), .handler (.writeReady 0 false), .closeSession]).any fun s =>
        decide (s.session.legs = [1] ∧ s.session.phase 1 = .attached ∧
          s.session.coreClosed = true)) = true := by
  decide

end Smp3Multipath.Server.CreatorFailure

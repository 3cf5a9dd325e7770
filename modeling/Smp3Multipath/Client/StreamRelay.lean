import Smp3Multipath.Core.LifecycleFacts

/-!
# The client's stream relay

`streamSession.run` copies the local connection into the engine's application
pipe and the pipe back to the local connection.  The first copy to end makes
the session close, and the session closes its engine with `Close`.

The model follows the upload: the local reader delivers a fixed byte string and
then EOF, in blocks of any size.  The download does not end, and the engine
takes any steps of its own that are neither a carrier nor an engine failure.
-/

namespace Smp3Multipath.Client.StreamRelay

open Smp3Multipath.Core Smp3Multipath.Core.StreamTXLedger Lib.Run

/-- Where the upload's `io.Copy` is. -/
inductive UpCopy where
  | reading
  /-- In `Write` on the application pipe. -/
  | writing
  | finished
deriving DecidableEq

/-- A session with its engine and what the local reader still has to deliver. -/
structure State where
  engine : Lifecycle.State
  upRest : List UInt8
  up : UpCopy
  closed : Bool

/-- A session before its upload of `upload`. -/
def init (cfg : Lifecycle.Config) (upload : List UInt8) : State :=
  { engine := Lifecycle.init cfg
    upRest := upload
    up := .reading
    closed := false }

inductive Act where
  | upRead (n : Nat)
  | upWritten
  | upEOF
  | engine (a : Lifecycle.Act)
  | sessionClose
deriving DecidableEq

/-- Engine steps that are neither a failure nor the application's or the peer's close. -/
def isOwnStep : Lifecycle.Act → Bool
  | .tx (.appWrite _) => false
  | .tx .appClose => false
  | .tx _ => true
  | .rx (.legFailure _) => false
  | .rx (.readClose _ _) => false
  | .rx .rxWriteError => false
  | .rx _ => true
  | .close _ => false

/-- An engine step of a run without failures. -/
def engineStep
    (cfg : Lifecycle.Config) (e : Lifecycle.State) (a : Lifecycle.Act) :
    Option Lifecycle.State :=
  if isOwnStep a then
    match Lifecycle.step cfg e a with
    | some e' => if e'.done = none then some e' else none
    | none => none
  else none

/-- `Close` of the session: the engine is force-closed, then the pipe end. -/
def sessionClose (e : Lifecycle.State) : Lifecycle.State :=
  { Lifecycle.fail { e with closing := true } .closed with appOpen := false }

def step (cfg : Lifecycle.Config) (s : State) : Act → Option State
  | .upRead n =>
    if s.up = .reading ∧ s.upRest ≠ [] ∧ 0 < n then do
      let engine ← Lifecycle.step cfg s.engine (.tx (.appWrite (s.upRest.take n)))
      some { s with engine := engine, upRest := s.upRest.drop n, up := .writing }
    else none
  | .upWritten =>
    if s.up = .writing ∧ s.engine.offered = [] then some { s with up := .reading } else none
  | .upEOF => if s.up = .reading ∧ s.upRest = [] then some { s with up := .finished } else none
  | .engine a => do
      let engine ← engineStep cfg s.engine a
      some { s with engine := engine }
  | .sessionClose =>
    -- the first finished copy wakes `run`
    if s.up = .finished ∧ ¬ s.closed then
      some { s with engine := sessionClose s.engine, closed := true }
    else none

/-- The session never closes its engine over an outstanding record or an unadded chunk. -/
def NeverCutsTail (cfg : Lifecycle.Config) (upload : List UInt8) : Prop :=
  ∀ s s', Reachable (step cfg) (init cfg upload) s →
    step cfg s .sessionClose = some s' →
    s.engine.ledger.outstanding = [] ∧ s.engine.tx.chunk = []

section Ready

variable {cfg : Lifecycle.Config} {leg : LegID} {s : State}

/-- The leg the relay's engine waits for before its first chunk. -/
def firstLeg (cfg : Lifecycle.Config) : LegID :=
  match cfg.startup with
  | .firstReady => 0
  | .preferred leg _ => leg

theorem firstLeg_lt (cfg : Lifecycle.Config) : firstLeg cfg < cfg.maxActiveLegs := by
  unfold firstLeg
  split
  · exact cfg.legs_pos
  · next leg grace hstartup => exact cfg.preferred_lt leg grace hstartup

/-- A point of an upload at which every record is acknowledged and the engine's first leg
can be read. -/
structure Quiet
    (cfg : Lifecycle.Config) (s : State)
    (up : UpCopy) (rest : List UInt8) (tokens : Nat) (tx : Lifecycle.TxLoop) : Prop where
  up_eq : s.up = up
  upRest_eq : s.upRest = rest
  closed_eq : s.closed = false
  tx_eq : s.engine.tx = tx
  offered_eq : s.engine.offered = []
  appOpen_eq : s.engine.appOpen = true
  inflight_eq : s.engine.inflight = tokens
  done_eq : s.engine.done = none
  attached_eq : s.engine.attached (firstLeg cfg) = true
  reader_eq : s.engine.reader (firstLeg cfg) = .reading
  wf : s.engine.ledger.WellFormed
  acked_eq : s.engine.ledger.ackedNext = s.engine.ledger.nextSequence

theorem quiet_of_attach (cfg : Lifecycle.Config) (upload : List UInt8) :
    ∃ s, Reachable (step cfg) (init cfg upload) s ∧
      Quiet cfg s .reading upload 0 .acquiring := by
  have hrun : ∃ s, runActs (step cfg) (init cfg upload)
      [.engine (.rx (.attachLeg (firstLeg cfg)))] = some s ∧
        Quiet cfg s .reading upload 0 .acquiring := by
    simp only [runActs, step, engineStep, isOwnStep, Lifecycle.step, Lifecycle.rxStep, init,
      Lifecycle.init]
    simp only [firstLeg_lt]
    simp
    exact ⟨rfl, rfl, rfl, rfl, rfl, rfl, rfl, rfl, by simp, by simp,
      WellFormed.new cfg.maxActiveLegs, rfl⟩
  obtain ⟨s, hs, hq⟩ := hrun
  exact ⟨s, ⟨_, hs⟩, hq⟩

theorem read_byte {c : UInt8} {rest : List UInt8}
    (h : Quiet cfg s .reading (c :: rest) 0 .acquiring) :
    ∃ s', Reachable (step cfg) s s' ∧
      s'.engine.gateReleased = s.engine.gateReleased ∧
      Quiet cfg s' .writing rest 1 (Lifecycle.afterRead cfg s.engine [c]) := by
  obtain ⟨hup, hrest, hclosed, htx, hoff, happ, hinf, hdone, hatt, hreader, hwf, hack⟩ := h
  obtain ⟨k, hk⟩ : ∃ k, cfg.chunkSize = k + 1 :=
    ⟨cfg.chunkSize - 1, by have := cfg.chunk_pos; omega⟩
  have hlt := cfg.inflight_pos
  have hrun : ∃ s', runActs (step cfg) s
      [.upRead 1, .engine (.tx .txAcquire), .engine (.tx .txRead)] = some s' ∧
        s'.engine.gateReleased = s.engine.gateReleased ∧
        Quiet cfg s' .writing rest 1 (Lifecycle.afterRead cfg s.engine [c]) := by
    simp [runActs, step, engineStep, isOwnStep, Lifecycle.step, Lifecycle.txStep,
      hup, hrest, htx, hoff, happ, hinf, hdone, hlt, hk]
    exact ⟨rfl, rfl, hclosed, rfl, rfl, rfl, rfl, rfl, hatt, hreader, hwf, hack⟩
  obtain ⟨s', hs', hgate, hq⟩ := hrun
  exact ⟨s', ⟨_, hs'⟩, hgate, hq⟩

theorem pass_gate {e : Lifecycle.State} {chunk rest : List UInt8}
    (hgate : s.engine.gateReleased = e.gateReleased)
    (h : Quiet cfg s .writing rest 1 (Lifecycle.afterRead cfg e chunk)) :
    ∃ s' hint, Reachable (step cfg) s s' ∧
      Quiet cfg s' .writing rest 1 (.adding chunk hint) := by
  unfold Lifecycle.afterRead at h
  split at h
  · exact ⟨s, none, Reachable.refl, h⟩
  · next leg grace hstartup =>
    split at h
    · exact ⟨s, none, Reachable.refl, h⟩
    · next hclosedGate =>
      obtain ⟨hup, hrest, hclosed, htx, hoff, happ, hinf, hdone, hatt, hreader, hwf, hack⟩ := h
      have hleg : s.engine.attached leg = true := by rwa [firstLeg, hstartup] at hatt
      have hrun : ∃ s', runActs (step cfg) s [.engine (.tx .gateCheck)] = some s' ∧
          Quiet cfg s' .writing rest 1 (.adding chunk (some leg)) := by
        simp [runActs, step, engineStep, isOwnStep, Lifecycle.step, Lifecycle.txStep,
          Lifecycle.awaitPass, htx, hstartup, hgate, hclosedGate, hleg, hdone]
        exact ⟨hup, hrest, hclosed, rfl, hoff, happ, hinf, rfl, hatt, hreader, hwf, hack⟩
      obtain ⟨s', hs', hq⟩ := hrun
      exact ⟨s', some leg, ⟨_, hs'⟩, hq⟩

theorem commit_byte {c : UInt8} {rest : List UInt8} {hint : Option LegID}
    (h : Quiet cfg s .writing rest 1 (.adding [c] hint)) :
    ∃ s', Reachable (step cfg) s s' ∧ Quiet cfg s' .reading rest 0 .acquiring := by
  obtain ⟨hup, hrest, hclosed, htx, hoff, happ, hinf, hdone, hatt, hreader, hwf, hack⟩ := h
  let l := s.engine.ledger
  let seq := (l.addLocal [c] 0).2
  let l' := (l.addLocal [c] 0).1.finishLocalEnqueue seq
  have hseq : seq = l.nextSequence := by simp [seq, addLocal, StreamTXLedger.add]
  have hsame := finishLocalEnqueue_sameStream (l.addLocal [c] 0).1 seq
  have hwf' : l'.WellFormed := (hwf.add [c] 0 true).of_sameStream hsame
  have hnext : l'.nextSequence = seq + 1 := by
    rw [hsame.next, hseq]
    simp [addLocal, StreamTXLedger.add]
  have hacked : l'.ackedNext = seq := by
    rw [hsame.acked, hseq]
    simpa [addLocal, StreamTXLedger.add] using hack
  have hreleased : (l'.applyACK (seq + 1) 0).2.released = 1 := by
    rw [applyACK_released hwf' 0 (by omega) (by omega)]
    omega
  have hackedNext : (l'.applyACK (seq + 1) 0).1.ackedNext =
      (l'.applyACK (seq + 1) 0).1.nextSequence := by
    rcases applyACK_spec 0 l' (seq + 1) with ⟨hno, _⟩ | ⟨_, _, hn, ha, _⟩
    · omega
    · omega
  have hrun : ∃ s', runActs (step cfg) s
      [.engine (.tx (.txAdd 0)), .engine (.tx .txEnqueued), .upWritten,
        .engine (.rx (.readAck (firstLeg cfg) (seq + 1) 0)),
        .engine (.rx (.releaseInflight (firstLeg cfg)))] = some s' ∧
        Quiet cfg s' .reading rest 0 .acquiring := by
    simp [runActs, step, engineStep, isOwnStep, Lifecycle.step, Lifecycle.txStep,
      Lifecycle.rxStep, hup, htx, hoff, hdone, hreader]
    have htokens : s.engine.inflight - (l'.applyACK (seq + 1) 0).2.released = 0 := by
      rw [hinf, hreleased]
    exact ⟨rfl, hrest, hclosed, rfl, rfl, happ, htokens, rfl, hatt, by simp,
      hwf'.applyACK (seq + 1) 0, hackedNext⟩
  obtain ⟨s', hs', hq⟩ := hrun
  exact ⟨s', ⟨_, hs'⟩, hq⟩

theorem upload_acked (sent rest : List UInt8)
    (h : Quiet cfg s .reading (sent ++ rest) 0 .acquiring) :
    ∃ s', Reachable (step cfg) s s' ∧ Quiet cfg s' .reading rest 0 .acquiring := by
  induction sent generalizing s with
  | nil => exact ⟨s, Reachable.refl, h⟩
  | cons c sent ih =>
    obtain ⟨s₁, hrun₁, hgate, h₁⟩ := read_byte h
    obtain ⟨s₂, hint, hrun₂, h₂⟩ := pass_gate hgate h₁
    obtain ⟨s₃, hrun₃, h₃⟩ := commit_byte h₂
    obtain ⟨s₄, hrun₄, h₄⟩ := ih h₃
    exact ⟨s₄, ((hrun₁.trans hrun₂).trans hrun₃).trans hrun₄, h₄⟩

/-- The upload's EOF is seen while the transmit loop still holds the last byte. -/
theorem upload_eof {c : UInt8} {hint : Option LegID}
    (h : Quiet cfg s .writing [] 1 (.adding [c] hint)) :
    ∃ s' s'', Reachable (step cfg) s s' ∧ s'.engine.tx.chunk = [c] ∧
      step cfg s' .sessionClose = some s'' := by
  obtain ⟨hup, hrest, hclosed, htx, hoff, happ, hinf, hdone, hatt, hreader, hwf, hack⟩ := h
  have hrun : ∃ s', runActs (step cfg) s [.upWritten, .upEOF] = some s' ∧
      s' = { s with up := .finished } := by
    simp [runActs, step, hup, hoff, hrest]
  obtain ⟨s', hs', rfl⟩ := hrun
  refine ⟨{ s with up := .finished },
    { s with up := .finished, engine := sessionClose s.engine, closed := true },
    ⟨_, hs'⟩, ?_, ?_⟩
  · rw [htx]
    rfl
  · simp [step, hclosed]

end Ready

section Empty

variable {cfg : Lifecycle.Config} {s s' : State} {e e' : Lifecycle.State}

/-- The transmit loop holds neither a chunk nor a record. -/
def isIdle : Lifecycle.TxLoop → Bool
  | .acquiring => true
  | .blocked => true
  | .reading => true
  | .stopped => true
  | _ => false

theorem txStep_idle {a : Lifecycle.TxAct} (hs : Lifecycle.txStep cfg e a = some e')
    (hown : isOwnStep (.tx a) = true) (hidle : isIdle e.tx = true) (hoff : e.offered = []) :
    isIdle e'.tx = true ∧ e'.offered = [] ∧ e'.ledger = e.ledger := by
  cases a with
  | appWrite bytes | appClose => cases hown
  | txAcquire | txAcquireBlocked | txAcquireAbort =>
    simp only [Lifecycle.txStep] at hs
    split at hs <;> cases hs
    exact ⟨rfl, hoff, rfl⟩
  | txRead =>
    simp only [Lifecycle.txStep] at hs
    split at hs
    · next h => exact absurd hoff h.2
    · cases hs
  | txReadError =>
    simp only [Lifecycle.txStep] at hs
    split at hs <;> cases hs
    unfold Lifecycle.startGracefulClose
    dsimp only
    split <;> exact ⟨rfl, hoff, rfl⟩
  | startupTerminal =>
    simp only [Lifecycle.txStep] at hs
    split at hs <;> cases hs
    exact ⟨hidle, hoff, rfl⟩
  | _ =>
    -- the remaining steps start from a loop that holds a chunk or a record
    cases htx : e.tx <;> simp [Lifecycle.txStep, isIdle, htx] at hs hidle

theorem rxStep_offered {a : Lifecycle.RxAct} (hs : Lifecycle.rxStep cfg e a = some e') :
    e'.offered = e.offered := by
  have hfail : ∀ e : Lifecycle.State, (Lifecycle.fail e .failed).offered = e.offered := by
    intro e
    unfold Lifecycle.fail
    split <;> rfl
  have hgrace : ∀ e : Lifecycle.State,
      (Lifecycle.startGracefulClose e .eof).offered = e.offered := by
    intro e
    unfold Lifecycle.startGracefulClose
    dsimp only
    split <;> rfl
  cases a <;> simp only [Lifecycle.rxStep] at hs <;> (repeat' split at hs) <;>
    cases hs <;> first | rfl | exact hfail _ | exact hgrace _

/-- An upload of nothing leaves nothing to cut off. -/
structure EmptyInv (s : State) : Prop where
  upRest : s.upRest = []
  offered : s.engine.offered = []
  idle : isIdle s.engine.tx = true
  outstanding : s.engine.ledger.outstanding = []

theorem engineStep_cases {a : Lifecycle.Act} (hs : engineStep cfg e a = some e') :
    isOwnStep a = true ∧ Lifecycle.step cfg e a = some e' := by
  unfold engineStep at hs
  split at hs
  · next hown =>
    split at hs
    · next h =>
      split at hs <;> cases hs
      exact ⟨hown, h⟩
    · cases hs
  · cases hs

theorem emptyInv_engine {a : Lifecycle.Act} (h : EmptyInv s)
    (hs : engineStep cfg s.engine a = some e') : EmptyInv { s with engine := e' } := by
  obtain ⟨hown, hs⟩ := engineStep_cases hs
  cases a with
  | tx a =>
    obtain ⟨hidle, hoff, hledger⟩ := txStep_idle hs hown h.idle h.offered
    exact ⟨h.upRest, hoff, hidle, by rw [hledger]; exact h.outstanding⟩
  | rx a =>
    have heffect := Lifecycle.rxStep_effect hs
    refine ⟨h.upRest, ?_, ?_, heffect.ledger.outstanding_nil h.outstanding⟩
    · rw [rxStep_offered hs]
      exact h.offered
    · rw [heffect.tx]
      exact h.idle
  | close a => cases hown

theorem emptyInv_step {a : Act} (h : EmptyInv s) (hs : step cfg s a = some s') :
    EmptyInv s' := by
  cases a with
  | upRead n =>
    simp only [step] at hs
    split at hs
    · next hcond => exact absurd h.upRest hcond.2.1
    · cases hs
  | upWritten | upEOF =>
    simp only [step] at hs
    split at hs <;> cases hs
    exact { h with }
  | engine a =>
    obtain ⟨e', hengine, ⟨⟩⟩ := Option.bind_eq_some_iff.mp hs
    exact emptyInv_engine h hengine
  | sessionClose =>
    simp only [step] at hs
    split at hs <;> cases hs
    obtain ⟨hledger, htx, _⟩ :=
      Lifecycle.fail_fields { s.engine with closing := true } .closed
    refine ⟨h.upRest, ?_, ?_, ?_⟩
    · unfold sessionClose Lifecycle.fail
      dsimp only
      split <;> exact h.offered
    · exact htx ▸ h.idle
    · exact hledger ▸ h.outstanding

end Empty

/-- **Main theorem.** The relay cuts the tail off exactly those uploads that have one: whatever
the configuration, some failure-free run closes the engine over an unadded chunk as soon as
the upload has a byte. -/
theorem neverCutsTail_iff_empty (cfg : Lifecycle.Config) (upload : List UInt8) :
    NeverCutsTail cfg upload ↔ upload = [] := by
  constructor
  · intro hnever
    -- every byte but the last is acknowledged before the last one is read
    by_contra hne
    obtain ⟨s₀, hrun₀, h₀⟩ := quiet_of_attach cfg upload
    rw [← List.dropLast_append_getLast hne] at h₀
    obtain ⟨s₁, hrun₁, h₁⟩ := upload_acked upload.dropLast [upload.getLast hne] h₀
    obtain ⟨s₂, hrun₂, hgate, h₂⟩ := read_byte h₁
    obtain ⟨s₃, hint, hrun₃, h₃⟩ := pass_gate hgate h₂
    obtain ⟨s₄, s₅, hrun₄, hchunk, hclose⟩ := upload_eof h₃
    have hrun := (((hrun₀.trans hrun₁).trans hrun₂).trans hrun₃).trans hrun₄
    have hcut := (hnever s₄ s₅ hrun hclose).2
    rw [hchunk] at hcut
    cases hcut
  · rintro rfl s s' hreach _
    have hinit : EmptyInv (init cfg []) := ⟨rfl, rfl, rfl, rfl⟩
    have hinv : EmptyInv s :=
      hreach.invariant hinit fun _ _ _ h hs => emptyInv_step h hs
    refine ⟨hinv.outstanding, ?_⟩
    have hidle := hinv.idle
    cases htx : s.engine.tx <;> rw [htx] at hidle <;> first | rfl | cases hidle

/-- Two legs, one frame of everything, and data on the first leg that is ready. -/
def smallConfig : Lifecycle.Config where
  maxActiveLegs := 2
  chunkSize := 1
  queueFrames := 1
  maxReorderFrames := 1
  maxInflightFrames := 1
  startup := .firstReady
  legs_pos := by decide
  legs_le := by decide
  chunk_pos := by decide
  queue_pos := by decide
  inflight_pos := by decide
  preferred_lt := fun _ _ h => nomatch h

/-- One byte is copied, added and sent, the reader reports EOF before its ACK. -/
def oneByteUpload : List Act :=
  [.engine (.rx (.attachLeg 0)), .upRead 1, .engine (.tx .txAcquire), .engine (.tx .txRead),
    .engine (.tx (.txAdd 0)), .engine (.tx .txEnqueued), .upWritten, .upEOF]

/-- The session then force-closes its engine over the unacknowledged record. -/
theorem oneByteUpload_cut :
    ∃ s s', runActs (step smallConfig) (init smallConfig [7]) oneByteUpload = some s ∧
      s.engine.ledger.outstanding = [0] ∧
      step smallConfig s .sessionClose = some s' ∧ s'.engine.done = some .closed ∧
      ¬ NeverCutsTail smallConfig [7] := by
  refine ⟨_, _, rfl, rfl, rfl, rfl, fun hnever => ?_⟩
  have hcut := (hnever _ _ ⟨oneByteUpload, rfl⟩ rfl).1
  cases hcut

end Smp3Multipath.Client.StreamRelay

import Smp3Multipath.Core.Lifecycle

/-!
# What the steps of an engine can change

One effect lemma for each of the three step functions, over the part of the
state that the shutdown results are about: the ledger's stream view, the
transmit loop with the bytes it read, the closing goroutine and `done`.
-/

namespace Smp3Multipath.Core.Lifecycle

open Lib.Run StreamTXLedger

/-- The transmit loop has stopped and the peer acknowledged everything added. -/
def Drained (s : State) : Prop :=
  s.tx = .stopped ∧ s.ledger.outstanding = []

section Helpers

variable (s : State) (err : CloseErr)

theorem fail_fields :
    (fail s err).ledger = s.ledger ∧ (fail s err).tx = s.tx ∧
      (fail s err).readBytes = s.readBytes ∧ (fail s err).closer = s.closer ∧
      (fail s err).rx = s.rx ∧ (fail s err).done = some (s.done.getD err) := by
  unfold fail
  cases hdone : s.done with
  | none => exact ⟨rfl, rfl, rfl, rfl, rfl, rfl⟩
  | some e => exact ⟨rfl, rfl, rfl, rfl, rfl, hdone⟩

theorem startGracefulClose_fields :
    (startGracefulClose s err).ledger = s.ledger ∧ (startGracefulClose s err).tx = s.tx ∧
      (startGracefulClose s err).readBytes = s.readBytes ∧
      (startGracefulClose s err).rx = s.rx ∧ (startGracefulClose s err).done = s.done ∧
      ((startGracefulClose s err).closer = s.closer ∨
        (s.closer = .none ∧ (startGracefulClose s err).closer = .waitTx err)) := by
  unfold startGracefulClose
  dsimp only
  split
  · exact ⟨rfl, rfl, rfl, rfl, rfl, .inl rfl⟩
  · next h =>
    push Not at h
    exact ⟨rfl, rfl, rfl, rfl, rfl, .inr ⟨h.2.1, rfl⟩⟩

theorem finishGracefulClose_fields :
    (finishGracefulClose s err).ledger = s.ledger ∧ (finishGracefulClose s err).tx = s.tx ∧
      (finishGracefulClose s err).readBytes = s.readBytes ∧
      (finishGracefulClose s err).closer = s.closer ∧
      (finishGracefulClose s err).rx = s.rx ∧
      (finishGracefulClose s err).done = some (s.done.getD err) := by
  unfold finishGracefulClose
  split
  · next heof =>
    subst heof
    cases hdone : s.done with
    | none => exact ⟨rfl, rfl, rfl, rfl, rfl, rfl⟩
    | some e => exact ⟨rfl, rfl, rfl, rfl, rfl, hdone⟩
  · exact fail_fields s err

end Helpers

/-- A ledger step of a leg: an attempt operation or an applied ACK. -/
def LegLedgerStep (l l' : StreamTXLedger) : Prop :=
  SameStream l l' ∨ ∃ next now, l' = (l.applyACK next now).1

namespace LegLedgerStep

variable {l l' : StreamTXLedger}

theorem refl (l : StreamTXLedger) : LegLedgerStep l l :=
  .inl (SameStream.refl l)

theorem wellFormed (h : LegLedgerStep l l') (hwf : l.WellFormed) : l'.WellFormed := by
  rcases h with h | ⟨next, now, rfl⟩
  · exact hwf.of_sameStream h
  · exact hwf.applyACK next now

theorem payloads_eq (h : LegLedgerStep l l') : l'.payloads = l.payloads := by
  rcases h with h | ⟨next, now, rfl⟩
  · exact h.payloads_eq
  · exact payloads_applyACK next now

theorem outstanding_nil (h : LegLedgerStep l l') (hnil : l.outstanding = []) :
    l'.outstanding = [] := by
  rcases h with h | ⟨next, now, rfl⟩
  · rw [h.outstanding, hnil]
  · rcases applyACK_spec now l next with ⟨_, h⟩ | ⟨_, _, _, _, h, _⟩
    · rw [h.outstanding, hnil]
    · rw [h, hnil, List.filter_nil]

end LegLedgerStep

section Effects

variable {cfg : Config} {s s' : State}

/-- Everything a step of the legs, readers or receive loop does to the view. -/
structure RxEffect (a : RxAct) (s s' : State) : Prop where
  ledger : LegLedgerStep s.ledger s'.ledger
  tx : s'.tx = s.tx
  readBytes : s'.readBytes = s.readBytes
  closer : s'.closer = s.closer ∨ ∃ err, s'.closer = .waitTx err
  done : s'.done = s.done ∨ (s.done = none ∧ s'.done = some .failed)
  rx : s'.rx = .exited → s.rx = .exited ∨ s'.done.isSome ∨
    (a = .rxWriteError ∧ s.closing = true)

theorem RxEffect.same {a : RxAct} (hledger : s'.ledger = s.ledger) (htx : s'.tx = s.tx)
    (hread : s'.readBytes = s.readBytes) (hcloser : s'.closer = s.closer)
    (hdone : s'.done = s.done) (hrx : s'.rx = .exited → s.rx = .exited) : RxEffect a s s' where
  ledger := by rw [hledger]; exact LegLedgerStep.refl s.ledger
  tx := htx
  readBytes := hread
  closer := .inl hcloser
  done := .inl hdone
  rx h := .inl (hrx h)

theorem RxEffect.failed {a : RxAct} (incoming : List StreamRXFrame) :
    RxEffect a s (fail { s with incoming := incoming, rx := .exited } .failed) := by
  obtain ⟨hledger, htx, hread, hcloser, _, hdone⟩ :=
    fail_fields { s with incoming := incoming, rx := .exited } .failed
  refine ⟨?_, htx, hread, .inl hcloser, ?_, fun _ => .inr (.inl ?_)⟩
  · rw [hledger]
    exact LegLedgerStep.refl s.ledger
  · rw [hdone]
    cases h : s.done with
    | none => exact .inr ⟨rfl, rfl⟩
    | some e => exact .inl rfl
  · rw [hdone]
    rfl

theorem rxStep_effect {a : RxAct} (hs : rxStep cfg s a = some s') : RxEffect a s s' := by
  cases a with
  | attachLeg id | readData id frame | releaseInflight id =>
    simp only [rxStep] at hs
    split at hs <;> cases hs
    exact .same rfl rfl rfl rfl rfl fun h => h
  | legFailure id =>
    simp only [rxStep] at hs
    split at hs <;> cases hs
    exact ⟨.inl (invalidateLeg_sameStream s.ledger id), rfl, rfl, .inl rfl, .inl rfl, .inl⟩
  | readAck id next now =>
    simp only [rxStep] at hs
    split at hs <;> cases hs
    exact ⟨.inr ⟨next, now, rfl⟩, rfl, rfl, .inl rfl, .inl rfl, .inl⟩
  | readClose id value =>
    simp only [rxStep] at hs
    split at hs <;> cases hs
    obtain ⟨hledger, htx, hread, hrx, hdone, hcloser⟩ := startGracefulClose_fields
      { s with reader := Function.update s.reader id .absent } .eof
    refine ⟨?_, htx, hread, hcloser.imp_right fun h => ⟨.eof, h.2⟩, .inl hdone,
      fun h => .inl (hrx ▸ h)⟩
    rw [hledger]
    exact LegLedgerStep.refl s.ledger
  | handData id =>
    simp only [rxStep] at hs
    split at hs
    · split at hs <;> cases hs
      exact .same rfl rfl rfl rfl rfl fun h => h
    · cases hs
  | readerExit id =>
    simp only [rxStep] at hs
    split at hs
    · split at hs <;> cases hs
      exact .same rfl rfl rfl rfl rfl fun h => h
    · split at hs <;> cases hs
      exact .same rfl rfl rfl rfl rfl fun h => h
    · cases hs
  | rxTake now =>
    simp only [rxStep] at hs
    split at hs
    · split at hs <;> cases hs
      · exact .failed _
      · exact .same rfl rfl rfl rfl rfl fun h => nomatch h
      · exact .same rfl rfl rfl rfl rfl fun h => h
    · cases hs
  | rxWrite n =>
    simp only [rxStep] at hs
    split at hs
    · split at hs <;> cases hs
      exact .same rfl rfl rfl rfl rfl fun h => nomatch h
    · cases hs
  | rxWriteError =>
    simp only [rxStep] at hs
    split at hs
    · split at hs
      · cases hs
      · split at hs
        · next hclosing =>
          cases hs
          exact ⟨LegLedgerStep.refl s.ledger, rfl, rfl, .inl rfl, .inl rfl,
            fun _ => .inr (.inr ⟨rfl, hclosing⟩)⟩
        · cases hs
          exact .failed s.incoming
    · cases hs
  | rxCommit now =>
    simp only [rxStep] at hs
    split at hs
    · split at hs <;> cases hs
      · exact .same rfl rfl rfl rfl rfl fun h => nomatch h
      · exact .same rfl rfl rfl rfl rfl fun h => nomatch h
    · cases hs
  | rxRequestAck =>
    simp only [rxStep] at hs
    split at hs <;> cases hs
    exact .same rfl rfl rfl rfl rfl fun h => nomatch h
  | rxStop =>
    simp only [rxStep] at hs
    split at hs
    · next h =>
      cases hs
      exact ⟨LegLedgerStep.refl s.ledger, rfl, rfl, .inl rfl, .inl rfl,
        fun _ => .inr (.inl h.2)⟩
    · cases hs

/-- The chunk the transmit loop has read and not yet added. -/
def TxLoop.chunk : TxLoop → List UInt8
  | .awaiting chunk _ => chunk
  | .adding chunk _ => chunk
  | _ => []

/-- Where a chunk goes in one step of the transmit loop. -/
inductive ChunkMove (s s' : State) : Prop where
  /-- Nothing is read, added or dropped. -/
  | stays
      (hledger : SameStream s.ledger s'.ledger)
      (hread : s'.readBytes = s.readBytes)
      (hchunk : s'.tx.chunk = s.tx.chunk)
  /-- A chunk is read from the pipe. -/
  | reads
      (hledger : s'.ledger = s.ledger)
      (hread : s'.readBytes = s.readBytes ++ s'.tx.chunk)
      (hchunk : s.tx.chunk = [])
  /-- The chunk is added to the ledger. -/
  | adds (now : Time)
      (hledger : s'.ledger = (s.ledger.addLocal s.tx.chunk now).1)
      (hread : s'.readBytes = s.readBytes)
      (hchunk : s'.tx.chunk = [])
  /-- The startup gate gave up and the chunk is dropped. -/
  | drops (chunk : List UInt8) (gate : GateWait)
      (htx : s.tx = .awaiting chunk gate)
      (hledger : s'.ledger = s.ledger)
      (hread : s'.readBytes = s.readBytes)
      (hchunk : s'.tx.chunk = [])

/-- Everything a step of the application or the transmit loop does to the view. -/
structure TxEffect (cfg : Config) (s s' : State) : Prop where
  chunk : ChunkMove s s'
  stopped : s.tx = .stopped → s'.tx = .stopped ∧ s'.ledger = s.ledger
  awaiting : ∀ chunk gate, s'.tx = .awaiting chunk gate →
    ∃ leg grace, cfg.startup = .preferred leg grace
  closer : s'.closer = s.closer ∨ ∃ err, s'.closer = .waitTx err
  done : s'.done = s.done
  rx : s'.rx = s.rx

/-- A step that leaves the ledger, the bytes read and the loop's chunk alone. -/
theorem TxEffect.quiet (hledger : s'.ledger = s.ledger) (hread : s'.readBytes = s.readBytes)
    (hchunk : s'.tx.chunk = s.tx.chunk) (hstopped : s.tx = .stopped → s'.tx = .stopped)
    (hawaiting : ∀ chunk gate, s'.tx = .awaiting chunk gate →
      ∃ leg grace, cfg.startup = .preferred leg grace) (hcloser : s'.closer = s.closer)
    (hdone : s'.done = s.done) (hrx : s'.rx = s.rx) : TxEffect cfg s s' where
  chunk := .stays (by rw [hledger]; exact SameStream.refl s.ledger) hread hchunk
  stopped h := ⟨hstopped h, hledger⟩
  awaiting := hawaiting
  closer := .inl hcloser
  done := hdone
  rx := hrx

theorem TxEffect.finishEnqueue {record : Nat} {tx : TxLoop} (htx : s.tx = .enqueueing record)
    (hnotAwaiting : ∀ chunk gate, tx ≠ .awaiting chunk gate) (hchunk : tx.chunk = []) :
    TxEffect cfg s { s with ledger := s.ledger.finishLocalEnqueue record, tx := tx } where
  chunk := .stays (finishLocalEnqueue_sameStream s.ledger record) rfl (by rw [htx]; exact hchunk)
  stopped h := by rw [htx] at h; cases h
  awaiting chunk gate h := absurd h (hnotAwaiting chunk gate)
  closer := .inl rfl
  done := rfl
  rx := rfl

/-- A transmit loop that waits at the gate belongs to a preferred-startup engine. -/
def AwaitOk (cfg : Config) (s : State) : Prop :=
  ∀ chunk gate, s.tx = .awaiting chunk gate → ∃ leg grace, cfg.startup = .preferred leg grace

theorem awaitPass_fields {leg : LegID} {grace : Nat} {chunk : List UInt8} {gate : GateWait} :
    (awaitPass cfg s leg grace chunk gate).ledger = s.ledger ∧
      (awaitPass cfg s leg grace chunk gate).readBytes = s.readBytes ∧
      (awaitPass cfg s leg grace chunk gate).tx.chunk = chunk ∧
      (awaitPass cfg s leg grace chunk gate).closer = s.closer ∧
      (awaitPass cfg s leg grace chunk gate).done = s.done ∧
      (awaitPass cfg s leg grace chunk gate).rx = s.rx := by
  unfold awaitPass
  dsimp only
  split_ifs <;> exact ⟨rfl, rfl, rfl, rfl, rfl, rfl⟩

theorem chunk_afterRead (chunk : List UInt8) : (afterRead cfg s chunk).chunk = chunk := by
  unfold afterRead
  split
  · rfl
  · split <;> rfl

theorem txStep_effect {a : TxAct} (hok : AwaitOk cfg s) (hs : txStep cfg s a = some s') :
    TxEffect cfg s s' := by
  cases a with
  | appWrite bytes | startupTerminal =>
    simp only [txStep] at hs
    split at hs <;> cases hs
    exact .quiet rfl rfl rfl (fun h => h) hok rfl rfl rfl
  | appClose =>
    cases hs
    exact .quiet rfl rfl rfl (fun h => h) hok rfl rfl rfl
  | txAcquire =>
    simp only [txStep] at hs
    split at hs
    · next h =>
      cases hs
      rcases h.1 with htx | htx
      all_goals
        refine .quiet rfl rfl ?_ (fun h => ?_) (fun _ _ h => nomatch h) rfl rfl rfl
        · rw [htx]
          rfl
        · rw [htx] at h
          cases h
    · cases hs
  | txAcquireBlocked =>
    simp only [txStep] at hs
    split at hs
    · next h =>
      cases hs
      refine .quiet rfl rfl ?_ (fun h' => ?_) (fun _ _ h => nomatch h) rfl rfl rfl
      · rw [h.1]
        rfl
      · rw [h.1] at h'
        cases h'
    · cases hs
  | txAcquireAbort =>
    simp only [txStep] at hs
    split at hs
    · next h =>
      cases hs
      refine .quiet rfl rfl ?_ (fun _ => rfl) (fun _ _ h => nomatch h) rfl rfl rfl
      rw [h.1]
      rfl
    · cases hs
  | txRead =>
    simp only [txStep] at hs
    split at hs
    · next h =>
      cases hs
      refine ⟨.reads rfl ?_ (by rw [h.1]; rfl), fun h' => ?_, fun chunk gate h' => ?_,
        .inl rfl, rfl, rfl⟩
      · dsimp only
        rw [chunk_afterRead]
      · rw [h.1] at h'
        cases h'
      · unfold afterRead at h'
        split at h'
        · cases h'
        · next leg grace hstartup => exact ⟨leg, grace, hstartup⟩
    · cases hs
  | txReadError =>
    simp only [txStep] at hs
    split at hs
    · next h =>
      cases hs
      obtain ⟨hledger, htx, hread, hrx, hdone, hcloser⟩ := startGracefulClose_fields
        { s with inflight := s.inflight - 1, tx := .stopped }
        (if s.pipeOpen then .eof else .failed)
      refine ⟨.stays ?_ hread ?_, fun _ => ⟨htx, hledger⟩, fun _ _ h' => ?_,
        hcloser.imp_right fun hc => ⟨_, hc.2⟩, hdone, hrx⟩
      · rw [hledger]
        exact SameStream.refl s.ledger
      · rw [htx, h.1]
        rfl
      · rw [htx] at h'
        cases h'
    · cases hs
  | gateCheck =>
    simp only [txStep] at hs
    split at hs
    · next chunk gate leg grace htx hstartup =>
      split at hs <;> cases hs
      obtain ⟨hledger, hread, hchunk, hcloser, hdone, hrx⟩ :=
        @awaitPass_fields cfg s leg grace chunk gate
      refine .quiet hledger hread ?_ (fun h => ?_) (fun _ _ _ => ⟨leg, grace, hstartup⟩)
        hcloser hdone hrx
      · rw [hchunk, htx]
        rfl
      · rw [htx] at h
        cases h
    · cases hs
  | gateWake | gateTimer =>
    simp only [txStep] at hs
    split at hs
    · next chunk gate htx =>
      split at hs <;> cases hs
      refine .quiet rfl rfl ?_ (fun h => ?_) (fun _ _ _ => hok chunk gate htx) rfl rfl rfl
      · rw [htx]
        rfl
      · rw [htx] at h
        cases h
    · cases hs
  | gateAbort =>
    simp only [txStep] at hs
    split at hs
    · next chunk gate htx =>
      split at hs <;> cases hs
      exact ⟨.drops chunk gate htx rfl rfl rfl, fun _ => ⟨rfl, rfl⟩,
        (fun _ _ h => nomatch h), .inl rfl, rfl, rfl⟩
    · cases hs
  | txAdd now =>
    simp only [txStep] at hs
    split at hs
    · next chunk hint htx =>
      cases hs
      refine ⟨.adds now ?_ rfl rfl, fun h => ?_, (fun _ _ h => nomatch h), .inl rfl, rfl, rfl⟩
      · rw [htx]
        rfl
      · rw [htx] at h
        cases h
    · cases hs
  | txEnqueued =>
    simp only [txStep] at hs
    split at hs
    · next record htx =>
      cases hs
      exact .finishEnqueue htx (by simp) rfl
    · cases hs
  | txEnqueueError =>
    simp only [txStep] at hs
    split at hs
    · next record htx =>
      split at hs <;> cases hs
      exact .finishEnqueue htx (by simp) rfl
    · cases hs

/-- Everything a step of the shutdown does to the view. -/
structure CloseEffect (s s' : State) : Prop where
  ledger : s'.ledger = s.ledger
  tx : s'.tx = s.tx
  readBytes : s'.readBytes = s.readBytes
  rx : s'.rx = s.rx
  draining : ∀ err, s'.closer = .draining err →
    s.closer = .draining err ∨ s.tx = .stopped
  sendingClose : ∀ err, s'.closer = .sendingClose err →
    s.closer = .sendingClose err ∨
      ((∃ err', s.closer = .draining err') ∧ s.ledger.outstanding = [])
  done : s'.done = s.done ∨ (s.done = none ∧
    (s'.done = some .eof → s.closer = .sendingClose .eof))

theorem CloseEffect.failed {closing : Bool} {closer : Closer} {err : CloseErr}
    (hcloser : closer = s.closer ∨ closer = .ended) (herr : err ≠ .eof) :
    CloseEffect s (fail { s with closing := closing, closer := closer } err) := by
  obtain ⟨hledger, htx, hread, hcl, hrx, hdone⟩ :=
    fail_fields { s with closing := closing, closer := closer } err
  refine ⟨hledger, htx, hread, hrx, fun e h => ?_, fun e h => ?_, ?_⟩
  · rw [hcl] at h
    rcases hcloser with rfl | rfl
    · exact .inl h
    · cases h
  · rw [hcl] at h
    rcases hcloser with rfl | rfl
    · exact .inl h
    · cases h
  · rw [hdone]
    cases h : s.done with
    | none => exact .inr ⟨rfl, fun heq => absurd (Option.some.inj heq) herr⟩
    | some e => exact .inl rfl

theorem CloseEffect.moves {closer : Closer} {finalizing : Bool}
    (hdraining : ∀ err, closer = .draining err → s.closer = .draining err ∨ s.tx = .stopped)
    (hsending : ∀ err, closer = .sendingClose err →
      s.closer = .sendingClose err ∨
        ((∃ err', s.closer = .draining err') ∧ s.ledger.outstanding = [])) :
    CloseEffect s { s with closer := closer, finalizing := finalizing } :=
  ⟨rfl, rfl, rfl, rfl, hdraining, hsending, .inl rfl⟩

theorem closeStep_effect {a : CloseAct} (hs : closeStep s a = some s') : CloseEffect s s' := by
  cases a with
  | startGracefulClose err =>
    cases hs
    obtain ⟨hledger, htx, hread, hrx, hdone, hcloser⟩ := startGracefulClose_fields s err
    refine ⟨hledger, htx, hread, hrx, fun e h => ?_, fun e h => ?_, .inl hdone⟩
    · rcases hcloser with hc | ⟨_, hc⟩ <;> rw [hc] at h
      · exact .inl h
      · cases h
    · rcases hcloser with hc | ⟨_, hc⟩ <;> rw [hc] at h
      · exact .inl h
      · cases h
  | closeTxStopped =>
    simp only [closeStep] at hs
    split at hs
    · split at hs
      · next hstopped =>
        cases hs
        exact .moves (fun _ _ => .inr hstopped) (fun _ h => nomatch h)
      · cases hs
    · cases hs
  | closeDrained =>
    simp only [closeStep] at hs
    split at hs
    · next err hdraining =>
      split at hs
      · next hnil =>
        split at hs <;> cases hs
        · exact .moves (fun _ h => nomatch h) (fun _ h => nomatch h)
        · exact .moves (fun _ h => nomatch h) (fun _ _ => .inr ⟨⟨err, hdraining⟩, hnil⟩)
      · cases hs
    · cases hs
  | closeStalled =>
    simp only [closeStep] at hs
    split at hs
    · split at hs <;> cases hs
      exact .failed (.inr rfl) (by simp)
    · cases hs
  | closeAborted =>
    simp only [closeStep] at hs
    split at hs
    all_goals
      first
      | split at hs
        · cases hs
          exact .moves (fun _ h => nomatch h) (fun _ h => nomatch h)
        · cases hs
      | cases hs
  | closeSent id =>
    simp only [closeStep] at hs
    split at hs
    · next err hsending =>
      split at hs <;> cases hs
      obtain ⟨hledger, htx, hread, hcl, hrx, hdone⟩ :=
        finishGracefulClose_fields { s with closer := .ended } err
      refine ⟨hledger, htx, hread, hrx, fun e h => ?_, fun e h => ?_, ?_⟩
      · rw [hcl] at h
        cases h
      · rw [hcl] at h
        cases h
      · rw [hdone]
        cases hd : s.done with
        | none =>
          refine .inr ⟨rfl, fun heq => ?_⟩
          cases heq
          exact hsending
        | some e => exact .inl rfl
    · cases hs
  | closeNotSent =>
    simp only [closeStep] at hs
    split at hs <;> cases hs
    exact .failed (.inr rfl) (by simp)
  | recoveryTimeout | close =>
    cases hs
    exact .failed (.inl rfl) (by simp)

end Effects

end Smp3Multipath.Core.Lifecycle

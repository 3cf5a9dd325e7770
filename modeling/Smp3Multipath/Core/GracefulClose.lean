import Smp3Multipath.Core.LifecycleFacts

/-!
# Graceful close

What a graceful close guarantees for the local tail: an engine that ended with
EOF had stopped its transmit loop and got everything it added acknowledged.
Whether every byte it read was added depends on the startup gate, which drops
the chunk it holds when a close overtakes it; and whether ACKs are still read
during the drain depends on the receive loop, which returns silently on a
failed pipe write once the engine is closing.
-/

namespace Smp3Multipath.Core.Lifecycle

open Lib.Run StreamTXLedger Function List

section Invariant

variable {cfg : Config} {s s' : State} {a : Act}

/-- The closing goroutine's position against the state of the ledger. -/
structure CloseInv (cfg : Config) (s : State) : Prop where
  wf : s.ledger.WellFormed
  await : AwaitOk cfg s
  draining : ∀ err, s.closer = .draining err → s.tx = .stopped
  sendingClose : ∀ err, s.closer = .sendingClose err → Drained s
  finished : s.done = some .eof → Drained s

theorem closeInv_init (cfg : Config) : CloseInv cfg (init cfg) where
  wf := WellFormed.new cfg.maxActiveLegs
  await _ _ h := nomatch h
  draining _ h := nomatch h
  sendingClose _ h := nomatch h
  finished h := nomatch h

theorem drained_step (hawait : AwaitOk cfg s) (hdrained : Drained s)
    (hs : step cfg s a = some s') : Drained s' := by
  obtain ⟨hstopped, hnil⟩ := hdrained
  cases a with
  | tx a =>
    obtain ⟨htx, hledger⟩ := (txStep_effect hawait hs).stopped hstopped
    exact ⟨htx, by rw [hledger]; exact hnil⟩
  | rx a =>
    have he := rxStep_effect hs
    exact ⟨he.tx.trans hstopped, he.ledger.outstanding_nil hnil⟩
  | close a =>
    have he := closeStep_effect hs
    exact ⟨he.tx.trans hstopped, by rw [he.ledger]; exact hnil⟩

theorem closeInv_txStep {a : TxAct} (h : CloseInv cfg s) (hs : txStep cfg s a = some s') :
    CloseInv cfg s' := by
  have he := txStep_effect h.await hs
  have hstable : Drained s → Drained s' :=
    fun hd => drained_step h.await hd (a := .tx a) hs
  refine ⟨?_, he.awaiting, fun err hc => ?_, fun err hc => ?_, fun hd => ?_⟩
  · rcases he.chunk with ⟨hledger, _, _⟩ | ⟨hledger, _, _⟩ | ⟨now, hledger, _, _⟩ |
      ⟨_, _, _, hledger, _, _⟩
    · exact h.wf.of_sameStream hledger
    · rw [hledger]
      exact h.wf
    · rw [hledger]
      exact h.wf.add _ _ _
    · rw [hledger]
      exact h.wf
  · rcases he.closer with hcloser | ⟨_, hcloser⟩
    · exact (he.stopped (h.draining err (hcloser ▸ hc))).1
    · rw [hcloser] at hc
      cases hc
  · rcases he.closer with hcloser | ⟨_, hcloser⟩
    · exact hstable (h.sendingClose err (hcloser ▸ hc))
    · rw [hcloser] at hc
      cases hc
  · rw [he.done] at hd
    exact hstable (h.finished hd)

theorem closeInv_rxStep {a : RxAct} (h : CloseInv cfg s) (hs : rxStep cfg s a = some s') :
    CloseInv cfg s' := by
  have he := rxStep_effect hs
  have hstable : Drained s → Drained s' :=
    fun hd => drained_step h.await hd (a := .rx a) hs
  refine ⟨he.ledger.wellFormed h.wf, fun chunk gate htx => ?_, fun err hc => ?_,
    fun err hc => ?_, fun hd => ?_⟩
  · exact h.await chunk gate (he.tx ▸ htx)
  · rcases he.closer with hcloser | ⟨_, hcloser⟩
    · exact he.tx.trans (h.draining err (hcloser ▸ hc))
    · rw [hcloser] at hc
      cases hc
  · rcases he.closer with hcloser | ⟨_, hcloser⟩
    · exact hstable (h.sendingClose err (hcloser ▸ hc))
    · rw [hcloser] at hc
      cases hc
  · rcases he.done with hdone | ⟨_, hdone⟩
    · exact hstable (h.finished (hdone ▸ hd))
    · rw [hdone] at hd
      cases hd

theorem closeInv_closeStep {a : CloseAct} (h : CloseInv cfg s) (hs : closeStep s a = some s') :
    CloseInv cfg s' := by
  have he := closeStep_effect hs
  have hstable : Drained s → Drained s' :=
    fun hd => drained_step h.await hd (a := .close a) hs
  refine ⟨by rw [he.ledger]; exact h.wf, fun chunk gate htx => ?_, fun err hc => ?_,
    fun err hc => ?_, fun hd => ?_⟩
  · exact h.await chunk gate (he.tx ▸ htx)
  · rw [he.tx]
    rcases he.draining err hc with hc | hstopped
    · exact h.draining err hc
    · exact hstopped
  · rcases he.sendingClose err hc with hc | ⟨⟨err', hc⟩, hnil⟩
    · exact hstable (h.sendingClose err hc)
    · exact hstable ⟨h.draining err' hc, hnil⟩
  · rcases he.done with hdone | ⟨_, hdone⟩
    · exact hstable (h.finished (hdone ▸ hd))
    · exact hstable (h.sendingClose .eof (hdone hd))

theorem closeInv_step (h : CloseInv cfg s) (hs : step cfg s a = some s') : CloseInv cfg s' := by
  cases a with
  | tx a => exact closeInv_txStep h hs
  | rx a => exact closeInv_rxStep h hs
  | close a => exact closeInv_closeStep h hs

end Invariant

section Tail

variable {cfg : Config} {s s' : State} {a : Act}

/-- Every byte read is in the ledger or still in the transmit loop's hand. -/
def BytesKept (s : State) : Prop :=
  s.readBytes = s.ledger.payloads.flatten ++ s.tx.chunk

/-- Only the startup gate can lose a chunk. -/
theorem bytesKept_step (hawait : AwaitOk cfg s) (hgate : cfg.startup = .firstReady)
    (h : BytesKept s) (hs : step cfg s a = some s') : BytesKept s' := by
  unfold BytesKept at h ⊢
  cases a with
  | tx a =>
    have he := txStep_effect hawait hs
    rcases he.chunk with ⟨hledger, hread, hchunk⟩ | ⟨hledger, hread, hchunk⟩ |
      ⟨now, hledger, hread, hchunk⟩ | ⟨chunk, gate, htx, _⟩
    · rw [hread, hledger.payloads_eq, hchunk, h]
    · rw [hread, hledger, h, hchunk, append_nil]
    · rw [hread, hledger, hchunk, addLocal, payloads_add, h]
      simp
    · obtain ⟨leg, grace, hpreferred⟩ := hawait chunk gate htx
      rw [hgate] at hpreferred
      cases hpreferred
  | rx a =>
    have he := rxStep_effect hs
    rw [he.readBytes, he.ledger.payloads_eq, he.tx, h]
  | close a =>
    have he := closeStep_effect hs
    rw [he.readBytes, he.ledger, he.tx, h]

/-- The shutdown invariant of an engine without a startup gate. -/
structure TailInv (cfg : Config) (s : State) : Prop where
  close : CloseInv cfg s
  bytes : BytesKept s

theorem tailInv_of_reachable (hgate : cfg.startup = .firstReady)
    (h : Reachable (step cfg) (init cfg) s) : TailInv cfg s := by
  have hinit : TailInv cfg (init cfg) := ⟨closeInv_init cfg, rfl⟩
  refine h.invariant hinit fun t a t' hinv hs => ?_
  exact ⟨closeInv_step hinv.close hs,
    bytesKept_step hinv.close.await hgate hinv.bytes hs⟩

/-- An engine that ended gracefully added, and got acknowledged, every byte it read. -/
def KeepsTail (cfg : Config) : Prop :=
  ∀ s, Reachable (step cfg) (init cfg) s → s.done = some .eof →
    s.readBytes = s.ledger.payloads.flatten ∧ s.ledger.ackedNext = s.ledger.nextSequence

theorem keepsTail_of_firstReady (hgate : cfg.startup = .firstReady) : KeepsTail cfg := by
  intro s hreach heof
  obtain ⟨hinv, hbytes⟩ := tailInv_of_reachable hgate hreach
  obtain ⟨hstopped, hnil⟩ := hinv.finished heof
  rw [BytesKept, hstopped] at hbytes
  exact ⟨by simpa [TxLoop.chunk] using hbytes, hinv.wf.outstanding_eq_nil_iff.1 hnil⟩

/-- A close that overtakes a chunk waiting for the first leg. -/
def overtakenChunkRun (byte : UInt8) : List Act :=
  [.tx (.appWrite [byte]), .tx .txAcquire, .tx .txRead, .tx .gateCheck,
    .close (.startGracefulClose .eof), .tx .gateAbort, .rx (.attachLeg 0),
    .close .closeTxStopped, .close .closeDrained, .close (.closeSent 0)]

theorem overtakenChunkRun_loses {leg : LegID} {grace : Nat} (byte : UInt8)
    (hgate : cfg.startup = .preferred leg grace) :
    ∃ s, runActs (step cfg) (init cfg) (overtakenChunkRun byte) = some s ∧
      s.done = some .eof ∧ s.readBytes = [byte] ∧ s.ledger.payloads = [] := by
  have hchunk : [byte].take cfg.chunkSize = [byte] :=
    take_of_length_le cfg.chunk_pos
  have hrest : [byte].drop cfg.chunkSize = [] :=
    drop_of_length_le cfg.chunk_pos
  simp [overtakenChunkRun, runActs, step, txStep, closeStep, rxStep, init, afterRead, awaitPass,
    hasOtherReady, startGracefulClose, finishGracefulClose, hgate, hchunk, hrest,
    cfg.inflight_pos, cfg.legs_pos, newStreamTXLedger, payloads]

/-- **Graceful close and the startup gate.**  An engine keeps every byte it read
through a graceful close exactly when it has no startup gate. -/
theorem keepsTail_iff_firstReady (cfg : Config) : KeepsTail cfg ↔ cfg.startup = .firstReady := by
  constructor
  · intro hkeeps
    cases hgate : cfg.startup with
    | firstReady => rfl
    | preferred leg grace =>
      obtain ⟨s, hrun, heof, hread, hpayloads⟩ := overtakenChunkRun_loses 0 hgate
      obtain ⟨hall, _⟩ := hkeeps s ⟨_, hrun⟩ heof
      rw [hread, hpayloads] at hall
      cases hall
  · exact keepsTail_of_firstReady

/-- Two legs, leg 1 preferred with a grace period. -/
def preferredConfig : Config :=
  { maxActiveLegs := 2
    chunkSize := 4
    queueFrames := 1
    maxReorderFrames := 8
    maxInflightFrames := 4
    startup := .preferred 1 1
    legs_pos := Nat.two_pos
    legs_le := two_le_maxStreamLegIDCount
    chunk_pos := by decide
    queue_pos := Nat.one_pos
    inflight_pos := by decide
    preferred_lt := by rintro leg grace ⟨⟩; decide }

/-- The peer's CLOSE arrives on leg 0 while a chunk waits out the grace period. -/
def peerCloseRun : List Act :=
  [.rx (.attachLeg 0), .tx (.appWrite [7]), .tx .txAcquire, .tx .txRead, .tx .gateCheck,
    .rx (.readClose 0 0), .tx .gateAbort, .close .closeTxStopped, .close .closeDrained,
    .close (.closeSent 0)]

theorem peerCloseRun_loses :
    ∃ s, runActs (step preferredConfig) (init preferredConfig) peerCloseRun = some s ∧
      s.done = some .eof ∧ s.readBytes = [7] ∧ s.ledger.payloads = [] :=
  ⟨_, rfl, rfl, rfl, rfl⟩

/-- The peer's CLOSE during the grace period loses the waiting chunk. -/
theorem not_keepsTail_preferredConfig : ¬ KeepsTail preferredConfig := by
  intro hkeeps
  obtain ⟨s, hrun, heof, hread, hpayloads⟩ := peerCloseRun_loses
  obtain ⟨hall, _⟩ := hkeeps s ⟨_, hrun⟩ heof
  rw [hread, hpayloads] at hall
  cases hall

end Tail

section Reader

variable {cfg : Config} {s s' : State} {a : Act}

/-- The leg's reader waits in its select: it holds a DATA frame and `incoming` is full. -/
def ReaderWaiting (cfg : Config) (s : State) (id : LegID) : Prop :=
  (∃ frame, s.reader id = .handing frame) ∧ cfg.incomingCap ≤ s.incoming.length

/-- No reader waits for an exited receive loop while the local tail is outstanding. -/
def AcksStillRead (cfg : Config) (s : State) : Prop :=
  s.done = none → s.ledger.outstanding ≠ [] →
    ∀ id, ¬ (ReaderWaiting cfg s id ∧ s.rx = .exited)

/-- A pipe write of the receive loop that fails while the engine is closing comes
after the local drain: the transmit loop has stopped and nothing is outstanding. -/
def WriteFailsAfterDrain (s : State) (a : Act) : Prop :=
  a = .rx .rxWriteError → s.closing = true → Drained s

/-- The receive loop has exited only in an engine that is done or drained. -/
structure ReaderInv (cfg : Config) (s : State) : Prop where
  close : CloseInv cfg s
  exited : s.rx = .exited → s.done.isSome ∨ Drained s

theorem readerInv_step (h : ReaderInv cfg s) (hcond : WriteFailsAfterDrain s a)
    (hs : step cfg s a = some s') : ReaderInv cfg s' := by
  refine ⟨closeInv_step h.close hs, fun hexited => ?_⟩
  have hstable : Drained s → Drained s' := fun hd => drained_step h.close.await hd hs
  cases a with
  | tx a =>
    have he := txStep_effect h.close.await hs
    rw [he.rx] at hexited
    rw [he.done]
    exact (h.exited hexited).imp_right hstable
  | rx a =>
    have he := rxStep_effect hs
    rcases he.rx hexited with hold | hdone | ⟨rfl, hclosing⟩
    · rcases h.exited hold with hdone | hd
      · rcases he.done with heq | ⟨hnone, _⟩
        · exact .inl (heq ▸ hdone)
        · rw [hnone] at hdone
          cases hdone
      · exact .inr (hstable hd)
    · exact .inl hdone
    · exact .inr (hstable (hcond rfl hclosing))
  | close a =>
    have he := closeStep_effect hs
    rw [he.rx] at hexited
    rcases h.exited hexited with hdone | hd
    · rcases he.done with heq | ⟨hnone, _⟩
      · exact .inl (heq ▸ hdone)
      · rw [hnone] at hdone
        cases hdone
    · exact .inr (hstable hd)

/-- **ACKs are still read during the drain** in every state of every run in which
no receive-loop pipe write fails before the local tail is drained. -/
theorem acksStillRead_of_writeFailsAfterDrain {acts : List Act}
    (hcond : EachStep (step cfg) WriteFailsAfterDrain (init cfg) acts)
    (hrun : runActs (step cfg) (init cfg) acts = some s) : AcksStillRead cfg s := by
  have hinit : ReaderInv cfg (init cfg) := ⟨closeInv_init cfg, fun h => nomatch h⟩
  have hinv : ReaderInv cfg s :=
    invariant_of_eachStep (fun _ _ _ hi hc hs => readerInv_step hi hc hs) hinit hcond hrun
  rintro hnotDone houtstanding id ⟨_, hexited⟩
  rcases hinv.exited hexited with hdone | ⟨_, hnil⟩
  · rw [hnotDone] at hdone
    cases hdone
  · exact houtstanding hnil

/-- The leg's reader reads a DATA frame of the peer, which is never empty, or hands it over. -/
def ReadsData (id : LegID) : Act → Prop
  | .rx (.readData leg frame) => leg = id ∧ frame.payload ≠ []
  | .rx (.handData leg) => leg = id
  | _ => False

/-- The condition is needed: once the receive loop has exited in an engine that is not
done, a peer that keeps sending data on an attached leg blocks that leg's reader for good. -/
theorem readerWaiting_after_exit
    {id : LegID}
    (hexited : s.rx = .exited)
    (hnotDone : s.done = none)
    (hreading : s.reader id = .reading) :
    ∃ acts s', (∀ a ∈ acts, ReadsData id a) ∧ runActs (step cfg) s acts = some s' ∧
      ReaderWaiting cfg s' id ∧ s'.rx = .exited ∧ s'.done = none ∧ s'.ledger = s.ledger := by
  have hread : ReadsData id (.rx (.readData id ⟨0, id, [0]⟩)) := ⟨rfl, cons_ne_nil _ _⟩
  -- one more frame fits into `incoming` for each unit of the room left
  induction hroom : cfg.incomingCap - s.incoming.length generalizing s with
  | zero =>
    refine ⟨[.rx (.readData id ⟨0, id, [0]⟩)],
      { s with reader := update s.reader id (.handing ⟨0, id, [0]⟩) },
      forall_mem_singleton.2 hread, by simp [runActs, step, rxStep, hreading],
      ⟨⟨⟨0, id, [0]⟩, by simp⟩, ?_⟩, hexited, hnotDone, rfl⟩
    dsimp only
    omega
  | succ n ih =>
    have hspace : s.incoming.length < cfg.incomingCap := by omega
    obtain ⟨acts, s', hreads, hrun, hwaiting, hrx, hdone, hledger⟩ :=
      ih (s := { s with incoming := s.incoming ++ [⟨0, id, [0]⟩] }) hexited hnotDone hreading
        (by simp only [length_append, length_singleton]; omega)
    refine ⟨.rx (.readData id ⟨0, id, [0]⟩) :: .rx (.handData id) :: acts, s',
      forall_mem_cons.2 ⟨hread, forall_mem_cons.2 ⟨rfl, hreads⟩⟩, ?_, hwaiting, hrx,
      hdone, hledger⟩
    simp only [runActs, step, rxStep, hreading, if_true, Option.bind_some,
      update_self, hspace, update_idem]
    rw [← hreading, update_eq_self]
    exact hrun

/-- One leg and room for two frames between its reader and the receive loop. -/
def oneLegConfig : Config :=
  { maxActiveLegs := 1
    chunkSize := 4
    queueFrames := 1
    maxReorderFrames := 8
    maxInflightFrames := 4
    startup := .firstReady
    legs_pos := Nat.one_pos
    legs_le := one_le_maxStreamLegIDCount
    chunk_pos := by decide
    queue_pos := Nat.one_pos
    inflight_pos := by decide
    preferred_lt := by rintro leg grace ⟨⟩ }

/-- A frame of the peer with a two-byte payload. -/
def peerFrame (seq : Nat) : StreamRXFrame :=
  ⟨seq, 0, [1, 2]⟩

/-- One record is sent and a download is being delivered when the application closes. -/
def closeDuringDownload : List Act :=
  [.rx (.attachLeg 0), .tx (.appWrite [7]), .tx .txAcquire, .tx .txRead, .tx (.txAdd 1),
    .tx .txEnqueued, .rx (.readData 0 (peerFrame 0)), .rx (.handData 0), .rx (.rxTake 2),
    .tx .appClose, .tx .txAcquire, .tx .txReadError, .rx .rxWriteError]

/-- The peer keeps sending until `incoming` is full. -/
def peerKeepsSending : List Act :=
  [.rx (.readData 0 (peerFrame 1)), .rx (.handData 0), .rx (.readData 0 (peerFrame 2)),
    .rx (.handData 0), .rx (.readData 0 (peerFrame 3))]

/-- After the silent exit the only leg's reader waits forever with the record unacknowledged. -/
theorem reader_waits_after_closeDuringDownload :
    ∃ s, runActs (step oneLegConfig) (init oneLegConfig)
        (closeDuringDownload ++ peerKeepsSending) = some s ∧
      s.graceful = true ∧ s.done = none ∧ s.ledger.outstanding = [0] ∧
      ReaderWaiting oneLegConfig s 0 ∧ s.rx = .exited :=
  ⟨_, rfl, rfl, rfl, rfl, ⟨⟨peerFrame 3, rfl⟩, by decide⟩, rfl⟩

/-- The same download with the application closing only after the record's ACK. -/
def closeAfterAck : List Act :=
  [.rx (.attachLeg 0), .tx (.appWrite [7]), .tx .txAcquire, .tx .txRead, .tx (.txAdd 1),
    .tx .txEnqueued, .rx (.readData 0 (peerFrame 0)), .rx (.handData 0), .rx (.rxTake 2),
    .rx (.readAck 0 1 3), .rx (.releaseInflight 0), .tx .appClose, .tx .txAcquire,
    .tx .txReadError]

theorem acksStillRead_closeAfterAck :
    ∃ s, runActs (step oneLegConfig) (init oneLegConfig)
        (closeAfterAck ++ [.rx .rxWriteError]) = some s ∧
      s.rx = .exited ∧ s.done = none ∧ AcksStillRead oneLegConfig s := by
  obtain ⟨t, hrun, hdrained⟩ : ∃ t, runActs (step oneLegConfig) (init oneLegConfig)
      closeAfterAck = some t ∧ Drained t := ⟨_, rfl, rfl, rfl⟩
  have hcond : EachStep (step oneLegConfig) WriteFailsAfterDrain (init oneLegConfig)
      (closeAfterAck ++ [.rx .rxWriteError]) := by
    refine eachStep_append (eachStep_of_forall fun a ha s hwrite => ?_) fun s' hs' => ?_
    · subst hwrite
      exact absurd ha (by decide)
    · rw [hrun] at hs'
      cases hs'
      exact ⟨fun _ _ => hdrained, fun _ _ => trivial⟩
  exact ⟨_, rfl, rfl, rfl, acksStillRead_of_writeFailsAfterDrain hcond rfl⟩

end Reader

section Final

variable {cfg : Config} {s s' : State} {a : Act} {acts : List Act} {err : CloseErr}

theorem done_step (hawait : AwaitOk cfg s) (hdone : s.done = some err)
    (hs : step cfg s a = some s') : s'.done = some err := by
  have hkeeps : ∀ {p : Prop}, s'.done = s.done ∨ (s.done = none ∧ p) → s'.done = some err := by
    rintro p (hsame | ⟨hnone, -⟩)
    · exact hsame.trans hdone
    · rw [hdone] at hnone
      cases hnone
  cases a with
  | tx a => exact (txStep_effect hawait hs).done.trans hdone
  | rx a => exact hkeeps (rxStep_effect hs).done
  | close a => exact hkeeps (closeStep_effect hs).done

theorem payloads_step (hawait : AwaitOk cfg s) (hdrained : Drained s)
    (hs : step cfg s a = some s') : s'.ledger.payloads = s.ledger.payloads := by
  cases a with
  | tx a => rw [((txStep_effect hawait hs).stopped hdrained.1).2]
  | rx a => exact (rxStep_effect hs).ledger.payloads_eq
  | close a => rw [(closeStep_effect hs).ledger]

/-- An engine ends once: the error it has ended with stays, and after a graceful end nothing is
outstanding and no record is added any more. -/
theorem end_is_final (hreach : Reachable (step cfg) (init cfg) s) (hdone : s.done = some err)
    (hrun : runActs (step cfg) s acts = some s') :
    s'.done = some err ∧ (err = .eof → Drained s' ∧ s'.ledger.payloads = s.ledger.payloads) := by
  have hclose : CloseInv cfg s :=
    hreach.invariant (closeInv_init cfg) fun _ _ _ hinv hs => closeInv_step hinv hs
  induction acts generalizing s with
  | nil =>
    cases hrun
    exact ⟨hdone, fun heof => ⟨hclose.finished (heof ▸ hdone), rfl⟩⟩
  | cons a acts ih =>
    obtain ⟨t, hs, hrest⟩ := runActs_cons_iff.1 hrun
    obtain ⟨hend, hgraceful⟩ :=
      ih (hreach.tail hs) (done_step hclose.await hdone hs) hrest (closeInv_step hclose hs)
    refine ⟨hend, fun heof => ⟨(hgraceful heof).1, (hgraceful heof).2.trans ?_⟩⟩
    exact payloads_step hclose.await (hclose.finished (heof ▸ hdone)) hs

/-- A graceful end, and a recovery timeout and `Close` that come too late. -/
theorem end_is_final_closeAfterAck :
    ∃ s s', runActs (step oneLegConfig) (init oneLegConfig) (closeAfterAck ++
        [.close .closeTxStopped, .close .closeDrained, .close (.closeSent 0)]) = some s ∧
      runActs (step oneLegConfig) s [.close .recoveryTimeout, .close .close] = some s' ∧
      s'.done = some .eof ∧ s'.ledger.payloads = [[7]] := by
  obtain ⟨s, hrun, hdone, hpayloads⟩ : ∃ s, runActs (step oneLegConfig) (init oneLegConfig)
      (closeAfterAck ++ [.close .closeTxStopped, .close .closeDrained, .close (.closeSent 0)]) =
        some s ∧ s.done = some .eof ∧ s.ledger.payloads = [[7]] := ⟨_, rfl, rfl, rfl⟩
  obtain ⟨hend, hgraceful⟩ := end_is_final ⟨_, hrun⟩ hdone
    (show runActs _ s [.close .recoveryTimeout, .close .close] = some _ from rfl)
  exact ⟨s, _, hrun, rfl, hend, (hgraceful rfl).2.trans hpayloads⟩

/-- The reader of the one leg blocks after the silent exit. -/
theorem readerWaiting_after_closeDuringDownload :
    ∃ s, runActs (step oneLegConfig) (init oneLegConfig) closeDuringDownload = some s ∧
      ∃ acts s', (∀ a ∈ acts, ReadsData 0 a) ∧ runActs (step oneLegConfig) s acts = some s' ∧
        ReaderWaiting oneLegConfig s' 0 ∧ s'.rx = .exited ∧ s'.done = none ∧
        s'.ledger = s.ledger :=
  ⟨_, rfl, readerWaiting_after_exit rfl rfl rfl⟩

end Final

end Smp3Multipath.Core.Lifecycle

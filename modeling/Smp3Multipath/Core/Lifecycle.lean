import Smp3Multipath.Core.LedgerFrame
import Smp3Multipath.Core.StreamRx
import Smp3Multipath.Lib.Run

/-!
# The life of one engine

One endpoint with everything that takes part in its shutdown: the application
pipe, the transmit loop with its inflight tokens and the startup gate, the leg
readers, the receive loop, `StartGracefulClose` with its drain, and `Close`.
The peer is arbitrary: any frame may arrive on any attached leg.

How a scheduler puts a record on a carrier is not part of this model: an
enqueue in progress ends when the record is queued.  Legs are reduced to what
the shutdown reads of them, whether they are attached and where their reader
is.
-/

namespace Smp3Multipath.Core.Lifecycle

open Lib.Run Function

/-- `StreamStartupPolicy` with the data the startup gate is built from. -/
inductive StartupPolicy where
  | firstReady
  | preferred (leg : LegID) (grace : Nat)
deriving DecidableEq

/-- A configuration as `NewStreamEngine` normalises it. -/
structure Config where
  maxActiveLegs : Nat
  chunkSize : Nat
  queueFrames : Nat
  maxReorderFrames : Nat
  maxInflightFrames : Nat
  startup : StartupPolicy
  legs_pos : 0 < maxActiveLegs
  legs_le : maxActiveLegs ≤ maxStreamLegIDCount
  chunk_pos : 0 < chunkSize
  queue_pos : 0 < queueFrames
  inflight_pos : 0 < maxInflightFrames
  preferred_lt : ∀ leg grace, startup = .preferred leg grace → leg < maxActiveLegs

/-- The capacity of the `incoming` channel. -/
def Config.incomingCap (cfg : Config) : Nat :=
  cfg.queueFrames * 2

/-- The errors an engine ends with. -/
inductive CloseErr where
  /-- `io.EOF`, the graceful end. -/
  | eof
  /-- `ErrStreamClosed`, the forced close. -/
  | closed
  /-- Any other failure. -/
  | failed
deriving DecidableEq

/-- Where `await` is: about to look at the legs, or in its select. -/
structure GateWait where
  waiting : Bool := false
  timer : Bool := false
  graceExpired : Bool := false
deriving DecidableEq

/-- Where the transmit loop is. -/
inductive TxLoop where
  /-- Before the first, non-blocking attempt of `acquireInflight`. -/
  | acquiring
  /-- In the blocking select of `acquireInflight`. -/
  | blocked
  /-- In the pipe `Read`, holding a token. -/
  | reading
  /-- In `await` of the startup gate, holding a token and a chunk. -/
  | awaiting (chunk : List UInt8) (gate : GateWait)
  /-- Before `addLocal`, with the leg the startup gate hinted at. -/
  | adding (chunk : List UInt8) (hint : Option LegID)
  /-- In `enqueueRecord` for an added record. -/
  | enqueueing (record : Nat)
  | stopped
deriving DecidableEq

/-- Where a leg's reader is. -/
inductive Reader where
  | absent
  | reading
  /-- In the select that hands a DATA frame to the receive loop. -/
  | handing (frame : StreamRXFrame)
  /-- In `handleAck`, about to release the tokens of retired records. -/
  | releasing (count : Nat)
deriving DecidableEq

/-- Where the goroutine of `StartGracefulClose` is. -/
inductive Closer where
  | none
  | waitTx (err : CloseErr)
  | draining (err : CloseErr)
  | sendingClose (err : CloseErr)
  | ended
deriving DecidableEq

/-- The state of one engine and of the application end of its pipe. -/
structure State where
  ledger : StreamTXLedger
  inflight : Nat
  tx : TxLoop
  /-- Every byte the transmit loop read from the pipe. -/
  readBytes : List UInt8
  /-- The unread rest of the application's `Write`. -/
  offered : List UInt8
  appOpen : Bool
  pipeOpen : Bool
  gateReleased : Bool
  gateTerminal : Bool
  attached : LegID → Bool
  reader : LegID → Reader
  incoming : List StreamRXFrame
  window : StreamRXWindow
  rx : RxLoop
  ackNext : Nat
  closing : Bool
  graceful : Bool
  closer : Closer
  finalizing : Bool
  /-- The error `done` was closed with. -/
  done : Option CloseErr

/-- A new engine. -/
def init (cfg : Config) : State :=
  { ledger := StreamTXLedger.newStreamTXLedger cfg.maxActiveLegs
    inflight := 0
    tx := .acquiring
    readBytes := []
    offered := []
    appOpen := true
    pipeOpen := true
    gateReleased := false
    gateTerminal := false
    attached := fun _ => false
    reader := fun _ => .absent
    incoming := []
    window := StreamRXWindow.newStreamRXWindow cfg.maxReorderFrames
    rx := .idle
    ackNext := 0
    closing := false
    graceful := false
    closer := .none
    finalizing := false
    done := none }

/-- Steps of the application, the transmit loop and the startup gate. -/
inductive TxAct where
  | appWrite (bytes : List UInt8)
  | appClose
  | txAcquire
  | txAcquireBlocked
  | txAcquireAbort
  | txRead
  | txReadError
  | gateCheck
  | gateWake
  | gateTimer
  | gateAbort
  | startupTerminal
  | txAdd (now : Time)
  | txEnqueued
  | txEnqueueError
deriving DecidableEq

/-- Steps of the legs, their readers and the receive loop. -/
inductive RxAct where
  | attachLeg (id : LegID)
  | legFailure (id : LegID)
  | readData (id : LegID) (frame : StreamRXFrame)
  | readAck (id : LegID) (next : Nat) (now : Time)
  | readClose (id : LegID) (value : Nat)
  | handData (id : LegID)
  | releaseInflight (id : LegID)
  | readerExit (id : LegID)
  | rxTake (now : Time)
  | rxWrite (n : Nat)
  | rxWriteError
  | rxCommit (now : Time)
  | rxRequestAck
  | rxStop
deriving DecidableEq

inductive CloseAct where
  | startGracefulClose (err : CloseErr)
  | closeTxStopped
  | closeDrained
  | closeStalled
  | closeAborted
  | closeSent (id : LegID)
  | closeNotSent
  | recoveryTimeout
  | close
deriving DecidableEq

inductive Act where
  | tx (a : TxAct)
  | rx (a : RxAct)
  | close (a : CloseAct)
deriving DecidableEq

/-- `fail`: the first caller records the error and closes both pipe ends. -/
def fail (s : State) (err : CloseErr) : State :=
  if s.done.isSome then s
  else { s with done := some err, finalizing := true, appOpen := false, pipeOpen := false }

/-- `finishGracefulClose`: only an EOF leaves the application's end readable. -/
def finishGracefulClose (s : State) (err : CloseErr) : State :=
  if err = .eof then
    if s.done.isSome then s
    else { s with done := some .eof, finalizing := true, pipeOpen := false }
  else
    fail s err

def startGracefulClose (s : State) (err : CloseErr) : State :=
  let s := { s with closing := true }
  if s.graceful ∨ s.closer ≠ .none ∨ s.done.isSome then s
  else { s with graceful := true, pipeOpen := false, closer := .waitTx err }

/-- `hasOtherReady`: some leg besides the preferred one is attached. -/
def hasOtherReady (cfg : Config) (s : State) (preferred : LegID) : Bool :=
  (List.range cfg.maxActiveLegs).any fun id => id != preferred && s.attached id

/-- One pass of the loop of `await` up to its select. -/
def awaitPass
    (cfg : Config) (s : State) (preferred : LegID) (grace : Nat)
    (chunk : List UInt8) (gate : GateWait) : State :=
  let other := hasOtherReady cfg s preferred
  if s.gateReleased then
    { s with tx := .adding chunk none }
  else if s.attached preferred then
    { s with gateReleased := true, tx := .adding chunk (some preferred) }
  else if other ∧ s.gateTerminal then
    { s with gateReleased := true, tx := .adding chunk none }
  else if other ∧ (grace = 0 ∨ gate.graceExpired) then
    { s with gateReleased := true, tx := .adding chunk none }
  else if ¬ other then
    { s with tx := .awaiting chunk { waiting := true } }
  else
    { s with
      tx := .awaiting chunk
        { waiting := true, timer := true, graceExpired := gate.graceExpired } }

/-- Where the transmit loop goes with a chunk it just read. -/
def afterRead (cfg : Config) (s : State) (chunk : List UInt8) : TxLoop :=
  match cfg.startup with
  | .firstReady => .adding chunk none
  | .preferred _ _ => if s.gateReleased then .adding chunk none else .awaiting chunk {}

/-- The application, the transmit loop and the startup gate. -/
def txStep (cfg : Config) (s : State) : TxAct → Option State
  | .appWrite bytes => if s.appOpen ∧ s.offered = [] then some { s with offered := bytes } else none
  | .appClose => some { s with appOpen := false }
  | .txAcquire =>
    if (s.tx = .acquiring ∨ s.tx = .blocked) ∧ s.inflight < cfg.maxInflightFrames then
      some { s with inflight := s.inflight + 1, tx := .reading }
    else none
  | .txAcquireBlocked =>
    if s.tx = .acquiring ∧ cfg.maxInflightFrames ≤ s.inflight then
      some { s with tx := .blocked }
    else none
  | .txAcquireAbort =>
    if s.tx = .blocked ∧ (s.graceful ∨ s.done.isSome) then
      some { s with tx := .stopped }
    else none
  | .txRead =>
    if s.tx = .reading ∧ s.offered ≠ [] then
      let chunk := s.offered.take cfg.chunkSize
      some { s with
        readBytes := s.readBytes ++ chunk
        offered := s.offered.drop cfg.chunkSize
        tx := afterRead cfg s chunk }
    else none
  | .txReadError =>
    -- `ErrClosedPipe` when the engine's own end is closed, `EOF` otherwise
    if s.tx = .reading ∧ (¬ s.pipeOpen ∨ ¬ s.appOpen) then
      let err := if s.pipeOpen then CloseErr.eof else .failed
      some (startGracefulClose { s with inflight := s.inflight - 1, tx := .stopped } err)
    else none
  | .gateCheck =>
    match s.tx, cfg.startup with
    | .awaiting chunk gate, .preferred leg grace =>
      if gate.waiting then none else some (awaitPass cfg s leg grace chunk gate)
    | _, _ => none
  | .gateWake =>
    match s.tx with
    | .awaiting chunk gate =>
      if gate.waiting then
        some { s with tx := .awaiting chunk { gate with waiting := false } }
      else none
    | _ => none
  | .gateTimer =>
    match s.tx with
    | .awaiting chunk gate =>
      if gate.waiting ∧ gate.timer then
        some { s with tx := .awaiting chunk { graceExpired := true } }
      else none
    | _ => none
  | .gateAbort =>
    -- the chunk goes back to the buffer pool
    match s.tx with
    | .awaiting _ gate =>
      if gate.waiting ∧ (s.graceful ∨ s.done.isSome) then
        some { s with inflight := s.inflight - 1, tx := .stopped }
      else none
    | _ => none
  | .startupTerminal => if s.gateReleased then none else some { s with gateTerminal := true }
  | .txAdd now =>
    match s.tx with
    | .adding chunk _ =>
      some { s with
        ledger := (s.ledger.addLocal chunk now).1
        tx := .enqueueing (s.ledger.addLocal chunk now).2 }
    | _ => none
  | .txEnqueued =>
    match s.tx with
    | .enqueueing record =>
      some { s with ledger := s.ledger.finishLocalEnqueue record, tx := .acquiring }
    | _ => none
  | .txEnqueueError =>
    match s.tx with
    | .enqueueing record =>
      if s.done.isSome then
        some { s with ledger := s.ledger.finishLocalEnqueue record, tx := .stopped }
      else none
    | _ => none

/-- The legs, their readers and the receive loop. -/
def rxStep (cfg : Config) (s : State) : RxAct → Option State
  | .attachLeg id =>
    if id < cfg.maxActiveLegs ∧ ¬ s.finalizing ∧ s.done = none ∧ ¬ s.attached id ∧
        s.reader id = .absent then
      some { s with
        attached := update s.attached id true
        reader := update s.reader id .reading }
    else none
  | .legFailure id =>
    if s.attached id then
      some { s with
        attached := update s.attached id false
        ledger := s.ledger.invalidateLeg id }
    else none
  | .readData id frame =>
    if s.reader id = .reading then
      some { s with reader := update s.reader id (.handing frame) }
    else none
  | .readAck id next now =>
    if s.reader id = .reading then
      some { s with
        ledger := (s.ledger.applyACK next now).1
        reader :=
          update s.reader id (.releasing (s.ledger.applyACK next now).2.released) }
    else none
  | .readClose id value =>
    -- a CLOSE that does not match the receive frontier fails the leg instead
    if s.reader id = .reading ∧ value = s.ackNext then
      some (startGracefulClose
        { s with reader := update s.reader id .absent } .eof)
    else none
  | .handData id =>
    match s.reader id with
    | .handing frame =>
      if s.incoming.length < cfg.incomingCap then
        some { s with
          incoming := s.incoming ++ [frame]
          reader := update s.reader id .reading }
      else none
    | _ => none
  | .releaseInflight id =>
    match s.reader id with
    | .releasing count =>
      some { s with
        inflight := s.inflight - count
        reader := update s.reader id .reading }
    | _ => none
  | .readerExit id =>
    -- a read error after the connection was closed, or `done` while handing over
    match s.reader id with
    | .reading =>
      if s.attached id then none
      else some { s with reader := update s.reader id .absent }
    | .handing _ =>
      if s.done.isSome then
        some { s with reader := update s.reader id .absent }
      else none
    | _ => none
  | .rxTake now =>
    match s.rx, s.incoming with
    | .idle, frame :: rest =>
      match s.window.insert frame now with
      | .error _ => some (fail { s with incoming := rest, rx := .exited } .failed)
      | .ok (window, .ready) =>
        some { s with
          incoming := rest, window := window, rx := .writing frame frame.payload }
      | .ok (window, _) => some { s with incoming := rest, window := window }
    | _, _ => none
  | .rxWrite n =>
    match s.rx with
    | .writing frame rest =>
      if s.pipeOpen ∧ s.appOpen ∧ 0 < n ∧ n ≤ rest.length then
        some { s with rx := .writing frame (rest.drop n) }
      else none
    | _ => none
  | .rxWriteError =>
    match s.rx with
    | .writing _ (_ :: _) =>
      if s.pipeOpen ∧ s.appOpen then none
      else if s.closing then some { s with rx := .exited }
      else some (fail { s with rx := .exited } .failed)
    | _ => none
  | .rxCommit now =>
    match s.rx with
    | .writing _ [] =>
      let window := s.window.commitReady now
      match window.popContiguous with
      | some (window, next) => some { s with window := window, rx := .writing next next.payload }
      | none => some { s with window := window, rx := .acking }
    | _ => none
  | .rxRequestAck =>
    match s.rx with
    | .acking => some { s with ackNext := max s.ackNext s.window.expected, rx := .idle }
    | _ => none
  | .rxStop => if s.rx = .idle ∧ s.done.isSome then some { s with rx := .exited } else none

/-- The shutdown. -/
def closeStep (s : State) : CloseAct → Option State
  | .startGracefulClose err => some (startGracefulClose s err)
  | .closeTxStopped =>
    match s.closer with
    | .waitTx err => if s.tx = .stopped then some { s with closer := .draining err } else none
    | _ => none
  | .closeDrained =>
    -- `beginFinalizing` refuses once the engine is done
    match s.closer with
    | .draining err =>
      if s.ledger.outstanding = [] then
        if s.done.isSome then some { s with closer := .ended }
        else some { s with finalizing := true, closer := .sendingClose err }
      else none
    | _ => none
  | .closeStalled =>
    match s.closer with
    | .draining _ =>
      if s.ledger.outstanding = [] then none
      else some (fail { s with closer := .ended } .failed)
    | _ => none
  | .closeAborted =>
    match s.closer with
    | .waitTx _ | .draining _ => if s.done.isSome then some { s with closer := .ended } else none
    | _ => none
  | .closeSent id =>
    match s.closer with
    | .sendingClose err =>
      if s.attached id then
        some (finishGracefulClose { s with closer := .ended } err)
      else none
    | _ => none
  | .closeNotSent =>
    match s.closer with
    | .sendingClose _ => some (fail { s with closer := .ended } .failed)
    | _ => none
  | .recoveryTimeout => some (fail s .failed)
  | .close => some (fail { s with closing := true } .closed)

def step (cfg : Config) (s : State) : Act → Option State
  | .tx a => txStep cfg s a
  | .rx a => rxStep cfg s a
  | .close a => closeStep s a

end Smp3Multipath.Core.Lifecycle

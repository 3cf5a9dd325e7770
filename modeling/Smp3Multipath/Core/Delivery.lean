import Smp3Multipath.Core.LedgerFrame
import Smp3Multipath.Core.StreamRx
import Smp3Multipath.Lib.OrderedStream
import Smp3Multipath.Lib.Run

/-!
# End-to-end delivery

One direction of a session: the sender's ledger with its per-leg attempt queues
and writers, the frames and cumulative ACKs in flight, and the receiver's leg
readers, receive loop, ACK loop and per-leg ACK slots.  The network may lose,
duplicate and reorder anything in flight; a leg may fail or rejoin at any step.

Every scheduler of the source queues attempts through the same claims, so the
model lets any outstanding record be claimed and queued on any leg at any time,
and lets any other ledger operation happen between two steps.
-/

namespace Smp3Multipath.Core.Delivery

open Lib.Run Function

/-- One queued DATA attempt, `txSendAttempt`. -/
structure TxSendAttempt where
  record : Nat
  rescue : Bool
  started : Time
deriving DecidableEq

/-- Where a leg's writer is with its DATA attempt. -/
inductive WriterState where
  | idle
  /-- The attempt passed the `attemptCurrent` test. -/
  | current (attempt : TxSendAttempt)
  /-- The frame was written and `MarkAttemptSent` is still to come. -/
  | wrote (attempt : TxSendAttempt)
deriving DecidableEq

/-- `sendAckFrame` in progress: the loaded value and the legs still to visit. -/
structure AckSend where
  value : Nat
  force : Bool
  legs : List LegID
  scheduled : Bool
deriving DecidableEq

/-- Both endpoints and everything in flight between them. -/
structure State where
  ledger : StreamTXLedger
  send : LegID → List TxSendAttempt
  rescue : LegID → List TxSendAttempt
  writer : LegID → WriterState
  dataNet : List StreamRXFrame
  ackNet : List (LegID × Nat)
  incoming : List StreamRXFrame
  window : StreamRXWindow
  rx : RxLoop
  /-- The bytes the receiving application has been given. -/
  appBytes : List UInt8
  /-- The frames delivered in full, in delivery order. -/
  delivered : List StreamRXFrame
  ackNext : Nat
  ackForce : Bool
  ackLoopSent : Nat
  ackLoop : Option AckSend
  legAckPending : LegID → Nat
  legAckForce : LegID → Bool
  legAckSent : LegID → Nat
  /-- Every ACK value a leg writer put on a carrier. -/
  ackWritten : List Nat

/-- A new session. -/
def init (maxLegs maxReorderFrames : Nat) : State :=
  { ledger := StreamTXLedger.newStreamTXLedger maxLegs
    send := fun _ => []
    rescue := fun _ => []
    writer := fun _ => .idle
    dataNet := []
    ackNet := []
    incoming := []
    window := StreamRXWindow.newStreamRXWindow maxReorderFrames
    rx := .idle
    appBytes := []
    delivered := []
    ackNext := 0
    ackForce := false
    ackLoopSent := 0
    ackLoop := none
    legAckPending := fun _ => 0
    legAckForce := fun _ => false
    legAckSent := fun _ => 0
    ackWritten := [] }

inductive SenderAct where
  | add (payload : List UInt8) (now : Time) (isLocal : Bool)
  | tryQueue (leg : LegID) (record : Nat) (now : Time)
  | tryQueueRescue (leg : LegID) (record : Nat) (now : Time)
  | pick (leg : LegID) (rescue : Bool)
  | write (leg : LegID)
  | writeError (leg : LegID)
  | markAttemptSent (leg : LegID) (now : Time)
  | legFailure (leg : LegID)
  | ledgerOp (op : StreamTXLedger.LedgerOp)
  | readAck (i : Nat) (now : Time)
deriving DecidableEq

/-- Faults of the network. -/
inductive NetworkAct where
  | loseData (i : Nat)
  | duplicateData (i : Nat)
  | loseAck (i : Nat)
  | duplicateAck (i : Nat)
  | loseLeg (leg : LegID)
deriving DecidableEq

inductive ReceiverAct where
  | readData (i : Nat)
  | rxTake (now : Time)
  | rxWrite (n : Nat)
  | rxWriteError (n : Nat)
  | rxCommit (now : Time)
  | rxRequestAck
  | rxStop
  | ackLoad (legs : List LegID)
  | queueAck (isOpen : Bool)
  | ackSendDone
  | writePendingAck (leg : LegID)
  | attachLeg (leg : LegID)
deriving DecidableEq

inductive Act where
  | sender (a : SenderAct)
  | network (a : NetworkAct)
  | receiver (a : ReceiverAct)
deriving DecidableEq

/-- Operations that `SenderAct` has steps of its own for. -/
def changesStream : StreamTXLedger.LedgerOp → Bool
  | .add _ _ _ => true
  | .applyACK _ _ => true
  | _ => false

/-- The sender's step function. -/
def senderStep (s : State) : SenderAct → Option State
  | .add payload now isLocal => some { s with ledger := (s.ledger.add payload now isLocal).1 }
  | .tryQueue leg record now => do
      let ledger ← s.ledger.markTransit record leg now
      some { s with
        ledger := ledger
        send := update s.send leg (s.send leg ++ [⟨record, false, now⟩]) }
  | .tryQueueRescue leg record now => do
      let ledger ← s.ledger.markRescueTransit record leg now
      some { s with
        ledger := (ledger.markRescueQueued record leg now).getD ledger
        rescue := update s.rescue leg (s.rescue leg ++ [⟨record, true, now⟩]) }
  | .pick leg rescue =>
    let queue := if rescue then s.rescue leg else s.send leg
    match s.writer leg, queue with
    | .idle, attempt :: rest =>
      let current := s.ledger.attemptCurrent attempt.record leg attempt.rescue
      some { s with
        send := if rescue then s.send else update s.send leg rest
        rescue := if rescue then update s.rescue leg rest else s.rescue
        writer :=
          if current then update s.writer leg (.current attempt)
          else s.writer }
    | _, _ => none
  | .write leg =>
    match s.writer leg with
    | .current attempt =>
      some { s with
        dataNet := s.dataNet ++
          [⟨attempt.record, leg, (s.ledger.record attempt.record).payload⟩]
        writer := update s.writer leg (.wrote attempt) }
    | _ => none
  | .writeError leg =>
    match s.writer leg with
    | .current attempt =>
      some { s with
        ledger :=
          s.ledger.clearAttemptAt attempt.record leg attempt.rescue attempt.started
        writer := update s.writer leg .idle }
    | _ => none
  | .markAttemptSent leg now =>
    match s.writer leg with
    | .wrote attempt =>
      some { s with
        ledger := (s.ledger.markAttemptSent attempt.record leg attempt.rescue now).1
        writer := update s.writer leg .idle }
    | _ => none
  | .legFailure leg =>
    some { s with
      ledger := s.ledger.invalidateLeg leg
      send := update s.send leg []
      rescue := update s.rescue leg [] }
  | .ledgerOp op =>
    if changesStream op then none
    else some { s with ledger := s.ledger.applyOp op }
  | .readAck i now =>
    match s.ackNet[i]? with
    | some (_, next) =>
      some { s with
        ledger := (s.ledger.applyACK next now).1
        ackNet := s.ackNet.eraseIdx i }
    | none => none

/-- The network's step function. -/
def networkStep (s : State) : NetworkAct → Option State
  | .loseData i => some { s with dataNet := s.dataNet.eraseIdx i }
  | .duplicateData i =>
    match s.dataNet[i]? with
    | some frame => some { s with dataNet := s.dataNet ++ [frame] }
    | none => none
  | .loseAck i => some { s with ackNet := s.ackNet.eraseIdx i }
  | .duplicateAck i =>
    match s.ackNet[i]? with
    | some ack => some { s with ackNet := s.ackNet ++ [ack] }
    | none => none
  | .loseLeg leg =>
    some { s with
      dataNet := s.dataNet.filter fun frame => frame.leg ≠ leg
      ackNet := s.ackNet.filter fun ack => ack.1 ≠ leg }

/-- The receiver's step function. -/
def receiverStep (s : State) : ReceiverAct → Option State
  | .readData i =>
    match s.dataNet[i]? with
    | some frame =>
      some { s with
        dataNet := s.dataNet.eraseIdx i
        incoming := s.incoming ++ [frame] }
    | none => none
  | .rxTake now =>
    match s.rx, s.incoming with
    | .idle, frame :: rest =>
      match s.window.insert frame now with
      | .error _ => some { s with incoming := rest, rx := .exited }
      | .ok (window, .ready) =>
        some { s with
          incoming := rest, window := window, rx := .writing frame frame.payload }
      | .ok (window, .duplicate) =>
        some { s with incoming := rest, window := window, ackForce := true }
      | .ok (window, _) => some { s with incoming := rest, window := window }
    | _, _ => none
  | .rxWrite n =>
    match s.rx with
    | .writing frame rest =>
      if 0 < n ∧ n ≤ rest.length then
        some { s with
          appBytes := s.appBytes ++ rest.take n
          rx := .writing frame (rest.drop n) }
      else none
    | _ => none
  | .rxWriteError n =>
    -- a failed pipe write may have handed over some of its bytes
    match s.rx with
    | .writing _ rest => some { s with appBytes := s.appBytes ++ rest.take n, rx := .exited }
    | _ => none
  | .rxCommit now =>
    match s.rx with
    | .writing frame [] =>
      let window := s.window.commitReady now
      match window.popContiguous with
      | some (window, next) =>
        some { s with
          window := window
          delivered := s.delivered ++ [frame]
          rx := .writing next next.payload }
      | none =>
        some { s with
          window := window
          delivered := s.delivered ++ [frame]
          rx := .acking }
    | _ => none
  | .rxRequestAck =>
    match s.rx with
    | .acking => some { s with ackNext := max s.ackNext s.window.expected, rx := .idle }
    | _ => none
  | .rxStop =>
    match s.rx with
    | .idle => some { s with rx := .exited }
    | _ => none
  | .ackLoad legs =>
    match s.ackLoop with
    | some _ => none
    | none =>
      if s.ackNext = 0 ∨ (s.ackNext ≤ s.ackLoopSent ∧ ¬ s.ackForce) ∨ legs = [] then
        some { s with ackForce := s.ackForce && legs.isEmpty }
      else
        some { s with
          ackForce := false
          ackLoop := some ⟨s.ackNext, s.ackForce, legs, false⟩ }
  | .queueAck isOpen =>
    match s.ackLoop with
    | some ⟨value, force, leg :: legs, scheduled⟩ =>
      if isOpen then
        some { s with
          legAckPending :=
            update s.legAckPending leg (max (s.legAckPending leg) value)
          legAckForce :=
            update s.legAckForce leg (s.legAckForce leg || force)
          ackLoop := some ⟨value, force, legs, true⟩ }
      else
        some { s with ackLoop := some ⟨value, force, legs, scheduled⟩ }
    | _ => none
  | .ackSendDone =>
    match s.ackLoop with
    | some ⟨value, force, [], scheduled⟩ =>
      some { s with
        ackLoop := none
        ackLoopSent := if scheduled then value else s.ackLoopSent
        ackForce := s.ackForce || (force && !scheduled) }
    | _ => none
  | .writePendingAck leg =>
    let next := s.legAckPending leg
    if next = 0 ∨ (next ≤ s.legAckSent leg ∧ ¬ s.legAckForce leg) then
      some { s with legAckForce := update s.legAckForce leg false }
    else
      some { s with
        legAckForce := update s.legAckForce leg false
        legAckSent := update s.legAckSent leg (max (s.legAckSent leg) next)
        ackNet := s.ackNet ++ [(leg, next)]
        ackWritten := s.ackWritten ++ [next] }
  | .attachLeg leg =>
    some { s with
      legAckPending := update s.legAckPending leg 0
      legAckForce := update s.legAckForce leg false
      legAckSent := update s.legAckSent leg 0
      ackForce := true }

def step (s : State) : Act → Option State
  | .sender a => senderStep s a
  | .network a => networkStep s a
  | .receiver a => receiverStep s a

end Smp3Multipath.Core.Delivery

import Smp3Multipath.Core.Carrier

/-!
# Coordinated drain

The planned removal of a leg: `DrainLeg` on the initiator, `runRemoteDrain` on
the responder, the handling of the six drain messages, `sendDrainMessage` with
its tries of one carrier after another, and the end of an operation by
retirement, abort or forced recovery.  Each endpoint has its carriers, ledger
and `tryQueue` calls under it, so that the quiesce barrier is the one the
dispatch path really tests.

A goroutine's position is part of its operation: an operation is registered in
`drainOps` from its start until its own goroutine removes it.  A critical
section of `drainMu` is one step; what a goroutine reads outside of it is a step
of its own, and so is its wait for a dispatch lock.  What is written to a carrier
stays readable by the peer on the leg with the same binding, for ever and in any
order: delay, duplication, reordering and loss at once.  A message the endpoints
did not write is never read, which is what its authentication is for.
-/

namespace Smp3Multipath.Core.Drain

open Lib.Run Carrier Function

/-- `StreamPathRole` of a negotiated session. -/
inductive Role where
  | client
  | server
deriving DecidableEq

/-- The role of the other endpoint. -/
def Role.peer : Role → Role
  | .client => .server
  | .server => .client

inductive StreamDrainMessageKind where
  | intent
  | quiesced
  | ready
  | commit
  | commitAck
  | abort
deriving DecidableEq

/-- What names an operation at both endpoints. -/
structure Key where
  operationID : Nat
  counter : Nat
  targetBinding : Nat
deriving DecidableEq

/-- `StreamDrainMessage`; the 16-byte tokens are numbers, zero the unset one. -/
structure StreamDrainMessage where
  kind : StreamDrainMessageKind
  senderRole : Role
  targetLeg : LegID
  generation : Nat
  targetBinding : Nat
  operationID : Nat
  counter : Nat
  ackedNext : Nat
  outstandingFrames : Nat
  outstandingBytes : Nat
deriving DecidableEq

/-- The operation a message is about. -/
def StreamDrainMessage.key (m : StreamDrainMessage) : Key :=
  ⟨m.operationID, m.counter, m.targetBinding⟩

/-- Must a message of this kind report nothing outstanding? -/
def StreamDrainMessageKind.settled : StreamDrainMessageKind → Bool
  | .ready | .commit | .commitAck => true
  | _ => false

/-- `validStreamDrainMessage`, tested on encoding and on decoding. -/
def validStreamDrainMessage (m : StreamDrainMessage) : Bool :=
  m.generation != 0 && m.counter != 0 && m.targetBinding != 0 && m.operationID != 0 &&
    (!m.kind.settled || (m.outstandingFrames == 0 && m.outstandingBytes == 0))

/-- The errors of a drain. -/
inductive DrainErr where
  /-- `ErrStreamDrainNegotiation`. -/
  | negotiation
  /-- `ErrStreamDrainUnsupported`. -/
  | unsupported
  /-- `ErrStreamDrainConflict`. -/
  | conflict
  /-- `ErrStreamDrainCarrierChanged`. -/
  | carrierChanged
  /-- `ErrStreamDrainMessage`. -/
  | message
  | peerAborted
  /-- `ErrStreamClosed`. -/
  | streamClosed
  /-- The context or the peer timer expired. -/
  | deadline
  /-- Every carrier that was tried failed. -/
  | sendFailed
deriving DecidableEq

/-- What a leg carries for the drain protocol; generations count from one. -/
structure LegInfo where
  drainEnabled : Bool
  drainBinding : Nat
  generation : Nat
  generation_pos : 0 < generation
deriving DecidableEq

/-- A queued control frame with the writer's result on its `done` channel. -/
structure Ticket where
  message : StreamDrainMessage
  result : Option Bool
deriving DecidableEq

/-- `sendDrainMessage` in progress. -/
structure Send where
  message : StreamDrainMessage
  /-- The carriers that are still to be tried. -/
  carriers : List Ref
  /-- The carrier that holds the frame, and its ticket. -/
  waiting : Option (Ref × Nat)
  /-- Was some carrier tried? -/
  tried : Bool
deriving DecidableEq

/-- What the initiator read under the lock after `drainReady`. -/
structure Snapshot where
  ready : Bool
  readySent : Bool
  peerReady : Bool
  commitSent : Bool
deriving DecidableEq

/-- Who called `retireDrainedLeg`. -/
inductive Retirer where
  /-- The initiator, at its first or second read of `commitAck`. -/
  | ackFirst
  | ackSecond
  | responder
deriving DecidableEq

/-- What a goroutine does when its `sendDrainMessage` returns. -/
inductive After where
  | intent
  | ready (snapshot : Snapshot)
  | commit
  | response (kind : StreamDrainMessageKind) (commit : Bool)
  | timeout
  | notify (err : DrainErr) (restore : Bool)
deriving DecidableEq

/-- Where the goroutine of an operation is. -/
inductive Position where
  /-- At the head of its loop. -/
  | top
  /-- Initiator, before the first read of `commitAck`. -/
  | ackFirst
  /-- Responder, before the test of its target. -/
  | checkTarget
  /-- Before `drainReady`. -/
  | poll
  /-- Initiator, after a successful `drainReady`. -/
  | seenReady
  /-- Initiator, after the lock that follows. -/
  | polled (snapshot : Snapshot)
  /-- Initiator, after the READY of this pass. -/
  | commitCheck (snapshot : Snapshot)
  /-- Initiator, before the second read of `commitAck`. -/
  | ackSecond
  /-- Responder, with the kind it answers and whether it retires after it. -/
  | decided (kind : StreamDrainMessageKind) (commit : Bool)
  /-- Responder, after its answer. -/
  | retireCheck (commit : Bool)
  /-- In `retireDrainedLeg`, before its locks. -/
  | retiring (caller : Retirer)
  /-- In the select that ends a pass. -/
  | select (commitAck commitSent : Bool)
  /-- Before `sendDrainMessage`. -/
  | start (kind : StreamDrainMessageKind) (after : After)
  | sending (send : Send) (after : After)
  /-- Before the first lock of `abortDrain`. -/
  | aborting (err : DrainErr) (restore : Bool)
  /-- Before the last lock of `abortDrain`. -/
  | abortFinal (err : DrainErr) (restore : Bool)
  /-- In `forceDrainRecovery`. -/
  | recovering (err : DrainErr)
  /-- Before `finishDrain`. -/
  | finishing (err : Option DrainErr)
deriving DecidableEq

/-- `streamDrainOperation` with the position of its goroutine. -/
structure StreamDrainOperation where
  target : Ref
  operationID : Nat
  targetBinding : Nat
  counter : Nat
  originRole : Role
  peerGeneration : Nat := 0
  peerAckedNext : Nat := 0
  peerOutstandingFrames : Nat := 0
  peerOutstandingBytes : Nat := 0
  initiator : Bool := false
  peerQuiesced : Bool := false
  localReady : Bool := false
  readySent : Bool := false
  peerReady : Bool := false
  commitSent : Bool := false
  commitRequested : Bool := false
  commitAck : Bool := false
  terminalErr : Option DrainErr := none
  /-- The kind `runRemoteDrain` last sent. -/
  lastKind : Option StreamDrainMessageKind := none
  position : Position
deriving DecidableEq

/-- The operation under its name. -/
def StreamDrainOperation.key (op : StreamDrainOperation) : Key :=
  ⟨op.operationID, op.counter, op.targetBinding⟩

/-- What an endpoint did, in order. -/
inductive Event where
  /-- `localReady` was set: `drainReady` found nothing outstanding on the target. -/
  | localReady (key : Key)
  /-- A READY frame with these counts was written in full. -/
  | readyWritten (key : Key) (frames bytes : Nat)
  /-- A responder accepted a Commit. -/
  | commitAccepted (key : Key)
  /-- A CommitAck frame was written in full. -/
  | commitAckWritten (key : Key)
  /-- `retireDrainedLeg` retired the target for the operation. -/
  | retired (key : Key) (initiator : Bool)
  /-- The `DrainLeg` call of the operation returned nil. -/
  | returnedNil (key : Key)
  /-- `legReadLoop` tore its carrier down for the result of an Intent. -/
  | carrierLost (ref : Ref)
deriving DecidableEq

/-- Where `legReadLoop` is with a drain frame. -/
inductive Reader where
  | idle
  /-- In `acceptDrainIntent` before its lock. -/
  | accepting (target : Ref) (message : StreamDrainMessage)
  /-- Before the dispatch lock of the target. -/
  | entering (target : Ref) (message : StreamDrainMessage)
  /-- The Intent is refused. -/
  | refused (target : Ref) (message : StreamDrainMessage)
  /-- Sending the Abort of a refused Intent. -/
  | refusing (send : Send)
  | exited
deriving DecidableEq

/-- One endpoint. -/
structure Endpoint (κ : Type) where
  carrier : Carrier.State κ
  info : Ref → LegInfo
  legGeneration : LegID → Nat
  pendingDepth : LegID → Nat
  feederHeld : LegID → Nat
  done : Bool
  /-- The targets of `DrainLeg` calls past their tests without the lock. -/
  starting : List Ref
  /-- The targets of those before the dispatch lock. -/
  entering : List Ref
  drainOps : LegID → Option StreamDrainOperation
  drainRemoteHighWater : LegID → Nat
  drainOperationCounter : Nat
  tickets : List Ticket
  /-- The drain frames in each leg's `control` queue. -/
  control : Ref → List Nat
  reader : Ref → Reader
  /-- The frames written in full, each with the binding of its carrier. -/
  sent : List (Nat × StreamDrainMessage)
  log : List Event

/-- A new endpoint. -/
def Endpoint.init (κ : Type) (cfg : Config) : Endpoint κ :=
  { carrier := Carrier.init κ cfg
    info := fun _ => ⟨false, 0, 1, Nat.one_pos⟩
    legGeneration := fun _ => 0
    pendingDepth := fun _ => 0
    feederHeld := fun _ => 0
    done := false
    starting := []
    entering := []
    drainOps := fun _ => none
    drainRemoteHighWater := fun _ => 0
    drainOperationCounter := 0
    tickets := []
    control := fun _ => []
    reader := fun _ => .idle
    sent := []
    log := [] }

section Functions

variable {κ : Type}

namespace Endpoint

variable (e : Endpoint κ)

/-- `target.closed.Load()`. -/
def closed (target : Ref) : Bool :=
  (e.carrier.legs target).closed

/-- `c.getLeg(target.id) == target`. -/
def current (target : Ref) : Bool :=
  decide (e.carrier.attached (e.carrier.legs target).id = some target)

def legCount (cfg : Config) : Nat :=
  ((List.range cfg.maxActiveLegs).filter fun id => (e.carrier.attached id).isSome).length

/-- `len(c.drainOps)`. -/
def drainOpCount (cfg : Config) : Nat :=
  ((List.range cfg.maxActiveLegs).filter fun id => (e.drainOps id).isSome).length

/-- May the leg carry drain frames about another one? -/
def carriesDrain (ref : Ref) : Bool :=
  (e.info ref).drainEnabled && !(e.carrier.legs ref).draining && !e.closed ref

/-- The carriers `sendDrainMessage` tries, by leg id. -/
def controlCarriers (cfg : Config) (excluding : LegID) : List Ref :=
  (List.range cfg.maxActiveLegs).filterMap fun id =>
    match e.carrier.attached id with
    | some ref => if id ≠ excluding ∧ e.carriesDrain ref then some ref else none
    | none => none

def hasDrainControlLeg (cfg : Config) (excluding : LegID) : Bool :=
  !(e.controlCarriers cfg excluding).isEmpty

/-- The target is current, drains and holds nothing. -/
def settled (target : Ref) : Bool :=
  let leg := e.carrier.legs target
  !leg.closed && e.current target && leg.draining &&
    leg.send.isEmpty && leg.rescue.isEmpty && !leg.writer.isWriting &&
    e.carrier.ledger.outstandingForLeg leg.id == 0

def drainReady (target : Ref) : Bool :=
  let leg := e.carrier.legs target
  e.settled target && e.pendingDepth leg.id == 0 && e.feederHeld leg.id == 0

def setOp (id : LegID) (op : StreamDrainOperation) : Endpoint κ :=
  { e with drainOps := update e.drainOps id (some op) }

/-- Remove an operation. -/
def dropOp (id : LegID) : Endpoint κ :=
  { e with drainOps := update e.drainOps id none }

/-- Note an event. -/
def note (event : Event) : Endpoint κ :=
  { e with log := e.log ++ [event] }

/-- `makeDrainMessage` for a target under an operation's name. -/
def makeDrainMessage
    (role : Role) (target : Ref) (key : Key) (kind : StreamDrainMessageKind) :
    StreamDrainMessage :=
  let leg := e.carrier.legs target
  { kind := kind
    senderRole := role
    targetLeg := leg.id
    generation := (e.info target).generation
    targetBinding := key.targetBinding
    operationID := key.operationID
    counter := key.counter
    ackedNext := e.carrier.ledger.ackedNext
    outstandingFrames := e.carrier.ledger.outstandingForLeg leg.id % 2 ^ 32
    outstandingBytes := e.carrier.ledger.outstandingBytesForLeg leg.id % 2 ^ 64 }

/-- The start of `sendDrainMessage`. -/
def newSend
    (cfg : Config) (role : Role) (target : Ref) (key : Key) (kind : StreamDrainMessageKind) :
    Send :=
  { message := e.makeDrainMessage role target key kind
    carriers := e.controlCarriers cfg (e.carrier.legs target).id
    waiting := none
    tried := false }

end Endpoint

/-- The capacity of a leg's `control` channel. -/
def controlCap : Nat := 8

/-- Steps of a `sendDrainMessage` call. -/
inductive SendAct where
  | push
  | skip
  | result
  | carrierDone
  | timeout
  | engineDone
  | exhausted
deriving DecidableEq

/-- How far a `sendDrainMessage` call came: still going, or its error. -/
inductive SendState where
  | going (send : Send)
  | returned (err : Option DrainErr)
deriving DecidableEq

/-- One step of `sendDrainMessage`. -/
def sendStep (e : Endpoint κ) (send : Send) : SendAct → Option (Endpoint κ × SendState)
  | .push =>
    match send.waiting, send.carriers with
    | none, ref :: rest =>
      if validStreamDrainMessage send.message = false then
        -- the frame does not encode
        some (e, .going { send with carriers := rest, tried := true })
      else if (e.control ref).length < controlCap then
        some
          ({ e with
              tickets := e.tickets ++ [⟨send.message, none⟩]
              control :=
                update e.control ref (e.control ref ++ [e.tickets.length]) },
            .going { send with
              carriers := rest, waiting := some (ref, e.tickets.length), tried := true })
      else none
    | _, _ => none
  | .skip =>
    -- the carrier ended, or its control queue is full, also of other frames
    match send.waiting, send.carriers with
    | none, _ :: rest => some (e, .going { send with carriers := rest, tried := true })
    | _, _ => none
  | .result =>
    match send.waiting with
    | some (_, t) =>
      match e.tickets[t]? with
      | some ⟨_, some true⟩ => some (e, .returned none)
      | some ⟨_, some false⟩ => some (e, .going { send with waiting := none })
      | _ => none
    | none => none
  | .carrierDone =>
    match send.waiting with
    | some (ref, _) => if e.closed ref then some (e, .going { send with waiting := none }) else none
    | none => none
  | .timeout =>
    match send.waiting with
    | some _ => some (e, .returned (some .deadline))
    | none => none
  | .engineDone =>
    match send.waiting with
    | some _ => if e.done then some (e, .returned (some .streamClosed)) else none
    | none => none
  | .exhausted =>
    match send.waiting, send.carriers with
    | none, [] => some (e, .returned (some (if send.tried then .sendFailed else .unsupported)))
    | _, _ => none

/-- The operation when its `sendDrainMessage` returned. -/
def resume (op : StreamDrainOperation) (after : After) (err : Option DrainErr) :
    StreamDrainOperation :=
  match after, err with
  | .intent, none => { op with position := .top }
  | .intent, some err => { op with position := .aborting err true }
  | .ready snapshot, none => { op with readySent := true, position := .commitCheck snapshot }
  | .ready _, some err => { op with position := .aborting err true }
  | .commit, none => { op with position := .ackSecond }
  | .commit, some err => { op with position := .recovering err }
  | .response kind commit, none =>
    { op with lastKind := some kind, position := .retireCheck commit }
  -- the answer is tried again on a later pass, if there is one
  | .response _ commit, some _ => { op with position := .retireCheck commit }
  | .timeout, _ => { op with position := .aborting .deadline true }
  | .notify err restore, _ => { op with position := .abortFinal err restore }

/-- `retireDrainedLeg` after its `drainReady`, when it succeeds. -/
def retireDrainedLeg (cfg : Config) (e : Endpoint κ) (target : Ref) : Option (Endpoint κ) :=
  if e.settled target then
    (Carrier.legStep cfg e.carrier (.retireDrained target)).map
      fun carrier => { e with carrier := carrier }
  else none

/-- `handleLegFailure`; a leg that is closed already stays as it is. -/
def failLeg (cfg : Config) (e : Endpoint κ) (ref : Ref) : Endpoint κ :=
  match Carrier.legStep cfg e.carrier (.fail ref) with
  | some carrier => { e with carrier := carrier }
  | none => e

/-- Steps of an operation's goroutine outside `sendDrainMessage`. -/
inductive OpAct where
  | checkError
  | checkTarget
  | completeSettled
  | completePending
  | completeFailed
  | noAck
  | poll
  | markReady
  | decide (elapsed : Bool)
  | commit
  | send
  | tryRetire
  | retire
  | retireRefused
  | skipRetire
  | wake
  | timeout
  | targetDone
  | engineDone
  | abort
  | abortFinal
  | recover
  | finish
deriving DecidableEq

/-- The place of a call of `retireDrainedLeg`, before or in the call. -/
def Position.retirer : Position → Option Retirer
  | .ackFirst | .retiring .ackFirst => some .ackFirst
  | .ackSecond | .retiring .ackSecond => some .ackSecond
  | .retireCheck true | .retiring .responder => some .responder
  | _ => none

/-- Did `retireDrainedLeg` fail? -/
def retireFails (e : Endpoint κ) (op : StreamDrainOperation) : Bool :=
  match op.position with
  | .retiring _ => !e.settled op.target
  | _ => !e.drainReady op.target

/-- May the initiator send its Commit? -/
def canCommit (op : StreamDrainOperation) : Bool :=
  op.terminalErr.isNone && op.readySent && op.localReady && op.peerQuiesced && op.peerReady &&
    !op.commitSent

/-- The kind `runRemoteDrain` answers with. -/
def responseKind (ready commitRequested : Bool) : StreamDrainMessageKind :=
  if commitRequested && ready then .commitAck
  else if ready then .ready
  else .quiesced

def opStep
    (cfg : Config) (role : Role) (e : Endpoint κ) (id : LegID) (op : StreamDrainOperation) :
    OpAct → Option (Endpoint κ)
  | .checkError =>
    if op.position = .top then
      match op.terminalErr with
      | some err => some (e.setOp id { op with position := .aborting err true })
      | none =>
        some (e.setOp id
          { op with position := if op.initiator then .ackFirst else .checkTarget })
    else none
  | .checkTarget =>
    if op.position = .checkTarget then
      if e.closed op.target ∨ ¬ e.current op.target then
        some (e.setOp id { op with position := .finishing (some .carrierChanged) })
      else
        some (e.setOp id { op with position := .poll })
    else none
  | .completeSettled =>
    -- the target ended by itself and nothing depends on it
    if (op.position.retirer = some .ackFirst ∨ op.position.retirer = some .ackSecond) ∧
        op.commitAck ∧ e.closed op.target ∧ ¬ e.current op.target ∧
        e.carrier.ledger.outstandingForLeg (e.carrier.legs op.target).id = 0 then
      some (e.setOp id { op with position := .finishing none })
    else none
  | .completePending =>
    if op.commitAck ∧ (e.closed op.target ∨ ¬ e.current op.target) then
      match op.position.retirer with
      | some .ackFirst => some (e.setOp id { op with position := .poll })
      | some .ackSecond => some (e.setOp id { op with position := .select true op.commitSent })
      | _ => none
    else none
  | .completeFailed =>
    -- the target is open and could not be retired
    if (op.position.retirer = some .ackFirst ∨ op.position.retirer = some .ackSecond) ∧
        op.commitAck ∧ retireFails e op ∧ e.closed op.target = false then
      some (e.setOp id { op with position := .recovering .carrierChanged })
    else none
  | .noAck =>
    if op.commitAck then none
    else
      match op.position with
      | .ackFirst =>
        if op.commitSent = false ∧ (e.closed op.target ∨ ¬ e.current op.target) then
          some (e.setOp id { op with position := .aborting .carrierChanged false })
        else
          some (e.setOp id { op with position := .poll })
      | .ackSecond => some (e.setOp id { op with position := .select false op.commitSent })
      | _ => none
  | .poll =>
    if op.position = .poll then
      if op.initiator then
        if e.drainReady op.target then
          some (e.setOp id { op with position := .seenReady })
        else
          some (e.setOp id { op with position := .ackSecond })
      else if e.drainReady op.target then
        let kind := responseKind true op.commitRequested
        some ((e.setOp id
          { op with
            localReady := true
            position := .decided kind (op.commitRequested && op.peerReady) }).note
              (.localReady op.key))
      else
        let kind := responseKind op.localReady op.commitRequested
        some (e.setOp id
          { op with
            position :=
              .decided kind (op.commitRequested && op.localReady && op.peerReady) })
    else none
  | .markReady =>
    if op.position = .seenReady then
      let snapshot : Snapshot :=
        ⟨op.peerQuiesced, op.readySent, op.peerReady, op.commitSent⟩
      some ((e.setOp id
        { op with localReady := true, position := .polled snapshot }).note
          (.localReady op.key))
    else none
  | .decide elapsed =>
    match op.position with
    | .polled snapshot =>
      if snapshot.ready ∧ (snapshot.readySent = false ∨
          (snapshot.peerReady = false ∧ elapsed)) then
        some (e.setOp id { op with position := .start .ready (.ready snapshot) })
      else
        some (e.setOp id { op with position := .commitCheck snapshot })
    | .decided kind commit =>
      if op.lastKind ≠ some kind ∨ elapsed then
        some (e.setOp id { op with position := .start kind (.response kind commit) })
      else
        some (e.setOp id { op with position := .retireCheck commit })
    | _ => none
  | .commit =>
    match op.position with
    | .commitCheck snapshot =>
      if snapshot.ready ∧ snapshot.readySent ∧ snapshot.peerReady ∧
          snapshot.commitSent = false then
        if canCommit op then
          some (e.setOp id { op with
            commitSent := true
            position := .start .commit .commit })
        else
          some (e.setOp id { op with position := .top })
      else
        some (e.setOp id { op with position := .ackSecond })
    | _ => none
  | .send =>
    match op.position with
    | .start kind after =>
      some (e.setOp id { op with
        position := .sending (e.newSend cfg role op.target op.key kind) after })
    | _ => none
  | .tryRetire =>
    if e.drainReady op.target then
      match op.position with
      | .ackFirst =>
        if op.commitAck then some (e.setOp id { op with position := .retiring .ackFirst })
        else none
      | .ackSecond =>
        if op.commitAck then some (e.setOp id { op with position := .retiring .ackSecond })
        else none
      | .retireCheck true => some (e.setOp id { op with position := .retiring .responder })
      | _ => none
    else none
  | .retire =>
    match op.position with
    | .retiring caller =>
      (retireDrainedLeg cfg e op.target).map fun e =>
        (e.setOp id { op with position := .finishing none }).note
          (.retired op.key (decide (caller ≠ .responder)))
    | _ => none
  | .retireRefused =>
    if op.position.retirer = some .responder ∧ retireFails e op then
      some (e.setOp id { op with position := .recovering .carrierChanged })
    else none
  | .skipRetire =>
    if op.position = .retireCheck false then
      some (e.setOp id { op with position := .select false false })
    else none
  | .wake =>
    match op.position with
    | .select _ _ => some (e.setOp id { op with position := .top })
    | _ => none
  | .timeout =>
    match op.position with
    | .select _ commitSent =>
      if op.initiator then
        if commitSent then some (e.setOp id { op with position := .recovering .deadline })
        else some (e.setOp id { op with position := .aborting .deadline true })
      else
        some (e.setOp id { op with position := .start .abort .timeout })
    | _ => none
  | .targetDone =>
    match op.position with
    | .select commitAck commitSent =>
      if e.closed op.target then
        if op.initiator then
          if commitAck ∨ commitSent then none
          else if op.commitSent ∨ op.commitAck then
            some (e.setOp id { op with position := .top })
          else
            some (e.setOp id { op with position := .aborting .carrierChanged false })
        else
          some (e.setOp id { op with position := .finishing (some .carrierChanged) })
      else none
    | _ => none
  | .engineDone =>
    match op.position with
    | .select _ _ =>
      if e.done then
        if op.initiator then
          some (e.setOp id { op with position := .aborting .streamClosed false })
        else
          some (e.setOp id { op with position := .finishing (some .streamClosed) })
      else none
    | _ => none
  | .abort =>
    match op.position with
    | .aborting err restore =>
      if op.commitSent ∨ op.commitRequested then
        some (e.setOp id { op with position := .recovering err })
      else if op.initiator then
        some (e.setOp id { op with position := .start .abort (.notify err restore) })
      else
        some (e.setOp id { op with position := .abortFinal err restore })
    | _ => none
  | .abortFinal =>
    match op.position with
    | .abortFinal err restore =>
      if op.commitSent ∨ op.commitRequested then
        some (e.setOp id { op with position := .recovering err })
      else if restore ∧ e.current op.target ∧ e.closed op.target = false then
        (Carrier.legStep cfg e.carrier (.setDraining op.target false)).map
          fun carrier => { e with carrier := carrier }.dropOp id
      else
        some (e.dropOp id)
    | _ => none
  | .recover =>
    match op.position with
    | .recovering err =>
      let e := if e.current op.target then failLeg cfg e op.target else e
      some (e.setOp id { op with position := .finishing (some err) })
    | _ => none
  | .finish =>
    match op.position with
    | .finishing err =>
      if op.initiator ∧ err = none then
        some ((e.dropOp id).note (.returnedNil op.key))
      else
        some (e.dropOp id)
    | _ => none

/-- The tests of `DrainLeg` before it takes the lock. -/
def drainLeg (cfg : Config) (e : Endpoint κ) (id : LegID) : Option (Endpoint κ) :=
  match e.carrier.attached id with
  | some target =>
    if id < cfg.maxActiveLegs ∧ e.closed target = false ∧ 1 < e.legCount cfg ∧
        (e.info target).drainEnabled ∧ e.hasDrainControlLeg cfg id then
      some { e with starting := target :: e.starting }
    else none
  | none => none

/-- The tests of `DrainLeg` under `drainMu`, before the dispatch lock. -/
def drainEnter (cfg : Config) (e : Endpoint κ) (target : Ref) : Option (Endpoint κ) :=
  let id := (e.carrier.legs target).id
  if target ∈ e.starting ∧ e.drainOpCount cfg + 1 < e.legCount cfg ∧ e.drainOps id = none then
    some { e with
      starting := e.starting.erase target
      entering := target :: e.entering }
  else none

/-- `DrainLeg` under the dispatch lock, when it starts an operation. -/
def drainStart
    (cfg : Config) (role : Role) (e : Endpoint κ) (target : Ref) (operationID : Nat) :
    Option (Endpoint κ) :=
  let id := (e.carrier.legs target).id
  if target ∈ e.entering ∧ e.drainOps id = none ∧ e.closed target = false ∧
      e.current target ∧ e.carrier.readers target = [] then
    (Carrier.legStep cfg e.carrier (.setDraining target true)).map fun carrier =>
      let e := { e with
        carrier := carrier
        entering := e.entering.erase target
        drainOperationCounter := e.drainOperationCounter + 1 }
      e.setOp id
        { target := target
          operationID := operationID
          targetBinding := (e.info target).drainBinding
          counter := e.drainOperationCounter
          originRole := role
          initiator := true
          position := .start .intent .intent }
  else none

/-- Is the message a Commit that the operation accepts? -/
def StreamDrainOperation.acceptsCommit
    (op : StreamDrainOperation) (m : StreamDrainMessage) : Bool :=
  decide (m.kind = .commit) && m.outstandingFrames == 0 && m.outstandingBytes == 0 &&
    !op.initiator && op.localReady && op.peerReady

/-- What an operation does with a message about it. -/
def StreamDrainOperation.receive
    (op : StreamDrainOperation) (m : StreamDrainMessage) : StreamDrainOperation :=
  match m.kind with
  | .quiesced => { op with peerQuiesced := true }
  | .ready =>
    if m.outstandingFrames = 0 ∧ m.outstandingBytes = 0 then
      { op with peerQuiesced := true, peerReady := true }
    else
      { op with terminalErr := some .message }
  | .commit =>
    if op.acceptsCommit m then { op with commitRequested := true }
    else
      { op with terminalErr := some .message }
  | .commitAck =>
    if op.initiator ∧ op.commitSent ∧ m.outstandingFrames = 0 ∧ m.outstandingBytes = 0 then
      { op with commitAck := true }
    else
      { op with terminalErr := some .message }
  | .abort => { op with terminalErr := some .peerAborted }
  | .intent => op

/-- Does the message belong to the registered operation? -/
def matchesOp (e : Endpoint κ) (op : StreamDrainOperation) (m : StreamDrainMessage) : Bool :=
  (e.info op.target).drainEnabled && op.operationID == m.operationID &&
    op.counter == m.counter && op.targetBinding == m.targetBinding &&
    (e.info op.target).drainBinding == m.targetBinding &&
    (op.peerGeneration == 0 || op.peerGeneration == m.generation)

/-- Is the target in a state in which the operation takes the message? -/
def takesMessage (e : Endpoint κ) (op : StreamDrainOperation) (m : StreamDrainMessage) : Bool :=
  if e.carrier.attached m.targetLeg = some op.target then
    -- a closed target cannot establish the peer generation
    op.peerGeneration != 0 || (!e.closed op.target && decide (m.kind ≠ .commitAck))
  else
    -- only a CommitAck can finish after the target retired, and no replacement inherits it
    decide (e.carrier.attached m.targetLeg = none) && decide (m.kind = .commitAck) &&
      e.closed op.target && op.peerGeneration != 0

/-- `handleDrainControlFrame` for a message other than an Intent. -/
def handleControl (e : Endpoint κ) (m : StreamDrainMessage) : Endpoint κ :=
  match e.drainOps m.targetLeg with
  | some op =>
    if matchesOp e op m ∧ takesMessage e op m then
      let known :=
        { op with
          peerGeneration := m.generation
          peerAckedNext := m.ackedNext
          peerOutstandingFrames := m.outstandingFrames
          peerOutstandingBytes := m.outstandingBytes }
      let e := e.setOp m.targetLeg (known.receive m)
      if op.acceptsCommit m then e.note (.commitAccepted op.key) else e
    else e
  | none => e

/-- The Abort an endpoint sends for an Intent it refuses. -/
def refusal (cfg : Config) (role : Role) (e : Endpoint κ) (target : Ref)
    (m : StreamDrainMessage) : Send :=
  e.newSend cfg role target m.key .abort

/-- `acceptDrainIntent` up to the dispatch lock, with where it leaves the reader. -/
def acceptDrainIntent
    (cfg : Config) (e : Endpoint κ) (target : Ref) (m : StreamDrainMessage) :
    Endpoint κ × Reader :=
  let id := (e.carrier.legs target).id
  let seen :=
    { e with drainRemoteHighWater := update e.drainRemoteHighWater id m.counter }
  match e.drainOps id with
  | some active =>
    if active.key = m.key then
      -- a duplicate
      (e, .idle)
    else
      (seen.setOp id { active with terminalErr := some .conflict }, .refused target m)
  | none =>
    if m.counter ≤ e.drainRemoteHighWater id then (e, .idle)
    else if e.closed target ∨ ¬ e.current target ∨
        e.legCount cfg ≤ e.drainOpCount cfg + 1 then
      (seen, .refused target m)
    else (e, .entering target m)

/-- The rest of `acceptDrainIntent` under the dispatch lock. -/
def enterDrainIntent
    (cfg : Config) (e : Endpoint κ) (target : Ref) (m : StreamDrainMessage) :
    Option (Endpoint κ) :=
  let id := (e.carrier.legs target).id
  if e.drainOps id = none ∧ e.carrier.readers target = [] then
    if e.closed target ∨ ¬ e.current target then some e
    else
      (Carrier.legStep cfg e.carrier (.setDraining target true)).map fun carrier =>
        { e with
          carrier := carrier
          drainRemoteHighWater := update e.drainRemoteHighWater id m.counter }.setOp id
          { target := target
            operationID := m.operationID
            targetBinding := m.targetBinding
            counter := m.counter
            originRole := m.senderRole
            peerGeneration := m.generation
            peerQuiesced := true
            position := .top }
  else none

/-- The carrier an Intent is about; an Intent for an absent or replaced one is inert. -/
def intentTarget (e : Endpoint κ) (m : StreamDrainMessage) : Option Ref :=
  match e.carrier.attached m.targetLeg with
  | some target =>
    if (e.info target).drainEnabled ∧ (e.info target).drainBinding = m.targetBinding then
      some target
    else none
  | none => none

/-- `handleDrainControlFrame` up to `acceptDrainIntent`. -/
def handleDrainControlFrame
    (e : Endpoint κ) (carrier : Ref) (m : StreamDrainMessage) : Endpoint κ :=
  if m.targetLeg = (e.carrier.legs carrier).id then e
  else if m.kind = .intent then
    match intentTarget e m with
    | some target => { e with reader := update e.reader carrier (.accepting target m) }
    | none => e
  else handleControl e m

/-- The end of a refused Intent: an error costs the carrier. -/
def endRefusal (cfg : Config) (e : Endpoint κ) (carrier : Ref) (err : Option DrainErr) :
    Endpoint κ :=
  match err with
  | none => { e with reader := update e.reader carrier .idle }
  | some _ =>
    (failLeg cfg { e with reader := update e.reader carrier .exited } carrier).note
      (.carrierLost carrier)

/-- The writer's result for the head of a leg's control queue. -/
def writeControl (cfg : Config) (e : Endpoint κ) (ref : Ref) (ok : Bool) :
    Option (Endpoint κ) :=
  match e.control ref with
  | t :: rest =>
    match e.tickets[t]? with
    | some ticket =>
      let leg := e.carrier.legs ref
      let e :=
        { e with
          control := update e.control ref rest
          tickets := e.tickets.set t { ticket with result := some ok } }
      if ok then
        -- a write begun after the connection was closed fails
        if (leg.stage = .live ∨ leg.stage = .closing) ∧ leg.writer.isExited = false then
          let e := { e with sent := e.sent ++ [((e.info ref).drainBinding, ticket.message)] }
          match ticket.message.kind with
          | .ready =>
            some (e.note (.readyWritten ticket.message.key
              ticket.message.outstandingFrames ticket.message.outstandingBytes))
          | .commitAck => some (e.note (.commitAckWritten ticket.message.key))
          | _ => some e
        else none
      else some (failLeg cfg e ref)
    | none => none
  | [] => none

end Functions

inductive Act (κ : Type) where
  | call (k : κ) (a : CallAct)
  /-- The caller of a returned `tryQueue` call goes on. -/
  | endCall (k : κ)
  | writer (ref : Ref) (a : WriterAct)
  | leg (a : LegAct)
  | attachLeg (id : LegID) (drainEnabled : Bool) (drainBinding : Nat)
  | ledger (op : StreamTXLedger.LedgerOp)
  /-- The planner and a feeder move records on or off a leg. -/
  | pending (id : LegID) (depth held : Nat)
  | close
  | drainLeg (id : LegID)
  | drainEnter (target : Ref)
  | drainStart (target : Ref) (operationID : Nat)
  | op (id : LegID) (a : OpAct)
  | opSend (id : LegID) (a : SendAct)
  | writeControl (ref : Ref) (ok : Bool)
  | readFrame (ref : Ref) (i : Nat)
  | accept (ref : Ref)
  | enter (ref : Ref)
  | refuse (ref : Ref)
  | refuseSend (ref : Ref) (a : SendAct)
deriving DecidableEq

/-- Steps of a leg that only the drain code takes. -/
def isDrainAct : LegAct → Bool
  | .attachLeg _ | .setDraining _ _ | .retireDrained _ => true
  | _ => false

section Step

variable {κ : Type} [DecidableEq κ]

/-- One step of an endpoint; `inbox` is what the peer has written. -/
def endpointStep
    (cfg : Config) (role : Role) (inbox : List (Nat × StreamDrainMessage)) (e : Endpoint κ) :
    Act κ → Option (Endpoint κ)
  | .call k a =>
    (Carrier.callStep cfg e.carrier k a).map fun carrier => { e with carrier := carrier }
  | .endCall k =>
    match e.carrier.calls k with
    | some c =>
      if c.stage.inside then none
      else some { e with carrier := e.carrier.setCall k none }
    | none => none
  | .writer ref a =>
    if ref < e.carrier.nextRef then
      (Carrier.writerStep cfg e.carrier ref a).map fun carrier => { e with carrier := carrier }
    else none
  | .leg a =>
    if isDrainAct a then none
    else (Carrier.legStep cfg e.carrier a).map fun carrier => { e with carrier := carrier }
  | .attachLeg id drainEnabled drainBinding =>
    (Carrier.legStep cfg e.carrier (.attachLeg id)).map fun carrier =>
      let generation := e.legGeneration id + 1
      { e with
        carrier := carrier
        info := update e.info e.carrier.nextRef
          ⟨drainEnabled, drainBinding, generation, Nat.succ_pos _⟩
        legGeneration := update e.legGeneration id generation }
  | .ledger op =>
    some { e with carrier := { e.carrier with ledger := e.carrier.ledger.applyOp op } }
  | .pending id depth held =>
    some { e with
      pendingDepth := update e.pendingDepth id depth
      feederHeld := update e.feederHeld id held }
  | .close => some { e with done := true }
  | .drainLeg id => drainLeg cfg e id
  | .drainEnter target => drainEnter cfg e target
  | .drainStart target operationID => drainStart cfg role e target operationID
  | .op id a =>
    match e.drainOps id with
    | some op => opStep cfg role e id op a
    | none => none
  | .opSend id a =>
    match e.drainOps id with
    | some op =>
      match op.position with
      | .sending send after =>
        match sendStep e send a with
        | some (e, .going send) => some (e.setOp id { op with position := .sending send after })
        | some (e, .returned err) => some (e.setOp id (resume op after err))
        | none => none
      | _ => none
    | none => none
  | .writeControl ref ok => writeControl cfg e ref ok
  | .readFrame ref i =>
    match e.reader ref, inbox[i]? with
    | .idle, some (binding, m) =>
      -- the frame is authentic on the carrier it was written to
      if ref < e.carrier.nextRef ∧ (e.carrier.legs ref).readerExited = false ∧
          (e.info ref).drainEnabled ∧ (e.info ref).drainBinding = binding ∧
          m.senderRole = role.peer ∧ validStreamDrainMessage m then
        some (handleDrainControlFrame e ref m)
      else none
    | _, _ => none
  | .accept ref =>
    match e.reader ref with
    | .accepting target m =>
      let result := acceptDrainIntent cfg e target m
      some { result.1 with reader := update result.1.reader ref result.2 }
    | _ => none
  | .enter ref =>
    match e.reader ref with
    | .entering target m =>
      (enterDrainIntent cfg e target m).map fun e =>
        { e with reader := update e.reader ref .idle }
    | _ => none
  | .refuse ref =>
    match e.reader ref with
    | .refused target m =>
      some { e with
        reader := update e.reader ref (.refusing (refusal cfg role e target m)) }
    | _ => none
  | .refuseSend ref a =>
    match e.reader ref with
    | .refusing send =>
      match sendStep e send a with
      | some (e, .going send) => some { e with reader := update e.reader ref (.refusing send) }
      | some (e, .returned err) => some (endRefusal cfg e ref err)
      | none => none
    | _ => none

/-- Both endpoints. -/
abbrev State (κ : Type) := Role → Endpoint κ

/-- A new session. -/
def init (κ : Type) (cfg : Config) : State κ :=
  fun _ => Endpoint.init κ cfg

/-- One step of the session: one endpoint moves. -/
def step (cfg : Config) (s : State κ) (a : Role × Act κ) : Option (State κ) :=
  (endpointStep cfg a.1 (s a.1.peer).sent (s a.1) a.2).map (update s a.1)

end Step

end Smp3Multipath.Core.Drain

import Smp3Multipath.Core.Assignment
import Smp3Multipath.Lib.Tally

/-!
# The aggregation scheduler

The goroutines that move a record while assignment is decoupled from the carrier
queues: `txLoop` with `enqueueAssignedDecoupled` (the planner), one
`pendingFeeder` for each leg id, the `reassignFailedPending` calls that leg
failures spawn, and `retransmitLoop`, over the carriers and the peer's ACKs.

Every wait, queue operation and atomic store is a step of its own.  A call of
`assignBenchmark` is one step: `weightedMu` serializes them.  The admission
states change by steps that name the new state, since which meter moved them does
not matter here; so do the calls of `wakeDecoupled` outside of a feeder.  The
engine is not done in any state of a run.
-/

namespace Smp3Multipath.Core.Decoupled

open Lib.Run Lib.Tally Assignment Function
open Carrier hiding Config State init

/-- The goroutines that call `tryQueue`. -/
inductive Caller where
  | planner
  | feeder (id : LegID)
  | retransmit
deriving DecidableEq

/-- Where the planner is. -/
inductive Planner where
  | idle
  /-- In `enqueueRecordWithHint`, before the hinted leg is tried. -/
  | hinted (seq : Nat)
  | hintCalling (seq : Nat)
  /-- About to store the assignment of the record. -/
  | unpublished (seq : Nat)
  /-- No leg assigned yet. -/
  | assigning (seq : Nat)
  | assignWait (seq : Nat)
  /-- Before the push to the pending queue of the assigned leg. -/
  | pushing (seq : Nat) (ref : Ref)
  | pushWait (seq : Nat) (ref : Ref)
  /-- Woken, before the second `assignBenchmark`. -/
  | reassigning (seq : Nat) (ref : Ref)
  /-- `enqueueRecord` returned. -/
  | enqueued (seq : Nat)
deriving DecidableEq

/-- Where a feeder is. -/
inductive Feeder where
  /-- Its leg id was never attached. -/
  | absent
  | idle
  /-- At the head of its loop. -/
  | holding (seq : Nat)
  | assigned (seq : Nat) (ref : Ref)
  | calling (seq : Nat)
  /-- No leg, or `tryQueue` returned `false`. -/
  | failed (seq : Nat)
  | waiting (seq : Nat)
deriving DecidableEq

/-- Where a call of `reassignFailedPending` is. -/
inductive Reassign where
  | popping
  | popped (seq : Nat)
  /-- In the select over the push, `done` and the wake. -/
  | pushing (seq : Nat) (ref : Ref)
  | returned
deriving DecidableEq

/-- Where `retransmitLoop` is. -/
inductive RetryPhase where
  | idle
  | retrying (todo : List Nat)
  | retryCalling (todo : List Nat)
  | rescueCalling
deriving DecidableEq

/-- The record the planner holds. -/
def Planner.held : Planner → List Nat
  | .idle | .enqueued _ => []
  | .hinted seq | .hintCalling seq | .unpublished seq | .assigning seq | .assignWait seq => [seq]
  | .pushing seq _ | .pushWait seq _ | .reassigning seq _ => [seq]

/-- The record a feeder holds. -/
def Feeder.held : Feeder → List Nat
  | .absent | .idle => []
  | .holding seq | .assigned seq _ | .calling seq | .failed seq | .waiting seq => [seq]

/-- The record a `reassignFailedPending` call holds. -/
def Reassign.held : Reassign → List Nat
  | .popping | .returned => []
  | .popped seq | .pushing seq _ => [seq]

/-- One attempt a carrier queue accepted, and who offered it. -/
structure Acceptance where
  seq : Nat
  ref : Ref
  caller : Caller
deriving DecidableEq

/-- The engine under the aggregation scheduler. -/
structure State where
  carrier : Carrier.State Caller
  books : Books
  assignments : Nat → Option BenchmarkAssignment
  planner : Planner
  pending : LegID → List Nat
  feeders : LegID → Feeder
  /-- The calls of `reassignFailedPending`, each with its leg id. -/
  reassigns : Nat → LegID × Reassign
  spawned : Nat
  retry : RetryPhase
  /-- `decoupledWake`: is there a token in the slot? -/
  wake : List Bool
  /-- Every acceptance so far. -/
  accepted : List Acceptance

/-- The number of wake slots. -/
def wakeSlots : Nat := 3

/-- The slot the planner waits on. -/
def plannerSlot : Nat := 2

/-- Nothing read, nothing attached. -/
def init (cfg : Config) : State :=
  { carrier := Carrier.init Caller cfg.carrier
    books := Books.empty
    assignments := fun _ => none
    planner := .idle
    pending := fun _ => []
    feeders := fun _ => .absent
    reassigns := fun _ => (0, .returned)
    spawned := 0
    retry := .idle
    wake := List.replicate wakeSlots false
    accepted := [] }

inductive PlannerAct where
  | add (payload : List UInt8) (now : Time) (hint : Bool)
  | hint (ref : Ref)
  | noHint
  | hintReturn
  | publish
  /-- The record is retired. -/
  | giveUp
  | assign (m : Measured)
  | push
  /-- The pending queue is full. -/
  | full
  | wake
  | reassign (m : Measured)
  | finish

inductive FeederAct where
  | pop
  | done
  | assign (m : Measured)
  | tryQueue
  | return
  | check
  | wake

/-- Steps of a `reassignFailedPending` call. -/
inductive ReassignAct where
  | pop
  | assign (m : Measured)
  | push
  | wake
  /-- The queue is empty. -/
  | stop

/-- Steps of `retransmitLoop`. -/
inductive RetryAct where
  | plan
  | try (ref : Ref)
  | next
  | return
  | done
  /-- A frontier rescue of a record. -/
  | rescue (seq : Nat) (ref : Ref) (owner : Int)
  | rescueReturn

inductive Act where
  | planner (a : PlannerAct)
  | feeder (id : LegID) (a : FeederAct)
  | reassign (i : Nat) (a : ReassignAct)
  | retry (a : RetryAct)
  | call (k : Caller) (a : CallAct)
  | writer (ref : Ref) (a : WriterAct)
  | leg (a : LegAct)
  | ack (next : Nat) (now : Time)
  | admission (id : LegID) (state : AdmissionLeg)
  | wakeDecoupled

def benchmarkPendingOnly (s : State) (seq : Nat) : Bool :=
  match s.assignments seq with
  | none => true
  | some a => !a.admitted

/-- The records `scheduleRetries` tries for a set of live legs. -/
def scheduledRetries (s : State) (live : StreamLegAvailability) : List StreamTXRetryCandidate :=
  (s.carrier.ledger.planRetries live).filter fun c => !benchmarkPendingOnly s c.sequence

/-- `wakeDecoupled`. -/
def State.wakeAll (s : State) : State :=
  { s with wake := List.replicate wakeSlots true }

/-- Take the token of a slot; a slot out of range is not there. -/
def State.takeWake (s : State) (slot : Nat) : Option State :=
  if s.wake[slot]? = some true then some { s with wake := s.wake.set slot false } else none

/-- Run `assignBenchmark` on a record: the leg and the state it leaves. -/
def State.assign (s : State) (cfg : Config) (m : Measured) (seq : Nat) :
    Option (Option Ref × State) :=
  (s.assignments seq).map fun a =>
    let o := assignBenchmark cfg s.carrier s.books m seq a
    (o.leg,
      { s with
        carrier := { s.carrier with ledger := o.ledger }
        books := o.books
        assignments := update s.assignments seq (some o.assignment) })

/-- Push a record to the pending queue of a leg. -/
def State.push (s : State) (cfg : Config) (seq : Nat) (ref : Ref) : Option State :=
  let id := (s.carrier.legs ref).id
  if (s.pending id).length < cfg.pendingFrames then
    some { s with pending := update s.pending id (s.pending id ++ [seq]) }
  else none

/-- Begin a `tryQueue` call. -/
def State.begin (s : State) (cfg : Config) (k : Caller) (seq : Nat) (ref : Ref)
    (rescue retry : Bool) (owner : Int) : Option State :=
  (callStep cfg.carrier s.carrier k (.begin seq ref rescue retry owner)).map
    fun carrier => { s with carrier := carrier }

/-- Take the result of a `tryQueue` call. -/
def State.result (s : State) (k : Caller) : Option (Bool × State) :=
  match s.carrier.calls k with
  | some c =>
    match c.stage with
    | .returned ok => some (ok, { s with carrier := s.carrier.setCall k none })
    | _ => none
  | none => none

def State.setFeeder (s : State) (id : LegID) (f : Feeder) : State :=
  { s with feeders := update s.feeders id f }

/-- Replace the phase of a `reassignFailedPending` call. -/
def State.setReassign (s : State) (i : Nat) (r : Reassign) : State :=
  { s with reassigns := update s.reassigns i ((s.reassigns i).1, r) }

def plannerStep (cfg : Config) (s : State) : PlannerAct → Option State
  | .add payload now hint =>
    match s.planner with
    | .idle =>
      let added := s.carrier.ledger.addLocal payload now
      some
        { s with
          carrier := { s.carrier with ledger := added.1 }
          planner := if hint then .hinted added.2 else .unpublished added.2 }
    | _ => none
  | .hint ref =>
    match s.planner with
    | .hinted seq =>
      (s.begin cfg .planner seq ref false false (-1)).map fun s =>
        { s with planner := .hintCalling seq }
    | _ => none
  | .noHint =>
    match s.planner with
    | .hinted seq => some { s with planner := .unpublished seq }
    | _ => none
  | .hintReturn =>
    match s.planner with
    | .hintCalling seq =>
      (s.result .planner).map fun (ok, s) =>
        { s with planner := if ok then .enqueued seq else .unpublished seq }
    | _ => none
  | .publish =>
    match s.planner with
    | .unpublished seq =>
      some
        { s with
          assignments := update s.assignments seq (some {})
          planner := .assigning seq }
    | _ => none
  | .giveUp =>
    match s.planner with
    | .assigning seq | .pushing seq _ =>
      if seq ∈ s.carrier.ledger.outstanding then none
      else some { s with planner := .enqueued seq }
    | _ => none
  | .assign m =>
    match s.planner with
    | .assigning seq =>
      (s.assign cfg m seq).map fun (leg, s) =>
        match leg with
        | some ref => { s with planner := .pushing seq ref }
        | none => { s with planner := .assignWait seq }
    | _ => none
  | .push =>
    match s.planner with
    | .pushing seq ref => (s.push cfg seq ref).map fun s => { s with planner := .enqueued seq }
    | _ => none
  | .full =>
    match s.planner with
    | .pushing seq ref =>
      if (s.pending (s.carrier.legs ref).id).length < cfg.pendingFrames then none
      else some { s with planner := .pushWait seq ref }
    | _ => none
  | .wake =>
    match s.planner with
    | .assignWait seq => (s.takeWake plannerSlot).map fun s => { s with planner := .assigning seq }
    | .pushWait seq ref =>
      (s.takeWake plannerSlot).map fun s => { s with planner := .reassigning seq ref }
    | _ => none
  | .reassign m =>
    match s.planner with
    | .reassigning seq ref =>
      (s.assign cfg m seq).map fun (leg, s) =>
        { s with planner := .pushing seq (leg.getD ref) }
    | _ => none
  | .finish =>
    match s.planner with
    | .enqueued seq =>
      some
        { s with
          carrier := { s.carrier with ledger := s.carrier.ledger.finishLocalEnqueue seq }
          planner := .idle }
    | _ => none

/-- A step of the feeder of `id`. -/
def feederStep (cfg : Config) (s : State) (id : LegID) : FeederAct → Option State
  | .pop =>
    match s.feeders id, s.pending id with
    | .idle, seq :: rest =>
      let s' := s.setFeeder id (.holding seq)
      some { s'.wakeAll with pending := update s.pending id rest }
    | _, _ => none
  | .done =>
    match s.feeders id with
    | .holding seq =>
      if seq ∈ s.carrier.ledger.outstanding then none else some (s.setFeeder id .idle)
    | _ => none
  | .assign m =>
    match s.feeders id with
    | .holding seq =>
      (s.assign cfg m seq).map fun (leg, s) =>
        match leg with
        | some ref => s.setFeeder id (.assigned seq ref)
        | none => s.setFeeder id (.failed seq)
    | _ => none
  | .tryQueue =>
    match s.feeders id with
    | .assigned seq ref =>
      (s.begin cfg (.feeder id) seq ref false false (-1)).map fun s =>
        s.setFeeder id (.calling seq)
    | _ => none
  | .return =>
    match s.feeders id with
    | .calling seq =>
      (s.result (.feeder id)).map fun (ok, s) =>
        s.setFeeder id (if ok then .idle else .failed seq)
    | _ => none
  | .check =>
    match s.feeders id with
    | .failed seq =>
      some (s.setFeeder id (if benchmarkPendingOnly s seq then .waiting seq else .idle))
    | _ => none
  | .wake =>
    match s.feeders id with
    | .waiting seq => (s.takeWake id).map fun s => s.setFeeder id (.holding seq)
    | _ => none

/-- A step of the `i`-th call of `reassignFailedPending`. -/
def reassignStep (cfg : Config) (s : State) (i : Nat) : ReassignAct → Option State
  | .pop =>
    match (s.reassigns i).2, s.pending (s.reassigns i).1 with
    | .popping, seq :: rest =>
      some
        { s.setReassign i (.popped seq) with
          pending := update s.pending (s.reassigns i).1 rest }
    | _, _ => none
  | .assign m =>
    match (s.reassigns i).2 with
    | .popped seq =>
      match s.assignments seq with
      | none => some (s.setReassign i .popping)
      | some _ =>
        (s.assign cfg m seq).map fun (leg, s) =>
          match leg with
          | some ref => s.setReassign i (.pushing seq ref)
          | none => s.setReassign i .returned
    | _ => none
  | .push =>
    match (s.reassigns i).2 with
    | .pushing seq ref => (s.push cfg seq ref).map fun s => s.setReassign i .popping
    | _ => none
  | .wake =>
    match (s.reassigns i).2 with
    | .pushing _ ref => s.takeWake (s.carrier.legs ref).id
    | _ => none
  | .stop =>
    match (s.reassigns i).2, s.pending (s.reassigns i).1 with
    | .popping, [] => some (s.setReassign i .returned)
    | _, _ => none

/-- A step of `retransmitLoop`; which record a frontier rescue takes is left open. -/
def retryStep (cfg : Config) (s : State) : RetryAct → Option State
  | .plan =>
    match s.retry with
    | .idle =>
      if s.carrier.live.count = 0 then none
      else
        some
          { s with
            retry := .retrying
              ((s.carrier.ledger.planRetries s.carrier.live).map (·.sequence)) }
    | _ => none
  | .try ref =>
    match s.retry with
    | .retrying (seq :: todo) =>
      if benchmarkPendingOnly s seq then none
      else
        (s.begin cfg .retransmit seq ref false true (-1)).map fun s =>
          { s with retry := .retryCalling (seq :: todo) }
    | _ => none
  | .next =>
    match s.retry with
    | .retrying (_ :: todo) => some { s with retry := .retrying todo }
    | _ => none
  | .return =>
    match s.retry with
    | .retryCalling todo =>
      (s.result .retransmit).map fun (ok, s) =>
        { s with retry := .retrying (if ok then todo.tail else todo) }
    | _ => none
  | .done =>
    match s.retry with
    | .retrying [] => some { s with retry := .idle }
    | _ => none
  | .rescue seq ref owner =>
    match s.retry with
    | .idle =>
      if seq ∈ s.carrier.ledger.outstanding ∧
          (cfg.slowLegProtection ∨ ¬ benchmarkPendingOnly s seq) then
        (s.begin cfg .retransmit seq ref true false owner).map fun s =>
          { s with retry := .rescueCalling }
      else none
    | _ => none
  | .rescueReturn =>
    match s.retry with
    | .rescueCalling => (s.result .retransmit).map fun (_, s) => { s with retry := .idle }
    | _ => none

/-- `admitted.Store(true)`, if the record has an assignment. -/
def State.setAdmitted (s : State) (seq : Nat) : State :=
  { s with
    assignments := update s.assignments seq
      ((s.assignments seq).map fun a => { a with admitted := true }) }

/-- A later step of a `tryQueue` call, with the bookkeeping of the decoupled mode. -/
def tryQueueStep (cfg : Config) (s : State) (k : Caller) (a : CallAct) : Option State := do
  let c ← s.carrier.calls k
  let carrier ← callStep cfg.carrier s.carrier k a
  let s' := { s with carrier := carrier }
  match a with
  | .begin .. => none
  | .enqueue => some { s' with accepted := ⟨c.seq, c.ref, k⟩ :: s.accepted }
  | .note => if c.retry ∨ c.rescue then some s' else some (s'.setAdmitted c.seq)
  | _ => some s'

/-- A step of a leg's life: the first attach of an id starts its feeder, and a failure ends
with a call of `reassignFailedPending`. -/
def lifeStep (cfg : Config) (s : State) (a : LegAct) : Option State :=
  (legStep cfg.carrier s.carrier a).map fun carrier =>
    let s' := { s with carrier := carrier }
    match a with
    | .attachLeg id => if s.feeders id = .absent then s'.setFeeder id .idle else s'
    | .invalidate ref =>
      { s' with
        reassigns := update s.reassigns s.spawned
          ((s.carrier.legs ref).id, .popping)
        spawned := s.spawned + 1 }
    | _ => s'

def step (cfg : Config) (s : State) : Act → Option State
  | .planner a => plannerStep cfg s a
  | .feeder id a => feederStep cfg s id a
  | .reassign i a => reassignStep cfg s i a
  | .retry a => retryStep cfg s a
  | .call k a => tryQueueStep cfg s k a
  | .writer ref a =>
    if ref < s.carrier.nextRef then
      (writerStep cfg.carrier s.carrier ref a).map fun carrier => { s with carrier := carrier }
    else none
  | .leg a => lifeStep cfg s a
  | .ack next now =>
    some
      { s with
        carrier := { s.carrier with ledger := (s.carrier.ledger.applyACK next now).1 } }
  | .admission id state =>
    if cfg.slowLegProtection then
      some { s with
        books := { s.books with admission := update s.books.admission id state } }
    else none
  | .wakeDecoupled => some s.wakeAll

/-- How many of the planner, the pending queues, the feeders and the running
`reassignFailedPending` calls hold a record. -/
def State.holders (s : State) (cfg : Config) (seq : Nat) : Nat :=
  s.planner.held.count seq + tally s.pending (Finset.range cfg.maxActiveLegs) seq +
    tally (Feeder.held ∘ s.feeders) (Finset.range cfg.maxActiveLegs) seq +
    tally (fun i => (s.reassigns i).2.held) (Finset.range s.spawned) seq

/-- Two legs without slow-leg protection. -/
def twoLegConfig : Config :=
  { maxActiveLegs := 2
    queueFrames := 4
    pendingFrames := 4
    chunkSize := 1024
    maxInflightFrames := 8
    slowLegProtection := false
    boundedRescue := false
    epochRebase := true
    capacity := false
    holCompletion := false
    maxActiveLegs_pos := Nat.two_pos
    maxActiveLegs_le := two_le_maxStreamLegIDCount
    pendingFrames_pos := four_frames_pos
    maxInflightFrames_pos := by decide }

/-- Every leg has the same weight and no delay. -/
def evenLegs : Measured :=
  { now := 5
    weight := fun _ => 1
    penalty := fun _ => 0
    completionEstimate := fun _ => 0
    ordinaryByteBudget := fun _ => 1000
    legGeneration := fun _ => 1 }

/-- The planner moves a one-byte chunk to the pending queue of its leg. -/
def planChunk (m : Measured) (byte : UInt8) : List Act :=
  [.planner (.add [byte] 1 false), .planner .publish, .planner (.assign m), .planner .push,
    .planner .finish]

/-- A leg fails, up to the call of `reassignFailedPending`. -/
def legFails (ref : Ref) : List Act :=
  [.leg (.fail ref), .leg (.closeConn ref), .leg (.remove ref), .leg (.invalidate ref)]

end Smp3Multipath.Core.Decoupled

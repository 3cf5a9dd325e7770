import Mathlib

/-!
# The transmit ledger

A translation of `StreamTXLedger`.  A record pointer of the source is the
record's sequence here: the ledger never reuses a sequence, so the pointer test
`l.outstanding[record.sequence] == record` is membership of the sequence in
`outstanding`.  `record` is the heap of every record ever created, retired ones
included, since queued attempts may still point to them.

Times are natural numbers with `0` for the zero `time.Time`.  The three
per-leg counters are integers, so that an underflow would show as a negative
value.  Trace fields, the evidence ring and the two-entry compatibility mirrors
of the ACK result carry no state that another operation reads and are left out.
-/

namespace Smp3Multipath.Core

/-- A clock reading; `0` is the zero `time.Time`. -/
abbrev Time := Nat

/-- A carrier leg id (a byte on the wire). -/
abbrev LegID := Nat

def maxStreamLegIDCount : Nat := 256

theorem one_le_maxStreamLegIDCount : 1 ≤ maxStreamLegIDCount := by decide

theorem two_le_maxStreamLegIDCount : 2 ≤ maxStreamLegIDCount := by decide

theorem four_frames_pos : 0 < 4 := by decide

/-- `streamProofBudget`, in nanoseconds. -/
def streamProofBudget : Int := 700000000

/-- One DATA record with its attempt state. -/
structure StreamTXRecord where
  sequence : Nat
  payload : List UInt8
  createdAt : Time := 0
  lastSentAt : Time := 0
  lastSentLeg : Int := -1
  lastSentAttemptAt : Time := 0
  inTransit : Bool := false
  transitLeg : LegID := 0
  transitSince : Time := 0
  rescueInTransit : Bool := false
  rescueLeg : LegID := 0
  rescueSince : Time := 0
  lastRescueAt : Time := 0
  /-- A `uint32` in the source: the same up to `2 ^ 32 - 1` sends of the record. -/
  sendCount : Nat := 0
  ordinaryOwner : Int := -1
  ordinaryAdmitted : Bool := false
  assignedAt : Time := 0
  firstWriteAt : Time := 0
  frontierAt : Time := 0
  originGeneration : Nat := 0
  originEpoch : Nat := 0
  invalidated : Bool := false
  duplicated : Bool := false
  localEnqueue : Bool := false
  recoveryProbeWriteStartedAt : Option Time := none
deriving DecidableEq

/-- The ledger: sequencing, the outstanding map and the per-leg counters. -/
structure StreamTXLedger where
  nextSequence : Nat
  ackedNext : Nat
  outstanding : List Nat
  record : Nat → StreamTXRecord
  futureACKCount : Nat
  lastACKProgress : Time
  maxLegs : Nat
  ordinaryFrames : List Int
  ordinaryBytes : List Int
  pendingBytes : List Int

/-- Whether an ACK was future, old or advancing. -/
inductive StreamTXACKDisposition where
  | noProgress
  | advanced
  | future
deriving DecidableEq

/-- Why a retired record is no recovery proof. -/
structure ProofRejected where
  duplicate : Nat := 0
  neverWritten : Nat := 0
  lateFrontier : Nat := 0
deriving DecidableEq

/-- The per-leg view of one applied ACK. -/
structure StreamTXACKLegResult where
  ackedBytes : Nat := 0
  uniqueTimely : Nat := 0
  uniqueGeneration : Nat := 0
  uniqueOrdered : Nat := 0
  uniqueBytes : Nat := 0
  feedbackMin : Int := 0
  feedbackMax : Int := 0
  beforeOrdinaryFrames : Int := 0
  beforeOrdinaryBytes : Int := 0
  proofRejected : ProofRejected := {}
  sampleBytes : Nat := 0
  sampleAssignedMin : Time := 0
deriving DecidableEq

/-- The result of applying one cumulative ACK. -/
structure StreamTXACKResult where
  disposition : StreamTXACKDisposition := .noProgress
  next : Nat
  max : Nat
  futureCount : Nat := 0
  released : Nat := 0
  retiredBytes : Nat := 0
  ackedNext : Nat
  lastACKProgress : Time
  perLeg : List StreamTXACKLegResult := []
deriving DecidableEq

/-- The side effects of one completed DATA attempt. -/
structure StreamTXAttemptResult where
  applied : Bool := false
  bytes : Nat := 0
  retransmit : Bool := false
deriving DecidableEq

namespace StreamTXLedger

def newStreamTXLedger (maxLegs : Nat) : StreamTXLedger :=
  let legs := min (if maxLegs < 1 then 2 else maxLegs) maxStreamLegIDCount
  { nextSequence := 0
    ackedNext := 0
    outstanding := []
    record := fun seq => { sequence := seq, payload := [] }
    futureACKCount := 0
    lastACKProgress := 0
    maxLegs := legs
    ordinaryFrames := List.replicate legs 0
    ordinaryBytes := List.replicate legs 0
    pendingBytes := List.replicate legs 0 }

/-- Extend a per-leg counter slice with zeros up to `n` entries. -/
def growTo (n : Nat) (xs : List Int) : List Int :=
  xs ++ List.replicate (n - xs.length) 0

def ensureLocked (l : StreamTXLedger) : StreamTXLedger :=
  let legs := max l.maxLegs 2
  if l.ordinaryFrames.length < legs then
    { l with
      maxLegs := legs
      ordinaryFrames := growTo legs l.ordinaryFrames
      ordinaryBytes := growTo legs l.ordinaryBytes
      pendingBytes := growTo legs l.pendingBytes }
  else
    { l with maxLegs := legs }

/-- `ensureLegLocked`; `none` when the id is out of range. -/
def ensureLegLocked (l : StreamTXLedger) (id : LegID) : Option StreamTXLedger :=
  let l := l.ensureLocked
  if maxStreamLegIDCount ≤ id then
    none
  else if id + 1 ≤ l.maxLegs then
    some l
  else if l.ordinaryFrames.length < id + 1 then
    -- all three slices grow by the deficit of `ordinaryFrames`
    let zeros := List.replicate (id + 1 - l.ordinaryFrames.length) 0
    some { l with
      maxLegs := id + 1
      ordinaryFrames := l.ordinaryFrames ++ zeros
      ordinaryBytes := l.ordinaryBytes ++ zeros
      pendingBytes := l.pendingBytes ++ zeros }
  else
    some { l with maxLegs := id + 1 }

/-- Replace one record of the heap by its image under `f`. -/
def modifyRecord
    (l : StreamTXLedger) (seq : Nat)
    (f : StreamTXRecord → StreamTXRecord) : StreamTXLedger :=
  { l with record := Function.update l.record seq (f (l.record seq)) }

/-- `add`: allocate the next sequence; the new record is the old `nextSequence`. -/
def add
    (l : StreamTXLedger) (payload : List UInt8) (now : Time)
    (isLocal : Bool) : StreamTXLedger × Nat :=
  let l := l.ensureLocked
  let seq := l.nextSequence
  let record : StreamTXRecord :=
    { sequence := seq
      localEnqueue := isLocal
      payload := payload
      createdAt := now
      frontierAt := if seq = l.ackedNext then now else 0 }
  ({ l with
      nextSequence := seq + 1
      record := Function.update l.record seq record
      outstanding := l.outstanding.insert seq }, seq)

def addLocal
    (l : StreamTXLedger) (payload : List UInt8) (now : Time) :
    StreamTXLedger × Nat :=
  l.add payload now true

/-- `finishLocalEnqueue`; the only record write without an outstanding test. -/
def finishLocalEnqueue (l : StreamTXLedger) (seq : Nat) : StreamTXLedger :=
  l.modifyRecord seq fun r => { r with localEnqueue := false }

/-- Does the record depend on the leg in any of the four ways counted for a drain? -/
def dependsOnLeg (r : StreamTXRecord) (id : LegID) : Bool :=
  r.ordinaryOwner == (id : Int) || r.lastSentLeg == (id : Int) ||
    (r.inTransit && r.transitLeg == id) ||
    (r.rescueInTransit && r.rescueLeg == id)

def outstandingForLeg (l : StreamTXLedger) (id : LegID) : Nat :=
  (l.outstanding.filter fun seq => dependsOnLeg (l.record seq) id).length

def outstandingBytesForLeg (l : StreamTXLedger) (id : LegID) : Nat :=
  ((l.outstanding.filter fun seq => dependsOnLeg (l.record seq) id).map
    fun seq => (l.record seq).payload.length).sum

/-- A normal claim taken: a record sent before counts as duplicated. -/
def claimNormal (leg : LegID) (now : Time) (r : StreamTXRecord) : StreamTXRecord :=
  { r with
    inTransit := true
    duplicated := r.duplicated || decide (0 < r.sendCount)
    transitLeg := leg
    transitSince := now }

/-- A rescue claim taken: an alternate copy makes the winner unknown. -/
def claimRescue (leg : LegID) (now : Time) (r : StreamTXRecord) : StreamTXRecord :=
  { r with
    rescueInTransit := true
    duplicated := true
    rescueLeg := leg
    rescueSince := now }

/-- `MarkTransit`; `none` when the claim is refused. -/
def markTransit
    (l : StreamTXLedger) (seq : Nat) (leg : LegID) (now : Time) :
    Option StreamTXLedger :=
  if seq ∉ l.outstanding ∨ (l.record seq).inTransit then
    none
  else
    some (l.modifyRecord seq (claimNormal leg now))

/-- `markRescueTransitLocked`; `none` when the claim is refused. -/
def markRescueTransitLocked
    (l : StreamTXLedger) (seq : Nat) (leg : LegID) (now : Time) :
    Option StreamTXLedger :=
  if seq ∉ l.outstanding ∨ (l.record seq).rescueInTransit then
    none
  else if (l.record seq).inTransit ∧ (l.record seq).transitLeg = leg then
    none
  else
    some (l.modifyRecord seq (claimRescue leg now))

def markRescueTransit
    (l : StreamTXLedger) (seq : Nat) (leg : LegID) (now : Time) :
    Option StreamTXLedger :=
  l.markRescueTransitLocked seq leg now

def markRestrictedRescueTransit
    (l : StreamTXLedger) (seq : Nat) (leg : LegID) (owner : Int)
    (now : Time) : Option StreamTXLedger :=
  if (l.record seq).ordinaryOwner ≠ owner then
    none
  else
    l.markRescueTransitLocked seq leg now

/-- `MarkRescueQueued`; `none` when it reports false. -/
def markRescueQueued
    (l : StreamTXLedger) (seq : Nat) (leg : LegID) (started : Time) :
    Option StreamTXLedger :=
  let r := l.record seq
  let pending := r.rescueInTransit && r.rescueLeg == leg && r.rescueSince == started
  let sent := r.lastSentAttemptAt == started
  if seq ∉ l.outstanding ∨ (!pending && !sent) then
    none
  else
    some <| l.modifyRecord seq fun r => { r with lastRescueAt := started }

/-- A rescue claim given up: an exactly committed cooldown is rolled back. -/
def dropRescueClaim (r : StreamTXRecord) : StreamTXRecord :=
  { r with
    lastRescueAt := if r.lastRescueAt = r.rescueSince then 0 else r.lastRescueAt
    rescueInTransit := false
    rescueSince := 0 }

/-- A normal claim given up. -/
def dropNormalClaim (r : StreamTXRecord) : StreamTXRecord :=
  { r with inTransit := false, transitSince := 0 }

/-- `clearAttemptAt`; a zero `started` clears whatever claim is on the leg. -/
def clearAttemptAt
    (l : StreamTXLedger) (seq : Nat) (leg : LegID) (rescue : Bool)
    (started : Time) : StreamTXLedger :=
  let r := l.record seq
  if seq ∉ l.outstanding then
    l
  else if rescue then
    if r.rescueInTransit ∧ r.rescueLeg = leg ∧
        (started = 0 ∨ r.rescueSince = started) then
      l.modifyRecord seq dropRescueClaim
    else
      l
  else if r.inTransit ∧ r.transitLeg = leg ∧
      (started = 0 ∨ r.transitSince = started) then
    l.modifyRecord seq dropNormalClaim
  else
    l

def attemptCurrent
    (l : StreamTXLedger) (seq : Nat) (leg : LegID) (rescue : Bool) : Bool :=
  let r := l.record seq
  decide (seq ∈ l.outstanding) &&
    if rescue then r.rescueInTransit && r.rescueLeg == leg
    else r.inTransit && r.transitLeg == leg

/-- The record part of `MarkAttemptSent` once the claim was consumed. -/
def commitSend
    (r : StreamTXRecord) (leg : LegID) (attemptStarted now : Time) :
    StreamTXRecord :=
  let attemptStarted := if attemptStarted = 0 then now else attemptStarted
  let latest := r.lastSentAttemptAt = 0 ∨ r.lastSentAttemptAt ≤ attemptStarted
  { r with
    lastSentAttemptAt := if latest then attemptStarted else r.lastSentAttemptAt
    lastSentAt := if latest then now else r.lastSentAt
    lastSentLeg := if latest then (leg : Int) else r.lastSentLeg
    firstWriteAt := if r.firstWriteAt = 0 then attemptStarted else r.firstWriteAt
    sendCount := r.sendCount + 1 }

/-- A normal claim consumed by a completed write. -/
def sentNormal (leg : LegID) (now : Time) (r : StreamTXRecord) : StreamTXRecord :=
  commitSend (dropNormalClaim r) leg r.transitSince now

/-- A rescue claim consumed by a completed write; the cooldown stays committed. -/
def sentRescue (leg : LegID) (now : Time) (r : StreamTXRecord) : StreamTXRecord :=
  commitSend { r with rescueInTransit := false, rescueSince := 0 } leg r.rescueSince now

def markAttemptSent
    (l : StreamTXLedger) (seq : Nat) (leg : LegID) (rescue : Bool)
    (now : Time) : StreamTXLedger × StreamTXAttemptResult :=
  let r := l.record seq
  let result : StreamTXAttemptResult :=
    { applied := true
      bytes := r.payload.length
      retransmit := rescue || decide (1 < r.sendCount + 1) }
  if seq ∉ l.outstanding then
    (l, {})
  else if rescue then
    if ¬ r.rescueInTransit ∨ r.rescueLeg ≠ leg then
      (l, {})
    else
      (l.modifyRecord seq (sentRescue leg now), result)
  else if ¬ r.inTransit ∨ r.transitLeg ≠ leg then
    (l, {})
  else
    (l.modifyRecord seq (sentNormal leg now), result)

/-- What `InvalidateLeg` does to one outstanding record. -/
def invalidateRecord (leg : LegID) (r : StreamTXRecord) : StreamTXRecord :=
  let r :=
    if r.ordinaryOwner = (leg : Int) then
      { r with duplicated := true, invalidated := true }
    else r
  let r := if r.inTransit ∧ r.transitLeg = leg then dropNormalClaim r else r
  let r := if r.rescueInTransit ∧ r.rescueLeg = leg then dropRescueClaim r else r
  if r.lastSentLeg = (leg : Int) then { r with lastSentLeg := -1 } else r

def invalidateLeg (l : StreamTXLedger) (leg : LegID) : StreamTXLedger :=
  { l with
    record := fun seq =>
      if seq ∈ l.outstanding then invalidateRecord leg (l.record seq)
      else l.record seq }

def markOrdinaryAdmitted
    (l : StreamTXLedger) (seq : Nat) (id : LegID) : StreamTXLedger :=
  match l.ensureLegLocked id with
  | none => l.ensureLocked
  | some l =>
    let r := l.record seq
    if seq ∉ l.outstanding ∨ r.ordinaryOwner ≠ (id : Int) ∨ r.ordinaryAdmitted then
      l
    else
      { l.modifyRecord seq fun r => { r with ordinaryAdmitted := true } with
        pendingBytes := l.pendingBytes.modify id (· - (r.payload.length : Int)) }

/-- Take a record's frame and bytes off the counters of its ordinary owner. -/
def releaseOrdinary
    (l : StreamTXLedger) (owner : Nat) (r : StreamTXRecord) : StreamTXLedger :=
  { l with
    ordinaryFrames := l.ordinaryFrames.modify owner (· - 1)
    ordinaryBytes := l.ordinaryBytes.modify owner (· - (r.payload.length : Int))
    pendingBytes :=
      if r.ordinaryAdmitted then l.pendingBytes
      else l.pendingBytes.modify owner (· - (r.payload.length : Int)) }

/-- Put a record's frame and bytes on the counters of a new ordinary owner. -/
def chargeOrdinary
    (l : StreamTXLedger) (owner : Nat) (r : StreamTXRecord) : StreamTXLedger :=
  { l with
    ordinaryFrames := l.ordinaryFrames.modify owner (· + 1)
    ordinaryBytes := l.ordinaryBytes.modify owner (· + (r.payload.length : Int))
    pendingBytes :=
      if r.ordinaryAdmitted then l.pendingBytes
      else l.pendingBytes.modify owner (· + (r.payload.length : Int)) }

/-- A record handed to a new ordinary owner. -/
def takeOwner (id : LegID) (now : Time) (r : StreamTXRecord) : StreamTXRecord :=
  { r with ordinaryOwner := (id : Int), assignedAt := now }

/-- `assignOrdinary`; the Boolean is the reported success. -/
def assignOrdinary
    (l : StreamTXLedger) (seq : Nat) (id : LegID) (now : Time) :
    StreamTXLedger × Bool :=
  match l.ensureLegLocked id with
  | none => (l.ensureLocked, false)
  | some l =>
    let r := l.record seq
    if seq ∉ l.outstanding then
      (l, false)
    else if r.ordinaryOwner = (id : Int) then
      (l, true)
    else
      let l :=
        if 0 ≤ r.ordinaryOwner then l.releaseOrdinary r.ordinaryOwner.toNat r else l
      ((l.modifyRecord seq (takeOwner id now)).chargeOrdinary id r, true)

def markWriteStarted
    (l : StreamTXLedger) (seq : Nat) (leg : LegID) (rescue : Bool)
    (now : Time) : StreamTXLedger :=
  let r := l.record seq
  if seq ∈ l.outstanding ∧ ¬ rescue ∧ r.inTransit ∧ r.transitLeg = leg ∧
      r.firstWriteAt = 0 then
    l.modifyRecord seq fun r => { r with firstWriteAt := now }
  else
    l

def setOrigin
    (l : StreamTXLedger) (seq generation : Nat) (epoch : Time) :
    StreamTXLedger :=
  if seq ∈ l.outstanding then
    l.modifyRecord seq fun r =>
      { r with originGeneration := generation, originEpoch := epoch }
  else
    l

/-- `recoveryProbeWriteStartedAt.Store`, an atomic store outside the ledger lock. -/
def storeRecoveryProbeWriteStartedAt
    (l : StreamTXLedger) (seq : Nat) (startedAt : Option Time) :
    StreamTXLedger :=
  l.modifyRecord seq fun r => { r with recoveryProbeWriteStartedAt := startedAt }

section ApplyACK

/-- The leg that a retired record's bytes are attributed to, negative for none. -/
def ackLeg (r : StreamTXRecord) : Int :=
  let leg := if r.lastSentLeg < 0 ∧ r.inTransit then (r.transitLeg : Int) else r.lastSentLeg
  if leg < 0 ∧ 0 ≤ r.ordinaryOwner then r.ordinaryOwner else leg

/-- Attribute a retired record's bytes, and its clean sample, to its ACK leg. -/
def attributeAcked
    (perLeg : List StreamTXACKLegResult) (r : StreamTXRecord) :
    List StreamTXACKLegResult :=
  if 0 ≤ ackLeg r ∧ (ackLeg r).toNat < perLeg.length then
    perLeg.modify (ackLeg r).toNat fun p =>
      let p := { p with ackedBytes := p.ackedBytes + r.payload.length }
      if 0 ≤ r.ordinaryOwner ∧ ¬ r.duplicated ∧ r.firstWriteAt ≠ 0 then
        { p with
          sampleBytes := p.sampleBytes + r.payload.length
          sampleAssignedMin :=
            if r.assignedAt ≠ 0 ∧
                (p.sampleAssignedMin = 0 ∨ r.assignedAt < p.sampleAssignedMin) then
              r.assignedAt
            else p.sampleAssignedMin }
      else p
  else
    perLeg

/-- Was the record held back only by a cleanly sent head of another owner? -/
def behindCleanHead (head : Option StreamTXRecord) (r : StreamTXRecord) : Bool :=
  match head with
  | none => false
  | some h =>
    h.sequence != r.sequence && h.ordinaryOwner != r.ordinaryOwner &&
      !h.duplicated && h.firstWriteAt != 0

/-- Is the elapsed time within the proof budget? -/
def withinProofBudget (now since : Time) : Bool :=
  decide ((now : Int) - (since : Int) ≤ streamProofBudget)

/-- Classify a retired record as a recovery proof of its ordinary owner. -/
def classifyProof
    (now : Time) (head : Option StreamTXRecord) (r : StreamTXRecord)
    (p : StreamTXACKLegResult) : StreamTXACKLegResult :=
  if r.duplicated ∨ 1 < r.sendCount then
    { p with proofRejected.duplicate := p.proofRejected.duplicate + 1 }
  else if r.firstWriteAt = 0 then
    { p with proofRejected.neverWritten := p.proofRejected.neverWritten + 1 }
  else
    let proofStartedAt := r.recoveryProbeWriteStartedAt.getD r.firstWriteAt
    let age : Int := (now : Int) - (proofStartedAt : Int)
    let ordered :=
      (r.frontierAt != 0 && withinProofBudget now r.frontierAt) || behindCleanHead head r
    let p :=
      { p with
        uniqueGeneration := r.originGeneration
        feedbackMax := if p.feedbackMax < age then age else p.feedbackMax
        feedbackMin :=
          if 0 < age ∧ (p.feedbackMin = 0 ∨ age < p.feedbackMin) then age
          else p.feedbackMin }
    let p :=
      if proofStartedAt ≠ 0 ∧ withinProofBudget now proofStartedAt then
        { p with uniqueTimely := p.uniqueTimely + 1 }
      else if ordered then
        { p with uniqueOrdered := p.uniqueOrdered + 1 }
      else
        { p with proofRejected.lateFrontier := p.proofRejected.lateFrontier + 1 }
    if r.assignedAt ≠ 0 ∧ (withinProofBudget now proofStartedAt ∨ ordered) then
      { p with uniqueBytes := p.uniqueBytes + r.payload.length }
    else p

/-- The body of the retirement loop of `ApplyACK` for one sequence. -/
def retireOne
    (now : Time) (head : Option StreamTXRecord)
    (st : StreamTXLedger × StreamTXACKResult) (seq : Nat) :
    StreamTXLedger × StreamTXACKResult :=
  let l := st.1
  let result := st.2
  if seq ∉ l.outstanding then
    st
  else
    let r := l.record seq
    let perLeg := attributeAcked result.perLeg r
    let retired := { l with outstanding := l.outstanding.filter (· ≠ seq) }
    let result :=
      { result with
        retiredBytes := result.retiredBytes + r.payload.length
        released := result.released + 1 }
    if 0 ≤ r.ordinaryOwner ∧ r.ordinaryOwner.toNat < l.ordinaryFrames.length then
      (retired.releaseOrdinary r.ordinaryOwner.toNat r,
        { result with
          perLeg := perLeg.modify r.ordinaryOwner.toNat (classifyProof now head r) })
    else
      (retired, { result with perLeg := perLeg })

/-- A record that became the cumulative-ACK blocker. -/
def stampFrontier (now : Time) (r : StreamTXRecord) : StreamTXRecord :=
  { r with frontierAt := now }

/-- The record newly exposed at the frontier gets its frontier timestamp. -/
def exposeFrontier (l : StreamTXLedger) (now : Time) : StreamTXLedger :=
  if l.ackedNext ∈ l.outstanding ∧ (l.record l.ackedNext).frontierAt = 0 then
    l.modifyRecord l.ackedNext (stampFrontier now)
  else
    l

/-- The frontier record at the start of an ACK. -/
def ackHead (l : StreamTXLedger) : Option StreamTXRecord :=
  if l.ackedNext ∈ l.outstanding then some (l.record l.ackedNext) else none

/-- The result record of an advancing ACK before any retirement. -/
def advancedResult (l : StreamTXLedger) (next : Nat) : StreamTXACKResult :=
  { disposition := .advanced
    next := next
    max := l.nextSequence
    ackedNext := next
    lastACKProgress := l.lastACKProgress
    perLeg := (List.range l.maxLegs).map fun id =>
      { beforeOrdinaryFrames := l.ordinaryFrames.getD id 0
        beforeOrdinaryBytes := l.ordinaryBytes.getD id 0 } }

/-- The retirement loop of `ApplyACK` over `[ackedNext, next)`. -/
def retireThrough
    (l : StreamTXLedger) (next : Nat) (now : Time) :
    StreamTXLedger × StreamTXACKResult :=
  (List.range' l.ackedNext (next - l.ackedNext)).foldl
    (retireOne now l.ackHead) (l, l.advancedResult next)

/-- The advancing branch of `ApplyACK`. -/
def advanceACK
    (l : StreamTXLedger) (next : Nat) (now : Time) :
    StreamTXLedger × StreamTXACKResult :=
  let retired := l.retireThrough next now
  let l' := exposeFrontier { retired.1 with ackedNext := next } now
  if 0 < retired.2.released then
    ({ l' with lastACKProgress := now }, { retired.2 with lastACKProgress := now })
  else
    (l', retired.2)

def applyACK
    (l : StreamTXLedger) (next : Nat) (now : Time) :
    StreamTXLedger × StreamTXACKResult :=
  let l := l.ensureLocked
  let result : StreamTXACKResult :=
    { next := next, max := l.nextSequence, ackedNext := l.ackedNext
      lastACKProgress := l.lastACKProgress }
  if l.nextSequence < next then
    ({ l with futureACKCount := l.futureACKCount + 1 },
      { result with disposition := .future, futureCount := l.futureACKCount + 1 })
  else if next ≤ l.ackedNext then
    (l, result)
  else
    l.advanceACK next now

end ApplyACK

end StreamTXLedger
end Smp3Multipath.Core

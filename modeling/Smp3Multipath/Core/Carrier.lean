import Smp3Multipath.Core.LedgerClaims
import Smp3Multipath.Core.StreamRepair
import Smp3Multipath.Lib.Run

/-!
# Carriers

The legs of one engine with everything that moves an attempt: `tryQueue` and
`tryQueueRescueOwnedAttempt` up to their every return, the send and rescue
queues, `legWriteLoop`, `handleLegFailure` with `InvalidateLeg`, the retirement
of the old workers and `attachLeg`, and the retirement of a drained leg.

A leg pointer of the source is a `Ref`; every attach allocates a new one, so a
reference is one generation of its leg id.  Who calls `tryQueue` is a parameter:
`κ` names the goroutines, each with at most one call in progress.  The source's
race windows are steps of their own: between the closed test and the claim, the
claim and the queue, the queue and the second closed test, between a carrier
write and its commit, and between the parts of a leg failure.
-/

namespace Smp3Multipath.Core.Carrier

open Lib.Run Function

/-- A leg pointer. -/
abbrev Ref := Nat

/-- What the carriers read of the engine's configuration. -/
structure Config where
  maxActiveLegs : Nat
  queueFrames : Nat
  slowLegProtection : Bool
  boundedRescue : Bool

/-- The capacity of a leg's `rescue` channel. -/
def rescueCap : Nat := 8

/-- `txSendAttempt`. -/
structure Attempt where
  seq : Nat
  rescue : Bool
  started : Time
deriving DecidableEq

/-- Where `legWriteLoop` is; `held` is an ordinary attempt taken off the queue before a
rescue that goes first. -/
inductive Writer where
  | idle
  /-- Took an ordinary attempt and looks at the priority lanes once more. -/
  | deferred (a : Attempt)
  /-- In `writeAttempt`, before its `attemptCurrent` test. -/
  | picked (a : Attempt) (held : Option Attempt)
  /-- In the carrier write, begun before the connection was closed or after. -/
  | writing (a : Attempt) (held : Option Attempt) (onOpen : Bool)
  /-- About to call `handleLegFailure`. -/
  | failing (held : Option Attempt)
  | exited (held : Option Attempt)
deriving DecidableEq

/-- The attempts a writer has taken off its queues. -/
def Writer.attempts : Writer → List Attempt
  | .idle => []
  | .deferred a => [a]
  | .picked a held => a :: held.toList
  | .writing a held _ => a :: held.toList
  | .failing held => held.toList
  | .exited held => held.toList

/-- What a writer does after an attempt it is done with. -/
def Writer.next : Option Attempt → Writer
  | none => .idle
  | some a => .picked a none

/-- How far the end of a leg has come. -/
inductive Stage where
  | live
  /-- `closed` is set and `done` is closed. -/
  | closing
  | connClosed
  /-- Out of the leg map, `InvalidateLeg` not yet called. -/
  | removed
  | invalidated
  /-- Retired by a coordinated drain, without `InvalidateLeg`. -/
  | drained
deriving DecidableEq

/-- Is a leg of this stage still in the leg map? -/
def Stage.attached : Stage → Bool
  | .live | .closing | .connClosed => true
  | _ => false

/-- Is the ledger still to be told about the end of the leg? -/
def Stage.active : Stage → Bool
  | .invalidated | .drained => false
  | _ => true

/-- `streamLeg`. -/
structure Leg where
  id : LegID
  stage : Stage := .live
  draining : Bool := false
  send : List Attempt := []
  rescue : List Attempt := []
  writer : Writer := .idle
  readerExited : Bool := false
  retired : Bool := false

/-- Every attempt in the queues or the writer of a leg. -/
def Leg.attempts (leg : Leg) : List Attempt :=
  leg.send ++ (leg.rescue ++ leg.writer.attempts)

/-- `closed.Load()`. -/
def Leg.closed (leg : Leg) : Bool :=
  leg.stage != .live

/-- Where a `tryQueue` call is. -/
inductive CallStage where
  /-- The leg was open and not draining. -/
  | checked
  | marked (started : Time)
  /-- The queue accepted the attempt. -/
  | queued (started : Time)
  /-- The bookkeeping after the acceptance is done. -/
  | noted (started : Time)
  | returned (ok : Bool)
deriving DecidableEq

/-- One call of `tryQueue` or `tryQueueRescueOwnedAttempt`. -/
structure Call where
  seq : Nat
  ref : Ref
  rescue : Bool
  retry : Bool
  /-- The restricted owner of a rescue, negative for none. -/
  owner : Int
  stage : CallStage
deriving DecidableEq

/-- Is the call between its two dispatch lock operations? -/
def CallStage.inside : CallStage → Bool
  | .returned _ => false
  | _ => true

/-- The carriers of one engine. -/
structure State (κ : Type) where
  ledger : StreamTXLedger
  legs : Ref → Leg
  nextRef : Ref
  attached : LegID → Option Ref
  retiring : LegID → Option Ref
  calls : κ → Option Call
  /-- The holders of each leg's `dispatchMu` for reading. -/
  readers : Ref → List κ
  /-- The leg that made the last send of each record. -/
  sentBy : Nat → Ref

/-- Steps of a `tryQueue` call. -/
inductive CallAct where
  | begin (seq : Nat) (ref : Ref) (rescue retry : Bool) (owner : Int)
  | mark (now : Time)
  | enqueue
  | abort
  | note
  | recheck
deriving DecidableEq

inductive WriterAct where
  | takeRescue
  | takeSend
  | rescueFirst
  | proceed
  | dropStale
  | beginWrite (now : Time)
  | writeOk (now : Time)
  | writeFail
  | notWritable
  | controlFail
  | exit
  | releaseRescue
deriving DecidableEq

inductive LegAct where
  | attachLeg (id : LegID)
  | fail (ref : Ref)
  | closeConn (ref : Ref)
  | remove (ref : Ref)
  | invalidate (ref : Ref)
  | readerExit (ref : Ref)
  | retire (ref : Ref)
  | setDraining (ref : Ref) (draining : Bool)
  | retireDrained (ref : Ref)
deriving DecidableEq

section Steps

variable {κ : Type} [DecidableEq κ]

/-- No leg was ever attached. -/
def init (κ : Type) (cfg : Config) : State κ :=
  { ledger := StreamTXLedger.newStreamTXLedger cfg.maxActiveLegs
    legs := fun _ => { id := 0 }
    nextRef := 0
    attached := fun _ => none
    retiring := fun _ => none
    calls := fun _ => none
    readers := fun _ => []
    sentBy := fun _ => 0 }

def State.setLeg (s : State κ) (ref : Ref) (leg : Leg) : State κ :=
  { s with legs := update s.legs ref leg }

def State.setCall (s : State κ) (k : κ) (c : Option Call) : State κ :=
  { s with calls := update s.calls k c }

/-- Return from a call, releasing the dispatch lock. -/
def State.returnCall (s : State κ) (k : κ) (c : Call) (ok : Bool) : State κ :=
  { s with
    calls := update s.calls k (some { c with stage := .returned ok })
    readers := update s.readers c.ref ((s.readers c.ref).erase k) }

/-- The ledger claim of a call. -/
def grant
    (l : StreamTXLedger) (c : Call) (leg : LegID) (now : Time) : Option StreamTXLedger :=
  if c.rescue then
    if 0 ≤ c.owner then l.markRestrictedRescueTransit c.seq leg c.owner now
    else l.markRescueTransit c.seq leg now
  else
    l.markTransit c.seq leg now

/-- What a call returns whose claim is refused. -/
def refusedResult (l : StreamTXLedger) (c : Call) : Bool :=
  decide (c.seq ∉ l.outstanding) || (c.rescue && (l.record c.seq).rescueInTransit)

/-- Is there room in the queue the call sends to? -/
def hasRoom (cfg : Config) (leg : Leg) (rescue : Bool) : Bool :=
  if rescue then decide (leg.rescue.length < rescueCap)
  else decide (leg.send.length < cfg.queueFrames)

/-- The queue the call sends to takes an attempt. -/
def pushAttempt (leg : Leg) (a : Attempt) : Leg :=
  if a.rescue then { leg with rescue := leg.rescue ++ [a] }
  else { leg with send := leg.send ++ [a] }

/-- The ledger part of the bookkeeping after an acceptance. -/
def noteAccepted
    (cfg : Config) (l : StreamTXLedger) (c : Call) (leg : LegID) (started : Time) :
    StreamTXLedger :=
  if c.rescue then (l.markRescueQueued c.seq leg started).getD l
  else if ¬ c.retry ∧ cfg.slowLegProtection then l.markOrdinaryAdmitted c.seq leg
  else l

/-- A step of the `tryQueue` call of `k`. -/
def callStep (cfg : Config) (s : State κ) (k : κ) : CallAct → Option (State κ)
  | .begin seq ref rescue retry owner =>
    let c : Call :=
      { seq := seq, ref := ref, rescue := rescue, retry := retry, owner := owner,
        stage := .checked }
    if s.calls k = none ∧ ref < s.nextRef then
      if (s.legs ref).closed ∨ (s.legs ref).draining then
        some (s.setCall k (some { c with stage := .returned false }))
      else
        some
          { s.setCall k (some c) with
            readers := update s.readers ref (k :: s.readers ref) }
    else none
  | .mark now => do
      let c ← s.calls k
      match c.stage with
      | .checked =>
        match grant s.ledger c (s.legs c.ref).id now with
        | some ledger =>
          some { s.setCall k (some { c with stage := .marked now }) with ledger := ledger }
        | none => some (s.returnCall k c (refusedResult s.ledger c))
      | _ => none
  | .enqueue => do
      let c ← s.calls k
      match c.stage with
      | .marked started =>
        if hasRoom cfg (s.legs c.ref) c.rescue then
          some ((s.setCall k (some { c with stage := .queued started })).setLeg c.ref
            (pushAttempt (s.legs c.ref)
              { seq := c.seq, rescue := c.rescue, started := started }))
        else none
      | _ => none
  | .abort => do
      -- `done` is closed, or the queue is full
      let c ← s.calls k
      match c.stage with
      | .marked started =>
        if (s.legs c.ref).closed ∨ ¬ hasRoom cfg (s.legs c.ref) c.rescue then
          some
            { s.returnCall k c false with
              ledger :=
                s.ledger.clearAttemptAt c.seq (s.legs c.ref).id c.rescue started }
        else none
      | _ => none
  | .note => do
      let c ← s.calls k
      match c.stage with
      | .queued started =>
        some
          { s.setCall k (some { c with stage := .noted started }) with
            ledger := noteAccepted cfg s.ledger c (s.legs c.ref).id started }
      | _ => none
  | .recheck => do
      let c ← s.calls k
      match c.stage with
      | .noted started =>
        if (s.legs c.ref).closed then
          some
            { s.returnCall k c false with
              ledger :=
                s.ledger.clearAttemptAt c.seq (s.legs c.ref).id c.rescue started }
        else
          some (s.returnCall k c true)
      | _ => none

/-- A step of the writer of `ref`. -/
def writerStep (cfg : Config) (s : State κ) (ref : Ref) : WriterAct → Option (State κ)
  | .takeRescue =>
    match (s.legs ref).writer, (s.legs ref).rescue with
    | .idle, a :: rest =>
      some (s.setLeg ref { s.legs ref with rescue := rest, writer := .picked a none })
    | _, _ => none
  | .takeSend =>
    match (s.legs ref).writer, (s.legs ref).send with
    | .idle, a :: rest =>
      some (s.setLeg ref { s.legs ref with send := rest, writer := .deferred a })
    | _, _ => none
  | .rescueFirst =>
    match (s.legs ref).writer, (s.legs ref).rescue with
    | .deferred a, r :: rest =>
      some (s.setLeg ref { s.legs ref with rescue := rest, writer := .picked r (some a) })
    | _, _ => none
  | .proceed =>
    match (s.legs ref).writer with
    | .deferred a => some (s.setLeg ref { s.legs ref with writer := .picked a none })
    | _ => none
  | .dropStale =>
    match (s.legs ref).writer with
    | .picked a held =>
      if s.ledger.attemptCurrent a.seq (s.legs ref).id a.rescue then none
      else some (s.setLeg ref { s.legs ref with writer := .next held })
    | _ => none
  | .beginWrite now =>
    match (s.legs ref).writer with
    | .picked a held =>
      if s.ledger.attemptCurrent a.seq (s.legs ref).id a.rescue then
        let onOpen := (s.legs ref).stage = .live ∨ (s.legs ref).stage = .closing
        some
          { s.setLeg ref { s.legs ref with writer := .writing a held (decide onOpen) } with
            ledger := s.ledger.markWriteStarted a.seq (s.legs ref).id a.rescue now }
      else none
    | _ => none
  | .writeOk now =>
    -- a write begun after the connection was closed fails
    match (s.legs ref).writer with
    | .writing a held true =>
      let lead := s.ledger.takesLead a.seq (s.legs ref).id a.rescue now
      some
        { s.setLeg ref { s.legs ref with writer := .next held } with
          ledger := (s.ledger.markAttemptSent a.seq (s.legs ref).id a.rescue now).1
          sentBy := if lead then update s.sentBy a.seq ref else s.sentBy }
    | _ => none
  | .writeFail =>
    match (s.legs ref).writer with
    | .writing a held _ =>
      some
        { s.setLeg ref { s.legs ref with writer := .failing held } with
          ledger := s.ledger.clearAttemptAt a.seq (s.legs ref).id a.rescue a.started }
    | _ => none
  | .notWritable =>
    -- the reservation of a bounded rescue is no longer valid
    match (s.legs ref).writer with
    | .writing a held _ =>
      if cfg.boundedRescue ∧ a.rescue then
        some
          { s.setLeg ref { s.legs ref with writer := .next held } with
            ledger := s.ledger.clearAttemptAt a.seq (s.legs ref).id a.rescue a.started }
      else none
    | _ => none
  | .controlFail =>
    match (s.legs ref).writer with
    | .idle => some (s.setLeg ref { s.legs ref with writer := .failing none })
    | .deferred a => some (s.setLeg ref { s.legs ref with writer := .failing (some a) })
    | _ => none
  | .exit =>
    match (s.legs ref).writer with
    | .idle =>
      if (s.legs ref).closed then
        some (s.setLeg ref { s.legs ref with writer := .exited none })
      else none
    | .failing held =>
      -- `handleLegFailure` returns once the leg is out of the map
      if (s.legs ref).stage.attached then none
      else some (s.setLeg ref { s.legs ref with writer := .exited held })
    | _ => none
  | .releaseRescue =>
    -- `releaseQueuedBoundedRescues`
    match (s.legs ref).writer, (s.legs ref).rescue with
    | .exited _, a :: rest =>
      if cfg.boundedRescue ∧ ¬ (s.legs ref).retired then
        some
          { s.setLeg ref { s.legs ref with rescue := rest } with
            ledger := s.ledger.clearAttemptAt a.seq (s.legs ref).id true a.started }
      else none
    | _, _ => none

/-- Has a leg's writer returned? -/
def Writer.isExited : Writer → Bool
  | .exited _ => true
  | _ => false

/-- Is a carrier write in progress (`debugWriterState == 2`)? -/
def Writer.isWriting : Writer → Bool
  | .writing _ _ _ => true
  | _ => false

def legStep (cfg : Config) (s : State κ) : LegAct → Option (State κ)
  | .attachLeg id =>
    if id < cfg.maxActiveLegs ∧ s.attached id = none ∧ s.retiring id = none then
      some
        { s.setLeg s.nextRef { id := id } with
          nextRef := s.nextRef + 1
          attached := update s.attached id (some s.nextRef) }
    else none
  | .fail ref =>
    if ref < s.nextRef ∧ (s.legs ref).stage = .live then
      some (s.setLeg ref { s.legs ref with stage := .closing })
    else none
  | .closeConn ref =>
    if ref < s.nextRef ∧ (s.legs ref).stage = .closing then
      some (s.setLeg ref { s.legs ref with stage := .connClosed })
    else none
  | .remove ref =>
    if ref < s.nextRef ∧ (s.legs ref).stage = .connClosed then
      some
        { s.setLeg ref { s.legs ref with stage := .removed } with
          attached := update s.attached (s.legs ref).id none
          retiring := update s.retiring (s.legs ref).id (some ref) }
    else none
  | .invalidate ref =>
    if ref < s.nextRef ∧ (s.legs ref).stage = .removed then
      some
        { s.setLeg ref { s.legs ref with stage := .invalidated } with
          ledger := s.ledger.invalidateLeg (s.legs ref).id }
    else none
  | .readerExit ref =>
    if ref < s.nextRef then
      some (s.setLeg ref { s.legs ref with readerExited := true })
    else none
  | .retire ref =>
    if ref < s.nextRef ∧ ¬ (s.legs ref).stage.active ∧ ¬ (s.legs ref).retired ∧
        (s.legs ref).writer.isExited ∧ (s.legs ref).readerExited then
      some
        { s.setLeg ref { s.legs ref with retired := true } with
          retiring := update s.retiring (s.legs ref).id none }
    else none
  | .setDraining ref draining =>
    if ref < s.nextRef then
      some (s.setLeg ref { s.legs ref with draining := draining })
    else none
  | .retireDrained ref =>
    if ref < s.nextRef ∧ (s.legs ref).stage = .live ∧ (s.legs ref).draining ∧
        (s.legs ref).send = [] ∧ (s.legs ref).rescue = [] ∧
        ¬ (s.legs ref).writer.isWriting ∧
        s.ledger.outstandingForLeg (s.legs ref).id = 0 ∧ s.readers ref = [] then
      some
        { s.setLeg ref { s.legs ref with stage := .drained } with
          attached := update s.attached (s.legs ref).id none
          retiring := update s.retiring (s.legs ref).id (some ref) }
    else none

/-- The mask of available legs: attached, open and not draining. -/
def State.live (s : State κ) : StreamLegAvailability := fun id =>
  match s.attached id with
  | some ref => !(s.legs ref).closed && !(s.legs ref).draining
  | none => false

end Steps

end Smp3Multipath.Core.Carrier

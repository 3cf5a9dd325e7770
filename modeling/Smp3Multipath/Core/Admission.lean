import Smp3Multipath.Lib.Run
import Smp3Multipath.Core.LedgerFrame

/-!
# Slow-leg admission

`stream_admission.go`: the state that the per-leg policy keeps of a leg, and the
transitions of it that `protectFrontier` can make, a restriction and the expiry of
a recovery probe that was not written in time.

Every function of the policy runs under `admission.mu`, so a call is one step; the
clock is an argument.  `float64` is `ℚ`.

`seedMbps` goes to the capacity provider only and is left out, and so are
`suspectSince`, `suspectAt`, the telemetry and the trace events.
-/

namespace Smp3Multipath.Core.Admission

/-- `streamProbeBudget`, in nanoseconds. -/
def streamProbeBudget : Int := 200000000

/-- `streamRestrictionCooldown`, in nanoseconds. -/
def streamRestrictionCooldown : Nat := 5000000000

/-- What admission reads of the normalized configuration. -/
structure Config where
  maxActiveLegs : Nat
  chunkSize : Nat
  maxInflightFrames : Nat
  maxReorderFrames : Nat
  slowLegProtection : Bool
  maxActiveLegs_le : maxActiveLegs ≤ maxStreamLegIDCount
  chunkSize_pos : 0 < chunkSize
  maxInflightFrames_pos : 0 < maxInflightFrames
  maxReorderFrames_pos : 0 < maxReorderFrames

/-- `a.Sub(b)`. -/
def elapsed (a b : Time) : Int := (a : Int) - (b : Int)

/-- The texts of `reason`. -/
inductive Reason where
  | unset
  | sustainedFrontier
  | probeTimeout
  | probePendingWrite
  | probeWriteStartTimeout
  | uniqueProbe
  | probeReassignedBeforeWrite
  | generationReprobe
  | probeRetiredBeforeWrite
  | probeUniqueServiceLow
  | uniqueAckRecovered
  | uniqueAckRamp
deriving DecidableEq

structure StreamAdmissionLeg where
  restricted : Bool := false
  recovering : Bool := false
  probePending : Bool := false
  probeSequence : Nat := 0
  probeSequenceSet : Bool := false
  probeExpired : Bool := false
  probeExpiredSequence : Nat := 0
  probePendingAt : Time := 0
  since : Time := 0
  nextProbe : Time := 0
  limit : Nat := 0
  proofs : Nat := 0
  proofAfter : Nat := 0
  byteLimit : Nat := 0
  proofBytes : Nat := 0
  feedback : Int := 0
  feedbackAt : Time := 0
  feedbackMax : Int := 0
  feedbackMaxAt : Time := 0
  probeWindow : Time := 0
  probeBytes : Nat := 0
  probeRate : ℚ := 0
  serviceWindow : Time := 0
  serviceAt : Time := 0
  serviceBytes : Nat := 0
  serviceRate : ℚ := 0
  openingRate : ℚ := 0
  reason : Reason := .unset
  recoveryEpoch : Nat := 0
deriving DecidableEq

section Transitions

variable (s : StreamAdmissionLeg)

/-- The largest `uint64`, where `recoveryEpoch` saturates. -/
def maxEpoch : Nat := 2 ^ 64 - 1

/-- The epoch after `advanceRecoveryEpochLocked`. -/
def advanceRecoveryEpoch (epoch : Nat) : Nat :=
  if epoch = maxEpoch then epoch else epoch + 1

/-- Is the pending probe this record's? -/
def pendingProbeOf (seq : Nat) : Bool :=
  s.probePending && (!s.probeSequenceSet || s.probeSequence == seq)

/-- Has the pending probe used up its time before the write? -/
def prewriteOverdue (now : Time) : Bool :=
  decide (s.probePendingAt ≠ 0) && decide (streamProbeBudget ≤ elapsed now s.probePendingAt)

/-- `restrictOrdinaryLocked`; the Boolean is the reported application. -/
def restrictOrdinaryLocked (now : Time) (reason : Reason) : StreamAdmissionLeg × Bool :=
  if s.restricted then (s, false)
  else
    ({ s with
        recoveryEpoch := advanceRecoveryEpoch s.recoveryEpoch
        restricted := true, recovering := false
        probePending := false, probeSequence := 0, probeSequenceSet := false
        probeExpired := false, probeExpiredSequence := 0, probePendingAt := 0
        since := now, nextProbe := now + streamRestrictionCooldown, reason := reason
        proofs := 0, proofBytes := 0
        probeWindow := 0, probeBytes := 0, probeRate := 0
        feedbackMax := 0, feedback := 0, feedbackAt := 0 }, true)

/-- What an expired pre-write budget does, in the writer and in the maintenance pass. -/
def expireProbe (seq : Nat) (now : Time) : StreamAdmissionLeg :=
  { s with
    probePending := false, probeSequence := 0, probeSequenceSet := false
    probePendingAt := 0, probeExpired := true, probeExpiredSequence := seq
    recoveryEpoch := advanceRecoveryEpoch s.recoveryEpoch
    restricted := true, recovering := false
    since := now, nextProbe := now + streamRestrictionCooldown
    reason := .probeWriteStartTimeout
    proofs := 0, proofBytes := 0 }

/-- The locked part of `expirePendingRecoveryProbe`. -/
def expirePendingRecoveryProbeLocked (seq : Nat) (now : Time) : StreamAdmissionLeg × Bool :=
  if pendingProbeOf s seq && prewriteOverdue s now then (expireProbe s seq now, true)
  else (s, false)

end Transitions

section Machine

/-- The reference time and the budget of `restrictOverdueRecoveryFrontier`. -/
def overdueReference (s : StreamAdmissionLeg) (r : StreamTXRecord) (budget : Int) : Time × Int :=
  let reference :=
    match r.recoveryProbeWriteStartedAt with
    | some startedAt => startedAt
    | none => max (if r.frontierAt = 0 then r.createdAt else r.frontierAt) r.firstWriteAt
  if pendingProbeOf s r.sequence ∧ s.probePendingAt ≠ 0 then (s.probePendingAt, streamProbeBudget)
  else (reference, budget)

end Machine

end Smp3Multipath.Core.Admission

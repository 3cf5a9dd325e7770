import Smp3Multipath.Core.LedgerFrame

/-!
# Repair planning

`PlanRetries`, the ordinary retry policy, and the frontier rescue decision of
`FrontierCandidate` and `DecideStreamTXFrontierRepair`.  Both are pure: they
read a snapshot of the ledger and a mask of live legs.
-/

namespace Smp3Multipath.Core

/-- `StreamLegAvailability`, a mask of live legs by id. -/
abbrev StreamLegAvailability := LegID → Bool

/-- `Count` of a mask. -/
def StreamLegAvailability.count (live : StreamLegAvailability) : Nat :=
  ((List.range maxStreamLegIDCount).filter live).length

/-- A record a retry pass should try, with the leg to avoid. -/
structure StreamTXRetryCandidate where
  sequence : Nat
  avoid : Int
deriving DecidableEq

namespace StreamTXLedger

/-- The candidate a record is for the retry planner, if any. -/
def retryCandidate
    (live : StreamLegAvailability) (seq : Nat) (r : StreamTXRecord) :
    Option StreamTXRetryCandidate :=
  if r.localEnqueue ∨ r.inTransit ∨ r.rescueInTransit then
    none
  else if r.lastSentLeg < 0 then
    some { sequence := seq, avoid := -1 }
  else if ¬ live r.lastSentLeg.toNat then
    some { sequence := seq, avoid := r.lastSentLeg }
  else
    none

/-- `PlanRetries`: the candidates in sequence order. -/
def planRetries
    (l : StreamTXLedger) (live : StreamLegAvailability) :
    List StreamTXRetryCandidate :=
  (l.outstanding.filterMap fun seq => retryCandidate live seq (l.record seq)).insertionSort
    fun a b => a.sequence ≤ b.sequence

/-- `StreamTXFrontierCandidate`. -/
structure FrontierCandidate where
  sequence : Nat
  owner : Int
  overdue : Bool
  rescueInTransit : Bool
deriving DecidableEq

/-- The leg `frontierSnapshot` holds responsible for a record. -/
def frontierOwner (r : StreamTXRecord) : Int :=
  if r.inTransit then (r.transitLeg : Int)
  else if r.lastSentLeg < 0 then r.ordinaryOwner
  else r.lastSentLeg

/-- The time `frontierSnapshot` measures the age of a record from. -/
def frontierReference (r : StreamTXRecord) : Time :=
  max (max (max r.createdAt r.transitSince) r.lastSentAt) r.lastRescueAt

/-- `FrontierCandidate`; `none` when nothing blocks the ACK frontier. -/
def frontierCandidate
    (l : StreamTXLedger) (now timeout : Time) : Option FrontierCandidate :=
  let r := l.record l.ackedNext
  if l.ackedNext ∈ l.outstanding then
    some
      { sequence := l.ackedNext
        owner := frontierOwner r
        overdue := frontierReference r ≠ 0 ∧ frontierReference r + timeout ≤ now
        rescueInTransit := r.rescueInTransit }
  else
    none

/-- `DecideStreamTXFrontierRepair`: the record to rescue and the leg to avoid. -/
def decideFrontierRepair
    (candidate : Option FrontierCandidate) (live : StreamLegAvailability) :
    Option StreamTXRetryCandidate :=
  match candidate with
  | none => none
  | some c =>
    if c.rescueInTransit ∨ ¬ c.overdue then
      none
    else if live.count = 0 then
      none
    else if live.count = 1 then
      -- with one live leg the frontier is retransmitted on that leg itself
      ((List.range maxStreamLegIDCount).find? live).map fun id =>
        { sequence := c.sequence, avoid := (id : Int) - 1 }
    else if c.owner < 0 ∨ ¬ live c.owner.toNat then
      none
    else
      some { sequence := c.sequence, avoid := c.owner }

section Facts

variable {l : StreamTXLedger} {live : StreamLegAvailability}

theorem mem_planRetries {c : StreamTXRetryCandidate} :
    c ∈ l.planRetries live ↔
      ∃ seq ∈ l.outstanding, retryCandidate live seq (l.record seq) = some c := by
  simp [planRetries, List.mem_insertionSort]

/-- An unclaimed record is planned unless it was last sent on a live leg. -/
theorem exists_mem_planRetries {seq : Nat} (hout : seq ∈ l.outstanding)
    (hlocal : (l.record seq).localEnqueue = false) (hnormal : (l.record seq).inTransit = false)
    (hrescue : (l.record seq).rescueInTransit = false)
    (hlive : 0 ≤ (l.record seq).lastSentLeg → live (l.record seq).lastSentLeg.toNat = false) :
    ∃ c ∈ l.planRetries live, c.sequence = seq := by
  by_cases hneg : (l.record seq).lastSentLeg < 0
  · refine ⟨{ sequence := seq, avoid := -1 }, mem_planRetries.mpr ⟨seq, hout, ?_⟩, rfl⟩
    simp [retryCandidate, hlocal, hnormal, hrescue, hneg]
  · refine ⟨{ sequence := seq, avoid := (l.record seq).lastSentLeg },
      mem_planRetries.mpr ⟨seq, hout, ?_⟩, rfl⟩
    simp [retryCandidate, hlocal, hnormal, hrescue, hneg, hlive (not_lt.mp hneg)]

end Facts

end StreamTXLedger

end Smp3Multipath.Core

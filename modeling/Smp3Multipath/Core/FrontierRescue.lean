import Smp3Multipath.Core.Admission
import Smp3Multipath.Core.RestrictedBatch

/-!
# A pass of the frontier rescue

`scheduleFrontierRescue` under slow-leg protection and without the bounded rescue policy: the
frontier candidate, what `protectFrontier` makes of it, the plan, and the queueing of the
rescue or of the batch of a restricted owner.  The pass is sequential; what it measures
outside of the ledger and the admission table is an argument (`Readings`).

With one live leg the plan says to avoid the id below that leg, which stands for no leg at
all.  The pass then takes that number for the owner of the frontier and reads its admission
state, which a leg leaves behind when it goes.
-/

namespace Smp3Multipath.Core.FrontierRescue

open StreamTXLedger Admission Function List

section Model

/-- An available leg with its rescue queue, as sequences. -/
structure RescueLeg where
  id : LegID
  queue : List Nat
  capacity : Nat
deriving DecidableEq

/-- What a pass reads and changes. -/
structure Engine where
  cfg : Config
  retransmitTimeout : Time
  ackInterval : Int
  ledger : StreamTXLedger
  /-- `admission.legs`; an entry stays when its leg goes. -/
  admission : LegID → StreamAdmissionLeg
  /-- `availableLegs`. -/
  legs : List RescueLeg
  done : Bool

/-- What a pass measures besides. -/
structure Readings where
  /-- `effectiveSchedulerWeight`. -/
  weight : LegID → ℚ
  /-- The leg has a carrier and `protectFrontier` finds it slow against the best other leg. -/
  sustained : LegID → Bool
  /-- `chooseLeg` among several legs. -/
  chosen : Option LegID
  /-- `benchmarkPendingOnly` of the frontier record. -/
  pendingOnly : Bool
  /-- The walk of the outstanding map. -/
  order : List Nat
  /-- The clock at the claim of a record. -/
  attemptAt : Nat → Time

/-- The mask of the available legs. -/
def Engine.live (e : Engine) : StreamLegAvailability :=
  fun id => e.legs.any fun leg => leg.id == id

def feedbackHorizon (e : Engine) (id : LegID) (now : Time) : Int :=
  let s := e.admission id
  if s.feedback ≤ 0 ∨ 30000000000 < elapsed now s.feedbackAt then 0
  else min (s.feedback + max (s.feedback / 4) (e.ackInterval + streamProbeBudget / 4)) 2000000000

def probeReference (l : StreamTXLedger) (seq : Nat) (recovering : Bool) : Time :=
  let r := l.record seq
  if seq ∉ l.outstanding then 0
  else
    match recovering, r.recoveryProbeWriteStartedAt with
    | true, some startedAt => startedAt
    | _, _ =>
      let ref := if recovering then r.frontierAt else r.createdAt
      max (if ref = 0 then r.createdAt else ref) r.firstWriteAt

/-- The branch of `protectFrontier` for an owner that is restricted or recovering. -/
def protectSlow (e : Engine) (c : FrontierCandidate) (id : LegID) (now : Time) :
    Engine × FrontierCandidate :=
  let s := e.admission id
  let r := e.ledger.record c.sequence
  let others := e.legs.filter fun leg => leg.id ≠ id ∧ leg.id < e.cfg.maxActiveLegs
  let budget := (others.map fun leg => feedbackHorizon e leg.id now).foldl max
    (feedbackHorizon e id now)
  let budget := max budget streamProbeBudget
  let pendingRecord := pendingProbeOf s c.sequence
  let ref := probeReference e.ledger c.sequence s.recovering
  let age :=
    if ref = 0 then elapsed now (frontierReference r)
    else if pendingRecord ∧ s.probePendingAt ≠ 0 then elapsed now s.probePendingAt
    else elapsed now ref
  let overdue := decide ((if pendingRecord then streamProbeBudget else budget) ≤ age)
  let e :=
    if s.probePending ∧ prewriteOverdue s now then
      { e with
        admission := update e.admission id
          (expirePendingRecoveryProbeLocked (e.admission id) s.probeSequence now).1 }
    else e
  if overdue ∧ s.recovering then
    let leg := e.admission id
    let limit := overdueReference leg r budget
    if limit.1 ≠ 0 ∧ limit.1 ≤ now ∧ limit.2 ≤ elapsed now limit.1 ∧ leg.recovering ∧
        leg.restricted = false ∧ leg.since = s.since then
      ({ e with
        admission := update e.admission id
          (restrictOrdinaryLocked leg now .probeTimeout).1 }, { c with overdue := true })
    else (e, { c with overdue := false })
  else (e, { c with overdue := overdue })

/-- The candidate under its ordinary owner, if that has an admission state. -/
def underOwner (e : Engine) (c : FrontierCandidate) : FrontierCandidate :=
  let ordinary :=
    if c.sequence ∈ e.ledger.outstanding then (e.ledger.record c.sequence).ordinaryOwner else -1
  if 0 ≤ ordinary ∧ ordinary < (e.cfg.maxActiveLegs : Int) then { c with owner := ordinary }
  else c

def protectFrontier (e : Engine) (m : Readings) (c : FrontierCandidate) (now : Time) :
    Engine × FrontierCandidate :=
  if e.cfg.slowLegProtection = false ∨ c.owner < 0 ∨ (e.cfg.maxActiveLegs : Int) ≤ c.owner then
    (e, c)
  else
    let r := e.ledger.record c.sequence
    let c := underOwner e c
    let id := c.owner.toNat
    let s := e.admission id
    if s.restricted ∨ s.recovering then protectSlow e c id now
    else if streamProbeBudget ≤ elapsed now r.createdAt ∧
        (e.legs.any fun leg => leg.id != id) ∧ m.sustained id then
      ({ e with
        admission := update e.admission id
          (restrictOrdinaryLocked s now .sustainedFrontier).1 },
        { c with overdue := decide (streamProbeBudget ≤ elapsed now (frontierReference r)) })
    else (e, c)

/-- `tryQueueRescueOwned` with its result. -/
def tryQueueRescueOwned (e : Engine) (m : Readings) (leg : LegID) (seq : Nat) (owner : Int) :
    Engine × Bool :=
  let started := m.attemptAt seq
  match e.legs.find? fun l => l.id == leg with
  | none => (e, false)
  | some target =>
    match if 0 ≤ owner then e.ledger.markRestrictedRescueTransit seq leg owner started
      else e.ledger.markRescueTransit seq leg started with
    | none => (e, decide (seq ∉ e.ledger.outstanding) || (e.ledger.record seq).rescueInTransit)
    | some ledger =>
      if target.queue.length < target.capacity then
        ({ e with
          ledger := (ledger.markRescueQueued seq leg started).getD ledger
          legs := e.legs.map fun l =>
            if l.id = leg then { l with queue := l.queue ++ [seq] } else l }, true)
      else ({ e with ledger := ledger.clearAttemptAt seq leg true started }, false)

/-- The loop over a batch, which ends with the first record that is not queued. -/
def queueBatch (m : Readings) (leg : LegID) (owner : Int) (e : Engine) : List Nat → Engine
  | [] => e
  | seq :: rest =>
    let out := tryQueueRescueOwned e m leg seq owner
    if out.2 then queueBatch m leg owner out.1 rest else out.1

def bestAlternateLeg (e : Engine) (m : Readings) (owner : Int) : Option LegID :=
  (e.legs.filter fun leg => decide ((leg.id : Int) ≠ owner)).foldl
    (fun best leg =>
      match best with
      | none => some leg.id
      | some b =>
        if m.weight b < m.weight leg.id ∨ (m.weight leg.id = m.weight b ∧ leg.id < b) then
          some leg.id
        else some b) none

def enqueueRescue (e : Engine) (m : Readings) (seq : Nat) (avoid : Int) : Engine :=
  if e.done ∨ seq ∉ e.ledger.outstanding then e
  else
    match e.legs with
    | [] => e
    | [leg] => (tryQueueRescueOwned e m leg.id seq (-1)).1
    | _ =>
      match m.chosen with
      | none => e
      | some id => if (id : Int) = avoid then e else (tryQueueRescueOwned e m id seq (-1)).1

/-- A plan is carried out. -/
def carryOut (e : Engine) (m : Readings) (now : Time) (plan : StreamTXRetryCandidate) : Engine :=
  let owner := plan.avoid.toNat
  let state := e.admission owner
  if e.cfg.slowLegProtection ∧ 0 ≤ plan.avoid ∧ plan.avoid < (e.cfg.maxActiveLegs : Int) ∧
      state.restricted then
    match bestAlternateLeg e m plan.avoid with
    | none => enqueueRescue e m plan.sequence plan.avoid
    | some leg =>
      queueBatch m leg plan.avoid e
        ((e.ledger.restrictedFrontierBatch m.order (some plan.sequence) plan.avoid now state.since
          e.retransmitTimeout (max (256 * 1024) e.cfg.chunkSize)).getD [])
  else enqueueRescue e m plan.sequence plan.avoid

/-- The pass from the return of `protectFrontier` on. -/
def rescuePass (m : Readings) (now : Time) (after : Engine × Option FrontierCandidate) : Engine :=
  if m.pendingOnly ∧ after.1.cfg.slowLegProtection = false then after.1
  else
    match decideFrontierRepair after.2 after.1.live with
    | none => after.1
    | some plan => carryOut after.1 m now plan

/-- The pass up to the return of `protectFrontier`. -/
def guarded (e : Engine) (m : Readings) (now : Time) : Engine × Option FrontierCandidate :=
  match e.ledger.frontierCandidate now e.retransmitTimeout with
  | none => (e, none)
  | some c => ((protectFrontier e m c now).1, some (protectFrontier e m c now).2)

def scheduleFrontierRescue (e : Engine) (m : Readings) (now : Time) : Engine :=
  rescuePass m now (guarded e m now)

end Model

variable {e : Engine} {m : Readings} {leg : RescueLeg} {now : Time}

section Guard

/-- `protectFrontier` changes the admission table, and of the candidate the owner and whether it
is overdue. -/
structure Guards (e e' : Engine) (c c' : FrontierCandidate) : Prop where
  cfg : e'.cfg = e.cfg
  ledger : e'.ledger = e.ledger
  legs : e'.legs = e.legs
  retransmitTimeout : e'.retransmitTimeout = e.retransmitTimeout
  done : e'.done = e.done
  sequence : c'.sequence = c.sequence
  rescueInTransit : c'.rescueInTransit = c.rescueInTransit

theorem guards_protectSlow (e : Engine) (c : FrontierCandidate) (id : LegID) (now : Time) :
    Guards e (protectSlow e c id now).1 c (protectSlow e c id now).2 := by
  unfold protectSlow
  dsimp only
  split_ifs <;> exact ⟨rfl, rfl, rfl, rfl, rfl, rfl, rfl⟩

theorem guards_protectFrontier (e : Engine) (m : Readings) (c : FrontierCandidate) (now : Time) :
    Guards e (protectFrontier e m c now).1 c (protectFrontier e m c now).2 := by
  unfold protectFrontier
  dsimp only
  split
  · exact ⟨rfl, rfl, rfl, rfl, rfl, rfl, rfl⟩
  · have hkeeps : (underOwner e c).sequence = c.sequence ∧
        (underOwner e c).rescueInTransit = c.rescueInTransit := by
      unfold underOwner
      dsimp only
      split_ifs <;> exact ⟨rfl, rfl⟩
    split
    · have hslow := guards_protectSlow e (underOwner e c) (underOwner e c).owner.toNat now
      exact ⟨hslow.cfg, hslow.ledger, hslow.legs, hslow.retransmitTimeout, hslow.done,
        hslow.sequence.trans hkeeps.1, hslow.rescueInTransit.trans hkeeps.2⟩
    · split <;> exact ⟨rfl, rfl, rfl, rfl, rfl, hkeeps.1, hkeeps.2⟩

end Guard

section Plan

theorem find_single (hid : leg.id < maxStreamLegIDCount) (hlive : e.legs = [leg]) :
    e.live.count = 1 ∧ (List.range maxStreamLegIDCount).find? e.live = some leg.id := by
  have hmask : e.live = fun id => decide (id = leg.id) := by
    funext id
    rw [Bool.eq_iff_iff]
    simp only [Engine.live, hlive, any_cons, any_nil, Bool.or_false, beq_iff_eq,
      decide_eq_true_eq]
    exact eq_comm
  rw [StreamLegAvailability.count, hmask]
  constructor
  · have hfilter : (List.range maxStreamLegIDCount).filter (fun id => decide (id = leg.id)) =
        [leg.id] := by
      have hm : leg.id ∈ List.range maxStreamLegIDCount := mem_range.2 hid
      rw [filter_eq, count_eq_one_of_mem nodup_range hm]
      rfl
    rw [hfilter]
    rfl
  · have hlen : leg.id < (List.range maxStreamLegIDCount).length := by simpa using hid
    refine find?_eq_some_iff_getElem.2 ⟨by simp, leg.id, hlen, by simp, fun i hi => ?_⟩
    simpa using Nat.ne_of_lt hi

/-- With one live leg an overdue frontier is to be rescued, and the id below the leg avoided. -/
theorem decide_single {c : FrontierCandidate} (hid : leg.id < maxStreamLegIDCount)
    (hlive : e.legs = [leg]) (hoverdue : c.overdue = true) (hfree : c.rescueInTransit = false) :
    decideFrontierRepair (some c) e.live = some { sequence := c.sequence, avoid := leg.id - 1 } := by
  obtain ⟨hcount, hfind⟩ := find_single hid hlive
  simp [decideFrontierRepair, hoverdue, hfree, hcount, hfind]

end Plan

section Queue

/-- The ledger accepts the claim of a rescue of `seq` on the leg. -/
structure Claimable (l : StreamTXLedger) (seq : Nat) (leg : LegID) : Prop where
  outstanding : seq ∈ l.outstanding
  free : (l.record seq).rescueInTransit = false
  idle : ¬ ((l.record seq).inTransit = true ∧ (l.record seq).transitLeg = leg)

theorem tryQueue_single (hlive : e.legs = [leg]) (seq : Nat) (owner : Int) :
    ∃ added, (tryQueueRescueOwned e m leg.id seq owner).1.legs =
        [{ leg with queue := leg.queue ++ added }] ∧
      ∀ other ∈ added, other = seq := by
  unfold tryQueueRescueOwned
  rw [hlive]
  simp only [find?_cons, beq_self_eq_true]
  split
  · exact ⟨[], by rw [append_nil]; exact hlive, fun _ h => by cases h⟩
  · split
    · exact ⟨[seq], by simp, fun other h => mem_singleton.1 h⟩
    · exact ⟨[], by simp, fun _ h => by cases h⟩

/-- A claim that the ledger accepts is queued where there is room. -/
theorem tryQueue_claimable {seq : Nat} {owner : Int} (hlive : e.legs = [leg])
    (hroom : leg.queue.length < leg.capacity) (hclaim : Claimable e.ledger seq leg.id)
    (howner : owner < 0 ∨ (e.ledger.record seq).ordinaryOwner = owner) :
    (tryQueueRescueOwned e m leg.id seq owner).1.legs =
        [{ leg with queue := leg.queue ++ [seq] }] ∧
      (tryQueueRescueOwned e m leg.id seq owner).2 = true := by
  have hmark : (if 0 ≤ owner then
      e.ledger.markRestrictedRescueTransit seq leg.id owner (m.attemptAt seq)
      else e.ledger.markRescueTransit seq leg.id (m.attemptAt seq)) =
      some (e.ledger.modifyRecord seq (claimRescue leg.id (m.attemptAt seq))) := by
    have hlocked : e.ledger.markRescueTransitLocked seq leg.id (m.attemptAt seq) =
        some (e.ledger.modifyRecord seq (claimRescue leg.id (m.attemptAt seq))) := by
      unfold markRescueTransitLocked
      rw [if_neg (by simp [hclaim.outstanding, hclaim.free]), if_neg hclaim.idle]
    split
    · next hpos =>
      rw [markRestrictedRescueTransit, if_neg (by omega), hlocked]
    · exact hlocked
  unfold tryQueueRescueOwned
  rw [hlive]
  simp [hmark, hroom]

theorem queueBatch_single (owner : Int) (batch : List Nat) (hlive : e.legs = [leg]) :
    ∃ added, (queueBatch m leg.id owner e batch).legs =
        [{ leg with queue := leg.queue ++ added }] ∧
      ∀ other ∈ added, other ∈ batch := by
  induction batch generalizing e leg with
  | nil => exact ⟨[], by rw [append_nil]; exact hlive, fun _ h => h⟩
  | cons seq rest ih =>
    obtain ⟨first, hfirst, hown⟩ := @tryQueue_single e m leg hlive seq owner
    rw [queueBatch]
    split
    · obtain ⟨later, hlater, hrest⟩ := ih hfirst
      refine ⟨first ++ later, by rw [hlater, append_assoc], fun other hother => ?_⟩
      rcases mem_append.1 hother with hother | hother
      · rw [hown other hother]
        exact mem_cons_self
      · exact mem_cons_of_mem seq (hrest other hother)
    · refine ⟨first, hfirst, fun other hother => ?_⟩
      rw [hown other hother]
      exact mem_cons_self

end Queue

section Batch

variable {l : StreamTXLedger} {order : List Nat} {owner : Int}

/-- A least element comes first. -/
theorem sort_eq_cons {s : Finset Nat} {x : Nat} (hx : x ∈ s) (hleast : ∀ y ∈ s, x ≤ y) :
    ∃ rest, s.sort (· ≤ ·) = x :: rest := by
  refine ⟨(s.erase x).sort (· ≤ ·), ?_⟩
  have hsort := Finset.sort_insert (· ≤ ·) (fun y hy => hleast y (Finset.mem_of_mem_erase hy))
    (Finset.notMem_erase x s)
  rwa [Finset.insert_erase hx] at hsort

theorem batch_of_eligible (hwf : l.WellFormed) (horder : IterationOrder l order)
    (hout : l.ackedNext ∈ l.outstanding) (howner : (l.record l.ackedNext).ordinaryOwner = owner)
    (cutoff : Time) (cooldown byteBudget : Int)
    (heligible : batchEligible owner now cutoff cooldown (l.record l.ackedNext) = true) :
    ∃ rest, l.restrictedFrontierBatch order (some l.ackedNext) owner now cutoff cooldown
      byteBudget = some (l.ackedNext :: rest) := by
  obtain ⟨rest, hrest⟩ := @sort_eq_cons (eligibleSet l owner now cutoff cooldown) l.ackedNext
    (by simp [eligibleSet, hout, heligible])
    (fun seq hseq => ((hwf.mem_iff seq).1 (by
      simp only [eligibleSet, Finset.mem_filter, mem_toFinset] at hseq
      exact hseq.1)).1)
  rw [batch_current horder hout howner, hrest, take_succ_cons, cutBatch, if_neg (by omega)]
  exact ⟨_, rfl⟩

theorem not_mem_batch (horder : IterationOrder l order) (hout : l.ackedNext ∈ l.outstanding)
    (cutoff : Time) (cooldown byteBudget : Int)
    (hnot : ¬ ((l.record l.ackedNext).ordinaryOwner = owner ∧
      batchEligible owner now cutoff cooldown (l.record l.ackedNext) = true)) :
    l.ackedNext ∉ (l.restrictedFrontierBatch order (some l.ackedNext) owner now cutoff cooldown
      byteBudget).getD [] := by
  by_cases howner : (l.record l.ackedNext).ordinaryOwner = owner
  · rw [batch_current horder hout howner]
    intro hm
    have hlowest := (cutBatch_longest _).isPrefix.subset hm
    have hset := (Finset.mem_sort _).1 (mem_of_mem_take hlowest)
    exact hnot ⟨howner, (Finset.mem_filter.1 hset).2⟩
  · have hnone : l.restrictedFrontierBatch order (some l.ackedNext) owner now cutoff cooldown
        byteBudget = none := if_pos (.inr (.inr howner))
    rw [hnone]
    exact not_mem_nil

end Batch

section Repair

/-- Nothing that is left of the leg below the live one holds the repair back: that leg is not
marked restricted, or the frontier is its own, older than the restriction and past the
cooldown. -/
def Unhindered (e : Engine) (live : Nat) (now : Time) : Prop :=
  let r := e.ledger.record e.ledger.ackedNext
  live = 0 ∨ e.cfg.maxActiveLegs ≤ live - 1 ∨ (e.admission (live - 1)).restricted = false ∨
    (r.ordinaryOwner = ((live - 1 : Nat) : Int) ∧ r.createdAt ≤ (e.admission (live - 1)).since ∧
      (r.lastRescueAt = 0 ∨ (e.retransmitTimeout : Int) ≤ elapsed now r.lastRescueAt))

theorem batchEligible_iff {r : StreamTXRecord} {now cutoff : Time} {cooldown : Int}
    (hfree : r.rescueInTransit = false) (howner : r.ordinaryOwner = owner) :
    batchEligible owner now cutoff cooldown r = true ↔
      r.createdAt ≤ cutoff ∧ (r.lastRescueAt = 0 ∨ cooldown ≤ elapsed now r.lastRescueAt) := by
  simp only [batchEligible, hfree, howner, elapsed, ne_eq, not_true_eq_false, decide_false,
    Bool.false_or, Bool.or_false, Bool.not_eq_true', Bool.or_eq_false_iff, Bool.and_eq_false_iff,
    decide_eq_false_iff_not, not_not, not_lt]

/-- With one live leg, the plan is carried out for the frontier if and only if it is
unhindered. -/
theorem carryOut_single (hslow : e.cfg.slowLegProtection = true) (hwf : e.ledger.WellFormed)
    (horder : IterationOrder e.ledger m.order) (hdone : e.done = false) (hlive : e.legs = [leg])
    (hroom : leg.queue.length < leg.capacity)
    (hclaim : Claimable e.ledger e.ledger.ackedNext leg.id) :
    ∃ added, (carryOut e m now { sequence := e.ledger.ackedNext, avoid := leg.id - 1 }).legs =
        [{ leg with queue := leg.queue ++ added }] ∧
      (e.ledger.ackedNext ∈ added ↔ Unhindered e leg.id now) := by
  have hqueued : (tryQueueRescueOwned e m leg.id e.ledger.ackedNext (-1)).1.legs =
      [{ leg with queue := leg.queue ++ [e.ledger.ackedNext] }] :=
    (tryQueue_claimable hlive hroom hclaim (.inl (by omega))).1
  unfold carryOut
  dsimp only
  split
  · next hguard =>
    obtain ⟨-, hpos, hmax, hrestricted⟩ := hguard
    obtain ⟨below, hbelow⟩ : ∃ below : Nat, @Eq Nat leg.id (below + 1) :=
      Nat.exists_eq_add_one.2 (by omega)
    have havoid : (leg.id : Int) - 1 = (below : Int) := by omega
    have hbest : bestAlternateLeg e m (leg.id - 1) = some leg.id := by
      have hother : decide ((leg.id : Int) ≠ leg.id - 1) = true := decide_eq_true (by omega)
      rw [bestAlternateLeg, hlive, filter_cons, if_pos hother]
      rfl
    rw [hbest]
    rw [havoid, Int.toNat_natCast] at hrestricted ⊢
    dsimp only
    by_cases hits : (e.ledger.record e.ledger.ackedNext).ordinaryOwner = (below : Int) ∧
        batchEligible below now (e.admission below).since e.retransmitTimeout
          (e.ledger.record e.ledger.ackedNext) = true
    · -- the batch of the stale owner begins with the frontier
      obtain ⟨rest, hbatch⟩ := batch_of_eligible hwf horder hclaim.outstanding hits.1
        (e.admission below).since e.retransmitTimeout (max (256 * 1024) e.cfg.chunkSize) hits.2
      obtain ⟨hfirst, hok⟩ := @tryQueue_claimable e m leg _ (below : Int) hlive hroom hclaim
        (.inr hits.1)
      obtain ⟨later, hlater, -⟩ := queueBatch_single (m := m) (below : Int) rest hfirst
      rw [hbatch, Option.getD_some, queueBatch, if_pos hok]
      refine ⟨e.ledger.ackedNext :: later, by rw [hlater]; simp, ?_⟩
      refine iff_of_true mem_cons_self (.inr (.inr (.inr ?_)))
      rw [hbelow, Nat.add_sub_cancel]
      exact ⟨hits.1, (batchEligible_iff hclaim.free hits.1).1 hits.2⟩
    · obtain ⟨added, hadded, hsub⟩ := queueBatch_single (m := m) (below : Int)
        ((e.ledger.restrictedFrontierBatch m.order (some e.ledger.ackedNext) below now
          (e.admission below).since e.retransmitTimeout (max (256 * 1024) e.cfg.chunkSize)).getD [])
        hlive
      refine ⟨added, hadded, iff_of_false ?_ ?_⟩
      · intro hm
        exact not_mem_batch horder hclaim.outstanding _ _ _ hits (hsub _ hm)
      · unfold Unhindered
        rw [hbelow, Nat.add_sub_cancel]
        rintro (hzero | hbeyond | hnormal | ⟨howner, hold⟩)
        · exact Nat.succ_ne_zero below hzero
        · omega
        · rw [hrestricted] at hnormal
          cases hnormal
        · exact hits ⟨howner, (batchEligible_iff hclaim.free howner).2 hold⟩
  · next hguard =>
    refine ⟨[e.ledger.ackedNext], ?_, iff_of_true (mem_singleton.2 rfl) ?_⟩
    · unfold enqueueRescue
      rw [if_neg (by simp [hdone, hclaim.outstanding]), hlive]
      exact hqueued
    · by_contra hhindered
      unfold Unhindered at hhindered
      simp only [not_or] at hhindered
      obtain ⟨hpos, hmax, hrestricted, -⟩ := hhindered
      obtain ⟨below, hbelow⟩ : ∃ below : Nat, @Eq Nat leg.id (below + 1) :=
        Nat.exists_eq_add_one.2 (Nat.pos_of_ne_zero hpos)
      have havoid : @Eq Nat ((leg.id : Int) - 1).toNat (leg.id - 1) := by omega
      exact hguard ⟨hslow, by omega, by omega, by rw [havoid]; simpa using hrestricted⟩

/-- With one live leg that has room, a frontier that is overdue after `protectFrontier` and has
no rescue or write of its own on that leg is queued there by the pass, if and only if nothing
that is left of the leg below holds it back. -/
theorem single_leg_repairs_frontier {c : FrontierCandidate}
    (hslow : e.cfg.slowLegProtection = true) (hwf : e.ledger.WellFormed)
    (horder : IterationOrder e.ledger m.order) (hdone : e.done = false) (hlive : e.legs = [leg])
    (hid : leg.id < maxStreamLegIDCount) (hroom : leg.queue.length < leg.capacity)
    (hcandidate : (guarded e m now).2 = some c) (hoverdue : c.overdue = true)
    (hfree : c.rescueInTransit = false)
    (hidle : ¬ ((e.ledger.record e.ledger.ackedNext).inTransit = true ∧
      (e.ledger.record e.ledger.ackedNext).transitLeg = leg.id)) :
    ∃ added, (scheduleFrontierRescue e m now).legs =
        [{ leg with queue := leg.queue ++ added }] ∧
      (e.ledger.ackedNext ∈ added ↔ Unhindered (guarded e m now).1 leg.id now) := by
  unfold guarded at hcandidate
  split at hcandidate
  · cases hcandidate
  · next c₀ hfound =>
    obtain rfl : (protectFrontier e m c₀ now).2 = c := Option.some.inj hcandidate
    have hguards := guards_protectFrontier e m c₀ now
    obtain ⟨hout, hc₀⟩ : e.ledger.ackedNext ∈ e.ledger.outstanding ∧
        c₀.sequence = e.ledger.ackedNext ∧
        c₀.rescueInTransit = (e.ledger.record e.ledger.ackedNext).rescueInTransit := by
      unfold frontierCandidate at hfound
      dsimp only at hfound
      split at hfound
      · next hout =>
        cases hfound
        exact ⟨hout, rfl, rfl⟩
      · cases hfound
    have hclaim : Claimable e.ledger e.ledger.ackedNext leg.id :=
      ⟨hout, hc₀.2.symm.trans (hguards.rescueInTransit.symm.trans hfree), hidle⟩
    have hdecide : decideFrontierRepair (some (protectFrontier e m c₀ now).2)
        (protectFrontier e m c₀ now).1.live =
        some { sequence := e.ledger.ackedNext, avoid := leg.id - 1 } := by
      rw [decide_single hid (hguards.legs.trans hlive) hoverdue hfree, hguards.sequence, hc₀.1]
    have hafter : guarded e m now =
        ((protectFrontier e m c₀ now).1, some (protectFrontier e m c₀ now).2) := by
      rw [guarded, hfound]
    have hslow' : (protectFrontier e m c₀ now).1.cfg.slowLegProtection = true := by
      rw [hguards.cfg]
      exact hslow
    rw [scheduleFrontierRescue, rescuePass, hafter, if_neg (by simp [hslow']), hdecide]
    rw [← hguards.ledger] at hwf horder hclaim ⊢
    exact carryOut_single hslow' hwf horder (hguards.done.trans hdone) (hguards.legs.trans hlive)
      hroom hclaim

/-- Two legs under slow-leg protection. -/
def twoLegs : Config :=
  { maxActiveLegs := 2, chunkSize := 1000, maxInflightFrames := 4, maxReorderFrames := 4
    slowLegProtection := true
    maxActiveLegs_le := two_le_maxStreamLegIDCount
    chunkSize_pos := by decide
    maxInflightFrames_pos := four_frames_pos
    maxReorderFrames_pos := four_frames_pos }

/-- Leg 1 is the owner of record 0 and has sent it; leg 0 is gone, restricted or not. -/
def survivor (restricted : Bool) : Engine :=
  let l := ((newStreamTXLedger 2).add [1, 2, 3] 1000 false).1
  let l := (l.assignOrdinary 0 1 1000).1
  let l := (l.markTransit 0 1 1001).getD l
  { cfg := twoLegs
    retransmitTimeout := 500
    ackInterval := 0
    ledger := (l.markAttemptSent 0 1 false 1002).1
    admission := fun id =>
      if id = 0 ∧ restricted then (restrictOrdinaryLocked {} 900 .sustainedFrontier).1 else {}
    legs := [⟨1, [], 4⟩]
    done := false }

def survivorReadings : Readings :=
  { weight := fun _ => 1, sustained := fun _ => false, chosen := none, pendingOnly := false
    order := [0], attemptAt := fun _ => 2001 }

/-- The admission state that the lost leg 0 left behind keeps the pass from queueing anything:
the batch it asks for is one of records of leg 0, and the frontier is none. -/
theorem stale_restriction_stops_repair :
    (guarded (survivor true) survivorReadings 2000).2 = some ⟨0, 1, true, false⟩ ∧
      (survivor true).ledger.outstanding = [0] ∧ (survivor true).ledger.ackedNext = 0 ∧
      ((survivor true).ledger.record 0).inTransit = false ∧
      ((survivor true).ledger.record 0).rescueInTransit = false ∧
      (survivor true).legs = [⟨1, [], 4⟩] ∧
      (scheduleFrontierRescue (survivor true) survivorReadings 2000).legs = [⟨1, [], 4⟩] := by
  decide

theorem single_leg_repairs_frontier_survivor :
    ∃ added, (scheduleFrontierRescue (survivor false) survivorReadings 2000).legs =
      [⟨1, [] ++ added, 4⟩] ∧ 0 ∈ added := by
  have hledger : (survivor false).ledger.outstanding = [0] ∧
      (survivor false).ledger.ackedNext = 0 ∧ (survivor false).ledger.nextSequence = 1 := by
    decide
  obtain ⟨added, hadded, hiff⟩ := @single_leg_repairs_frontier (survivor false) survivorReadings
    ⟨1, [], 4⟩ 2000 ⟨0, 1, true, false⟩ rfl
    ⟨by decide, fun seq => by rw [hledger.1, hledger.2.1, hledger.2.2]; simp, by decide⟩
    ⟨by decide, fun seq => by rw [hledger.1]; rfl⟩ rfl rfl (by decide) (by decide) (by decide) rfl
    rfl (by decide)
  rw [hledger.2.1] at hiff
  exact ⟨added, hadded, hiff.2 (.inr (.inr (.inl (by decide))))⟩

end Repair

end Smp3Multipath.Core.FrontierRescue

import Smp3Multipath.Core.DecoupledRuns

/-!
# Records around their admission

Two decisions of the aggregation scheduler read whether a record was admitted to a
carrier queue.  `scheduleRetries` skips a record that has no admitted assignment, and
the assignment of a record is created by the planner alone, after the startup hint was
tried.  `assignBenchmark` keeps the owner of a record that is not admitted as long as
the owner is open, also while that leg drains.

A record has one holder at a time, so the feeders put it into a carrier queue at most
once.
-/

namespace Smp3Multipath.Core.Decoupled

open Lib.Run Assignment List
open Carrier hiding Config State init

section Retries

variable {cfg : Config} {s : State} {seq : Nat}

/-- A record that was sent and has to be sent again: a carrier queue has accepted it, every
leg generation that did so has failed, and no attempt for it is in transit. -/
structure Stranded (s : State) (seq : Nat) : Prop where
  outstanding : seq ∈ s.carrier.ledger.outstanding
  enqueued : (s.carrier.ledger.record seq).localEnqueue = false
  accepted : ∃ e ∈ s.accepted, e.seq = seq
  failed : ∀ e ∈ s.accepted, e.seq = seq → (s.carrier.legs e.ref).closed = true
  normal : (s.carrier.ledger.record seq).inTransit = false
  rescue : (s.carrier.ledger.record seq).rescueInTransit = false

/-- `scheduleRetries` tries the record for every set of live legs without the leg of its last
send. -/
def Offered (s : State) (seq : Nat) : Prop :=
  ∀ live : StreamLegAvailability,
    (0 ≤ (s.carrier.ledger.record seq).lastSentLeg →
      live (s.carrier.ledger.record seq).lastSentLeg.toNat = false) →
    ∃ c ∈ scheduledRetries s live, c.sequence = seq

/-- A feeder's `tryQueue` has put the record into a carrier queue, and no such call stands
between its queue send and its `admitted` store. -/
structure FedByFeeder (s : State) (seq : Nat) : Prop where
  accepted : ∃ e ∈ s.accepted, e.seq = seq ∧ ∃ id, e.caller = .feeder id
  stored : ∀ id c t, s.carrier.calls (.feeder id) = some c → c.stage = .queued t → c.seq ≠ seq

theorem Stranded.offered_iff (h : Stranded s seq) :
    Offered s seq ↔ benchmarkPendingOnly s seq = false := by
  constructor
  · intro hoffered
    obtain ⟨c, hc, rfl⟩ := hoffered (fun _ => false) fun _ => rfl
    simpa using (mem_filter.mp hc).2
  · intro hadmitted live hlive
    obtain ⟨c, hc, rfl⟩ :=
      StreamTXLedger.exists_mem_planRetries h.outstanding h.enqueued h.normal h.rescue hlive
    exact ⟨c, mem_filter.mpr ⟨hc, by rw [hadmitted]; rfl⟩, rfl⟩

theorem Inv.admitted_iff (h : Inv cfg s) :
    benchmarkPendingOnly s seq = false ↔ FedByFeeder s seq := by
  constructor
  · intro hadmitted
    refine ⟨h.feeding.admitted seq hadmitted, fun id c t hc hstage hseq => ?_⟩
    have hpending := h.feeding.early id c hc (by rw [hstage]; rfl)
    rw [hseq, hadmitted] at hpending
    cases hpending
  · rintro ⟨⟨e, he, rfl, id, hcaller⟩, hstored⟩
    rcases h.feeding.logged e he id hcaller with hadmitted | ⟨c, t, hc, hseq, hstage⟩
    · exact hadmitted
    · exact absurd hseq (hstored id c t hc hstage)

/-- A record that has to be sent again is offered exactly if a feeder has put it into a
carrier queue. -/
theorem offered_iff_fedByFeeder (hreach : Reachable (step cfg) (init cfg) s) (h : Stranded s seq) :
    Offered s seq ↔ FedByFeeder s seq :=
  h.offered_iff.trans (inv_of_reachable hreach).admitted_iff

/-- The startup hint sends a record on leg 0, which then fails; leg 1 attaches. -/
def hintedLegFails : List Act :=
  [.leg (.attachLeg 0), .planner (.add [7] 1 true), .planner (.hint 0), .call .planner (.mark 2),
    .call .planner .enqueue, .call .planner .note, .call .planner .recheck, .planner .hintReturn,
    .planner .finish] ++ legFails 0 ++ [.leg (.attachLeg 1)]

/-- The record is planned for leg 1 and then skipped as pending only. -/
theorem hintedLegFails_notOffered :
    ∃ s, runActs (step twoLegConfig) (init twoLegConfig) hintedLegFails = some s ∧
      Stranded s 0 ∧ s.carrier.live 1 = true ∧
      s.carrier.ledger.planRetries s.carrier.live = [⟨0, -1⟩] ∧
      scheduledRetries s s.carrier.live = [] ∧ ¬ Offered s 0 := by
  refine ⟨_, rfl, ⟨by decide, rfl, ⟨_, mem_singleton_self _, rfl⟩, ?_, rfl, rfl⟩, rfl,
    by decide, by decide, fun hoffered => ?_⟩
  · intro e he _
    rw [mem_singleton.mp he]
    rfl
  · obtain ⟨c, hc, -⟩ := hoffered (fun _ => false) fun _ => rfl
    cases hc

/-- The same loss for a record that went through the feeder of leg 0. -/
def fedLegFails : List Act :=
  [.leg (.attachLeg 0)] ++ planChunk evenLegs 7 ++
    [.feeder 0 .pop, .feeder 0 (.assign evenLegs), .feeder 0 .tryQueue,
      .call (.feeder 0) (.mark 2), .call (.feeder 0) .enqueue, .call (.feeder 0) .note,
      .call (.feeder 0) .recheck, .feeder 0 .return] ++ legFails 0 ++ [.leg (.attachLeg 1)]

theorem offered_fedLegFails :
    ∃ s, runActs (step twoLegConfig) (init twoLegConfig) fedLegFails = some s ∧
      Stranded s 0 ∧ Offered s 0 := by
  obtain ⟨s, hrun, hstranded, haccepted, hzero, hone⟩ : ∃ s,
      runActs (step twoLegConfig) (init twoLegConfig) fedLegFails = some s ∧ Stranded s 0 ∧
        (∃ e ∈ s.accepted, e.seq = 0 ∧ ∃ id, e.caller = .feeder id) ∧
        s.carrier.calls (.feeder 0) = none ∧ s.carrier.calls (.feeder 1) = none := by
    refine ⟨_, rfl, ⟨by decide, rfl, ⟨_, mem_singleton_self _, rfl⟩, ?_, rfl, rfl⟩,
      ⟨_, mem_singleton_self _, rfl, 0, rfl⟩, rfl, rfl⟩
    intro e he _
    rw [mem_singleton.mp he]
    rfl
  have hinv := inv_of_reachable ⟨_, hrun⟩
  have hfed : FedByFeeder s 0 := by
    refine ⟨haccepted, fun id c t hc _ => ?_⟩
    have hlegs : id < 2 := by
      refine hinv.registry.feederId id ?_
      rw [(hinv.feeding.call id c hc).1]
      nofun
    rcases Nat.le_one_iff_eq_zero_or_eq_one.mp (Nat.le_of_lt_succ hlegs) with rfl | rfl
    · rw [hzero] at hc
      cases hc
    · rw [hone] at hc
      cases hc
  exact ⟨s, hrun, hstranded, (offered_iff_fedByFeeder ⟨_, hrun⟩ hstranded).mpr hfed⟩

end Retries

section Draining

variable {cfg : Config} {s : State} {m : Measured} {seq : Nat} {a : BenchmarkAssignment}
  {owner : Ref}

/-- `assignBenchmark` returns a leg that is not draining. -/
def HandedOn (cfg : Config) (s : State) (m : Measured) (seq : Nat) (a : BenchmarkAssignment) :
    Prop :=
  ∃ ref, (assignBenchmark cfg s.carrier s.books m seq a).leg = some ref ∧
    (s.carrier.legs ref).draining = false

/-- An outstanding record that is not admitted, with a draining owner, while another leg could
take it. -/
structure HeldByDraining (cfg : Config) (s : State) (m : Measured) (seq : Nat)
    (a : BenchmarkAssignment) (owner : Ref) : Prop where
  outstanding : seq ∈ s.carrier.ledger.outstanding
  assigned : s.assignments seq = some a
  unadmitted : a.admitted = false
  owned : a.owner = some owner
  draining : (s.carrier.legs owner).draining = true
  other : ∃ id ref, s.carrier.attached id = some ref ∧ ref ≠ owner ∧
    (s.carrier.legs ref).closed = false ∧ (s.carrier.legs ref).draining = false ∧
    selectable cfg s.carrier s.books m a ref = true ∧ 0 < m.weight ref

theorem HeldByDraining.keepsOwner_eq (h : HeldByDraining cfg s m seq a owner) :
    keepsOwner cfg s.carrier s.books seq a =
      (!(s.carrier.legs owner).closed &&
        (ordinaryOwnerAllowed cfg s.books.admission (s.carrier.legs owner).id ||
          pendingRecoveryProbeOwner cfg s.books.admission (s.carrier.legs owner).id seq)) := by
  unfold keepsOwner
  rw [h.owned, h.unadmitted]
  rfl

/-- A record of a draining owner goes to another leg exactly if the owner does not keep it. -/
theorem HeldByDraining.handedOn_iff (hreg : Registry cfg s)
    (h : HeldByDraining cfg s m seq a owner) :
    HandedOn cfg s m seq a ↔ keepsOwner cfg s.carrier s.books seq a = false := by
  constructor
  · rintro ⟨ref, hleg, hopen⟩
    cases hkeeps : keepsOwner cfg s.carrier s.books seq a with
    | false => rfl
    | true =>
      rw [assignBenchmark_kept hkeeps, h.owned] at hleg
      cases hleg
      rw [h.draining] at hopen
      cases hopen
  · intro hkeeps
    obtain ⟨id, ref, hattached, -, hopen, hdraining, hselectable, hweight⟩ := h.other
    have hm : ref ∈ candidates cfg s.carrier s.books m a := by
      refine mem_candidates.mpr ⟨mem_availableLegs.mpr ?_, hselectable, hweight⟩
      exact ⟨⟨id, hreg.attachedId id ref hattached, hattached⟩, hopen, hdraining⟩
    have hsome : (assignBenchmark cfg s.carrier s.books m seq a).leg ≠ none := by
      rw [Ne, assignBenchmark_eq_none_iff _ h.outstanding]
      · rintro ⟨-, hnil⟩
        rw [hnil] at hm
        cases hm
      · exact fun ref _ => Nat.lt_of_lt_of_le (hreg.legId ref) cfg.maxActiveLegs_le
    obtain ⟨ref', hleg⟩ := Option.ne_none_iff_exists'.mp hsome
    refine ⟨ref', hleg, ?_⟩
    rcases (assignBenchmark_leg hleg).1 with ⟨hkept, -⟩ | havailable
    · rw [hkeeps] at hkept
      cases hkept
    · exact (mem_availableLegs.mp havailable).2.2

/-- `assignBenchmark` hands a record of a draining owner on exactly if the owner is closed, or
slow-leg protection has taken ordinary ownership from it and the record is not its pending
recovery probe. -/
theorem handedOn_iff_ownerGivenUp (hreach : Reachable (step cfg) (init cfg) s)
    (h : HeldByDraining cfg s m seq a owner) :
    HandedOn cfg s m seq a ↔
      (s.carrier.legs owner).closed = true ∨
        (ordinaryOwnerAllowed cfg s.books.admission (s.carrier.legs owner).id = false ∧
          pendingRecoveryProbeOwner cfg s.books.admission (s.carrier.legs owner).id seq =
            false) := by
  rw [h.handedOn_iff (inv_of_reachable hreach).registry, h.keepsOwner_eq, Bool.and_eq_false_iff,
    Bool.not_eq_false', Bool.or_eq_false_iff]

/-- Leg 0 starts to drain while its feeder holds a record and leg 1 is attached. -/
def drainWhileHeld : List Act :=
  [.leg (.attachLeg 0)] ++ planChunk evenLegs 7 ++
    [.leg (.attachLeg 1), .feeder 0 .pop, .leg (.setDraining 0 true)]

/-- One turn of the feeder of leg 0 whose `tryQueue` is refused. -/
def refusedTurn : List Act :=
  [.feeder 0 (.assign evenLegs), .feeder 0 .tryQueue, .feeder 0 .return, .feeder 0 .check]

/-- The draining owner is returned again, its queue refuses the record, and the feeder waits
with the record in its hands. -/
theorem drainWhileHeld_keepsOwner :
    ∃ s a, runActs (step twoLegConfig) (init twoLegConfig) drainWhileHeld = some s ∧
      HeldByDraining twoLegConfig s evenLegs 0 a 0 ∧
      (assignBenchmark twoLegConfig s.carrier s.books evenLegs 0 a).leg = some 0 ∧
      ¬ HandedOn twoLegConfig s evenLegs 0 a ∧
      ∃ s', runActs (step twoLegConfig) s refusedTurn = some s' ∧ s'.feeders 0 = .waiting 0 := by
  refine ⟨_, _, rfl, ⟨by decide, rfl, rfl, rfl, rfl, 1, 1, rfl, by decide, rfl, rfl, rfl, one_pos⟩,
    rfl, ?_, _, rfl, rfl⟩
  rintro ⟨ref, hleg, hopen⟩
  cases hleg
  cases hopen

/-- Once the draining leg has failed, its record goes to leg 1. -/
theorem handedOn_drainingLegFails :
    ∃ s a, runActs (step twoLegConfig) (init twoLegConfig)
        (drainWhileHeld ++ [.leg (.fail 0)]) = some s ∧
      HeldByDraining twoLegConfig s evenLegs 0 a 0 ∧ HandedOn twoLegConfig s evenLegs 0 a := by
  obtain ⟨s, a, hrun, hheld, hclosed⟩ : ∃ s a,
      runActs (step twoLegConfig) (init twoLegConfig)
        (drainWhileHeld ++ [.leg (.fail 0)]) = some s ∧
      HeldByDraining twoLegConfig s evenLegs 0 a 0 ∧ (s.carrier.legs 0).closed = true :=
    ⟨_, _, rfl, ⟨by decide, rfl, rfl, rfl, rfl, 1, 1, rfl, by decide, rfl, rfl, rfl, one_pos⟩, rfl⟩
  exact ⟨s, a, hrun, hheld, (handedOn_iff_ownerGivenUp ⟨_, hrun⟩ hheld).mpr (.inl hclosed)⟩

end Draining

section Fed

variable {cfg : Config} {s s' : State} {seq : Nat}

/-- Did a feeder offer this record? -/
def Acceptance.fed (seq : Nat) (e : Acceptance) : Bool :=
  match e.caller with
  | .feeder _ => decide (e.seq = seq)
  | _ => false

/-- `accepted` grows only where a `tryQueue` call sends to a carrier queue. -/
theorem step_accepted {a : Act} (hs : step cfg s a = some s') :
    s'.accepted = s.accepted ∨ ∃ k c t, s.carrier.calls k = some c ∧ c.stage = .marked t ∧
      s'.accepted = ⟨c.seq, c.ref, k⟩ :: s.accepted := by
  cases a with
  | planner a | feeder _ a | reassign _ a | retry a | call _ a | leg a =>
    cases a <;> simp only [step, plannerStep, feederStep, reassignStep, retryStep, tryQueueStep,
      lifeStep, State.assign, State.push, State.begin, State.result, State.takeWake,
      State.setFeeder, State.setReassign, State.setAdmitted, State.wakeAll] at hs <;>
      grind [Option.map_eq_some_iff, Option.bind_eq_some_iff, callStep]
  | writer | ack | admission | wakeDecoupled =>
    simp only [step, State.wakeAll] at hs
    grind [Option.map_eq_some_iff]

/-- A record that a feeder is about to send to a carrier queue was not sent by a feeder before. -/
theorem Inv.not_fed (h : Inv cfg s) {id : LegID} {c : Call} {t : Time}
    (hc : s.carrier.calls (.feeder id) = some c) (hstage : c.stage = .marked t) {e : Acceptance}
    (he : e ∈ s.accepted) : ¬ e.fed c.seq = true := by
  intro hfed
  obtain ⟨id', hcaller, hseq⟩ : ∃ id', e.caller = .feeder id' ∧ e.seq = c.seq := by
    unfold Acceptance.fed at hfed
    split at hfed
    · next id' hcaller => exact ⟨id', hcaller, of_decide_eq_true hfed⟩
    · cases hfed
  rcases h.feeding.logged e he id' hcaller with hadmitted | ⟨c', t', hc', hseq', hqueued⟩
  · have hpending := h.feeding.early id c hc (by rw [hstage]; rfl)
    rw [← hseq, hadmitted] at hpending
    cases hpending
  · have hheld : ∀ {i : LegID} {c : Call}, s.carrier.calls (.feeder i) = some c →
        c.seq ∈ (s.feeders i).held := by
      intro i c hc
      rw [(h.feeding.call i c hc).1]
      exact mem_singleton_self _
    have hsame : id' = id := by
      refine h.holding.feeder_unique h.registry (hheld hc') ?_
      rw [hseq', hseq]
      exact hheld hc
    rw [hsame, hc] at hc'
    cases hc'
    rw [hstage] at hqueued
    cases hqueued

/-- A record has at most one holder, the feeders put it into a carrier queue at most once, and
once its assignment is admitted one of them has. -/
theorem records_fed_once (hreach : Reachable (step cfg) (init cfg) s) (seq : Nat) :
    s.holders cfg seq ≤ 1 ∧ s.accepted.countP (Acceptance.fed seq) ≤ 1 ∧
      (benchmarkPendingOnly s seq = false → s.accepted.countP (Acceptance.fed seq) = 1) := by
  obtain ⟨h, honce⟩ : Inv cfg s ∧ s.accepted.countP (Acceptance.fed seq) ≤ 1 := by
    refine @Reachable.invariant _ _ _ _ _ (fun s => Inv cfg s ∧
      s.accepted.countP (Acceptance.fed seq) ≤ 1) hreach ⟨inv_init, Nat.zero_le _⟩ ?_
    rintro s a s' ⟨h, honce⟩ hs
    refine ⟨inv_step h hs, ?_⟩
    rcases step_accepted hs with hsame | ⟨k, c, t, hc, hstage, hnew⟩
    · rwa [hsame]
    · rw [hnew, countP_cons]
      split
      · next hfed =>
        -- the new entry is the first one for its record
        unfold Acceptance.fed at hfed
        split at hfed
        · next id hk =>
          cases hk
          cases of_decide_eq_true hfed
          rw [countP_eq_zero.2 fun e he => h.not_fed hc hstage he]
        · cases hfed
      · exact honce
  refine ⟨h.holding.once seq, honce, fun hadmitted => ?_⟩
  obtain ⟨e, he, rfl, id, hcaller⟩ := h.feeding.admitted seq hadmitted
  refine Nat.le_antisymm honce (countP_pos_iff.2 ⟨e, he, ?_⟩)
  rw [Acceptance.fed, hcaller]
  exact decide_eq_true rfl

/-- The record that went through the feeder of leg 0 is put into its queue once. -/
theorem records_fed_once_fedLegFails :
    ∃ s, runActs (step twoLegConfig) (init twoLegConfig) fedLegFails = some s ∧
      s.accepted.countP (Acceptance.fed 0) = 1 := by
  obtain ⟨s, hrun, hadmitted⟩ : ∃ s, runActs (step twoLegConfig) (init twoLegConfig) fedLegFails =
      some s ∧ benchmarkPendingOnly s 0 = false := ⟨_, rfl, rfl⟩
  exact ⟨s, hrun, (records_fed_once ⟨_, hrun⟩ 0).2.2 hadmitted⟩

end Fed

end Smp3Multipath.Core.Decoupled

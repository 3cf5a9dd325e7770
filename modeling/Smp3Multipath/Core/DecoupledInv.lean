import Smp3Multipath.Core.Decoupled

/-!
# The invariant of the aggregation scheduler

At most one of the planner, the pending queues, the feeders and the running
`reassignFailedPending` calls holds a record, every record outside of the planner
has its assignment published, and a record is admitted only through the call of
the feeder that holds it.
-/

namespace Smp3Multipath.Core.Decoupled

open Lib.Run Lib.Tally Assignment Function
open Carrier hiding Config State init

/-- The record the planner has yet to publish. -/
def Planner.unassigned : Planner → List Nat
  | .hinted seq | .hintCalling seq | .unpublished seq => [seq]
  | _ => []

/-- The record the planner has published. -/
def Planner.published : Planner → List Nat
  | .assigning seq | .assignWait seq => [seq]
  | .pushing seq _ | .pushWait seq _ | .reassigning seq _ => [seq]
  | _ => []

/-- The record a feeder holds that it has not offered since it last looked. -/
def Feeder.unadmitted : Feeder → List Nat
  | .holding seq | .assigned seq _ | .waiting seq => [seq]
  | _ => []

/-- Is the attempt of the call not yet past the `admitted` store? -/
def beforeStore : CallStage → Bool
  | .checked | .marked _ | .queued _ => true
  | _ => false

/-- Ids stay below the configured number of legs. -/
structure Registry (cfg : Config) (s : State) : Prop where
  legId : ∀ ref, (s.carrier.legs ref).id < cfg.maxActiveLegs
  attachedId : ∀ id ref, s.carrier.attached id = some ref → id < cfg.maxActiveLegs
  feederId : ∀ id, s.feeders id ≠ .absent → id < cfg.maxActiveLegs
  pendingId : ∀ id, ∀ seq ∈ s.pending id, id < cfg.maxActiveLegs
  reassignId : ∀ i, (s.reassigns i).1 < cfg.maxActiveLegs
  reassignSpawned : ∀ i, s.spawned ≤ i → (s.reassigns i).2 = .returned

/-- Who holds which record. -/
structure Holding (cfg : Config) (s : State) : Prop where
  once : ∀ seq, s.holders cfg seq ≤ 1
  fresh : ∀ seq, s.carrier.ledger.nextSequence ≤ seq →
    s.assignments seq = none ∧ s.holders cfg seq = 0
  unassigned : ∀ seq ∈ s.planner.unassigned, s.assignments seq = none
  planner : ∀ seq ∈ s.planner.published, (s.assignments seq).isSome = true
  pending : ∀ id, ∀ seq ∈ s.pending id, (s.assignments seq).isSome = true
  feeders : ∀ id, ∀ seq ∈ (s.feeders id).held, (s.assignments seq).isSome = true
  reassigns : ∀ i, ∀ seq ∈ (s.reassigns i).2.held, (s.assignments seq).isSome = true

/-- The calls of the feeders and what they admit. -/
structure Feeding (s : State) : Prop where
  call : ∀ id c, s.carrier.calls (.feeder id) = some c →
    s.feeders id = .calling c.seq ∧ c.retry = false ∧ c.rescue = false
  early : ∀ id c, s.carrier.calls (.feeder id) = some c → beforeStore c.stage = true →
    benchmarkPendingOnly s c.seq = true
  noted : ∀ id c t, s.carrier.calls (.feeder id) = some c → c.stage = .noted t →
    benchmarkPendingOnly s c.seq = false
  returned : ∀ id c, s.carrier.calls (.feeder id) = some c → c.stage = .returned true →
    benchmarkPendingOnly s c.seq = false ∨ c.seq ∉ s.carrier.ledger.outstanding
  holds : ∀ id, ∀ seq ∈ (s.feeders id).unadmitted, benchmarkPendingOnly s seq = true
  logged : ∀ e ∈ s.accepted, ∀ id, e.caller = .feeder id →
    benchmarkPendingOnly s e.seq = false ∨
      ∃ c t, s.carrier.calls (.feeder id) = some c ∧ c.seq = e.seq ∧ c.stage = .queued t
  queued : ∀ id c t, s.carrier.calls (.feeder id) = some c → c.stage = .queued t →
    ∃ e ∈ s.accepted, e.seq = c.seq ∧ e.caller = .feeder id
  admitted : ∀ seq, benchmarkPendingOnly s seq = false →
    ∃ e ∈ s.accepted, e.seq = seq ∧ ∃ id, e.caller = .feeder id

/-- Does the planner, a pending queue or a `reassignFailedPending` call hold the record? -/
def State.Outside (s : State) (seq : Nat) : Prop :=
  seq ∈ s.planner.held ∨ (∃ id, seq ∈ s.pending id) ∨ ∃ i, seq ∈ (s.reassigns i).2.held

structure Inv (cfg : Config) (s : State) : Prop where
  registry : Registry cfg s
  holding : Holding cfg s
  outside : ∀ seq, s.Outside seq → benchmarkPendingOnly s seq = true
  plannerCall : ∀ c, s.carrier.calls .planner = some c → s.planner = .hintCalling c.seq
  retryCall : ∀ c, s.carrier.calls .retransmit = some c → c.retry = true ∨ c.rescue = true
  feeding : Feeding s

section Holders

variable {cfg : Config} {s : State}

theorem setFeeder_feeders (id id' : LegID) (f : Feeder) :
    (s.setFeeder id f).feeders id' = if id' = id then f else s.feeders id' :=
  update_apply ..

theorem setReassign_reassigns (i j : Nat) (r : Reassign) :
    (s.setReassign i r).reassigns j =
      if j = i then ((s.reassigns i).1, r) else s.reassigns j :=
  update_apply ..

theorem Planner.held_eq (p : Planner) : p.held = p.unassigned ++ p.published := by
  cases p <;> rfl

theorem count_cons (seq : Nat) (rest : List Nat) (x : Nat) :
    (seq :: rest).count x = [seq].count x + rest.count x := by
  rw [← List.singleton_append, List.count_append]

theorem holders_setPlanner (p : Planner) (x : Nat) :
    State.holders { s with planner := p } cfg x + s.planner.held.count x =
      s.holders cfg x + p.held.count x := by
  unfold State.holders
  dsimp only
  omega

theorem holders_setFeeder {id : LegID} (hid : id < cfg.maxActiveLegs) (f : Feeder) (x : Nat) :
    (s.setFeeder id f).holders cfg x + (s.feeders id).held.count x =
      s.holders cfg x + f.held.count x := by
  have htally := tally_comp_update_add (x := x) Feeder.held s.feeders
    (Finset.mem_range.mpr hid) f
  unfold State.holders State.setFeeder
  dsimp only
  omega

theorem holders_setPending {id : LegID} (hid : id < cfg.maxActiveLegs) (queue : List Nat)
    (x : Nat) :
    State.holders { s with pending := update s.pending id queue } cfg x +
      (s.pending id).count x = s.holders cfg x + queue.count x := by
  have htally := tally_update_add (x := x) s.pending (Finset.mem_range.mpr hid) queue
  unfold State.holders
  dsimp only
  omega

theorem holders_setReassign {i : Nat} (hi : i < s.spawned) (r : Reassign) (x : Nat) :
    (s.setReassign i r).holders cfg x + (s.reassigns i).2.held.count x =
      s.holders cfg x + r.held.count x := by
  have htally := tally_comp_update_add (x := x) (fun p : LegID × Reassign => p.2.held)
    s.reassigns (Finset.mem_range.mpr hi) ((s.reassigns i).1, r)
  unfold State.holders State.setReassign
  dsimp only [comp_def] at htally ⊢
  omega

theorem tally_pending_pos (hreg : Registry cfg s) {id : LegID} {seq : Nat}
    (h : seq ∈ s.pending id) : 0 < tally s.pending (Finset.range cfg.maxActiveLegs) seq :=
  tally_pos (Finset.mem_range.mpr (hreg.pendingId id seq h)) h

theorem mem_range_of_feeder (hreg : Registry cfg s) {id : LegID} {seq : Nat}
    (h : seq ∈ (s.feeders id).held) : id ∈ Finset.range cfg.maxActiveLegs := by
  refine Finset.mem_range.mpr (hreg.feederId id fun habsent => ?_)
  rw [habsent] at h
  cases h

theorem tally_feeders_pos (hreg : Registry cfg s) {id : LegID} {seq : Nat}
    (h : seq ∈ (s.feeders id).held) :
    0 < tally (Feeder.held ∘ s.feeders) (Finset.range cfg.maxActiveLegs) seq :=
  tally_pos (mem_range_of_feeder hreg h) h

theorem lt_spawned_of_running (hreg : Registry cfg s) {i : Nat}
    (h : (s.reassigns i).2 ≠ .returned) : i < s.spawned := by
  by_contra hge
  exact h (hreg.reassignSpawned i (Nat.not_lt.mp hge))

theorem tally_reassigns_pos (hreg : Registry cfg s) {i : Nat} {seq : Nat}
    (h : seq ∈ (s.reassigns i).2.held) :
    0 < tally (fun i => (s.reassigns i).2.held) (Finset.range s.spawned) seq := by
  have hrunning : (s.reassigns i).2 ≠ .returned := by
    intro hdone
    rw [hdone] at h
    cases h
  exact tally_pos (Finset.mem_range.mpr (lt_spawned_of_running hreg hrunning)) h

theorem holders_pos_of_feeder (hreg : Registry cfg s) {id : LegID} {seq : Nat}
    (h : seq ∈ (s.feeders id).held) : 0 < s.holders cfg seq := by
  have hpos := tally_feeders_pos hreg h
  unfold State.holders
  omega

/-- A record that is held is in the ledger's numbering. -/
theorem Holding.lt_next (h : Holding cfg s) {seq : Nat} (hpos : 0 < s.holders cfg seq) :
    seq < s.carrier.ledger.nextSequence := by
  by_contra hge
  have hzero := (h.fresh seq (Nat.not_lt.mp hge)).2
  omega

theorem Holding.feeder_unique (h : Holding cfg s) (hreg : Registry cfg s) {id id' : LegID}
    {seq : Nat} (hseq : seq ∈ (s.feeders id).held) (hseq' : seq ∈ (s.feeders id').held) :
    id = id' := by
  by_contra hne
  have htwo : 2 ≤ tally (Feeder.held ∘ s.feeders) (Finset.range cfg.maxActiveLegs) seq :=
    two_le_tally (mem_range_of_feeder hreg hseq) (mem_range_of_feeder hreg hseq') hne hseq hseq'
  have honce := h.once seq
  unfold State.holders at honce
  omega

theorem Holding.not_outside (h : Holding cfg s) (hreg : Registry cfg s) {id : LegID} {seq : Nat}
    (hseq : seq ∈ (s.feeders id).held) : ¬ s.Outside seq := by
  have hfeeder := tally_feeders_pos hreg hseq
  have honce := h.once seq
  unfold State.holders at honce
  rintro (hplanner | ⟨id', hpending⟩ | ⟨i, hreassign⟩)
  · have hpos := List.count_pos_iff.mpr hplanner
    omega
  · have hpos := tally_pending_pos hreg hpending
    omega
  · have hpos := tally_reassigns_pos hreg hreassign
    omega

end Holders

section Frames

variable {cfg : Config} {s s' : State}

theorem Registry.frame (h : Registry cfg s) (hcarrier : SameRegistry s.carrier s'.carrier)
    (hfeeders : ∀ id, s'.feeders id ≠ .absent → s.feeders id ≠ .absent)
    (hpending : ∀ id, ∀ seq ∈ s'.pending id, seq ∈ s.pending id ∨ id < cfg.maxActiveLegs)
    (hreassigns : ∀ i, (s'.reassigns i).1 = (s.reassigns i).1 ∧
      ((s.reassigns i).2 = .returned → (s'.reassigns i).2 = .returned))
    (hspawned : s'.spawned = s.spawned) : Registry cfg s' where
  legId ref := by rw [hcarrier.id]; exact h.legId ref
  attachedId id ref := by rw [hcarrier.attached]; exact h.attachedId id ref
  feederId id hid := h.feederId id (hfeeders id hid)
  pendingId id seq hseq := (hpending id seq hseq).elim (h.pendingId id seq) fun hid => hid
  reassignId i := by rw [(hreassigns i).1]; exact h.reassignId i
  reassignSpawned i hi := (hreassigns i).2 (h.reassignSpawned i (hspawned ▸ hi))

theorem Registry.same (h : Registry cfg s) (hcarrier : SameRegistry s.carrier s'.carrier)
    (hfeeders : s'.feeders = s.feeders) (hpending : s'.pending = s.pending)
    (hreassigns : s'.reassigns = s.reassigns) (hspawned : s'.spawned = s.spawned) :
    Registry cfg s' := by
  refine h.frame hcarrier (fun id hid => ?_) (fun id seq hseq => ?_) (fun i => ?_) hspawned
  · rw [hfeeders] at hid
    exact hid
  · rw [hpending] at hseq
    exact .inl hseq
  · rw [hreassigns]
    exact ⟨rfl, id⟩

theorem Holding.frame (h : Holding cfg s)
    (hholders : ∀ seq, s'.holders cfg seq ≤ s.holders cfg seq)
    (hnext : s'.carrier.ledger.nextSequence = s.carrier.ledger.nextSequence)
    (hsome : ∀ seq, (s'.assignments seq).isSome = (s.assignments seq).isSome)
    (hunassigned : ∀ seq ∈ s'.planner.unassigned, seq ∈ s.planner.unassigned)
    (hplanner : ∀ seq ∈ s'.planner.published, (s.assignments seq).isSome = true)
    (hpending : ∀ id, ∀ seq ∈ s'.pending id, (s.assignments seq).isSome = true)
    (hfeeders : ∀ id, ∀ seq ∈ (s'.feeders id).held, (s.assignments seq).isSome = true)
    (hreassigns : ∀ i, ∀ seq ∈ (s'.reassigns i).2.held, (s.assignments seq).isSome = true) :
    Holding cfg s' where
  once seq := Nat.le_trans (hholders seq) (h.once seq)
  fresh seq hseq := by
    obtain ⟨hnone, hzero⟩ := h.fresh seq (hnext ▸ hseq)
    refine ⟨?_, ?_⟩
    · have hsame := hsome seq
      rw [hnone] at hsame
      simpa using hsame
    · have hle := hholders seq
      omega
  unassigned seq hseq := by
    have hnone := h.unassigned seq (hunassigned seq hseq)
    have hsame := hsome seq
    rw [hnone] at hsame
    simpa using hsame
  planner seq hseq := (hsome seq).trans (hplanner seq hseq)
  pending id seq hseq := (hsome seq).trans (hpending id seq hseq)
  feeders id seq hseq := (hsome seq).trans (hfeeders id seq hseq)
  reassigns i seq hseq := (hsome seq).trans (hreassigns i seq hseq)

theorem Holding.same (h : Holding cfg s)
    (hnext : s'.carrier.ledger.nextSequence = s.carrier.ledger.nextSequence)
    (hsome : ∀ seq, (s'.assignments seq).isSome = (s.assignments seq).isSome)
    (hplanner : s'.planner = s.planner) (hpending : s'.pending = s.pending)
    (hfeeders : s'.feeders = s.feeders) (hreassigns : s'.reassigns = s.reassigns)
    (hspawned : s'.spawned = s.spawned) : Holding cfg s' := by
  refine h.frame (fun seq => ?_) hnext hsome ?_ ?_ ?_ ?_ ?_
  · unfold State.holders
    rw [hplanner, hpending, hfeeders, hreassigns, hspawned]
  · rw [hplanner]
    exact fun _ hseq => hseq
  · rw [hplanner]
    exact h.planner
  · rw [hpending]
    exact h.pending
  · rw [hfeeders]
    exact h.feeders
  · rw [hreassigns]
    exact h.reassigns

theorem Feeding.frame (h : Feeding s)
    (hcalls : ∀ id, s'.carrier.calls (.feeder id) = s.carrier.calls (.feeder id))
    (hfeeders : ∀ id, s'.feeders id = s.feeders id ∨
      (s.feeders id = .absent ∧ s'.feeders id = .idle))
    (hpending : ∀ seq, benchmarkPendingOnly s' seq = benchmarkPendingOnly s seq)
    (haccepted : ∀ e id, e.caller = .feeder id → (e ∈ s'.accepted ↔ e ∈ s.accepted))
    (hout : ∀ id c, s.carrier.calls (.feeder id) = some c →
      c.seq ∈ s'.carrier.ledger.outstanding → c.seq ∈ s.carrier.ledger.outstanding) :
    Feeding s' where
  call id c hc := by
    rw [hcalls] at hc
    obtain ⟨hp, hkind⟩ := h.call id c hc
    refine ⟨?_, hkind⟩
    rcases hfeeders id with hsame | ⟨habsent, -⟩
    · exact hsame.trans hp
    · rw [habsent] at hp
      cases hp
  early id c hc hstage := by
    rw [hcalls] at hc
    exact (hpending _).trans (h.early id c hc hstage)
  noted id c t hc hstage := by
    rw [hcalls] at hc
    exact (hpending _).trans (h.noted id c t hc hstage)
  returned id c hc hstage := by
    rw [hcalls] at hc
    rw [hpending]
    exact (h.returned id c hc hstage).imp_right fun hnot hm => hnot (hout id c hc hm)
  holds id seq hseq := by
    rw [hpending]
    rcases hfeeders id with hsame | ⟨-, hidle⟩
    · exact h.holds id seq (hsame ▸ hseq)
    · rw [hidle] at hseq
      cases hseq
  logged e he id hcaller := by
    rw [hpending, hcalls]
    exact h.logged e ((haccepted e id hcaller).mp he) id hcaller
  queued id c t hc hstage := by
    rw [hcalls] at hc
    obtain ⟨e, he, hseq, hcaller⟩ := h.queued id c t hc hstage
    exact ⟨e, (haccepted e id hcaller).mpr he, hseq, hcaller⟩
  admitted seq hseq := by
    rw [hpending] at hseq
    obtain ⟨e, he, heq, id, hcaller⟩ := h.admitted seq hseq
    exact ⟨e, (haccepted e id hcaller).mpr he, heq, id, hcaller⟩

/-- Steps that move no goroutine of the scheduler. -/
theorem Inv.same (h : Inv cfg s) (hregistry : SameRegistry s.carrier s'.carrier)
    (hnext : s'.carrier.ledger.nextSequence = s.carrier.ledger.nextSequence)
    (hout : ∀ seq ∈ s'.carrier.ledger.outstanding, seq ∈ s.carrier.ledger.outstanding)
    (hcalls : s'.carrier.calls = s.carrier.calls)
    (hsome : ∀ seq, (s'.assignments seq).isSome = (s.assignments seq).isSome)
    (hpendingOnly : ∀ seq, benchmarkPendingOnly s' seq = benchmarkPendingOnly s seq)
    (hplanner : s'.planner = s.planner) (hpending : s'.pending = s.pending)
    (hfeeders : s'.feeders = s.feeders) (hreassigns : s'.reassigns = s.reassigns)
    (hspawned : s'.spawned = s.spawned) (haccepted : s'.accepted = s.accepted) : Inv cfg s' where
  registry := h.registry.same hregistry hfeeders hpending hreassigns hspawned
  holding := h.holding.same hnext hsome hplanner hpending hfeeders hreassigns hspawned
  outside seq hseq := by
    unfold State.Outside at hseq
    rw [hplanner, hpending, hreassigns] at hseq
    exact (hpendingOnly seq).trans (h.outside seq hseq)
  plannerCall c hc := by
    rw [hcalls] at hc
    rw [hplanner]
    exact h.plannerCall c hc
  retryCall c hc := by
    rw [hcalls] at hc
    exact h.retryCall c hc
  feeding := h.feeding.frame (fun _ => by rw [hcalls]) (fun _ => .inl (by rw [hfeeders]))
    hpendingOnly (fun _ _ _ => by rw [haccepted]) fun _ c _ => hout c.seq

/-- The state that an outcome of `assignBenchmark` for a record leaves. -/
def State.withOutcome (s : State) (seq : Nat) (o : Outcome) : State :=
  { s with
    carrier := { s.carrier with ledger := o.ledger }
    books := o.books
    assignments := update s.assignments seq (some o.assignment) }

theorem assign_effect {m : Measured} {seq : Nat} {leg : Option Ref}
    (hassign : s.assign cfg m seq = some (leg, s')) :
    ∃ a, s.assignments seq = some a ∧
      leg = (assignBenchmark cfg s.carrier s.books m seq a).leg ∧
      s' = s.withOutcome seq (assignBenchmark cfg s.carrier s.books m seq a) := by
  obtain ⟨a, ha, ⟨⟩⟩ := Option.map_eq_some_iff.mp hassign
  exact ⟨a, ha, rfl, rfl⟩

theorem Inv.assign (h : Inv cfg s) {m : Measured} {seq : Nat} {leg : Option Ref}
    (hassign : s.assign cfg m seq = some (leg, s')) :
    Inv cfg s' ∧ s'.planner = s.planner ∧ s'.feeders = s.feeders ∧
      s'.reassigns = s.reassigns ∧ s'.spawned = s.spawned ∧ s'.pending = s.pending ∧
      s'.carrier.calls = s.carrier.calls ∧
      (∀ x, (s'.assignments x).isSome = (s.assignments x).isSome) ∧
      ∀ x, benchmarkPendingOnly s' x = benchmarkPendingOnly s x := by
  obtain ⟨a, ha, -, rfl⟩ := assign_effect hassign
  have hstream := @assignBenchmark_sameStream _ cfg s.carrier s.books m seq a
  have hadmitted := @assignBenchmark_admitted _ cfg s.carrier s.books m seq a
  have hsome : ∀ x, (update s.assignments seq
      (some (assignBenchmark cfg s.carrier s.books m seq a).assignment) x).isSome =
        (s.assignments x).isSome := by
    intro x
    rw [update_apply]
    split
    · next heq =>
      rw [heq, ha]
      rfl
    · rfl
  have hpendingOnly : ∀ x, benchmarkPendingOnly
      (s.withOutcome seq (assignBenchmark cfg s.carrier s.books m seq a)) x =
        benchmarkPendingOnly s x := by
    intro x
    unfold benchmarkPendingOnly State.withOutcome
    dsimp only
    by_cases heq : x = seq
    · rw [heq, update_self, ha]
      exact congrArg Bool.not hadmitted
    · rw [update_of_ne heq]
  refine ⟨h.same ⟨rfl, fun _ => rfl⟩ hstream.next ?_ rfl hsome hpendingOnly rfl rfl rfl rfl rfl
    rfl, rfl, rfl, rfl, rfl, rfl, rfl, hsome, hpendingOnly⟩
  intro x hx
  exact hstream.outstanding ▸ hx

end Frames

section Phases

variable {cfg : Config} {s s' : State}

theorem mem_of_count_le {l l' : List Nat} (h : ∀ x, l'.count x ≤ l.count x) {x : Nat}
    (hx : x ∈ l') : x ∈ l :=
  List.count_pos_iff.mp (Nat.lt_of_lt_of_le (List.count_pos_iff.mpr hx) (h x))

theorem Inv.movePlanner (h : Inv cfg s) {carrier : Carrier.State Caller} (p : Planner)
    (hregistry : SameRegistry s.carrier carrier)
    (hnext : carrier.ledger.nextSequence = s.carrier.ledger.nextSequence)
    (hout : ∀ seq ∈ carrier.ledger.outstanding, seq ∈ s.carrier.ledger.outstanding)
    (hfeeder : ∀ id, carrier.calls (.feeder id) = s.carrier.calls (.feeder id))
    (hretry : ∀ c, carrier.calls .retransmit = some c → c.retry = true ∨ c.rescue = true)
    (hcall : ∀ c, carrier.calls .planner = some c → p = .hintCalling c.seq)
    (hheld : ∀ x, p.held.count x ≤ s.planner.held.count x)
    (hunassigned : ∀ x ∈ p.unassigned, x ∈ s.planner.unassigned)
    (hpublished : ∀ x ∈ p.published, (s.assignments x).isSome = true) :
    Inv cfg { s with carrier := carrier, planner := p } where
  registry := h.registry.same hregistry rfl rfl rfl rfl
  holding := by
    refine h.holding.frame (fun x => ?_) hnext (fun _ => rfl) hunassigned hpublished
      h.holding.pending h.holding.feeders h.holding.reassigns
    have hsum := @holders_setPlanner cfg s p x
    have hle := hheld x
    show State.holders { s with planner := p } cfg x ≤ s.holders cfg x
    omega
  outside x hx := h.outside x (hx.imp_left (mem_of_count_le hheld))
  plannerCall := hcall
  retryCall := hretry
  feeding := h.feeding.frame hfeeder (fun _ => .inl rfl) (fun _ => rfl)
    (fun _ _ _ => Iff.rfl) fun _ c _ => hout c.seq

theorem Inv.setPlanner (h : Inv cfg s) (p : Planner)
    (hcall : ∀ c, s.carrier.calls .planner = some c → p = .hintCalling c.seq)
    (hheld : ∀ x, p.held.count x ≤ s.planner.held.count x)
    (hunassigned : ∀ x ∈ p.unassigned, x ∈ s.planner.unassigned)
    (hpublished : ∀ x ∈ p.published, (s.assignments x).isSome = true) :
    Inv cfg { s with planner := p } :=
  h.movePlanner p ⟨rfl, fun _ => rfl⟩ rfl (fun _ hm => hm) (fun _ => rfl) h.retryCall hcall
    hheld hunassigned hpublished

theorem Inv.setFeeder (h : Inv cfg s) (id : LegID) (f : Feeder)
    (hpresent : s.feeders id ≠ .absent)
    (hheld : ∀ x, f.held.count x ≤ (s.feeders id).held.count x)
    (hunadmitted : ∀ x ∈ f.unadmitted, benchmarkPendingOnly s x = true)
    (hcall : ∀ c, s.carrier.calls (.feeder id) = some c → f = .calling c.seq) :
    Inv cfg (s.setFeeder id f) where
  registry := by
    refine h.registry.frame ⟨rfl, fun _ => rfl⟩ (fun id' hne => ?_) (fun _ _ hseq => .inl hseq)
      (fun _ => ⟨rfl, fun hr => hr⟩) rfl
    by_cases heq : id' = id
    · rw [heq]
      exact hpresent
    · rwa [setFeeder_feeders, if_neg heq] at hne
  holding := by
    refine h.holding.frame (fun x => ?_) rfl (fun _ => rfl) (fun _ hx => hx)
      h.holding.planner h.holding.pending (fun id' x hx => ?_) h.holding.reassigns
    · have hsum := holders_setFeeder (s := s) (h.registry.feederId id hpresent) f x
      have hle := hheld x
      omega
    · rw [setFeeder_feeders] at hx
      split at hx
      · exact h.holding.feeders id x (mem_of_count_le hheld hx)
      · exact h.holding.feeders id' x hx
  outside := h.outside
  plannerCall := h.plannerCall
  retryCall := h.retryCall
  feeding :=
    { call := fun id' c hc => by
        obtain ⟨hp, hkind⟩ := h.feeding.call id' c hc
        refine ⟨?_, hkind⟩
        rw [setFeeder_feeders]
        split
        · next heq => exact hcall c (heq ▸ hc)
        · exact hp
      early := h.feeding.early
      noted := h.feeding.noted
      returned := h.feeding.returned
      holds := fun id' x hx => by
        rw [setFeeder_feeders] at hx
        split at hx
        · exact hunadmitted x hx
        · exact h.feeding.holds id' x hx
      logged := h.feeding.logged
      queued := h.feeding.queued
      admitted := h.feeding.admitted }

theorem Inv.setReassign (h : Inv cfg s) (i : Nat) (r : Reassign)
    (hrunning : (s.reassigns i).2 ≠ .returned)
    (hheld : ∀ x, r.held.count x ≤ (s.reassigns i).2.held.count x) :
    Inv cfg (s.setReassign i r) where
  registry := by
    refine h.registry.frame ⟨rfl, fun _ => rfl⟩ (fun _ hne => hne) (fun _ _ hseq => .inl hseq)
      (fun j => ?_) rfl
    rw [setReassign_reassigns]
    split
    · next heq => exact ⟨by rw [heq], fun hdone => absurd (heq ▸ hdone) hrunning⟩
    · exact ⟨rfl, fun hdone => hdone⟩
  holding := by
    refine h.holding.frame (fun x => ?_) rfl (fun _ => rfl) (fun _ hx => hx)
      h.holding.planner h.holding.pending h.holding.feeders (fun j x hx => ?_)
    · have hsum := @holders_setReassign cfg s i (lt_spawned_of_running h.registry hrunning) r x
      have hle := hheld x
      omega
    · rw [setReassign_reassigns] at hx
      split at hx
      · exact h.holding.reassigns i x (mem_of_count_le hheld hx)
      · exact h.holding.reassigns j x hx
  outside x hx := by
    refine h.outside x (hx.imp_right (Or.imp_right fun ⟨j, hj⟩ => ?_))
    rw [setReassign_reassigns] at hj
    split at hj
    · exact ⟨i, mem_of_count_le hheld hj⟩
    · exact ⟨j, hj⟩
  plannerCall := h.plannerCall
  retryCall := h.retryCall
  feeding := h.feeding.frame (fun _ => rfl) (fun _ => .inl rfl) (fun _ => rfl)
    (fun _ _ _ => Iff.rfl) fun _ _ _ hm => hm

end Phases

end Smp3Multipath.Core.Decoupled

import Smp3Multipath.Core.DecoupledRuns

/-!
# Who holds a pending record

In the aggregation mode a record with a published assignment that no carrier queue
has accepted yet belongs to the planner, a pending queue, a feeder or a running
`reassignFailedPending` call.  `scheduleRetries` leaves such records alone, so one
that loses its holder is never sent.  Exactly one step can lose it:
`reassignFailedPending` returns with the record it has popped when
`assignBenchmark` finds no leg.
-/

namespace Smp3Multipath.Core.Decoupled

open Lib.Run Lib.Tally Assignment Function List Option
open Carrier hiding Config State init

/-- An outstanding record with a published assignment that was not admitted to a carrier
queue. -/
def State.Unadmitted (s : State) (seq : Nat) : Prop :=
  seq ∈ s.carrier.ledger.outstanding ∧ ∃ a, s.assignments seq = some a ∧ a.admitted = false

/-- Every unadmitted record has exactly one holder. -/
def NoneLost (cfg : Config) (s : State) : Prop :=
  ∀ seq, s.Unadmitted seq → s.holders cfg seq = 1

/-- Can `assignBenchmark` give the record to a leg: does its owner keep it, or is an attached,
open leg that is not draining selectable and of positive weight? -/
def Placeable (cfg : Config) (s : State) (m : Measured) (seq : Nat) : Prop :=
  ∀ a, s.assignments seq = some a →
    keepsOwner cfg s.carrier s.books seq a = true ∨
      ∃ ref ∈ availableLegs cfg s.carrier,
        selectable cfg s.carrier s.books m a ref = true ∧ 0 < m.weight ref

/-- A step at which `reassignFailedPending` assigns an unadmitted record finds a leg for it. -/
def Reassignable (cfg : Config) (s : State) : Act → Prop
  | .reassign i (.assign m) =>
    ∀ seq, (s.reassigns i).2 = .popped seq → s.Unadmitted seq → Placeable cfg s m seq
  | _ => True

/-- Every unadmitted record has a holder. -/
def AllHeld (cfg : Config) (s : State) : Prop :=
  ∀ seq, s.Unadmitted seq → 0 < s.holders cfg seq

section Frames

variable {cfg : Config} {s s' : State}

theorem unadmitted_iff {seq : Nat} :
    s.Unadmitted seq ↔ seq ∈ s.carrier.ledger.outstanding ∧
      (s.assignments seq).isSome = true ∧ benchmarkPendingOnly s seq = true := by
  unfold State.Unadmitted benchmarkPendingOnly
  cases s.assignments seq <;> simp

theorem noneLost_iff (h : Inv cfg s) : NoneLost cfg s ↔ AllHeld cfg s := by
  refine forall₂_congr fun seq _ => ?_
  have honce := h.holding.once seq
  omega

theorem AllHeld.frame (h : AllHeld cfg s) (hunadmitted : ∀ x, s'.Unadmitted x → s.Unadmitted x)
    (hholders : ∀ x, s.Unadmitted x → s.holders cfg x ≤ s'.holders cfg x) : AllHeld cfg s' := by
  intro x hx
  exact Nat.lt_of_lt_of_le (h x (hunadmitted x hx)) (hholders x (hunadmitted x hx))

theorem AllHeld.setCarrier (h : AllHeld cfg s) {carrier : Carrier.State Caller}
    (hout : ∀ x ∈ carrier.ledger.outstanding, x ∈ s.carrier.ledger.outstanding) :
    AllHeld cfg { s with carrier := carrier } :=
  h.frame (fun x hx => ⟨hout x hx.1, hx.2⟩) fun _ _ => Nat.le_refl _

theorem AllHeld.setPlanner (h : AllHeld cfg s) (p : Planner)
    (hheld : ∀ x, s.Unadmitted x → s.planner.held.count x ≤ p.held.count x) :
    AllHeld cfg { s with planner := p } := by
  refine h.frame (fun _ hx => hx) fun x hx => ?_
  have hsum := @holders_setPlanner cfg s p x
  have hle := hheld x hx
  omega

theorem AllHeld.setFeeder (h : AllHeld cfg s) {id : LegID} (hid : id < cfg.maxActiveLegs)
    (f : Feeder) (hheld : ∀ x, s.Unadmitted x → (s.feeders id).held.count x ≤ f.held.count x) :
    AllHeld cfg (s.setFeeder id f) := by
  refine h.frame (fun _ hx => hx) fun x hx => ?_
  have hsum := @holders_setFeeder cfg s id hid f x
  have hle := hheld x hx
  omega

theorem AllHeld.setReassign (h : AllHeld cfg s) {i : Nat} (hi : i < s.spawned) (r : Reassign)
    (hheld : ∀ x, s.Unadmitted x → (s.reassigns i).2.held.count x ≤ r.held.count x) :
    AllHeld cfg (s.setReassign i r) := by
  refine h.frame (fun _ hx => hx) fun x hx => ?_
  have hsum := @holders_setReassign cfg s i hi r x
  have hle := hheld x hx
  omega

theorem count_le_of_not_unadmitted {seq : Nat} (hseq : ¬ s.Unadmitted seq) {x : Nat}
    (hx : s.Unadmitted x) (l : List Nat) : [seq].count x ≤ l.count x := by
  have hne : ¬ seq = x := by
    rintro rfl
    exact hseq hx
  rw [count_singleton, if_neg (by simpa using hne)]
  exact Nat.zero_le _

theorem not_unadmitted_of_retired {seq : Nat} (h : seq ∉ s.carrier.ledger.outstanding) :
    ¬ s.Unadmitted seq :=
  fun hx => h hx.1

theorem not_unadmitted_of_admitted {seq : Nat} (h : benchmarkPendingOnly s seq = false) :
    ¬ s.Unadmitted seq := by
  intro hx
  have hpending := (unadmitted_iff.mp hx).2.2
  rw [h] at hpending
  cases hpending

theorem AllHeld.assign (h : AllHeld cfg s) {m : Measured} {seq : Nat} {leg : Option Ref}
    (hassign : s.assign cfg m seq = some (leg, s')) :
    AllHeld cfg s' ∧ (∀ x, s'.Unadmitted x ↔ s.Unadmitted x) ∧
      ∀ x, s'.holders cfg x = s.holders cfg x := by
  obtain ⟨a, ha, -, rfl⟩ := assign_effect hassign
  have hunadmitted : ∀ x,
      (s.withOutcome seq (assignBenchmark cfg s.carrier s.books m seq a)).Unadmitted x ↔
        s.Unadmitted x := by
    intro x
    unfold State.Unadmitted State.withOutcome
    dsimp only
    rw [(@assignBenchmark_sameStream _ cfg s.carrier s.books m seq a).outstanding]
    by_cases heq : x = seq
    · rw [heq, update_self, ha]
      simp only [Option.some.injEq, exists_eq_left', assignBenchmark_admitted]
    · rw [update_of_ne heq]
  exact ⟨h.frame (fun x => (hunadmitted x).mp) fun _ _ => Nat.le_refl _, hunadmitted,
    fun _ => rfl⟩

/-- The condition is what `assignBenchmark` needs to return a leg. -/
theorem placeable_iff (hreg : Registry cfg s) {m : Measured} {seq : Nat} {a : BenchmarkAssignment}
    (hout : seq ∈ s.carrier.ledger.outstanding) (ha : s.assignments seq = some a) :
    Placeable cfg s m seq ↔ (assignBenchmark cfg s.carrier s.books m seq a).leg ≠ none := by
  have hids : ∀ ref ∈ availableLegs cfg s.carrier, (s.carrier.legs ref).id < maxStreamLegIDCount :=
    fun ref _ => Nat.lt_of_lt_of_le (hreg.legId ref) cfg.maxActiveLegs_le
  rw [Ne, assignBenchmark_eq_none_iff hids hout, not_and_or, Bool.not_eq_false,
    eq_nil_iff_forall_not_mem, not_forall_not]
  unfold Placeable
  rw [ha]
  simp only [Option.some.injEq, forall_eq', mem_candidates]

end Frames

section Steps

variable {cfg : Config} {s s' : State}

theorem AllHeld.plannerKeeps (h : AllHeld cfg s) {p q : Planner} (hp : s.planner = q)
    (hheld : q.held = p.held) : AllHeld cfg { s with planner := p } :=
  h.setPlanner p fun x _ => by rw [hp, hheld]

theorem AllHeld.plannerDrops (h : AllHeld cfg s) {p q : Planner} {seq : Nat}
    (hp : s.planner = q) (hheld : q.held = [seq]) (hseq : ¬ s.Unadmitted seq) :
    AllHeld cfg { s with planner := p } :=
  h.setPlanner p fun x hx => by
    rw [hp, hheld]
    exact count_le_of_not_unadmitted hseq hx _

theorem allHeld_plannerStep (hinv : Inv cfg s) (h : AllHeld cfg s) {a : PlannerAct}
    (hs : plannerStep cfg s a = some s') : AllHeld cfg s' := by
  cases a with
  | add payload now hint =>
    simp only [plannerStep] at hs
    split at hs
    · next hp =>
      cases hs
      obtain ⟨-, -, hout, -⟩ := StreamTXLedger.addLocal_claims s.carrier.ledger payload now
      refine h.frame (fun x hx => ⟨?_, hx.2⟩) fun x _ => ?_
      · -- the new record has no assignment yet
        refine ((hout x).mp hx.1).resolve_left ?_
        rintro rfl
        obtain ⟨a, ha, -⟩ := hx.2
        rw [(hinv.holding.fresh _ (Nat.le_refl _)).1] at ha
        cases ha
      · have hsum := @holders_setPlanner cfg s (if hint then
          .hinted (s.carrier.ledger.addLocal payload now).2
          else .unpublished (s.carrier.ledger.addLocal payload now).2) x
        rw [hp] at hsum
        have hzero : Planner.idle.held.count x = 0 := rfl
        show s.holders cfg x ≤ State.holders { s with planner := _ } cfg x
        omega
    · cases hs
  | hint ref =>
    simp only [plannerStep] at hs
    split at hs
    · next seq hp =>
      obtain ⟨s₁, hbegin, rfl⟩ := map_eq_some_iff.mp hs
      obtain ⟨c, hb, -⟩ := begin_effect hbegin
      rw [hb.state]
      have h₁ : AllHeld cfg { s with carrier := s₁.carrier } :=
        h.setCarrier fun x hx => hb.ledger ▸ hx
      exact h₁.plannerKeeps hp rfl
    · cases hs
  | noHint =>
    simp only [plannerStep] at hs
    split at hs
    · next seq hp =>
      cases hs
      exact h.plannerKeeps hp rfl
    · cases hs
  | hintReturn =>
    simp only [plannerStep] at hs
    split at hs
    · next seq hp =>
      obtain ⟨⟨ok, s₁⟩, hresult, rfl⟩ := map_eq_some_iff.mp hs
      obtain ⟨c, -, -, rfl⟩ := result_effect hresult
      have h₁ : AllHeld cfg { s with carrier := s.carrier.setCall .planner none } :=
        h.setCarrier fun _ hx => hx
      refine h₁.plannerDrops hp rfl ?_
      -- the record was accepted, or goes on, before its assignment is published
      rintro ⟨-, a, ha, -⟩
      have hnone := hinv.holding.unassigned seq (by rw [hp]; exact mem_singleton_self _)
      exact absurd (hnone.symm.trans ha) (by simp)
    · cases hs
  | publish =>
    simp only [plannerStep] at hs
    split at hs
    · next seq hp =>
      cases hs
      intro x hx
      have hsum := @holders_setPlanner cfg s (.assigning seq) x
      rw [hp] at hsum
      have hsame : State.holders { s with planner := .assigning seq } cfg x =
          s.holders cfg x := Nat.add_right_cancel hsum
      show 0 < State.holders { s with planner := .assigning seq } cfg x
      rw [hsame]
      by_cases heq : x = seq
      · have hpos : 0 < s.planner.held.count x := by
          rw [hp, heq]
          exact count_pos_iff.mpr (mem_singleton_self _)
        unfold State.holders
        omega
      · obtain ⟨hout, a, ha, hadmitted⟩ := hx
        dsimp only at ha
        rw [update_of_ne heq] at ha
        exact h x ⟨hout, a, ha, hadmitted⟩
    · cases hs
  | giveUp =>
    simp only [plannerStep] at hs
    split at hs
    · next seq hp =>
      split_ifs at hs with hout
      cases hs
      exact h.plannerDrops hp rfl (not_unadmitted_of_retired hout)
    · next seq ref hp =>
      split_ifs at hs with hout
      cases hs
      exact h.plannerDrops hp rfl (not_unadmitted_of_retired hout)
    · cases hs
  | assign m =>
    simp only [plannerStep] at hs
    split at hs
    · next seq hp =>
      obtain ⟨⟨leg, s₁⟩, hassign, rfl⟩ := map_eq_some_iff.mp hs
      have hplanner := (hinv.assign hassign).2.1
      have h₁ := (h.assign hassign).1
      rw [hp] at hplanner
      cases leg with
      | none | some ref => exact h₁.plannerKeeps hplanner rfl
    · cases hs
  | push =>
    simp only [plannerStep] at hs
    split at hs
    · next seq ref hp =>
      obtain ⟨s₁, hpush, rfl⟩ := map_eq_some_iff.mp hs
      obtain rfl := push_effect hpush
      refine h.frame (fun _ hx => hx) fun x _ => ?_
      have hplanner := @holders_setPlanner cfg s (.enqueued seq) x
      have hpending := @holders_setPending cfg { s with planner := .enqueued seq } _
        (hinv.registry.legId ref) (s.pending (s.carrier.legs ref).id ++ [seq]) x
      rw [hp] at hplanner
      rw [count_append] at hpending
      have hheld : (Planner.pushing seq ref).held.count x = [seq].count x := rfl
      dsimp only at hpending ⊢
      omega
    · cases hs
  | full =>
    simp only [plannerStep] at hs
    split at hs
    · next seq ref hp =>
      split_ifs at hs
      cases hs
      exact h.plannerKeeps hp rfl
    · cases hs
  | wake =>
    simp only [plannerStep] at hs
    split at hs
    · next seq hp =>
      obtain ⟨s₁, hwake, rfl⟩ := map_eq_some_iff.mp hs
      obtain rfl := takeWake_effect hwake
      exact h.plannerKeeps hp rfl
    · next seq ref hp =>
      obtain ⟨s₁, hwake, rfl⟩ := map_eq_some_iff.mp hs
      obtain rfl := takeWake_effect hwake
      exact h.plannerKeeps hp rfl
    · cases hs
  | reassign m =>
    simp only [plannerStep] at hs
    split at hs
    · next seq ref hp =>
      obtain ⟨⟨leg, s₁⟩, hassign, rfl⟩ := map_eq_some_iff.mp hs
      have hplanner := (hinv.assign hassign).2.1
      rw [hp] at hplanner
      exact (h.assign hassign).1.plannerKeeps hplanner rfl
    · cases hs
  | finish =>
    simp only [plannerStep] at hs
    split at hs
    · next seq hp =>
      cases hs
      have hstream := StreamTXLedger.finishLocalEnqueue_sameStream s.carrier.ledger seq
      have h₁ : AllHeld cfg { s with
          carrier := { s.carrier with ledger := s.carrier.ledger.finishLocalEnqueue seq } } :=
        h.setCarrier fun x hx => hstream.outstanding ▸ hx
      exact h₁.plannerKeeps hp rfl
    · cases hs

theorem AllHeld.feederKeeps (h : AllHeld cfg s) {id : LegID} {f g : Feeder}
    (hid : id < cfg.maxActiveLegs) (hp : s.feeders id = g) (hheld : g.held = f.held) :
    AllHeld cfg (s.setFeeder id f) :=
  h.setFeeder hid f fun x _ => by rw [hp, hheld]

theorem AllHeld.feederDrops (h : AllHeld cfg s) {id : LegID} {f g : Feeder} {seq : Nat}
    (hid : id < cfg.maxActiveLegs) (hp : s.feeders id = g) (hheld : g.held = [seq])
    (hseq : ¬ s.Unadmitted seq) : AllHeld cfg (s.setFeeder id f) :=
  h.setFeeder hid f fun x hx => by
    rw [hp, hheld]
    exact count_le_of_not_unadmitted hseq hx _

theorem allHeld_feederStep (hinv : Inv cfg s) (h : AllHeld cfg s) {id : LegID} {a : FeederAct}
    (hs : feederStep cfg s id a = some s') : AllHeld cfg s' := by
  have hid : ∀ {f : Feeder}, s.feeders id = f → f ≠ .absent → id < cfg.maxActiveLegs := by
    intro f hp hne
    exact hinv.registry.feederId id (hp ▸ hne)
  cases a with
  | pop =>
    simp only [feederStep] at hs
    split at hs
    · next seq rest hp hqueue =>
      cases hs
      refine h.frame (fun _ hx => hx) fun x _ => ?_
      have hpending := @holders_setPending cfg s _ (hid hp (by simp)) rest x
      have hfeeder := @holders_setFeeder cfg
        { s with pending := update s.pending id rest } id (hid hp (by simp))
        (.holding seq) x
      have hidle : (s.feeders id).held.count x = 0 := by rw [hp]; rfl
      have htaken : (Feeder.holding seq).held.count x = [seq].count x := rfl
      rw [hqueue, count_cons] at hpending
      dsimp only at hfeeder
      show s.holders cfg x ≤ State.holders
        (State.setFeeder { s with pending := update s.pending id rest } id
          (.holding seq)) cfg x
      omega
    · cases hs
  | done =>
    simp only [feederStep] at hs
    split at hs
    · next seq hp =>
      split_ifs at hs with hout
      cases hs
      exact h.feederDrops (hid hp (by simp)) hp rfl (not_unadmitted_of_retired hout)
    · cases hs
  | assign m =>
    simp only [feederStep] at hs
    split at hs
    · next seq hp =>
      obtain ⟨⟨leg, s₁⟩, hassign, rfl⟩ := map_eq_some_iff.mp hs
      have hfeeders := (hinv.assign hassign).2.2.1
      have hphase₁ : s₁.feeders id = .holding seq := by rw [hfeeders, hp]
      have h₁ := (h.assign hassign).1
      cases leg with
      | none | some ref => exact h₁.feederKeeps (hid hp (by simp)) hphase₁ rfl
    · cases hs
  | tryQueue =>
    simp only [feederStep] at hs
    split at hs
    · next seq ref hp =>
      obtain ⟨s₁, hbegin, rfl⟩ := map_eq_some_iff.mp hs
      obtain ⟨c, hb, -⟩ := begin_effect hbegin
      rw [hb.state]
      have h₁ : AllHeld cfg { s with carrier := s₁.carrier } :=
        h.setCarrier fun x hx => hb.ledger ▸ hx
      exact h₁.feederKeeps (hid hp (by simp)) hp rfl
    · cases hs
  | «return» =>
    simp only [feederStep] at hs
    split at hs
    · next seq hp =>
      obtain ⟨⟨ok, s₁⟩, hresult, rfl⟩ := map_eq_some_iff.mp hs
      obtain ⟨c, hc, hstage, rfl⟩ := result_effect hresult
      have h₁ : AllHeld cfg { s with carrier := s.carrier.setCall (.feeder id) none } :=
        h.setCarrier fun _ hx => hx
      cases ok with
      | false => exact h₁.feederKeeps (hid hp (by simp)) hp rfl
      | true =>
        have hseq : c.seq = seq := by
          have hcalling := (hinv.feeding.call id c hc).1
          rw [hp] at hcalling
          injection hcalling with heq
          exact heq.symm
        refine h₁.feederDrops (hid hp (by simp)) hp rfl ?_
        rcases hinv.feeding.returned id c hc hstage with hadmitted | hretired
        · exact not_unadmitted_of_admitted (hseq ▸ hadmitted)
        · exact not_unadmitted_of_retired (hseq ▸ hretired)
    · cases hs
  | check =>
    simp only [feederStep] at hs
    split at hs
    · next seq hp =>
      cases hs
      split
      · exact h.feederKeeps (hid hp (by simp)) hp rfl
      · next hadmitted =>
        exact h.feederDrops (hid hp (by simp)) hp rfl
          (not_unadmitted_of_admitted (Bool.eq_false_iff.mpr hadmitted))
    · cases hs
  | wake =>
    simp only [feederStep] at hs
    split at hs
    · next seq hp =>
      obtain ⟨s₁, hwake, rfl⟩ := map_eq_some_iff.mp hs
      obtain rfl := takeWake_effect hwake
      have h₁ : AllHeld cfg { s with wake := s.wake.set id false } := h
      exact h₁.feederKeeps (hid hp (by simp)) hp rfl
    · cases hs

/-- The assignment of a popped record keeps it held exactly if it finds a leg. -/
theorem allHeld_reassign_assign (hinv : Inv cfg s) (h : AllHeld cfg s) {i : Nat} {m : Measured}
    (hs : reassignStep cfg s i (.assign m) = some s') :
    AllHeld cfg s' ↔ Reassignable cfg s (.reassign i (.assign m)) := by
  simp only [reassignStep] at hs
  split at hs
  · next seq hp =>
    have hrunning : (s.reassigns i).2 ≠ .returned := by rw [hp]; simp
    have hi := lt_spawned_of_running hinv.registry hrunning
    have hsome := hinv.holding.reassigns i seq (by rw [hp]; exact mem_singleton_self _)
    have hcond : Reassignable cfg s (.reassign i (.assign m)) ↔
        (s.Unadmitted seq → Placeable cfg s m seq) := by
      simp only [Reassignable, hp, Reassign.popped.injEq, forall_eq']
    rw [hcond]
    split at hs
    · next hnone =>
      rw [hnone] at hsome
      cases hsome
    · next a ha =>
      obtain ⟨⟨leg, s₁⟩, hassign, rfl⟩ := map_eq_some_iff.mp hs
      obtain ⟨a', ha', hleg, -⟩ := assign_effect hassign
      obtain rfl : a = a' := Option.some.inj (ha.symm.trans ha')
      obtain ⟨h₁, hunadmitted, hholders⟩ := h.assign hassign
      have hreassigns := (hinv.assign hassign).2.2.2.1
      have hspawned := (hinv.assign hassign).2.2.2.2.1
      have hphase₁ : (s₁.reassigns i).2 = .popped seq := by rw [hreassigns, hp]
      have hi₁ : i < s₁.spawned := hspawned ▸ hi
      cases leg with
      | none =>
        have hlost : s.Unadmitted seq → ¬ Placeable cfg s m seq := fun hx hplace =>
          (placeable_iff hinv.registry hx.1 ha).mp hplace hleg.symm
        constructor
        · intro hall hx
          -- the call returns, and nobody holds the record any more
          have hpos := hall seq ((hunadmitted seq).mpr hx)
          have hsum := @holders_setReassign cfg s₁ i hi₁ .returned seq
          have honce := hinv.holding.once seq
          have hone : (s₁.reassigns i).2.held.count seq = 1 := by
            rw [hphase₁]
            exact count_singleton_self
          have hzero : Reassign.returned.held.count seq = 0 := rfl
          have hsame := hholders seq
          dsimp only at hpos
          omega
        · intro hplace
          refine h₁.setReassign hi₁ .returned fun x hx => ?_
          rw [hphase₁]
          refine count_le_of_not_unadmitted (fun hseq => ?_) hx _
          have hseq' := (hunadmitted seq).mp hseq
          exact hlost hseq' (hplace hseq')
      | some ref =>
        refine iff_of_true ?_ fun hx => ?_
        · refine h₁.setReassign hi₁ _ fun x _ => ?_
          rw [hphase₁]
          exact Nat.le_refl _
        · rw [placeable_iff hinv.registry hx.1 ha, ← hleg]
          exact some_ne_none ref
  · cases hs

theorem allHeld_reassignStep (hinv : Inv cfg s) (h : AllHeld cfg s) {i : Nat} {a : ReassignAct}
    (ha : ∀ m, a ≠ .assign m) (hs : reassignStep cfg s i a = some s') : AllHeld cfg s' := by
  have hi : ∀ {r : Reassign}, (s.reassigns i).2 = r → r ≠ .returned → i < s.spawned := by
    intro r hp hne
    exact lt_spawned_of_running hinv.registry (hp ▸ hne)
  cases a with
  | pop =>
    simp only [reassignStep] at hs
    split at hs
    · next seq rest hp hqueue =>
      cases hs
      refine h.frame (fun _ hx => hx) fun x _ => ?_
      have hpending := @holders_setPending cfg s _ (hinv.registry.reassignId i) rest x
      have hreassign := @holders_setReassign cfg
        { s with pending := update s.pending (s.reassigns i).1 rest } i
        (hi hp (by simp)) (.popped seq) x
      have hidle : (s.reassigns i).2.held.count x = 0 := by rw [hp]; rfl
      have htaken : (Reassign.popped seq).held.count x = [seq].count x := rfl
      rw [hqueue, count_cons] at hpending
      dsimp only at hreassign
      show s.holders cfg x ≤ State.holders
        (State.setReassign
          { s with pending := update s.pending (s.reassigns i).1 rest } i
          (.popped seq)) cfg x
      omega
    · cases hs
  | assign m => exact absurd rfl (ha m)
  | push =>
    simp only [reassignStep] at hs
    split at hs
    · next seq ref hp =>
      obtain ⟨s₁, hpush, rfl⟩ := map_eq_some_iff.mp hs
      obtain rfl := push_effect hpush
      refine h.frame (fun _ hx => hx) fun x _ => ?_
      have hreassign := @holders_setReassign cfg s i (hi hp (by simp)) .popping x
      have hpending := @holders_setPending cfg (s.setReassign i .popping) _
        (hinv.registry.legId ref) (s.pending (s.carrier.legs ref).id ++ [seq]) x
      rw [hp] at hreassign
      rw [count_append] at hpending
      have hheld : (Reassign.pushing seq ref).held.count x = [seq].count x := rfl
      have hfreed : Reassign.popping.held.count x = 0 := rfl
      change State.holders { s.setReassign i .popping with
        pending := update s.pending (s.carrier.legs ref).id
          (s.pending (s.carrier.legs ref).id ++ [seq]) } cfg x +
        (s.pending (s.carrier.legs ref).id).count x = _ at hpending
      show s.holders cfg x ≤ State.holders { s.setReassign i .popping with
        pending := update s.pending (s.carrier.legs ref).id
          (s.pending (s.carrier.legs ref).id ++ [seq]) } cfg x
      omega
    · cases hs
  | wake =>
    simp only [reassignStep] at hs
    split at hs
    · obtain rfl := takeWake_effect hs
      exact h
    · cases hs
  | stop =>
    simp only [reassignStep] at hs
    split at hs
    · next hp _ =>
      cases hs
      refine h.setReassign (hi hp (by simp)) _ fun x _ => ?_
      rw [hp]
      exact Nat.le_refl _
    · cases hs

theorem allHeld_retryStep (h : AllHeld cfg s) {a : RetryAct} (hs : retryStep cfg s a = some s') :
    AllHeld cfg s' := by
  have hbegin : ∀ {seq ref rescue retry owner s₁},
      s.begin cfg .retransmit seq ref rescue retry owner = some s₁ → AllHeld cfg s₁ := by
    intro seq ref rescue retry owner s₁ hs₁
    obtain ⟨c, hb, -⟩ := begin_effect hs₁
    rw [hb.state]
    exact h.setCarrier fun x hx => hb.ledger ▸ hx
  have hresult : ∀ {ok s₁}, s.result .retransmit = some (ok, s₁) → AllHeld cfg s₁ := by
    intro ok s₁ hs₁
    obtain ⟨c, -, -, rfl⟩ := result_effect hs₁
    exact h.setCarrier fun _ hx => hx
  cases a with
  | plan =>
    simp only [retryStep] at hs
    split at hs
    · split_ifs at hs
      cases hs
      exact h
    · cases hs
  | «try» ref | rescue seq ref owner =>
    simp only [retryStep] at hs
    split at hs
    · split_ifs at hs
      obtain ⟨s₁, hs₁, rfl⟩ := map_eq_some_iff.mp hs
      have h₁ := hbegin hs₁
      exact h₁
    · cases hs
  | next | done =>
    simp only [retryStep] at hs
    split at hs <;> cases hs
    exact h
  | «return» | rescueReturn =>
    simp only [retryStep] at hs
    split at hs
    · obtain ⟨⟨ok, s₁⟩, hs₁, rfl⟩ := map_eq_some_iff.mp hs
      have h₁ := hresult hs₁
      exact h₁
    · cases hs

theorem allHeld_tryQueueStep (h : AllHeld cfg s) {k : Caller} {a : CallAct}
    (hs : tryQueueStep cfg s k a = some s') : AllHeld cfg s' := by
  obtain ⟨c, -, hrest⟩ := bind_eq_some_iff.mp hs
  obtain ⟨carrier, hcarrier, hrest⟩ := bind_eq_some_iff.mp hrest
  have hbegin : a.isBegin = false := by
    cases a <;> first | rfl | cases hrest
  obtain ⟨_, _, hcont⟩ := callStep_continues hbegin hcarrier
  have h₁ : AllHeld cfg { s with carrier := carrier } :=
    h.setCarrier fun x hx => hcont.footprint.stream.outstanding ▸ hx
  cases a with
  | begin => cases hbegin
  | mark | abort | recheck | enqueue =>
    cases hrest
    exact h₁
  | note =>
    dsimp only at hrest
    split_ifs at hrest
    · cases hrest
      exact h₁
    · cases hrest
      -- an admitted record needs no holder
      refine h₁.frame (fun x hx => ?_) fun _ _ => Nat.le_refl _
      obtain ⟨hout, a, ha, hadmitted⟩ := hx
      unfold State.setAdmitted at ha
      dsimp only at ha
      refine ⟨hout, ?_⟩
      by_cases heq : x = c.seq
      · rw [heq, update_self] at ha
        obtain ⟨a', -, rfl⟩ := map_eq_some_iff.mp ha
        cases hadmitted
      · rw [update_of_ne heq] at ha
        exact ⟨a, ha, hadmitted⟩

theorem allHeld_lifeStep (h : AllHeld cfg s) {a : LegAct} (hs : lifeStep cfg s a = some s') :
    AllHeld cfg s' := by
  obtain ⟨carrier, hleg, hstate⟩ := map_eq_some_iff.mp hs
  obtain ⟨-, hfoot⟩ := legStep_footprint hleg
  have h₁ : AllHeld cfg { s with carrier := carrier } :=
    h.setCarrier fun x hx => hfoot.stream.outstanding ▸ hx
  cases a with
  | attachLeg id =>
    subst hstate
    dsimp only
    split_ifs with habsent
    · simp only [legStep] at hleg
      split_ifs at hleg with hguard
      exact h₁.feederKeeps hguard.1 habsent rfl
    · exact h₁
  | invalidate ref =>
    subst hstate
    refine h₁.frame (fun _ hx => hx) fun x _ => ?_
    exact Nat.le_of_eq (@holders_spawn cfg { s with carrier := carrier } _ x).symm
  | fail | closeConn | remove | readerExit | retire | setDraining | retireDrained =>
    subst hstate
    exact h₁

/-- A step keeps every unadmitted record held exactly if it meets `Reassignable`. -/
theorem allHeld_step_iff (hinv : Inv cfg s) (h : AllHeld cfg s) {a : Act}
    (hs : step cfg s a = some s') : AllHeld cfg s' ↔ Reassignable cfg s a := by
  cases a with
  | reassign i a =>
    cases a with
    | assign m => exact allHeld_reassign_assign hinv h hs
    | pop | push | wake | stop =>
      simp only [step] at hs
      exact iff_of_true (allHeld_reassignStep hinv h (by simp) hs) trivial
  | planner a => exact iff_of_true (allHeld_plannerStep hinv h hs) trivial
  | feeder id a => exact iff_of_true (allHeld_feederStep hinv h hs) trivial
  | retry a => exact iff_of_true (allHeld_retryStep h hs) trivial
  | call k a => exact iff_of_true (allHeld_tryQueueStep h hs) trivial
  | writer ref a =>
    simp only [step] at hs
    split_ifs at hs
    obtain ⟨carrier, hwriter, rfl⟩ := map_eq_some_iff.mp hs
    obtain ⟨-, hfoot⟩ := writerStep_footprint hwriter
    exact iff_of_true (h.setCarrier fun x hx => hfoot.stream.outstanding ▸ hx) trivial
  | leg a => exact iff_of_true (allHeld_lifeStep h hs) trivial
  | ack next now =>
    cases hs
    refine iff_of_true (h.setCarrier fun x hx => ?_) trivial
    exact (StreamTXLedger.applyACK_claims s.carrier.ledger next now).1 x hx
  | admission id state =>
    simp only [step] at hs
    split_ifs at hs
    cases hs
    exact iff_of_true h trivial
  | wakeDecoupled =>
    cases hs
    exact iff_of_true h trivial

end Steps

section Runs

variable {cfg : Config} {s : State}

/-- Along a run every unadmitted record has exactly one holder in every state, exactly if
every assignment of a record that `reassignFailedPending` has popped finds a leg. -/
theorem noneLost_iff_reassignable {acts : List Act}
    (hrun : runActs (step cfg) (init cfg) acts = some s) :
    (∀ n t, runActs (step cfg) (init cfg) (acts.take n) = some t → NoneLost cfg t) ↔
      EachStep (step cfg) (Reassignable cfg) (init cfg) acts := by
  refine forall_take_iff_eachStep (Inv cfg) (fun s a s' hinv hnone hs => ?_) inv_init ?_ hrun
  · have hinv' := inv_step hinv hs
    rw [noneLost_iff hinv] at hnone
    rw [noneLost_iff hinv']
    exact ⟨hinv', allHeld_step_iff hinv hnone hs⟩
  · rintro seq ⟨hout, -⟩
    cases hout

/-- The only leg fails with a record in its pending queue; `reassignFailedPending` pops it. -/
def onlyLegFails : List Act :=
  [.leg (.attachLeg 0)] ++ planChunk evenLegs 7 ++ legFails 0 ++ [.reassign 0 .pop]

/-- The popped record is dropped: outstanding, published, not admitted and with no holder. -/
theorem onlyLegFails_loses :
    ∃ s, runActs (step twoLegConfig) (init twoLegConfig)
        (onlyLegFails ++ [.reassign 0 (.assign evenLegs)]) = some s ∧
      s.Unadmitted 0 ∧ s.holders twoLegConfig 0 = 0 ∧ ¬ NoneLost twoLegConfig s := by
  refine ⟨_, rfl, ⟨by decide, _, rfl, rfl⟩, by decide, fun h => ?_⟩
  exact absurd (h 0 ⟨by decide, _, rfl, rfl⟩) (by decide)

/-- The same failure with another leg attached. -/
def oneOfTwoLegsFails : List Act :=
  [.leg (.attachLeg 0)] ++ planChunk evenLegs 7 ++ [.leg (.attachLeg 1)] ++ legFails 0 ++
    [.reassign 0 .pop]

theorem noneLost_oneOfTwoLegsFails :
    ∃ s, runActs (step twoLegConfig) (init twoLegConfig)
        (oneOfTwoLegsFails ++ [.reassign 0 (.assign evenLegs)]) = some s ∧
      s.Unadmitted 0 ∧ NoneLost twoLegConfig s := by
  obtain ⟨t, ht, hp, hplace⟩ : ∃ t, runActs (step twoLegConfig) (init twoLegConfig)
      oneOfTwoLegsFails = some t ∧ (t.reassigns 0).2 = .popped 0 ∧
        Placeable twoLegConfig t evenLegs 0 := by
    refine ⟨_, rfl, rfl, fun a _ => .inr ⟨1, by decide, rfl, ?_⟩⟩
    exact one_pos
  have hcond : EachStep (step twoLegConfig) (Reassignable twoLegConfig) (init twoLegConfig)
      (oneOfTwoLegsFails ++ [.reassign 0 (.assign evenLegs)]) := by
    refine eachStep_append (eachStep_of_forall ?_) fun s' hs' => ⟨?_, fun _ _ => trivial⟩
    · simp [oneOfTwoLegsFails, planChunk, legFails, Reassignable]
    · rw [ht] at hs'
      cases hs'
      intro seq hseq _
      rw [hp] at hseq
      cases hseq
      exact hplace
  refine ⟨_, rfl, ⟨by decide, _, rfl, rfl⟩, ?_⟩
  exact (noneLost_iff_reassignable rfl).mpr hcond 13 _ rfl

end Runs

end Smp3Multipath.Core.Decoupled

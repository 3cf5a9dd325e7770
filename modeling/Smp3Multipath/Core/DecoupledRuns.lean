import Smp3Multipath.Core.DecoupledSteps

/-!
# The aggregation invariant along runs

Every step of the planner, of a feeder, of a `reassignFailedPending` call, of
`retransmitLoop`, of a carrier and of the peer keeps the invariant, so it holds in
every state of every run.
-/

namespace Smp3Multipath.Core.Decoupled

open Lib.Run Lib.Tally Assignment Function List Option
open Carrier hiding Config State init

section Goroutines

variable {cfg : Config} {s s' : State}

theorem Inv.no_planner_call (h : Inv cfg s) (hp : ∀ seq, s.planner ≠ .hintCalling seq) :
    s.carrier.calls .planner = none := by
  cases hc : s.carrier.calls .planner with
  | none => rfl
  | some c => exact absurd (h.plannerCall c hc) (hp c.seq)

theorem Inv.no_feeder_call (h : Inv cfg s) {id : LegID}
    (hp : ∀ seq, s.feeders id ≠ .calling seq) : s.carrier.calls (.feeder id) = none := by
  cases hc : s.carrier.calls (.feeder id) with
  | none => rfl
  | some c => exact absurd (h.feeding.call id c hc).1 (hp c.seq)

theorem Inv.advancePlanner (h : Inv cfg s) (p : Planner)
    (hp : ∀ seq, s.planner ≠ .hintCalling seq)
    (hheld : ∀ x, p.held.count x ≤ s.planner.held.count x)
    (hunassigned : ∀ x ∈ p.unassigned, x ∈ s.planner.unassigned)
    (hpublished : ∀ x ∈ p.published, x ∈ s.planner.published) :
    Inv cfg { s with planner := p } := by
  refine h.setPlanner p (fun c hc => ?_) hheld hunassigned
    fun x hx => h.holding.planner x (hpublished x hx)
  rw [h.no_planner_call hp] at hc
  cases hc

theorem Planner.of_published {p : Planner} {seq : Nat} (h : p.published = [seq]) :
    p.held = [seq] ∧ p.unassigned = [] ∧ ∀ x, p ≠ .hintCalling x := by
  cases p <;> simp_all [Planner.held, Planner.unassigned, Planner.published]

theorem Inv.keepPlanner (h : Inv cfg s) {p : Planner} {seq : Nat}
    (hbefore : s.planner.published = [seq]) (hafter : p.published = [seq]) :
    Inv cfg { s with planner := p } := by
  obtain ⟨hheld, -, hcalling⟩ := Planner.of_published hbefore
  obtain ⟨hheld', hunassigned, -⟩ := Planner.of_published hafter
  refine h.advancePlanner p hcalling (fun x => ?_) (fun x hx => ?_) fun x hx => ?_
  · rw [hheld, hheld']
  · rw [hunassigned] at hx
    cases hx
  · rwa [hafter, ← hbefore] at hx

theorem Inv.advanceFeeder (h : Inv cfg s) {id : LegID} (f : Feeder)
    (hpresent : s.feeders id ≠ .absent) (hp : ∀ seq, s.feeders id ≠ .calling seq)
    (hheld : ∀ x, f.held.count x ≤ (s.feeders id).held.count x)
    (hunadmitted : ∀ x ∈ f.unadmitted, benchmarkPendingOnly s x = true) :
    Inv cfg (s.setFeeder id f) := by
  refine h.setFeeder id f hpresent hheld hunadmitted fun c hc => ?_
  rw [h.no_feeder_call hp] at hc
  cases hc

theorem push_effect {seq : Nat} {ref : Ref} (h : s.push cfg seq ref = some s') :
    s' = { s with
      pending := update s.pending (s.carrier.legs ref).id
        (s.pending (s.carrier.legs ref).id ++ [seq]) } := by
  unfold State.push at h
  dsimp only at h
  split_ifs at h
  exact (Option.some.inj h).symm

theorem takeWake_effect {slot : Nat} (h : s.takeWake slot = some s') :
    s' = { s with wake := s.wake.set slot false } := by
  unfold State.takeWake at h
  split_ifs at h
  exact (Option.some.inj h).symm

theorem Inv.setWake (h : Inv cfg s) (wake : List Bool) : Inv cfg { s with wake := wake } :=
  h.same ⟨rfl, fun _ => rfl⟩ rfl (fun _ hm => hm) rfl (fun _ => rfl) (fun _ => rfl) rfl rfl rfl
    rfl rfl rfl

theorem Inv.setRetry (h : Inv cfg s) (r : RetryPhase) : Inv cfg { s with retry := r } :=
  h.same ⟨rfl, fun _ => rfl⟩ rfl (fun _ hm => hm) rfl (fun _ => rfl) (fun _ => rfl) rfl rfl rfl
    rfl rfl rfl

/-- The planner reads a chunk. -/
theorem Inv.add (h : Inv cfg s) (payload : List UInt8) (now : Time) {p : Planner}
    (hidle : s.planner = .idle) (hheld : p.held = [s.carrier.ledger.nextSequence])
    (hpublished : p.published = []) :
    Inv cfg { s with
      carrier := { s.carrier with ledger := (s.carrier.ledger.addLocal payload now).1 }
      planner := p } := by
  obtain ⟨-, hnext, hout, -⟩ := StreamTXLedger.addLocal_claims s.carrier.ledger payload now
  generalize (s.carrier.ledger.addLocal payload now).1 = ledger at hnext hout
  obtain ⟨hnone, hzero⟩ := h.holding.fresh _ (Nat.le_refl _)
  have hholders : ∀ x, State.holders { s with planner := p } cfg x =
      s.holders cfg x + [s.carrier.ledger.nextSequence].count x := by
    intro x
    have hsum := @holders_setPlanner cfg s p x
    rw [hidle, hheld] at hsum
    exact hsum
  have hother : ∀ x, x ≠ s.carrier.ledger.nextSequence →
      State.holders { s with planner := p } cfg x = s.holders cfg x := by
    intro x hne
    rw [hholders, count_singleton, if_neg (by simpa using hne.symm), Nat.add_zero]
  refine ⟨h.registry.same ⟨rfl, fun _ => rfl⟩ rfl rfl rfl rfl, ⟨?_, ?_, ?_, ?_, h.holding.pending,
    h.holding.feeders, h.holding.reassigns⟩, ?_, ?_, h.retryCall, ?_⟩
  · intro x
    show State.holders { s with planner := p } cfg x ≤ 1
    by_cases hx : x = s.carrier.ledger.nextSequence
    · rw [hholders, hx, hzero, count_singleton_self]
    · rw [hother x hx]
      exact h.holding.once x
  · intro x hx
    have hlt : s.carrier.ledger.nextSequence < x := by
      change ledger.nextSequence ≤ x at hx
      omega
    obtain ⟨hxnone, hxzero⟩ := h.holding.fresh x (Nat.le_of_lt hlt)
    exact ⟨hxnone, (hother x (Nat.ne_of_gt hlt)).trans hxzero⟩
  · intro x hx
    have hm : x ∈ p.held := by
      rw [Planner.held_eq]
      exact mem_append_left _ hx
    rw [hheld, mem_singleton] at hm
    rw [hm]
    exact hnone
  · intro x hx
    change x ∈ p.published at hx
    rw [hpublished] at hx
    cases hx
  · rintro x (hx | hrest)
    · change x ∈ p.held at hx
      rw [hheld, mem_singleton] at hx
      unfold benchmarkPendingOnly
      rw [hx, hnone]
    · exact h.outside x (.inr hrest)
  · intro c hc
    have hcalling := h.plannerCall c hc
    rw [hidle] at hcalling
    cases hcalling
  · refine h.feeding.frame (fun _ => rfl) (fun _ => .inl rfl) (fun _ => rfl) (fun _ _ _ => Iff.rfl)
      fun id c hc hm => ?_
    have hlt : c.seq < s.carrier.ledger.nextSequence := by
      refine h.holding.lt_next (@holders_pos_of_feeder _ _ h.registry id _ ?_)
      rw [(h.feeding.call id c hc).1]
      exact mem_singleton_self _
    exact ((hout c.seq).mp hm).resolve_left (Nat.ne_of_lt hlt)

theorem Inv.publish (h : Inv cfg s) {seq : Nat} (hp : s.planner = .unpublished seq) :
    Inv cfg { s with
      assignments := update s.assignments seq (some {})
      planner := .assigning seq } := by
  have hnone : s.assignments seq = none := by
    refine h.holding.unassigned seq ?_
    rw [hp]
    exact mem_singleton_self _
  have hlt : seq < s.carrier.ledger.nextSequence := by
    refine h.holding.lt_next ?_
    have hpos : 0 < s.planner.held.count seq := by
      rw [hp]
      exact count_pos_iff.mpr (mem_singleton_self _)
    unfold State.holders
    omega
  have hpending : ∀ x, benchmarkPendingOnly
      { s with
        assignments := update s.assignments seq (some {})
        planner := .assigning seq } x = benchmarkPendingOnly s x := by
    intro x
    unfold benchmarkPendingOnly
    dsimp only
    by_cases heq : x = seq
    · rw [heq, update_self, hnone]
      rfl
    · rw [update_of_ne heq]
  have hsome : ∀ x, (s.assignments x).isSome = true →
      (update s.assignments seq (some {}) x).isSome = true := by
    intro x hx
    by_cases heq : x = seq
    · rw [heq, update_self]
      rfl
    · rwa [update_of_ne heq]
  have hholders : ∀ x, State.holders { s with planner := .assigning seq } cfg x =
      s.holders cfg x := by
    intro x
    have hsum := @holders_setPlanner cfg s (.assigning seq) x
    rw [hp] at hsum
    exact Nat.add_right_cancel hsum
  refine ⟨h.registry.same ⟨rfl, fun _ => rfl⟩ rfl rfl rfl rfl, ⟨?_, ?_, nofun, ?_, ?_, ?_, ?_⟩, ?_,
    ?_, h.retryCall, ?_⟩
  · intro x
    exact Nat.le_trans (Nat.le_of_eq (hholders x)) (h.holding.once x)
  · intro x hx
    obtain ⟨hxnone, hxzero⟩ := h.holding.fresh x hx
    refine ⟨?_, (hholders x).trans hxzero⟩
    show update s.assignments seq (some {}) x = none
    rw [update_of_ne (by rintro rfl; exact Nat.not_le.mpr hlt hx)]
    exact hxnone
  · intro x hx
    rw [mem_singleton.mp hx]
    show (update s.assignments seq (some {}) seq).isSome = true
    rw [update_self]
    rfl
  · exact fun id x hx => hsome x (h.holding.pending id x hx)
  · exact fun id x hx => hsome x (h.holding.feeders id x hx)
  · exact fun i x hx => hsome x (h.holding.reassigns i x hx)
  · intro x hx
    refine (hpending x).trans (h.outside x (hx.imp_left fun hin => ?_))
    rw [hp]
    exact hin
  · intro c hc
    have hcalling := h.plannerCall c hc
    rw [hp] at hcalling
    cases hcalling
  · exact h.feeding.frame (fun _ => rfl) (fun _ => .inl rfl) hpending (fun _ _ _ => Iff.rfl)
      fun _ _ _ hm => hm

theorem inv_plannerStep (h : Inv cfg s) {a : PlannerAct} (hs : plannerStep cfg s a = some s') :
    Inv cfg s' := by
  cases a with
  | add payload now hint =>
    simp only [plannerStep] at hs
    split at hs
    · next hp =>
      cases hs
      have hseq := (StreamTXLedger.addLocal_claims s.carrier.ledger payload now).1
      refine h.add payload now hp ?_ ?_
      · rw [hseq]
        split <;> rfl
      · split <;> rfl
    · cases hs
  | hint ref =>
    simp only [plannerStep] at hs
    split at hs
    · next seq hp =>
      obtain ⟨s₁, hbegin, rfl⟩ := map_eq_some_iff.mp hs
      obtain ⟨c, hb, hseq, -⟩ := begin_effect hbegin
      rw [hb.state]
      refine h.movePlanner _ hb.registry (by rw [hb.ledger]) (fun x hx => hb.ledger ▸ hx)
        (fun id => hb.others _ (by simp)) ?_ ?_ ?_ ?_ nofun
      · intro c' hc'
        rw [hb.others _ (by simp)] at hc'
        exact h.retryCall c' hc'
      · intro c' hc'
        rw [hb.after] at hc'
        cases hc'
        rw [hseq]
      · intro x
        rw [hp]
        exact Nat.le_refl _
      · intro x hx
        rw [hp]
        exact hx
    · cases hs
  | noHint =>
    simp only [plannerStep] at hs
    split at hs
    · next seq hp =>
      cases hs
      refine h.advancePlanner _ (by rw [hp]; nofun) (fun x => ?_) (fun x hx => ?_) nofun
      · rw [hp]
        exact Nat.le_refl _
      · rw [hp]
        exact hx
    · cases hs
  | hintReturn =>
    simp only [plannerStep] at hs
    split at hs
    · next seq hp =>
      obtain ⟨⟨ok, s₁⟩, hresult, rfl⟩ := map_eq_some_iff.mp hs
      obtain ⟨c, -, -, rfl⟩ := result_effect hresult
      refine h.movePlanner _ ⟨rfl, fun _ => rfl⟩ rfl (fun _ hx => hx)
        (fun id => setCall_calls_of_ne (by simp) none) ?_ ?_ ?_ ?_ ?_
      · intro c' hc'
        rw [setCall_calls_of_ne (by simp)] at hc'
        exact h.retryCall c' hc'
      · intro c' hc'
        rw [setCall_calls_self] at hc'
        cases hc'
      · intro x
        rw [hp]
        cases ok
        · exact Nat.le_refl _
        · exact Nat.zero_le _
      · intro x hx
        rw [hp]
        cases ok
        · exact hx
        · cases hx
      · cases ok <;> nofun
    · cases hs
  | publish =>
    simp only [plannerStep] at hs
    split at hs
    · next seq hp =>
      cases hs
      exact h.publish hp
    · cases hs
  | giveUp =>
    simp only [plannerStep] at hs
    split at hs
    · next seq hp =>
      split_ifs at hs
      cases hs
      exact h.advancePlanner _ (by rw [hp]; nofun) (fun _ => Nat.zero_le _) nofun nofun
    · next seq ref hp =>
      split_ifs at hs
      cases hs
      exact h.advancePlanner _ (by rw [hp]; nofun) (fun _ => Nat.zero_le _) nofun nofun
    · cases hs
  | assign m =>
    simp only [plannerStep] at hs
    split at hs
    · next seq hp =>
      obtain ⟨⟨leg, s₁⟩, hassign, rfl⟩ := map_eq_some_iff.mp hs
      obtain ⟨h₁, hplanner, -⟩ := h.assign hassign
      rw [hp] at hplanner
      have hbefore : s₁.planner.published = [seq] := by
        rw [hplanner]
        rfl
      cases leg with
      | none | some ref => exact h₁.keepPlanner hbefore rfl
    · cases hs
  | push =>
    simp only [plannerStep] at hs
    split at hs
    · next seq ref hp =>
      obtain ⟨s₁, hpush, rfl⟩ := map_eq_some_iff.mp hs
      obtain rfl := push_effect hpush
      obtain ⟨h₁, hfree⟩ := h.releasePlanner hp
      exact h₁.pushPending (h.registry.legId ref) hfree
    · cases hs
  | full =>
    simp only [plannerStep] at hs
    split at hs
    · next seq ref hp =>
      split_ifs at hs
      cases hs
      exact h.keepPlanner (by rw [hp]; rfl) rfl
    · cases hs
  | wake =>
    simp only [plannerStep] at hs
    split at hs
    · next seq hp =>
      obtain ⟨s₁, hwake, rfl⟩ := map_eq_some_iff.mp hs
      obtain rfl := takeWake_effect hwake
      exact (h.setWake _).keepPlanner (by rw [hp]; rfl) rfl
    · next seq ref hp =>
      obtain ⟨s₁, hwake, rfl⟩ := map_eq_some_iff.mp hs
      obtain rfl := takeWake_effect hwake
      exact (h.setWake _).keepPlanner (by rw [hp]; rfl) rfl
    · cases hs
  | reassign m =>
    simp only [plannerStep] at hs
    split at hs
    · next seq ref hp =>
      obtain ⟨⟨leg, s₁⟩, hassign, rfl⟩ := map_eq_some_iff.mp hs
      obtain ⟨h₁, hplanner, -⟩ := h.assign hassign
      rw [hp] at hplanner
      exact h₁.keepPlanner (by rw [hplanner]; rfl) rfl
    · cases hs
  | finish =>
    simp only [plannerStep] at hs
    split at hs
    · next seq hp =>
      cases hs
      have hstream := StreamTXLedger.finishLocalEnqueue_sameStream s.carrier.ledger seq
      refine h.movePlanner .idle ⟨rfl, fun _ => rfl⟩ hstream.next
        (fun x hx => hstream.outstanding ▸ hx) (fun _ => rfl) h.retryCall ?_
        (fun _ => Nat.zero_le _) nofun nofun
      intro c hc
      have hcalling := h.plannerCall c hc
      rw [hp] at hcalling
      cases hcalling
    · cases hs

theorem inv_feederStep (h : Inv cfg s) {id : LegID} {a : FeederAct}
    (hs : feederStep cfg s id a = some s') : Inv cfg s' := by
  cases a with
  | pop =>
    simp only [feederStep] at hs
    split at hs
    · next seq rest hidle hqueue =>
      cases hs
      obtain ⟨h₁, hfree⟩ := h.popPending hqueue
      exact (h₁.takeFeeder hidle hfree).setWake _
    · cases hs
  | done =>
    simp only [feederStep] at hs
    split at hs
    · next seq hp =>
      split_ifs at hs
      cases hs
      exact h.advanceFeeder _ (by rw [hp]; nofun) (by rw [hp]; nofun)
        (fun _ => Nat.zero_le _) nofun
    · cases hs
  | assign m =>
    simp only [feederStep] at hs
    split at hs
    · next seq hp =>
      obtain ⟨⟨leg, s₁⟩, hassign, rfl⟩ := map_eq_some_iff.mp hs
      obtain ⟨h₁, -, hfeeders, -⟩ := h.assign hassign
      have hphase₁ : s₁.feeders id = .holding seq := by rw [hfeeders, hp]
      have hheld := h₁.feeding.holds id
      rw [hphase₁] at hheld
      cases leg with
      | none =>
        refine h₁.advanceFeeder _ (by rw [hphase₁]; nofun) (by rw [hphase₁]; nofun)
          (fun _ => ?_) nofun
        rw [hphase₁]
        exact Nat.le_refl _
      | some ref =>
        refine h₁.advanceFeeder _ (by rw [hphase₁]; nofun) (by rw [hphase₁]; nofun)
          (fun _ => ?_) hheld
        rw [hphase₁]
        exact Nat.le_refl _
    · cases hs
  | tryQueue =>
    simp only [feederStep] at hs
    split at hs
    · next seq ref hp =>
      obtain ⟨s₁, hbegin, rfl⟩ := map_eq_some_iff.mp hs
      obtain ⟨c, hb, hseq, hrescue, hretry⟩ := begin_effect hbegin
      exact h.beginFeeder hp hb hseq hrescue hretry
    · cases hs
  | «return» =>
    simp only [feederStep] at hs
    split at hs
    · next seq hp =>
      obtain ⟨⟨ok, s₁⟩, hresult, rfl⟩ := map_eq_some_iff.mp hs
      obtain ⟨c, hc, hstage, rfl⟩ := result_effect hresult
      refine (h.endFeeder hc hstage).setFeeder id _ (by rw [hp]; nofun) ?_ ?_ ?_
      · intro x
        rw [hp]
        cases ok
        · exact Nat.le_refl _
        · exact Nat.zero_le _
      · cases ok <;> nofun
      · intro c' hc'
        rw [setCall_calls_self] at hc'
        cases hc'
    · cases hs
  | check =>
    simp only [feederStep] at hs
    split at hs
    · next seq hp =>
      cases hs
      refine h.advanceFeeder _ (by rw [hp]; nofun) (by rw [hp]; nofun) ?_ ?_
      · intro x
        rw [hp]
        split
        · exact Nat.le_refl _
        · exact Nat.zero_le _
      · intro x hx
        split at hx
        · next hpending =>
          rw [mem_singleton.mp hx]
          exact hpending
        · cases hx
    · cases hs
  | wake =>
    simp only [feederStep] at hs
    split at hs
    · next seq hp =>
      obtain ⟨s₁, hwake, rfl⟩ := map_eq_some_iff.mp hs
      obtain rfl := takeWake_effect hwake
      have hheld := h.feeding.holds id
      rw [hp] at hheld
      refine (h.setWake _).advanceFeeder (.holding seq) (by rw [hp]; nofun)
        (by rw [hp]; nofun) (fun _ => ?_) hheld
      rw [hp]
      exact Nat.le_refl _
    · cases hs

theorem inv_reassignStep (h : Inv cfg s) {i : Nat} {a : ReassignAct}
    (hs : reassignStep cfg s i a = some s') : Inv cfg s' := by
  cases a with
  | pop =>
    simp only [reassignStep] at hs
    split at hs
    · next seq rest hp hqueue =>
      cases hs
      obtain ⟨h₁, hfree⟩ := h.popPending hqueue
      exact h₁.takeReassign hp hfree
    · cases hs
  | assign m =>
    simp only [reassignStep] at hs
    split at hs
    · next seq hp =>
      split at hs
      · cases hs
        exact h.setReassign i _ (by rw [hp]; nofun) fun _ => Nat.zero_le _
      · obtain ⟨⟨leg, s₁⟩, hassign, rfl⟩ := map_eq_some_iff.mp hs
        obtain ⟨h₁, -, -, hreassigns, -⟩ := h.assign hassign
        have hphase₁ : (s₁.reassigns i).2 = .popped seq := by rw [hreassigns, hp]
        cases leg with
        | none => exact h₁.setReassign i _ (by rw [hphase₁]; nofun) fun _ => Nat.zero_le _
        | some ref =>
          refine h₁.setReassign i _ (by rw [hphase₁]; nofun) fun _ => ?_
          rw [hphase₁]
          exact Nat.le_refl _
    · cases hs
  | push =>
    simp only [reassignStep] at hs
    split at hs
    · next seq ref hp =>
      obtain ⟨s₁, hpush, rfl⟩ := map_eq_some_iff.mp hs
      obtain rfl := push_effect hpush
      obtain ⟨h₁, hfree⟩ := h.releaseReassign hp
      exact h₁.pushPending (h.registry.legId ref) hfree
    · cases hs
  | wake =>
    simp only [reassignStep] at hs
    split at hs
    · obtain rfl := takeWake_effect hs
      exact h.setWake _
    · cases hs
  | stop =>
    simp only [reassignStep] at hs
    split at hs
    · next hp _ =>
      cases hs
      exact h.setReassign i _ (by rw [hp]; nofun) fun _ => Nat.zero_le _
    · cases hs

theorem inv_retryStep (h : Inv cfg s) {a : RetryAct} (hs : retryStep cfg s a = some s') :
    Inv cfg s' := by
  cases a with
  | plan =>
    simp only [retryStep] at hs
    split at hs
    · split_ifs at hs
      cases hs
      exact h.setRetry _
    · cases hs
  | «try» ref =>
    simp only [retryStep] at hs
    split at hs
    · split_ifs at hs
      obtain ⟨s₁, hbegin, rfl⟩ := map_eq_some_iff.mp hs
      obtain ⟨c, hb, -, -, hretry⟩ := begin_effect hbegin
      exact (h.beginRetry hb (.inl hretry)).setRetry _
    · cases hs
  | next | done =>
    simp only [retryStep] at hs
    split at hs <;> cases hs
    exact h.setRetry _
  | «return» | rescueReturn =>
    simp only [retryStep] at hs
    split at hs
    · obtain ⟨⟨ok, s₁⟩, hresult, rfl⟩ := map_eq_some_iff.mp hs
      obtain ⟨c, -, -, rfl⟩ := result_effect hresult
      exact h.endRetry.setRetry _
    · cases hs
  | rescue seq ref owner =>
    simp only [retryStep] at hs
    split at hs
    · split_ifs at hs
      obtain ⟨s₁, hbegin, rfl⟩ := map_eq_some_iff.mp hs
      obtain ⟨c, hb, -, hrescue, -⟩ := begin_effect hbegin
      exact (h.beginRetry hb (.inr hrescue)).setRetry _
    · cases hs

theorem Inv.startFeeder (h : Inv cfg s) {id : LegID} (habsent : s.feeders id = .absent)
    (hid : id < cfg.maxActiveLegs) : Inv cfg (s.setFeeder id .idle) := by
  have hfeeders : ∀ id', (s.setFeeder id .idle).feeders id' = s.feeders id' ∨
      (s.feeders id' = .absent ∧ (s.setFeeder id .idle).feeders id' = .idle) := by
    intro id'
    rw [setFeeder_feeders]
    split
    · next heq => exact .inr ⟨heq ▸ habsent, rfl⟩
    · exact .inl rfl
  refine ⟨⟨h.registry.legId, h.registry.attachedId, ?_, h.registry.pendingId,
    h.registry.reassignId, h.registry.reassignSpawned⟩, ?_, h.outside, h.plannerCall, h.retryCall,
    h.feeding.frame (fun _ => rfl) hfeeders (fun _ => rfl) (fun _ _ _ => Iff.rfl)
      fun _ _ _ hm => hm⟩
  · intro id' hne
    rw [setFeeder_feeders] at hne
    split at hne
    · next heq => exact heq ▸ hid
    · exact h.registry.feederId id' hne
  · refine h.holding.frame (fun x => ?_) rfl (fun _ => rfl) (fun _ hx => hx) h.holding.planner
      h.holding.pending (fun id' x hx => ?_) h.holding.reassigns
    · have hsum := @holders_setFeeder cfg s id hid .idle x
      rw [habsent] at hsum
      exact Nat.le_of_eq hsum
    · rcases hfeeders id' with hsame | ⟨-, hidle⟩
      · exact h.holding.feeders id' x (hsame ▸ hx)
      · rw [hidle] at hx
        cases hx

theorem holders_spawn (leg : LegID) (x : Nat) :
    State.holders { s with
      reassigns := update s.reassigns s.spawned (leg, .popping)
      spawned := s.spawned + 1 } cfg x = s.holders cfg x := by
  have hrest : tally (fun i => (update s.reassigns s.spawned (leg, .popping) i).2.held)
      (Finset.range s.spawned) x =
        tally (fun i => (s.reassigns i).2.held) (Finset.range s.spawned) x := by
    refine tally_congr fun i hi => ?_
    rw [update_of_ne (Nat.ne_of_lt (Finset.mem_range.mp hi))]
  unfold State.holders
  dsimp only
  rw [tally_range_succ, hrest, update_self]
  rfl

/-- A leg failure ends with a new `reassignFailedPending` call. -/
theorem Inv.spawn (h : Inv cfg s) {leg : LegID} (hleg : leg < cfg.maxActiveLegs) :
    Inv cfg { s with
      reassigns := update s.reassigns s.spawned (leg, .popping)
      spawned := s.spawned + 1 } := by
  have hcells : ∀ i, update s.reassigns s.spawned (leg, .popping) i = s.reassigns i ∨
      (i = s.spawned ∧
        update s.reassigns s.spawned (leg, .popping) i = (leg, .popping)) := by
    intro i
    by_cases heq : i = s.spawned
    · exact .inr ⟨heq, by rw [heq, update_self]⟩
    · exact .inl (update_of_ne heq ..)
  have hheld : ∀ i, ∀ x ∈ (update s.reassigns s.spawned (leg, .popping) i).2.held,
      x ∈ (s.reassigns i).2.held := by
    intro i x hx
    rcases hcells i with hsame | ⟨-, hnew⟩
    · rwa [hsame] at hx
    · rw [hnew] at hx
      cases hx
  refine ⟨⟨h.registry.legId, h.registry.attachedId, h.registry.feederId, h.registry.pendingId,
    fun i => ?_, fun i hi => ?_⟩, ?_, ?_, h.plannerCall, h.retryCall, ?_⟩
  · show (update s.reassigns s.spawned (leg, .popping) i).1 < cfg.maxActiveLegs
    rcases hcells i with hsame | ⟨-, hnew⟩
    · rw [hsame]
      exact h.registry.reassignId i
    · rw [hnew]
      exact hleg
  · show (update s.reassigns s.spawned (leg, .popping) i).2 = .returned
    rw [update_of_ne (Nat.ne_of_gt hi)]
    exact h.registry.reassignSpawned i (Nat.le_of_lt hi)
  · exact h.holding.frame (fun x => Nat.le_of_eq (holders_spawn leg x)) rfl (fun _ => rfl)
      (fun _ hx => hx) h.holding.planner h.holding.pending h.holding.feeders
      fun i x hx => h.holding.reassigns i x (hheld i x hx)
  · intro x hx
    exact h.outside x (hx.imp_right (Or.imp_right fun ⟨i, hi⟩ => ⟨i, hheld i x hi⟩))
  · exact h.feeding.frame (fun _ => rfl) (fun _ => .inl rfl) (fun _ => rfl)
      (fun _ _ _ => Iff.rfl) fun _ _ _ hm => hm

theorem inv_lifeStep (h : Inv cfg s) {a : LegAct} (hs : lifeStep cfg s a = some s') :
    Inv cfg s' := by
  obtain ⟨carrier, hleg, hstate⟩ := map_eq_some_iff.mp hs
  obtain ⟨hcalls, hfoot⟩ := legStep_footprint hleg
  obtain ⟨hattached, hid⟩ := legStep_registry hleg
  have hnext := hfoot.stream.next
  have hout := hfoot.stream.outstanding
  have hregistry : Registry cfg { s with carrier := carrier } :=
    { legId := fun ref => by
        rcases hid ref with hsame | hlt
        · show (carrier.legs ref).id < cfg.maxActiveLegs
          rw [hsame]
          exact h.registry.legId ref
        · exact hlt
      attachedId := fun id ref hat =>
        (hattached id ref hat).elim (h.registry.attachedId id ref) fun hlt => hlt
      feederId := h.registry.feederId
      pendingId := h.registry.pendingId
      reassignId := h.registry.reassignId
      reassignSpawned := h.registry.reassignSpawned }
  have hplain : Inv cfg { s with carrier := carrier } :=
    { registry := hregistry
      holding := h.holding.same hnext (fun _ => rfl) rfl rfl rfl rfl rfl
      outside := h.outside
      plannerCall := fun c hc => h.plannerCall c (hcalls ▸ hc)
      retryCall := fun c hc => h.retryCall c (hcalls ▸ hc)
      feeding := h.feeding.frame (fun _ => by rw [hcalls]) (fun _ => .inl rfl) (fun _ => rfl)
        (fun _ _ _ => Iff.rfl) fun _ _ _ hm => hout ▸ hm }
  cases a with
  | attachLeg id =>
    subst hstate
    dsimp only
    split_ifs with habsent
    · simp only [legStep] at hleg
      split_ifs at hleg with hguard
      exact hplain.startFeeder habsent hguard.1
    · exact hplain
  | invalidate ref =>
    subst hstate
    exact hplain.spawn (h.registry.legId ref)
  | fail | closeConn | remove | readerExit | retire | setDraining | retireDrained =>
    subst hstate
    exact hplain

end Goroutines

section Runs

variable {cfg : Config} {s s' : State}

theorem holders_init (x : Nat) : (init cfg).holders cfg x = 0 := by
  simp [State.holders, init, tally, Planner.held, Feeder.held]

theorem inv_init : Inv cfg (init cfg) where
  registry :=
    { legId := fun _ => cfg.maxActiveLegs_pos
      attachedId := nofun
      feederId := fun _ hne => absurd rfl hne
      pendingId := nofun
      reassignId := fun _ => cfg.maxActiveLegs_pos
      reassignSpawned := fun _ _ => rfl }
  holding := ⟨fun x => (holders_init x).le.trans (Nat.zero_le _),
    fun x _ => ⟨rfl, holders_init x⟩, nofun, nofun, nofun, nofun, nofun⟩
  outside := by
    rintro x (hx | ⟨_, hx⟩ | ⟨_, hx⟩) <;> cases hx
  plannerCall := nofun
  retryCall := nofun
  feeding := ⟨nofun, nofun, nofun, nofun, nofun, nofun, nofun, nofun⟩

theorem inv_step (h : Inv cfg s) {a : Act} (hs : step cfg s a = some s') : Inv cfg s' := by
  cases a with
  | planner a => exact inv_plannerStep h hs
  | feeder id a => exact inv_feederStep h hs
  | reassign i a => exact inv_reassignStep h hs
  | retry a => exact inv_retryStep h hs
  | call k a => exact inv_tryQueueStep h hs
  | writer ref a =>
    simp only [step] at hs
    split_ifs at hs
    obtain ⟨carrier, hwriter, rfl⟩ := map_eq_some_iff.mp hs
    obtain ⟨hcalls, hfoot⟩ := writerStep_footprint hwriter
    exact h.same (writerStep_sameRegistry hwriter) hfoot.stream.next
      (fun x hx => hfoot.stream.outstanding ▸ hx) hcalls (fun _ => rfl) (fun _ => rfl) rfl rfl rfl
      rfl rfl rfl
  | leg a => exact inv_lifeStep h hs
  | ack next now =>
    cases hs
    refine h.same ⟨rfl, fun _ => rfl⟩ (StreamTXLedger.applyACK_nextSequence ..)
      (fun x hx => ?_) rfl (fun _ => rfl) (fun _ => rfl) rfl rfl rfl rfl rfl rfl
    exact (StreamTXLedger.applyACK_claims s.carrier.ledger next now).1 x hx
  | admission id state =>
    simp only [step] at hs
    split_ifs at hs
    cases hs
    exact h.same ⟨rfl, fun _ => rfl⟩ rfl (fun _ hm => hm) rfl (fun _ => rfl) (fun _ => rfl)
      rfl rfl rfl rfl rfl rfl
  | wakeDecoupled =>
    cases hs
    exact h.setWake _

/-- The invariant holds in every state of every run. -/
theorem inv_of_reachable (hreach : Reachable (step cfg) (init cfg) s) : Inv cfg s :=
  hreach.invariant inv_init fun _ _ _ h hs => inv_step h hs

end Runs

end Smp3Multipath.Core.Decoupled

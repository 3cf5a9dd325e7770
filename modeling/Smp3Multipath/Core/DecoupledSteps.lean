import Smp3Multipath.Core.DecoupledInv

/-!
# Calls and hand-overs of the aggregation scheduler

Every step of a `tryQueue` call keeps the invariant of the scheduler, and so does
every hand-over of a record: one goroutine or queue lets go of the record, and
another one takes a record nobody holds.
-/

namespace Smp3Multipath.Core.Decoupled

open Lib.Run Lib.Tally Assignment Function List Option
open Carrier hiding Config State init

section Calls

variable {cfg : Config} {s s' : State} {k : Caller}

/-- The start of a call. -/
structure Begun (s s' : State) (k : Caller) (c : Call) : Prop where
  state : s' = { s with carrier := s'.carrier }
  registry : SameRegistry s.carrier s'.carrier
  ledger : s'.carrier.ledger = s.carrier.ledger
  before : s.carrier.calls k = none
  others : ∀ k', k' ≠ k → s'.carrier.calls k' = s.carrier.calls k'
  after : s'.carrier.calls k = some c
  stage : c.stage = .checked ∨ c.stage = .returned false

theorem begin_effect {seq : Nat} {ref : Ref} {rescue retry : Bool} {owner : Int}
    (h : s.begin cfg k seq ref rescue retry owner = some s') :
    ∃ c, Begun s s' k c ∧ c.seq = seq ∧ c.rescue = rescue ∧ c.retry = retry := by
  obtain ⟨carrier, hs, rfl⟩ := map_eq_some_iff.mp h
  obtain ⟨hnone, hledger, hothers, c, hcall, hseq, hrescue, hretry, hstage⟩ :=
    callStep_begin hs
  exact ⟨c, ⟨rfl, callStep_sameRegistry hs, hledger, hnone, hothers, hcall, hstage⟩,
    hseq, hrescue, hretry⟩

theorem result_effect {ok : Bool} (h : s.result k = some (ok, s')) :
    ∃ c, s.carrier.calls k = some c ∧ c.stage = .returned ok ∧
      s' = { s with carrier := s.carrier.setCall k none } := by
  unfold State.result at h
  split at h
  · next c hc =>
    split at h
    · next hstage =>
      cases h
      exact ⟨c, hc, hstage, rfl⟩
    · cases h
  · cases h

theorem Inv.beginRetry (h : Inv cfg s) {c : Call} (hb : Begun s s' .retransmit c)
    (hkind : c.retry = true ∨ c.rescue = true) : Inv cfg s' := by
  rw [hb.state]
  refine h.movePlanner s.planner hb.registry (by rw [hb.ledger])
    (fun seq hm => hb.ledger ▸ hm) (fun id => hb.others _ (by simp)) ?_ ?_
    (fun _ => Nat.le_refl _) (fun _ hx => hx) h.holding.planner
  · intro c' hc'
    rw [hb.after] at hc'
    cases hc'
    exact hkind
  · intro c' hc'
    rw [hb.others _ (by simp)] at hc'
    exact h.plannerCall c' hc'

theorem Inv.endRetry (h : Inv cfg s) :
    Inv cfg { s with carrier := s.carrier.setCall .retransmit none } := by
  refine h.movePlanner s.planner ⟨rfl, fun _ => rfl⟩ rfl (fun _ hm => hm)
    (fun id => setCall_calls_of_ne (by simp) none) ?_ ?_ (fun _ => Nat.le_refl _)
    (fun _ hx => hx) h.holding.planner
  · intro c hc
    rw [setCall_calls_self] at hc
    cases hc
  · intro c hc
    rw [setCall_calls_of_ne (by simp)] at hc
    exact h.plannerCall c hc

theorem Inv.endFeeder (h : Inv cfg s) {id : LegID} {c : Call} {ok : Bool}
    (hc : s.carrier.calls (.feeder id) = some c) (hstage : c.stage = .returned ok) :
    Inv cfg { s with carrier := s.carrier.setCall (.feeder id) none } := by
  have hcalls : ∀ id' c', (s.carrier.setCall (.feeder id) none).calls (.feeder id') = some c' →
      id' ≠ id ∧ s.carrier.calls (.feeder id') = some c' := by
    intro id' c' hc'
    by_cases heq : id' = id
    · rw [heq, setCall_calls_self] at hc'
      cases hc'
    · rw [setCall_calls_of_ne (by simpa using heq)] at hc'
      exact ⟨heq, hc'⟩
  refine ⟨h.registry.same ⟨rfl, fun _ => rfl⟩ rfl rfl rfl rfl,
    h.holding.same rfl (fun _ => rfl) rfl rfl rfl rfl rfl, h.outside, ?_, ?_, ?_⟩
  · intro c' hc'
    rw [setCall_calls_of_ne (by simp)] at hc'
    exact h.plannerCall c' hc'
  · intro c' hc'
    rw [setCall_calls_of_ne (by simp)] at hc'
    exact h.retryCall c' hc'
  · refine
      { call := fun id' c' hc' => h.feeding.call id' c' (hcalls id' c' hc').2
        early := fun id' c' hc' => h.feeding.early id' c' (hcalls id' c' hc').2
        noted := fun id' c' t hc' => h.feeding.noted id' c' t (hcalls id' c' hc').2
        returned := fun id' c' hc' => h.feeding.returned id' c' (hcalls id' c' hc').2
        holds := h.feeding.holds
        logged := fun e he id' hcaller => ?_
        queued := fun id' c' t hc' => h.feeding.queued id' c' t (hcalls id' c' hc').2
        admitted := h.feeding.admitted }
    rcases h.feeding.logged e he id' hcaller with hadmitted | ⟨c', t, hc', hseq, hqueued⟩
    · exact .inl hadmitted
    · refine .inr ⟨c', t, ?_, hseq, hqueued⟩
      rw [setCall_calls_of_ne]
      · exact hc'
      · rintro ⟨⟩
        rw [hc] at hc'
        cases hc'
        rw [hstage] at hqueued
        cases hqueued

theorem Inv.beginFeeder (h : Inv cfg s) {id : LegID} {seq : Nat} {ref : Ref} {c : Call}
    (hp : s.feeders id = .assigned seq ref) (hb : Begun s s' (.feeder id) c)
    (hseq : c.seq = seq) (hrescue : c.rescue = false) (hretry : c.retry = false) :
    Inv cfg (s'.setFeeder id (.calling seq)) := by
  have hpresent : s.feeders id ≠ .absent := by
    rw [hp]
    nofun
  have hstate : s'.setFeeder id (.calling seq) =
      { s.setFeeder id (.calling seq) with carrier := s'.carrier } := by
    rw [hb.state]
    rfl
  have hcalls : ∀ id' c', s'.carrier.calls (.feeder id') = some c' →
      (id' = id ∧ c' = c) ∨ (id' ≠ id ∧ s.carrier.calls (.feeder id') = some c') := by
    intro id' c' hc'
    by_cases heq : id' = id
    · rw [heq, hb.after] at hc'
      exact .inl ⟨heq, (Option.some.inj hc').symm⟩
    · rw [hb.others _ (by simpa using heq)] at hc'
      exact .inr ⟨heq, hc'⟩
  have hpending : benchmarkPendingOnly s seq = true :=
    h.feeding.holds id seq (by rw [hp]; exact mem_singleton_self seq)
  rw [hstate]
  refine ⟨?_, ?_, h.outside, ?_, ?_, ?_⟩
  · refine h.registry.frame hb.registry (fun id' hne => ?_) (fun _ _ hx => .inl hx)
      (fun _ => ⟨rfl, fun hr => hr⟩) rfl
    by_cases heq : id' = id
    · rw [heq]
      exact hpresent
    · rwa [show (s.setFeeder id (.calling seq)).feeders id' = s.feeders id' by
        rw [setFeeder_feeders, if_neg heq]] at hne
  · refine h.holding.frame (fun x => ?_) (by rw [hb.ledger]) (fun _ => rfl) (fun _ hx => hx)
      h.holding.planner h.holding.pending (fun id' x hx => ?_) h.holding.reassigns
    · have hsum := holders_setFeeder (s := s) (h.registry.feederId id hpresent) (.calling seq) x
      rw [hp] at hsum
      show (s.setFeeder id (.calling seq)).holders cfg x ≤ s.holders cfg x
      simp only [Feeder.held] at hsum
      omega
    · change x ∈ ((s.setFeeder id (.calling seq)).feeders id').held at hx
      rw [setFeeder_feeders] at hx
      split at hx
      · exact h.holding.feeders id x (by rw [hp]; exact hx)
      · exact h.holding.feeders id' x hx
  · intro c' hc'
    rw [hb.others _ (by simp)] at hc'
    exact h.plannerCall c' hc'
  · intro c' hc'
    rw [hb.others _ (by simp)] at hc'
    exact h.retryCall c' hc'
  · refine
      { call := fun id' c' hc' => ?_
        early := fun id' c' hc' hearly => ?_
        noted := fun id' c' t hc' hnoted => ?_
        returned := fun id' c' hc' htrue => ?_
        holds := fun id' x hx => ?_
        logged := fun e he id' hcaller => ?_
        queued := fun id' c' t hc' hqueued => ?_
        admitted := h.feeding.admitted }
    · show (s.setFeeder id (.calling seq)).feeders id' = .calling c'.seq ∧ _
      rw [setFeeder_feeders]
      rcases hcalls id' c' hc' with ⟨rfl, rfl⟩ | ⟨hne, hbefore⟩
      · rw [if_pos rfl, hseq]
        exact ⟨rfl, hretry, hrescue⟩
      · rw [if_neg hne]
        exact h.feeding.call id' c' hbefore
    · rcases hcalls id' c' hc' with ⟨rfl, rfl⟩ | ⟨_, hbefore⟩
      · rw [hseq]
        exact hpending
      · exact h.feeding.early id' c' hbefore hearly
    · rcases hcalls id' c' hc' with ⟨rfl, rfl⟩ | ⟨_, hbefore⟩
      · rcases hb.stage with hstage | hstage
        · rw [hstage] at hnoted
          cases hnoted
        · rw [hstage] at hnoted
          cases hnoted
      · exact h.feeding.noted id' c' t hbefore hnoted
    · rcases hcalls id' c' hc' with ⟨rfl, rfl⟩ | ⟨_, hbefore⟩
      · rcases hb.stage with hstage | hstage
        · rw [hstage] at htrue
          cases htrue
        · rw [hstage] at htrue
          cases htrue
      · have hreturned := h.feeding.returned id' c' hbefore htrue
        show _ ∨ c'.seq ∉ s'.carrier.ledger.outstanding
        rw [hb.ledger]
        exact hreturned
    · change x ∈ ((s.setFeeder id (.calling seq)).feeders id').unadmitted at hx
      rw [setFeeder_feeders] at hx
      split at hx
      · cases hx
      · exact h.feeding.holds id' x hx
    · rcases h.feeding.logged e he id' hcaller with hadmitted | ⟨c', t, hc', hrest⟩
      · exact .inl hadmitted
      · refine .inr ⟨c', t, ?_, hrest⟩
        show s'.carrier.calls (.feeder id') = some c'
        rw [hb.others]
        · exact hc'
        · rintro ⟨⟩
          rw [hb.before] at hc'
          cases hc'
    · rcases hcalls id' c' hc' with ⟨rfl, rfl⟩ | ⟨_, hbefore⟩
      · rcases hb.stage with hstage | hstage
        · rw [hstage] at hqueued
          cases hqueued
        · rw [hstage] at hqueued
          cases hqueued
      · exact h.feeding.queued id' c' t hbefore hqueued

theorem setAdmitted_of_none {seq : Nat} (h : s.assignments seq = none) : s.setAdmitted seq = s := by
  unfold State.setAdmitted
  rw [h, map_none, ← h, update_eq_self]

theorem pendingOnly_setAdmitted {seq : Nat} (h : (s.assignments seq).isSome = true) (x : Nat) :
    benchmarkPendingOnly (s.setAdmitted seq) x =
      if x = seq then false else benchmarkPendingOnly s x := by
  obtain ⟨a, ha⟩ := isSome_iff_exists.mp h
  unfold benchmarkPendingOnly State.setAdmitted
  dsimp only
  by_cases heq : x = seq
  · rw [if_pos heq, heq, update_self, ha]
    rfl
  · rw [if_neg heq, update_of_ne heq]

theorem isSome_setAdmitted (seq x : Nat) :
    ((s.setAdmitted seq).assignments x).isSome = (s.assignments x).isSome := by
  unfold State.setAdmitted
  dsimp only
  by_cases heq : x = seq
  · rw [heq, update_self, isSome_map]
  · rw [update_of_ne heq]

theorem Inv.otherCall (h : Inv cfg s) {carrier : Carrier.State Caller}
    {accepted : List Acceptance} {c : Call} {stage : CallStage} (hk : ∀ id, k ≠ .feeder id)
    (hc : s.carrier.calls k = some c)
    (hcalls : carrier.calls = update s.carrier.calls k (some { c with stage := stage }))
    (hregistry : SameRegistry s.carrier carrier)
    (hstream : StreamTXLedger.SameStream s.carrier.ledger carrier.ledger)
    (haccepted : ∀ e id, e.caller = .feeder id → (e ∈ accepted ↔ e ∈ s.accepted)) :
    Inv cfg { s with carrier := carrier, accepted := accepted } := by
  have hother : ∀ k' c', carrier.calls k' = some c' →
      ∃ c₀, s.carrier.calls k' = some c₀ ∧ c'.seq = c₀.seq ∧ c'.retry = c₀.retry ∧
        c'.rescue = c₀.rescue := by
    intro k' c' hc'
    rw [hcalls] at hc'
    rcases update_some_cases hc' with ⟨rfl, rfl⟩ | ⟨_, hbefore⟩
    · exact ⟨c, hc, rfl, rfl, rfl⟩
    · exact ⟨c', hbefore, rfl, rfl, rfl⟩
  refine ⟨h.registry.same hregistry rfl rfl rfl rfl,
    h.holding.same hstream.next (fun _ => rfl) rfl rfl rfl rfl rfl, h.outside, ?_, ?_, ?_⟩
  · intro c' hc'
    obtain ⟨c₀, hc₀, hseq, -⟩ := hother .planner c' hc'
    rw [hseq]
    exact h.plannerCall c₀ hc₀
  · intro c' hc'
    obtain ⟨c₀, hc₀, -, hretry, hrescue⟩ := hother .retransmit c' hc'
    rw [hretry, hrescue]
    exact h.retryCall c₀ hc₀
  · refine h.feeding.frame (fun id => ?_) (fun _ => .inl rfl) (fun _ => rfl) haccepted
      fun _ c' _ hm => hstream.outstanding ▸ hm
    show carrier.calls (.feeder id) = s.carrier.calls (.feeder id)
    rw [hcalls, update_of_ne (hk id).symm]

theorem Inv.feederCall (h : Inv cfg s) {id : LegID} {c : Call} {stage : CallStage}
    (hcalls : s'.carrier.calls =
      update s.carrier.calls (.feeder id) (some { c with stage := stage }))
    (hregistry : SameRegistry s.carrier s'.carrier)
    (hstream : StreamTXLedger.SameStream s.carrier.ledger s'.carrier.ledger)
    (hsome : ∀ x, (s'.assignments x).isSome = (s.assignments x).isSome)
    (hplanner : s'.planner = s.planner) (hpending : s'.pending = s.pending)
    (hfeeders : s'.feeders = s.feeders) (hreassigns : s'.reassigns = s.reassigns)
    (hspawned : s'.spawned = s.spawned)
    (houtside : ∀ x, s.Outside x → benchmarkPendingOnly s' x = true) (hfeeding : Feeding s') :
    Inv cfg s' := by
  refine ⟨h.registry.same hregistry hfeeders hpending hreassigns hspawned,
    h.holding.same hstream.next hsome hplanner hpending hfeeders hreassigns hspawned,
    fun x hx => houtside x ?_, ?_, ?_, hfeeding⟩
  · unfold State.Outside at hx
    rwa [hplanner, hpending, hreassigns] at hx
  · intro c' hc'
    rw [hcalls, update_of_ne (by simp)] at hc'
    rw [hplanner]
    exact h.plannerCall c' hc'
  · intro c' hc'
    rw [hcalls, update_of_ne (by simp)] at hc'
    exact h.retryCall c' hc'

theorem Feeding.advance (h : Feeding s) {id : LegID} {c : Call} {stage : CallStage}
    (hc : s.carrier.calls (.feeder id) = some c)
    (hcalls : s'.carrier.calls =
      update s.carrier.calls (.feeder id) (some { c with stage := stage }))
    (hout : s'.carrier.ledger.outstanding = s.carrier.ledger.outstanding)
    (hfeeders : s'.feeders = s.feeders)
    (hpending : ∀ x, benchmarkPendingOnly s' x = benchmarkPendingOnly s x)
    (haccepted : ∀ e ∈ s.accepted, e ∈ s'.accepted)
    (hnew : ∀ e ∈ s'.accepted, e ∈ s.accepted ∨
      (e.seq = c.seq ∧ e.caller = .feeder id ∧ ∃ t, stage = .queued t))
    (hearly : beforeStore stage = true → beforeStore c.stage = true)
    (hnoted : ∀ t, stage ≠ .noted t)
    (hreturned : stage = .returned true →
      benchmarkPendingOnly s c.seq = false ∨ c.seq ∉ s.carrier.ledger.outstanding)
    (hbefore : ∀ t, c.stage ≠ .queued t)
    (hqueued : ∀ t, stage = .queued t → ∃ e ∈ s'.accepted, e.seq = c.seq ∧ e.caller = .feeder id) :
    Feeding s' where
  call id' c' hc' := by
    rw [hcalls] at hc'
    rw [hfeeders]
    rcases update_some_cases hc' with ⟨heq, rfl⟩ | ⟨_, hbefore⟩
    · cases heq
      exact h.call id c hc
    · exact h.call id' c' hbefore
  early id' c' hc' hstage := by
    rw [hcalls] at hc'
    rw [hpending]
    rcases update_some_cases hc' with ⟨heq, rfl⟩ | ⟨_, hbefore⟩
    · cases heq
      exact h.early id c hc (hearly hstage)
    · exact h.early id' c' hbefore hstage
  noted id' c' t hc' hstage := by
    rw [hcalls] at hc'
    rw [hpending]
    rcases update_some_cases hc' with ⟨heq, rfl⟩ | ⟨_, hbefore⟩
    · exact absurd hstage (hnoted t)
    · exact h.noted id' c' t hbefore hstage
  returned id' c' hc' hstage := by
    rw [hcalls] at hc'
    rw [hpending, hout]
    rcases update_some_cases hc' with ⟨heq, rfl⟩ | ⟨_, hbefore⟩
    · exact hreturned hstage
    · exact h.returned id' c' hbefore hstage
  holds id' x hx := by
    rw [hfeeders] at hx
    rw [hpending]
    exact h.holds id' x hx
  logged e he id' hcaller := by
    rw [hpending]
    rcases hnew e he with hold | ⟨hseq, hid, t, hstage⟩
    · rcases h.logged e hold id' hcaller with hadmitted | ⟨c', t, hc', hseq, hqueued'⟩
      · exact .inl hadmitted
      · refine .inr ⟨c', t, ?_, hseq, hqueued'⟩
        rw [hcalls, update_of_ne]
        · exact hc'
        · rintro ⟨⟩
          rw [hc] at hc'
          cases hc'
          exact hbefore t hqueued'
    · rw [hid] at hcaller
      cases hcaller
      refine .inr ⟨{ c with stage := stage }, t, ?_, hseq.symm, hstage⟩
      rw [hcalls, update_self]
  queued id' c' t hc' hstage := by
    rw [hcalls] at hc'
    rcases update_some_cases hc' with ⟨heq, rfl⟩ | ⟨_, hbefore⟩
    · cases heq
      exact hqueued t hstage
    · obtain ⟨e, he, hrest⟩ := h.queued id' c' t hbefore hstage
      exact ⟨e, haccepted e he, hrest⟩
  admitted x hx := by
    rw [hpending] at hx
    obtain ⟨e, he, hrest⟩ := h.admitted x hx
    exact ⟨e, haccepted e he, hrest⟩

theorem Feeding.store (h : Feeding s) {id : LegID} {c : Call} {t : Time}
    (hc : s.carrier.calls (.feeder id) = some c) (hstage : c.stage = .queued t)
    (hcalls : s'.carrier.calls =
      update s.carrier.calls (.feeder id) (some { c with stage := .noted t }))
    (hout : s'.carrier.ledger.outstanding = s.carrier.ledger.outstanding)
    (hfeeders : s'.feeders = s.feeders) (haccepted : s'.accepted = s.accepted)
    (hpending : ∀ x, benchmarkPendingOnly s' x =
      if x = c.seq then false else benchmarkPendingOnly s x)
    (hunique : ∀ id', c.seq ∈ (s.feeders id').held → id' = id) : Feeding s' := by
  have hp := (h.call id c hc).1
  have hkeep : ∀ x, benchmarkPendingOnly s x = false → benchmarkPendingOnly s' x = false := by
    intro x hx
    rw [hpending, hx, ite_self]
  refine ⟨?_, ?_, ?_, ?_, ?_, ?_, ?_, ?_⟩
  · intro id' c' hc'
    rw [hcalls] at hc'
    rw [hfeeders]
    rcases update_some_cases hc' with ⟨heq, rfl⟩ | ⟨_, hbefore⟩
    · cases heq
      exact h.call id c hc
    · exact h.call id' c' hbefore
  · intro id' c' hc' hearly
    rw [hcalls] at hc'
    rcases update_some_cases hc' with ⟨heq, rfl⟩ | ⟨hne, hbefore⟩
    · cases hearly
    · rw [hpending, if_neg]
      · exact h.early id' c' hbefore hearly
      · intro heq
        refine hne (congrArg Caller.feeder (hunique id' ?_))
        rw [(h.call id' c' hbefore).1, ← heq]
        exact mem_singleton_self _
  · intro id' c' t' hc' hnoted
    rw [hcalls] at hc'
    rcases update_some_cases hc' with ⟨heq, rfl⟩ | ⟨_, hbefore⟩
    · rw [hpending, if_pos rfl]
    · exact hkeep _ (h.noted id' c' t' hbefore hnoted)
  · intro id' c' hc' htrue
    rw [hcalls] at hc'
    rw [hout]
    rcases update_some_cases hc' with ⟨heq, rfl⟩ | ⟨_, hbefore⟩
    · cases htrue
    · exact (h.returned id' c' hbefore htrue).imp_left (hkeep _)
  · intro id' x hx
    rw [hfeeders] at hx
    rw [hpending, if_neg]
    · exact h.holds id' x hx
    · rintro rfl
      have hheld : c.seq ∈ (s.feeders id').held := by
        cases hf : s.feeders id' <;> simp_all [Feeder.unadmitted, Feeder.held]
      obtain rfl := hunique id' hheld
      rw [hp] at hx
      cases hx
  · intro e he id' hcaller
    rw [haccepted] at he
    rcases h.logged e he id' hcaller with hadmitted | ⟨c', t', hc', hseq, hqueued⟩
    · exact .inl (hkeep _ hadmitted)
    · by_cases heq : id' = id
      · subst heq
        rw [hc] at hc'
        cases hc'
        left
        rw [hpending, if_pos hseq.symm]
      · refine .inr ⟨c', t', ?_, hseq, hqueued⟩
        rw [hcalls, update_of_ne (by simpa using heq)]
        exact hc'
  · intro id' c' t' hc' hqueued
    rw [hcalls] at hc'
    rw [haccepted]
    rcases update_some_cases hc' with ⟨heq, rfl⟩ | ⟨_, hbefore⟩
    · cases hqueued
    · exact h.queued id' c' t' hbefore hqueued
  · intro x hx
    rw [haccepted]
    by_cases heq : x = c.seq
    · obtain ⟨e, he, hseq, hcaller⟩ := h.queued id c t hc hstage
      exact ⟨e, he, hseq.trans heq.symm, id, hcaller⟩
    · rw [hpending, if_neg heq] at hx
      exact h.admitted x hx

theorem Inv.feederAdvance (h : Inv cfg s) {id : LegID} {c : Call} {stage : CallStage}
    {a : CallAct} {carrier : Carrier.State Caller}
    (hs : tryQueueStep cfg s (.feeder id) a = some s')
    (hcarrier : callStep cfg.carrier s.carrier (.feeder id) a = some carrier)
    (hc : s.carrier.calls (.feeder id) = some c)
    (hcalls : carrier.calls =
      update s.carrier.calls (.feeder id) (some { c with stage := stage }))
    (hstream : StreamTXLedger.SameStream s.carrier.ledger carrier.ledger)
    (hadvance : Advances s.carrier.ledger c a stage) : Inv cfg s' := by
  obtain ⟨hp, hretry, hrescue⟩ := h.feeding.call id c hc
  have hheld : c.seq ∈ (s.feeders id).held := by
    rw [hp]
    exact mem_singleton_self _
  have hregistry := callStep_sameRegistry hcarrier
  unfold tryQueueStep at hs
  rw [hc, hcarrier] at hs
  cases a with
  | begin => cases hadvance
  | mark now =>
    cases hs
    obtain ⟨hbefore, hafter⟩ := hadvance
    refine h.feederCall hcalls hregistry hstream (fun _ => rfl) rfl rfl rfl rfl rfl h.outside
      (h.feeding.advance hc hcalls hstream.outstanding rfl (fun _ => rfl) (fun _ he => he)
        (fun _ he => .inl he) ?_ ?_ ?_ ?_ ?_)
    · intro _
      rw [hbefore]
      rfl
    · rcases hafter with rfl | rfl <;> nofun
    · rcases hafter with rfl | rfl
      · nofun
      · intro htrue
        injection htrue with htrue
        simp only [refusedResult, hrescue, Bool.false_and, Bool.or_false,
          decide_eq_true_eq] at htrue
        exact .inr htrue
    · rw [hbefore]
      nofun
    · rcases hafter with rfl | rfl <;> nofun
  | enqueue =>
    cases hs
    obtain ⟨t, hbefore, rfl⟩ := hadvance
    refine h.feederCall hcalls hregistry hstream (fun _ => rfl) rfl rfl rfl rfl rfl h.outside
      (h.feeding.advance hc hcalls hstream.outstanding rfl (fun _ => rfl)
        (fun _ he => mem_cons_of_mem _ he) ?_ ?_ nofun nofun ?_ ?_)
    · intro e he
      rcases mem_cons.mp he with rfl | hold
      · exact .inr ⟨rfl, rfl, t, rfl⟩
      · exact .inl hold
    · intro _
      rw [hbefore]
      rfl
    · rw [hbefore]
      nofun
    · intro _ _
      exact ⟨_, mem_cons_self, rfl, rfl⟩
  | abort =>
    cases hs
    obtain ⟨t, hbefore, rfl⟩ := hadvance
    refine h.feederCall hcalls hregistry hstream (fun _ => rfl) rfl rfl rfl rfl rfl h.outside
      (h.feeding.advance hc hcalls hstream.outstanding rfl (fun _ => rfl) (fun _ he => he)
        (fun _ he => .inl he) nofun nofun nofun ?_ nofun)
    rw [hbefore]
    nofun
  | note =>
    obtain ⟨t, hbefore, rfl⟩ := hadvance
    simp only [hretry, hrescue, bind_eq_bind, bind_some, Bool.false_eq_true,
      false_or, if_false, Option.some.injEq] at hs
    subst hs
    have hsome : (s.assignments c.seq).isSome = true := h.holding.feeders id c.seq hheld
    have hpending := @pendingOnly_setAdmitted { s with carrier := carrier } c.seq hsome
    refine h.feederCall hcalls hregistry hstream (@isSome_setAdmitted { s with carrier := carrier } _)
      rfl rfl rfl rfl rfl ?_
      (h.feeding.store hc hbefore hcalls hstream.outstanding rfl rfl hpending ?_)
    · intro x hx
      rw [hpending, if_neg]
      · exact h.outside x hx
      · rintro rfl
        exact h.holding.not_outside h.registry hheld hx
    · intro id' hid'
      exact h.holding.feeder_unique h.registry hid' hheld
  | recheck =>
    cases hs
    obtain ⟨t, ok, hbefore, rfl⟩ := hadvance
    refine h.feederCall hcalls hregistry hstream (fun _ => rfl) rfl rfl rfl rfl rfl h.outside
      (h.feeding.advance hc hcalls hstream.outstanding rfl (fun _ => rfl) (fun _ he => he)
        (fun _ he => .inl he) nofun nofun ?_ ?_ nofun)
    · intro _
      exact .inl (h.feeding.noted id c t hc hbefore)
    · rw [hbefore]
      nofun

theorem inv_tryQueueStep (h : Inv cfg s) {a : CallAct} (hs : tryQueueStep cfg s k a = some s') :
    Inv cfg s' := by
  obtain ⟨c, hc, hrest⟩ := bind_eq_some_iff.mp hs
  obtain ⟨carrier, hcarrier, hrest⟩ := bind_eq_some_iff.mp hrest
  have hbegin : a.isBegin = false := by
    cases a <;> first | rfl | cases hrest
  obtain ⟨c', stage, hc', hcalls, hadvance, hfootprint⟩ := callStep_advances hbegin hcarrier
  obtain rfl : c = c' := Option.some.inj (hc.symm.trans hc')
  have hstream := hfootprint.stream
  have hregistry := callStep_sameRegistry hcarrier
  by_cases hk : ∃ id, k = .feeder id
  · obtain ⟨id, rfl⟩ := hk
    exact h.feederAdvance hs hcarrier hc hcalls hstream hadvance
  · have hne : ∀ id, k ≠ .feeder id := fun id heq => hk ⟨id, heq⟩
    have hother : ∀ accepted : List Acceptance,
        (∀ e id, e.caller = .feeder id → (e ∈ accepted ↔ e ∈ s.accepted)) →
          Inv cfg { s with carrier := carrier, accepted := accepted } :=
      fun _ => h.otherCall hne hc hcalls hregistry hstream
    cases a with
    | begin => cases hbegin
    | mark | abort | recheck =>
      cases hrest
      exact hother s.accepted fun _ _ _ => Iff.rfl
    | enqueue =>
      cases hrest
      refine hother _ fun e id hcaller => ?_
      rw [mem_cons, or_iff_right]
      rintro rfl
      exact hne id hcaller
    | note =>
      dsimp only at hrest
      split_ifs at hrest with hkind
      · cases hrest
        exact hother s.accepted fun _ _ _ => Iff.rfl
      · -- the planner offers a record before it publishes the assignment
        have hnone : s.assignments c.seq = none := by
          cases k with
          | planner =>
            refine h.holding.unassigned c.seq ?_
            rw [h.plannerCall c hc]
            exact mem_singleton_self _
          | feeder id => exact absurd rfl (hne id)
          | retransmit => exact absurd (h.retryCall c hc) hkind
        cases hrest
        rw [@setAdmitted_of_none { s with carrier := carrier } c.seq hnone]
        exact hother s.accepted fun _ _ _ => Iff.rfl

end Calls

section HandOver

variable {cfg : Config} {s : State}

/-- A published record that nobody holds and no carrier queue has accepted from a feeder. -/
structure Free (cfg : Config) (s : State) (seq : Nat) : Prop where
  lt_next : seq < s.carrier.ledger.nextSequence
  holders : s.holders cfg seq = 0
  published : (s.assignments seq).isSome = true
  pendingOnly : benchmarkPendingOnly s seq = true

theorem Free.bounds {s' : State} {seq : Nat} (hfree : Free cfg s seq) (h : Holding cfg s)
    (hholders : ∀ x, s'.holders cfg x = s.holders cfg x + [seq].count x) :
    (∀ x, s'.holders cfg x ≤ 1) ∧
      ∀ x, s.carrier.ledger.nextSequence ≤ x →
        s.assignments x = none ∧ s'.holders cfg x = 0 := by
  have hzero := hfree.holders
  have hlt := hfree.lt_next
  have hcount : ∀ x, [seq].count x = if seq = x then 1 else 0 := by
    intro x
    simp [count_singleton]
  refine ⟨fun x => ?_, fun x hx => ⟨(h.fresh x hx).1, ?_⟩⟩
  · rw [hholders, hcount]
    have honce := h.once x
    split
    · next heq =>
      rw [← heq]
      omega
    · omega
  · rw [hholders, hcount, (h.fresh x hx).2, if_neg (by omega)]

theorem Inv.popPending (h : Inv cfg s) {id : LegID} {seq : Nat} {rest : List Nat}
    (hqueue : s.pending id = seq :: rest) :
    Inv cfg { s with pending := update s.pending id rest } ∧
      Free cfg { s with pending := update s.pending id rest } seq := by
  have hm : seq ∈ s.pending id := by
    rw [hqueue]
    exact mem_cons_self
  have hid := h.registry.pendingId id seq hm
  have hsub : ∀ id', ∀ x ∈ update s.pending id rest id', x ∈ s.pending id' := by
    intro id' x hx
    by_cases heq : id' = id
    · rw [heq, update_self] at hx
      rw [heq, hqueue]
      exact mem_cons_of_mem _ hx
    · rwa [update_of_ne heq] at hx
  have hsum := @holders_setPending cfg s id hid rest
  have hcount : ∀ x, (s.pending id).count x = [seq].count x + rest.count x := by
    intro x
    rw [hqueue, count_cons]
  refine ⟨⟨?_, ?_, ?_, h.plannerCall, h.retryCall, ?_⟩, ?_, ?_, ?_, ?_⟩
  · exact h.registry.frame ⟨rfl, fun _ => rfl⟩ (fun _ hne => hne)
      (fun id' x hx => .inl (hsub id' x hx)) (fun _ => ⟨rfl, fun hr => hr⟩) rfl
  · refine h.holding.frame (fun x => ?_) rfl (fun _ => rfl) (fun _ hx => hx) h.holding.planner
      (fun id' x hx => h.holding.pending id' x (hsub id' x hx)) h.holding.feeders
      h.holding.reassigns
    have hx := hsum x
    have hx' := hcount x
    omega
  · intro x hx
    exact h.outside x (hx.imp_right (Or.imp_left fun ⟨id', hin⟩ => ⟨id', hsub id' x hin⟩))
  · exact h.feeding.frame (fun _ => rfl) (fun _ => .inl rfl) (fun _ => rfl)
      (fun _ _ _ => Iff.rfl) fun _ _ _ hout => hout
  · refine h.holding.lt_next ?_
    have hpos := tally_pending_pos h.registry hm
    unfold State.holders
    omega
  · have hx := hsum seq
    have hx' := hcount seq
    have honce := h.holding.once seq
    rw [count_singleton_self] at hx'
    omega
  · exact h.holding.pending id seq hm
  · exact h.outside seq (.inr (.inl ⟨id, hm⟩))

theorem Inv.releasePlanner (h : Inv cfg s) {seq : Nat} {ref : Ref}
    (hp : s.planner = .pushing seq ref) :
    Inv cfg { s with planner := .enqueued seq } ∧
      Free cfg { s with planner := .enqueued seq } seq := by
  have hheld : seq ∈ s.planner.held := by
    rw [hp]
    exact mem_singleton_self _
  have hpos := count_pos_iff.mpr hheld
  refine ⟨h.setPlanner _ ?_ (fun _ => Nat.zero_le _) nofun nofun, ?_, ?_, ?_, ?_⟩
  · intro c hc
    have hcalling := h.plannerCall c hc
    rw [hp] at hcalling
    cases hcalling
  · refine h.holding.lt_next ?_
    unfold State.holders
    omega
  · have hsum := @holders_setPlanner cfg s (.enqueued seq) seq
    have honce := h.holding.once seq
    have hnone : (Planner.enqueued seq).held.count seq = 0 := rfl
    omega
  · refine h.holding.planner seq ?_
    rw [hp]
    exact mem_singleton_self _
  · exact h.outside seq (.inl hheld)

theorem Inv.releaseReassign (h : Inv cfg s) {i seq : Nat} {ref : Ref}
    (hp : (s.reassigns i).2 = .pushing seq ref) :
    Inv cfg (s.setReassign i .popping) ∧ Free cfg (s.setReassign i .popping) seq := by
  have hheld : seq ∈ (s.reassigns i).2.held := by
    rw [hp]
    exact mem_singleton_self _
  have hrunning : (s.reassigns i).2 ≠ .returned := by
    rw [hp]
    nofun
  have hpos := count_pos_iff.mpr hheld
  have hsum := @holders_setReassign cfg s i (lt_spawned_of_running h.registry hrunning) .popping
  refine ⟨h.setReassign i _ hrunning fun _ => Nat.zero_le _, ?_, ?_, ?_, ?_⟩
  · refine h.holding.lt_next ?_
    have hcell := tally_reassigns_pos h.registry hheld
    unfold State.holders
    omega
  · have hx := hsum seq
    have honce := h.holding.once seq
    have hnone : Reassign.popping.held.count seq = 0 := rfl
    omega
  · exact h.holding.reassigns i seq hheld
  · exact h.outside seq (.inr (.inr ⟨i, hheld⟩))

theorem Inv.pushPending (h : Inv cfg s) {id : LegID} {seq : Nat} (hid : id < cfg.maxActiveLegs)
    (hfree : Free cfg s seq) :
    Inv cfg { s with pending := update s.pending id (s.pending id ++ [seq]) } := by
  have hin : ∀ id', ∀ x ∈ update s.pending id (s.pending id ++ [seq]) id',
      x ∈ s.pending id' ∨ (id' = id ∧ x = seq) := by
    intro id' x hx
    by_cases heq : id' = id
    · rw [heq, update_self, mem_append, mem_singleton] at hx
      rw [heq]
      exact hx.imp_right fun hseq => ⟨rfl, hseq⟩
    · rw [update_of_ne heq] at hx
      exact .inl hx
  obtain ⟨honce, hfresh⟩ := @Free.bounds cfg s
    { s with pending := update s.pending id (s.pending id ++ [seq]) } seq hfree h.holding
    fun x => by
      have hsum := @holders_setPending cfg s id hid (s.pending id ++ [seq]) x
      rw [count_append] at hsum
      omega
  refine ⟨?_, ⟨honce, hfresh, h.holding.unassigned, h.holding.planner, ?_, h.holding.feeders,
    h.holding.reassigns⟩, ?_, h.plannerCall, h.retryCall, ?_⟩
  · refine h.registry.frame ⟨rfl, fun _ => rfl⟩ (fun _ hne => hne) (fun id' x hx => ?_)
      (fun _ => ⟨rfl, fun hr => hr⟩) rfl
    rcases hin id' x hx with hold | ⟨rfl, -⟩
    · exact .inl hold
    · exact .inr hid
  · intro id' x hx
    rcases hin id' x hx with hold | ⟨-, rfl⟩
    · exact h.holding.pending id' x hold
    · exact hfree.published
  · rintro x (hplanner | ⟨id', hx⟩ | hreassign)
    · exact h.outside x (.inl hplanner)
    · rcases hin id' x hx with hold | ⟨-, rfl⟩
      · exact h.outside x (.inr (.inl ⟨id', hold⟩))
      · exact hfree.pendingOnly
    · exact h.outside x (.inr (.inr hreassign))
  · exact h.feeding.frame (fun _ => rfl) (fun _ => .inl rfl) (fun _ => rfl)
      (fun _ _ _ => Iff.rfl) fun _ _ _ hout => hout

theorem Inv.takeFeeder (h : Inv cfg s) {id : LegID} {seq : Nat} (hidle : s.feeders id = .idle)
    (hfree : Free cfg s seq) : Inv cfg (s.setFeeder id (.holding seq)) := by
  have hid : id < cfg.maxActiveLegs := h.registry.feederId id (by rw [hidle]; nofun)
  have hbusy : ∀ id' c, s.carrier.calls (.feeder id') = some c → id' ≠ id := by
    rintro id' c hc rfl
    have hcalling := (h.feeding.call id' c hc).1
    rw [hidle] at hcalling
    cases hcalling
  obtain ⟨honce, hfresh⟩ := @Free.bounds cfg s (s.setFeeder id (.holding seq)) seq hfree h.holding
    fun x => by
      have hsum := @holders_setFeeder cfg s id hid (.holding seq) x
      rw [hidle] at hsum
      exact hsum
  refine ⟨?_, ⟨honce, hfresh, h.holding.unassigned, h.holding.planner, h.holding.pending, ?_,
    h.holding.reassigns⟩, h.outside, h.plannerCall, h.retryCall, ?_⟩
  · refine h.registry.frame ⟨rfl, fun _ => rfl⟩ (fun id' hne => ?_) (fun _ _ hx => .inl hx)
      (fun _ => ⟨rfl, fun hr => hr⟩) rfl
    by_cases heq : id' = id
    · rw [heq, hidle]
      nofun
    · rwa [setFeeder_feeders, if_neg heq] at hne
  · intro id' x hx
    rw [setFeeder_feeders] at hx
    split at hx
    · rw [mem_singleton.mp hx]
      exact hfree.published
    · exact h.holding.feeders id' x hx
  · exact
      { call := fun id' c hc => by
          rw [setFeeder_feeders, if_neg (hbusy id' c hc)]
          exact h.feeding.call id' c hc
        early := h.feeding.early
        noted := h.feeding.noted
        returned := h.feeding.returned
        holds := fun id' x hx => by
          rw [setFeeder_feeders] at hx
          split at hx
          · rw [mem_singleton.mp hx]
            exact hfree.pendingOnly
          · exact h.feeding.holds id' x hx
        logged := h.feeding.logged
        queued := h.feeding.queued
        admitted := h.feeding.admitted }

theorem Inv.takeReassign (h : Inv cfg s) {i seq : Nat} (hpopping : (s.reassigns i).2 = .popping)
    (hfree : Free cfg s seq) : Inv cfg (s.setReassign i (.popped seq)) := by
  have hrunning : (s.reassigns i).2 ≠ .returned := by
    rw [hpopping]
    nofun
  have hin : ∀ j, ∀ x ∈ ((s.setReassign i (.popped seq)).reassigns j).2.held,
      x ∈ (s.reassigns j).2.held ∨ x = seq := by
    intro j x hx
    rw [setReassign_reassigns] at hx
    split at hx
    · exact .inr (mem_singleton.mp hx)
    · exact .inl hx
  obtain ⟨honce, hfresh⟩ := @Free.bounds cfg s (s.setReassign i (.popped seq)) seq hfree h.holding
    fun x => by
      have hsum := @holders_setReassign cfg s i (lt_spawned_of_running h.registry hrunning)
        (.popped seq) x
      rw [hpopping] at hsum
      exact hsum
  refine ⟨?_, ⟨honce, hfresh, h.holding.unassigned, h.holding.planner, h.holding.pending,
    h.holding.feeders, ?_⟩, ?_, h.plannerCall, h.retryCall, ?_⟩
  · refine h.registry.frame ⟨rfl, fun _ => rfl⟩ (fun _ hne => hne) (fun _ _ hx => .inl hx)
      (fun j => ?_) rfl
    rw [setReassign_reassigns]
    split
    · next heq => exact ⟨by rw [heq], fun hdone => absurd (heq ▸ hdone) hrunning⟩
    · exact ⟨rfl, fun hdone => hdone⟩
  · intro j x hx
    rcases hin j x hx with hold | rfl
    · exact h.holding.reassigns j x hold
    · exact hfree.published
  · rintro x (hplanner | hpending | ⟨j, hx⟩)
    · exact h.outside x (.inl hplanner)
    · exact h.outside x (.inr (.inl hpending))
    · rcases hin j x hx with hold | rfl
      · exact h.outside x (.inr (.inr ⟨j, hold⟩))
      · exact hfree.pendingOnly
  · exact h.feeding.frame (fun _ => rfl) (fun _ => .inl rfl) (fun _ => rfl)
      (fun _ _ _ => Iff.rfl) fun _ _ _ hout => hout

end HandOver

end Smp3Multipath.Core.Decoupled

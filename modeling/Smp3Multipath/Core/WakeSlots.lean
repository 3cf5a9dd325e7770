import Smp3Multipath.Core.DecoupledRuns

/-!
# The wake slots

The planner and the feeders of the aggregation scheduler wait on the slots of
`decoupledWake`: the feeder of a leg id on the slot of that id, the planner on slot
two, and a `reassignFailedPending` call on the slot of the leg it pushes to.  There
are three slots whatever `MaxActiveLegs` is, so the slots are in range and apart
exactly for the configurations with at most two legs.
-/

namespace Smp3Multipath.Core.Decoupled

open Lib.Run Assignment Function Option
open Carrier hiding Config State init

/-- The goroutines that wait for a wake of their own. -/
inductive Waiter where
  | planner
  | feeder (id : LegID)
deriving DecidableEq

/-- The slot a goroutine waits on. -/
def State.slotOf (s : State) : Waiter → Option Nat
  | .planner =>
    match s.planner with
    | .assignWait _ | .pushWait _ _ => some plannerSlot
    | _ => none
  | .feeder id =>
    match s.feeders id with
    | .waiting _ => some id
    | _ => none

/-- Every slot in use exists, and no two goroutines wait on one slot. -/
structure WakeSafe (s : State) : Prop where
  inRange : ∀ w slot, s.slotOf w = some slot → slot < wakeSlots
  reassignInRange : ∀ i seq ref, (s.reassigns i).2 = .pushing seq ref →
    (s.carrier.legs ref).id < wakeSlots
  apart : ∀ w w' slot, s.slotOf w = some slot → s.slotOf w' = some slot → w = w'

section Safe

variable {cfg : Config} {s : State}

theorem slotOf_planner {slot : Nat} (h : s.slotOf .planner = some slot) : slot = plannerSlot := by
  unfold State.slotOf at h
  dsimp only at h
  split at h <;> cases h <;> rfl

theorem slotOf_feeder {id : LegID} {slot : Nat} (h : s.slotOf (.feeder id) = some slot) :
    slot = id ∧ s.feeders id ≠ .absent := by
  unfold State.slotOf at h
  dsimp only at h
  split at h
  · next hp =>
    cases h
    rw [hp]
    exact ⟨rfl, nofun⟩
  · cases h

/-- With at most two legs the feeders stay below the planner's slot. -/
theorem Inv.wakeSafe (h : Inv cfg s) (hlegs : cfg.maxActiveLegs ≤ plannerSlot) : WakeSafe s := by
  have hfeeder : ∀ id slot, s.slotOf (.feeder id) = some slot → slot = id ∧ slot < plannerSlot := by
    intro id slot hslot
    obtain ⟨rfl, hpresent⟩ := slotOf_feeder hslot
    exact ⟨rfl, Nat.lt_of_lt_of_le (h.registry.feederId slot hpresent) hlegs⟩
  have hin : plannerSlot < wakeSlots := by decide
  refine ⟨fun w slot hslot => ?_, fun i seq ref _ => ?_, fun w w' slot hslot hslot' => ?_⟩
  · cases w with
    | planner =>
      rw [slotOf_planner hslot]
      exact hin
    | feeder id => exact Nat.lt_trans (hfeeder id slot hslot).2 hin
  · exact Nat.lt_trans (Nat.lt_of_lt_of_le (h.registry.legId ref) hlegs) hin
  · cases w with
    | planner =>
      cases w' with
      | planner => rfl
      | feeder id =>
        have hlt := (hfeeder id slot hslot').2
        rw [slotOf_planner hslot] at hlt
        exact absurd hlt (Nat.lt_irrefl _)
    | feeder id =>
      cases w' with
      | planner =>
        have hlt := (hfeeder id slot hslot).2
        rw [slotOf_planner hslot'] at hlt
        exact absurd hlt (Nat.lt_irrefl _)
      | feeder id' => rw [← (hfeeder id slot hslot).1, ← (hfeeder id' slot hslot').1]

end Safe

section Shared

variable {cfg : Config} {s : State}

/-- `assignBenchmark` finds no leg when none is available and the owner, if any, is closed. -/
theorem assign_none {m : Measured} {seq : Nat} {a : BenchmarkAssignment}
    (ha : s.assignments seq = some a) (havailable : availableLegs cfg s.carrier = [])
    (howner : ∀ ref, a.owner = some ref → (s.carrier.legs ref).closed = true) :
    ∃ s₁, s.assign cfg m seq = some (none, s₁) := by
  have hnone : (assignBenchmark cfg s.carrier s.books m seq a).leg = none := by
    rw [eq_none_iff_forall_ne_some]
    intro ref hleg
    rcases (assignBenchmark_leg hleg).1 with ⟨hkeeps, hsome⟩ | hm
    · unfold keepsOwner at hkeeps
      rw [hsome] at hkeeps
      simp [howner ref hsome] at hkeeps
    · rw [havailable] at hm
      cases hm
  unfold State.assign
  rw [ha, map_some]
  dsimp only
  rw [hnone]
  exact ⟨_, rfl⟩

theorem exists_assigning (hreach : Reachable (step cfg) (init cfg) s) (hidle : s.planner = .idle)
    (payload : List UInt8) :
    ∃ s', Reachable (step cfg) (init cfg) s' ∧
      s' = { s with
        carrier := { s.carrier with ledger := (s.carrier.ledger.addLocal payload 1).1 }
        assignments := update s.assignments s.carrier.ledger.nextSequence (some {})
        planner := .assigning s.carrier.ledger.nextSequence } := by
  have hseq := (StreamTXLedger.addLocal_claims s.carrier.ledger payload 1).1
  have hadd : step cfg s (.planner (.add payload 1 false)) = some
      { s with
        carrier := { s.carrier with ledger := (s.carrier.ledger.addLocal payload 1).1 }
        planner := .unpublished s.carrier.ledger.nextSequence } := by
    simp only [step, plannerStep, hidle, hseq, Bool.false_eq_true, if_false]
  exact ⟨_, (hreach.tail hadd).tail (a := .planner .publish) rfl, rfl⟩

theorem exists_assignWait (hreach : Reachable (step cfg) (init cfg) s) (hidle : s.planner = .idle)
    (havailable : availableLegs cfg s.carrier = []) (m : Measured) :
    ∃ s' seq, Reachable (step cfg) (init cfg) s' ∧ s'.planner = .assignWait seq ∧
      s'.feeders = s.feeders := by
  obtain ⟨s₁, hreach₁, hs₁⟩ := exists_assigning hreach hidle [8]
  have ha : s₁.assignments s.carrier.ledger.nextSequence = some {} := by
    rw [hs₁]
    exact update_self ..
  have hp : s₁.planner = .assigning s.carrier.ledger.nextSequence := by rw [hs₁]
  obtain ⟨s₂, hassign⟩ := assign_none (m := m) ha (by rw [hs₁]; exact havailable) nofun
  have hs : step cfg s₁ (.planner (.assign m)) =
      some { s₂ with planner := .assignWait s.carrier.ledger.nextSequence } := by
    simp only [step, plannerStep, hp, hassign, map_some]
  refine ⟨_, _, hreach₁.tail hs, rfl, ?_⟩
  obtain ⟨a, -, -, rfl⟩ := assign_effect hassign
  rw [hs₁]
  rfl

theorem exists_feederWaiting (hreach : Reachable (step cfg) (init cfg) s) {id : LegID} {seq : Nat}
    {a : BenchmarkAssignment} (hp : s.feeders id = .holding seq)
    (ha : s.assignments seq = some a) (hadmitted : a.admitted = false)
    (havailable : availableLegs cfg s.carrier = [])
    (howner : ∀ ref, a.owner = some ref → (s.carrier.legs ref).closed = true) (m : Measured) :
    ∃ s', Reachable (step cfg) (init cfg) s' ∧ s'.feeders id = .waiting seq ∧
      s'.planner = s.planner ∧ availableLegs cfg s'.carrier = [] := by
  obtain ⟨s₁, hassign⟩ := assign_none (m := m) ha havailable howner
  have hs : step cfg s (.feeder id (.assign m)) = some (s₁.setFeeder id (.failed seq)) := by
    simp only [step, feederStep, hp, hassign, map_some]
  obtain ⟨a', ha', -, hs₁⟩ := assign_effect hassign
  obtain rfl : a = a' := Option.some.inj (ha.symm.trans ha')
  have hpending : benchmarkPendingOnly (s₁.setFeeder id (.failed seq)) seq = true := by
    unfold benchmarkPendingOnly
    rw [show (s₁.setFeeder id (.failed seq)).assignments seq =
      some (assignBenchmark cfg s.carrier s.books m seq a).assignment by
        rw [hs₁]
        exact update_self ..]
    dsimp only
    rw [assignBenchmark_admitted, hadmitted]
    rfl
  have hfailed : (s₁.setFeeder id (.failed seq)).feeders id = .failed seq := by
    rw [setFeeder_feeders, if_pos rfl]
  have hcheck : step cfg (s₁.setFeeder id (.failed seq)) (.feeder id .check) =
      some ((s₁.setFeeder id (.failed seq)).setFeeder id (.waiting seq)) := by
    simp only [step, feederStep, hfailed, hpending, if_true]
  refine ⟨_, (hreach.tail hs).tail hcheck, ?_, ?_, ?_⟩
  · rw [setFeeder_feeders, if_pos rfl]
  · rw [hs₁]
    rfl
  · rw [hs₁]
    exact havailable

theorem ordinary_addLocal_new {id n : Nat} (hid : id < n) (hn : n ≤ maxStreamLegIDCount)
    (payload : List UInt8) (now : Time) :
    let l := ((StreamTXLedger.newStreamTXLedger n).addLocal payload now).1
    l.ordinaryFrames.getD id 0 = 0 ∧ id < l.ordinaryBytes.length ∧ l.ordinaryBytes.getD id 0 = 0 := by
  have hlegs : min (if n < 1 then 2 else n) maxStreamLegIDCount = n := by
    rw [if_neg (by omega)]
    exact Nat.min_eq_left hn
  simp only [StreamTXLedger.addLocal, StreamTXLedger.add, StreamTXLedger.ensureLocked,
    StreamTXLedger.newStreamTXLedger, hlegs, List.length_replicate]
  split
  · simp [StreamTXLedger.growTo, hid]
  · simp [hid]

theorem assign_first {id : LegID} (hid : id < cfg.maxActiveLegs)
    (hledger : s.carrier.ledger =
      ((StreamTXLedger.newStreamTXLedger cfg.maxActiveLegs).addLocal [7] 1).1)
    (hbooks : s.books = Books.empty) (hleg : s.carrier.legs 0 = { id := id })
    (hattached : s.carrier.attached = update (fun _ => none) id (some 0))
    (hids : ∀ ref, (s.carrier.legs ref).id < cfg.maxActiveLegs) (ha : s.assignments 0 = some {}) :
    ∃ s', s.assign cfg evenLegs 0 = some (some 0, s') := by
  obtain ⟨hframes, hlength, hbytes⟩ := ordinary_addLocal_new hid cfg.maxActiveLegs_le [7] 1
  have havailable : 0 ∈ availableLegs cfg s.carrier := by
    refine mem_availableLegs.mpr ⟨⟨id, hid, ?_⟩, ?_, ?_⟩
    · rw [hattached, update_self]
    · rw [hleg]
      rfl
    · rw [hleg]
  have hselectable : selectable cfg s.carrier s.books evenLegs {} 0 = true := by
    have hcount := cfg.maxInflightFrames_pos
    simp only [selectable, ordinaryEligible, hleg, hledger, hbooks, Books.empty, hframes, hbytes,
      validAdmissionLeg]
    simp [hid, hcount, hlength, evenLegs]
  have hsome : (assignBenchmark cfg s.carrier s.books evenLegs 0 {}).leg ≠ none := by
    rw [Ne, assignBenchmark_eq_none_iff]
    · rintro ⟨-, hnil⟩
      have hm : 0 ∈ candidates cfg s.carrier s.books evenLegs {} :=
        mem_candidates.mpr ⟨havailable, hselectable, one_pos⟩
      rw [hnil] at hm
      cases hm
    · exact fun ref _ => Nat.lt_of_lt_of_le (hids ref) cfg.maxActiveLegs_le
    · rw [hledger, (StreamTXLedger.addLocal_claims _ [7] 1).2.2.1]
      exact .inl rfl
  obtain ⟨ref, href⟩ := ne_none_iff_exists'.mp hsome
  have hzero : ref = 0 := by
    rcases (assignBenchmark_leg href).1 with ⟨-, hkept⟩ | hm
    · cases hkept
    · obtain ⟨⟨id', -, hat⟩, -⟩ := mem_availableLegs.mp hm
      rw [hattached, update_apply] at hat
      split at hat
      · exact (Option.some.inj hat).symm
      · cases hat
  unfold State.assign
  rw [ha, map_some]
  dsimp only
  rw [href, hzero]
  exact ⟨_, rfl⟩

/-- Leg `id` is the only one ever attached, and the only record is assigned to it. -/
structure OneLeg (id : LegID) (a : BenchmarkAssignment) (s : State) : Prop where
  planner : s.planner = .idle
  assigned : s.assignments 0 = some a
  owner : a.owner = some 0
  unadmitted : a.admitted = false
  attached : s.carrier.attached = update (fun _ => none) id (some 0)
  nextRef : s.carrier.nextRef = 1

theorem exists_pushed {id : LegID} (hid : id < cfg.maxActiveLegs) :
    ∃ a s, Reachable (step cfg) (init cfg) s ∧ OneLeg id a s ∧ s.carrier.legs 0 = { id := id } ∧
      s.feeders id = .idle ∧ s.pending id = [0] := by
  have hattach : step cfg (init cfg) (.leg (.attachLeg id)) = some
      { init cfg with
        carrier := { (init cfg).carrier with
          legs := update (init cfg).carrier.legs 0 { id := id }
          nextRef := 1
          attached := update (init cfg).carrier.attached id (some 0) }
        feeders := update (init cfg).feeders id .idle } := by
    simp only [step, lifeStep, legStep]
    rw [if_pos ⟨hid, rfl, rfl⟩]
    rfl
  obtain ⟨s₁, hreach₁, hs₁⟩ := exists_assigning (Reachable.refl.tail hattach) rfl [7]
  have hleg : s₁.carrier.legs 0 = { id := id } := by
    rw [hs₁]
    rfl
  have hattached : s₁.carrier.attached = update (fun _ => none) id (some 0) := by
    rw [hs₁]
    rfl
  have ha : s₁.assignments 0 = some {} := by
    rw [hs₁]
    rfl
  obtain ⟨s₂, hassign⟩ := assign_first hid (by rw [hs₁]; rfl) (by rw [hs₁]; rfl) hleg hattached
    (inv_of_reachable hreach₁).registry.legId ha
  obtain ⟨a, ha', hsome, hs₂⟩ := assign_effect hassign
  obtain rfl : {} = a := Option.some.inj (ha.symm.trans ha')
  have hplan : step cfg s₁ (.planner (.assign evenLegs)) =
      some { s₂ with planner := .pushing 0 0 } := by
    have hp : s₁.planner = .assigning 0 := by
      rw [hs₁]
      rfl
    simp only [step, plannerStep, hp, hassign, map_some]
  have hleg₂ : s₂.carrier.legs 0 = { id := id } := by
    rw [hs₂]
    exact hleg
  have hpush : step cfg { s₂ with planner := .pushing 0 0 } (.planner .push) = some
      { s₂ with
        planner := .enqueued 0
        pending := update s₂.pending id [0] } := by
    have hempty : s₂.pending id = [] := by
      rw [hs₂, hs₁]
      rfl
    simp only [step, plannerStep, State.push, hleg₂, hempty, List.length_nil,
      cfg.pendingFrames_pos, if_true, map_some, List.nil_append]
  refine ⟨_, _, ((hreach₁.tail hplan).tail hpush).tail (a := .planner .finish) rfl,
    ⟨rfl, ?_, (assignBenchmark_leg hsome.symm).2, assignBenchmark_admitted, ?_, ?_⟩, hleg₂, ?_,
    update_self ..⟩
  · rw [hs₂]
    dsimp only [State.withOutcome]
    rw [update_self]
  · rw [hs₂]
    exact hattached
  · rw [hs₂, hs₁]
    rfl
  · rw [hs₂, hs₁]
    show update (init cfg).feeders id .idle id = .idle
    rw [update_self]

theorem exists_holding {id : LegID} (hid : id < cfg.maxActiveLegs) :
    ∃ a s, Reachable (step cfg) (init cfg) s ∧ OneLeg id a s ∧
      (s.carrier.legs 0).stage = .closing ∧ s.feeders id = .holding 0 := by
  obtain ⟨a, s, hreach, hone, hleg, hidle, hpending⟩ := exists_pushed hid
  have hpop : step cfg s (.feeder id .pop) = some
      { (s.setFeeder id (.holding 0)).wakeAll with
        pending := update s.pending id [] } := by
    simp only [step, feederStep, hidle, hpending]
  have hfail : ∀ s : State, s.carrier.nextRef = 1 → s.carrier.legs 0 = { id := id } →
      step cfg s (.leg (.fail 0)) =
        some { s with carrier := s.carrier.setLeg 0 { id := id, stage := .closing } } := by
    intro s hnext hleg
    simp only [step, lifeStep, legStep, hnext, hleg, Nat.one_pos, true_and, if_true,
      map_some]
  refine ⟨a, _, (hreach.tail hpop).tail (hfail _ hone.nextRef hleg),
    ⟨hone.planner, hone.assigned, hone.owner, hone.unadmitted, hone.attached, hone.nextRef⟩, ?_, ?_⟩
  · show (update s.carrier.legs 0 { id := id, stage := .closing } 0).stage = .closing
    rw [update_self]
  · exact update_self ..

theorem exists_bothWaiting {id : LegID} (hid : id < cfg.maxActiveLegs) :
    ∃ s, Reachable (step cfg) (init cfg) s ∧ s.slotOf (.feeder id) = some id ∧
      s.slotOf .planner = some plannerSlot := by
  obtain ⟨a, s, hreach, hone, hclosing, hholding⟩ := exists_holding hid
  have hclosed : (s.carrier.legs 0).closed = true := by
    unfold Leg.closed
    rw [hclosing]
    rfl
  have havailable : availableLegs cfg s.carrier = [] := by
    rw [List.eq_nil_iff_forall_not_mem]
    intro ref hm
    obtain ⟨⟨id', -, hat⟩, hopen, -⟩ := mem_availableLegs.mp hm
    rw [hone.attached, update_apply] at hat
    split at hat <;> cases hat
    rw [hclosed] at hopen
    cases hopen
  obtain ⟨s₁, hreach₁, hwaiting, hplanner, havailable₁⟩ :=
    exists_feederWaiting hreach hholding hone.assigned hone.unadmitted havailable
      (fun ref href => by rw [hone.owner] at href; cases href; exact hclosed) evenLegs
  obtain ⟨s₂, seq, hreach₂, hwait, hfeeders⟩ :=
    exists_assignWait hreach₁ (hplanner.trans hone.planner) havailable₁ evenLegs
  refine ⟨s₂, hreach₂, ?_, ?_⟩
  · simp only [State.slotOf, hfeeders, hwaiting]
  · simp only [State.slotOf, hwait]

/-- The wake slots are in range and apart in every reachable state exactly for the
configurations with at most two legs. -/
theorem wakeSafe_iff (cfg : Config) :
    (∀ s, Reachable (step cfg) (init cfg) s → WakeSafe s) ↔ cfg.maxActiveLegs ≤ 2 := by
  constructor
  · intro hsafe
    by_contra hlegs
    obtain ⟨s, hreach, hfeeder, hplanner⟩ :=
      @exists_bothWaiting cfg plannerSlot (Nat.not_le.mp hlegs)
    cases (hsafe s hreach).apart _ _ _ hfeeder hplanner
  · intro hlegs s hreach
    exact (inv_of_reachable hreach).wakeSafe hlegs

/-- Three legs without slow-leg protection. -/
def threeLegConfig : Config :=
  { twoLegConfig with
    maxActiveLegs := 3
    maxActiveLegs_pos := by decide
    maxActiveLegs_le := by decide }

/-- The only leg, leg 2, fails while its feeder holds a chunk; then another chunk is read. -/
def legTwoFails : List Act :=
  [.leg (.attachLeg 2)] ++ planChunk evenLegs 7 ++
    [.feeder 2 .pop, .leg (.fail 0), .feeder 2 (.assign evenLegs), .feeder 2 .check,
      .planner (.add [8] 1 false), .planner .publish, .planner (.assign evenLegs)]

/-- Feeder 2 and the planner wait on slot two, and one takes the token meant for the other. -/
theorem legTwoFails_sharesSlot :
    ∃ s, runActs (step threeLegConfig) (init threeLegConfig) legTwoFails = some s ∧
      s.slotOf (.feeder 2) = some 2 ∧ s.slotOf .planner = some 2 ∧ ¬ WakeSafe s ∧
      ∃ s', runActs (step threeLegConfig) s [.wakeDecoupled, .planner .wake] = some s' ∧
        s'.feeders 2 = .waiting 0 ∧ s'.takeWake 2 = none := by
  refine ⟨_, rfl, rfl, rfl, fun hsafe => ?_, _, rfl, rfl, rfl⟩
  have hsame := hsafe.apart (.feeder 2) .planner 2 rfl rfl
  cases hsame

end Shared

end Smp3Multipath.Core.Decoupled

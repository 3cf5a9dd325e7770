import Smp3Multipath.Core.CarrierFootprint
import Smp3Multipath.Core.DrainAgreement

/-!
# The quiesce barrier

An operation is registered with the dispatch lock of its target held for
writing, so no `tryQueue` call is inside it then; a later call finds the leg
draining and is refused.  The flag falls only when an abort ends.  With the
agreement of the two endpoints this gives the guarantee of a coordinated drain:
nobody retires a leg, or returns success, without READY on both sides and an
accepted Commit, and nothing joins the queues of the target in between.
-/

namespace Smp3Multipath.Core.Drain

open Lib.Run Carrier Function Option

/-- Nothing joins the queues of a leg. -/
def NoNewAttempt (leg leg' : Leg) : Prop :=
  leg'.send.Sublist leg.send ∧ leg'.rescue.Sublist leg.rescue

theorem NoNewAttempt.refl (leg : Leg) : NoNewAttempt leg leg :=
  ⟨List.Sublist.refl _, List.Sublist.refl _⟩

theorem NoNewAttempt.trans {leg leg' leg'' : Leg} (h : NoNewAttempt leg leg')
    (h' : NoNewAttempt leg' leg'') : NoNewAttempt leg leg'' :=
  ⟨h'.1.trans h.1, h'.2.trans h.2⟩

/-- What a step does to a leg: while it drains, nothing joins its queues. -/
structure LegKept (leg leg' : Leg) : Prop where
  id : leg'.id = leg.id
  draining : leg'.draining = leg.draining
  queues : leg.draining = true → NoNewAttempt leg leg'

theorem LegKept.refl (leg : Leg) : LegKept leg leg :=
  ⟨rfl, rfl, fun _ => NoNewAttempt.refl leg⟩

section Carriers

variable {κ : Type} {s s' : Carrier.State κ} {cfg : Config}

/-- A `tryQueue` call between its two lock operations holds the lock of a leg that does not
drain; the leg map names legs by their ids. -/
structure CallsOk (s : Carrier.State κ) : Prop where
  attached : ∀ id ref, s.attached id = some ref → ref < s.nextRef ∧ (s.legs ref).id = id
  inside : ∀ k c, s.calls k = some c → c.stage.inside = true →
    c.ref < s.nextRef ∧ k ∈ s.readers c.ref ∧ (s.legs c.ref).draining = false

/-- What a step leaves of the legs. -/
structure Barred (s s' : Carrier.State κ) : Prop where
  nextRef : s.nextRef ≤ s'.nextRef
  legs : ∀ ref, ref < s.nextRef → LegKept (s.legs ref) (s'.legs ref)

theorem Barred.of_legs (hnext : s'.nextRef = s.nextRef) (hlegs : s'.legs = s.legs) : Barred s s' :=
  ⟨Nat.le_of_eq hnext.symm, fun ref _ => by rw [hlegs]; exact LegKept.refl _⟩

theorem Barred.of_update {ref : Ref} {leg : Leg} (hnext : s'.nextRef = s.nextRef)
    (hlegs : s'.legs = update s.legs ref leg) (hleg : LegKept (s.legs ref) leg) :
    Barred s s' := by
  refine ⟨Nat.le_of_eq hnext.symm, fun r _ => ?_⟩
  rw [hlegs]
  exact update_cases s.legs ref leg LegKept hleg LegKept.refl r

theorem CallsOk.of_barred (h : CallsOk s) (hbarred : Barred s s')
    (hattached : ∀ id ref, s'.attached id = some ref → s.attached id = some ref)
    (hcalls : ∀ k c, s'.calls k = some c → c.stage.inside = true → s.calls k = some c)
    (hreaders : s'.readers = s.readers) : CallsOk s' ∧ Barred s s' := by
  refine ⟨⟨?_, ?_⟩, hbarred⟩
  · intro id ref hat
    obtain ⟨hlt, hid⟩ := h.attached id ref (hattached id ref hat)
    exact ⟨Nat.lt_of_lt_of_le hlt hbarred.nextRef, (hbarred.legs ref hlt).id.trans hid⟩
  · intro k c hc hinside
    obtain ⟨hlt, hm, hdraining⟩ := h.inside k c (hcalls k c hc hinside) hinside
    refine ⟨Nat.lt_of_lt_of_le hlt hbarred.nextRef, by rw [hreaders]; exact hm, ?_⟩
    rw [(hbarred.legs c.ref hlt).draining]
    exact hdraining

theorem pushAttempt_draining (leg : Leg) (a : Attempt) :
    (pushAttempt leg a).draining = leg.draining := by
  unfold pushAttempt
  split <;> rfl

theorem barred_writerStep {ref : Ref} {a : WriterAct} (h : CallsOk s)
    (hs : writerStep cfg s ref a = some s') : CallsOk s' ∧ Barred s s' := by
  suffices hleg : ∃ leg, s'.legs = update s.legs ref leg ∧ LegKept (s.legs ref) leg ∧
      s'.nextRef = s.nextRef ∧ s'.attached = s.attached ∧ s'.calls = s.calls ∧
      s'.readers = s.readers by
    obtain ⟨leg, hlegs, hkept, hnext, hattached, hcalls, hreaders⟩ := hleg
    refine h.of_barred (Barred.of_update hnext hlegs hkept) ?_ ?_ hreaders
    · rw [hattached]
      exact fun _ _ hat => hat
    · rw [hcalls]
      exact fun _ _ hc _ => hc
  cases a <;>
    simp only [writerStep] at hs <;>
    repeat' split at hs
  all_goals first
    | cases hs
      exact ⟨_, rfl, ⟨rfl, rfl, fun _ => NoNewAttempt.refl _⟩, rfl, rfl, rfl, rfl⟩
    | cases hs
      refine ⟨_, rfl, ⟨rfl, rfl, fun _ => ⟨?_, ?_⟩⟩, rfl, rfl, rfl, rfl⟩ <;>
        simp only [*, List.Sublist.refl, List.sublist_cons_self]
    | cases hs

theorem barred_legStep {a : LegAct} (h : CallsOk s) (ha : setsDraining a = false)
    (hs : legStep cfg s a = some s') : CallsOk s' ∧ Barred s s' := by
  cases a with
  | attachLeg id =>
    simp only [legStep] at hs
    split_ifs at hs with hguard
    cases hs
    have hold : ∀ ref, ref < s.nextRef →
        update s.legs s.nextRef { id := id } ref = s.legs ref :=
      fun ref hlt => update_of_ne (Nat.ne_of_lt hlt) ..
    refine ⟨⟨fun id' ref hat => ?_, fun k c hc hinside => ?_⟩, Nat.le_succ _, fun ref hlt => ?_⟩
    · simp only [update_apply] at hat
      split at hat
      · next heq =>
        cases hat
        subst heq
        refine ⟨Nat.lt_succ_self _, ?_⟩
        simp only [State.setLeg, update_self]
      · obtain ⟨hlt, hid⟩ := h.attached id' ref hat
        refine ⟨Nat.lt_succ_of_lt hlt, ?_⟩
        simp only [State.setLeg, hold ref hlt]
        exact hid
    · obtain ⟨hlt, hm, hdraining⟩ := h.inside k c hc hinside
      refine ⟨Nat.lt_succ_of_lt hlt, hm, ?_⟩
      simp only [State.setLeg, hold c.ref hlt]
      exact hdraining
    · simp only [State.setLeg, hold ref hlt]
      exact LegKept.refl _
  | setDraining ref draining =>
    cases ha
  | remove ref | retireDrained ref =>
    simp only [legStep] at hs
    split_ifs at hs
    cases hs
    refine h.of_barred (Barred.of_update rfl rfl ⟨rfl, rfl, fun _ => NoNewAttempt.refl _⟩)
      (fun id r hat => ?_) (fun _ _ hc _ => hc) rfl
    simp only [update_apply] at hat
    split at hat
    · cases hat
    · exact hat
  | fail ref | closeConn ref | invalidate ref | readerExit ref | retire ref =>
    simp only [legStep] at hs
    split_ifs at hs
    cases hs
    exact h.of_barred (Barred.of_update rfl rfl ⟨rfl, rfl, fun _ => NoNewAttempt.refl _⟩)
      (fun _ _ hat => hat) (fun _ _ hc _ => hc) rfl

variable [DecidableEq κ]

theorem CallsOk.advance {k : κ} {c : Call} {stage : CallStage} (h : CallsOk s)
    (hc : s.calls k = some c) (hinside : c.stage.inside = true) (hbarred : Barred s s')
    (hattached : s'.attached = s.attached)
    (hcalls : s'.calls = update s.calls k (some { c with stage := stage }))
    (hself : stage.inside = true → s'.readers = s.readers)
    (hothers : ∀ k' ref, k' ≠ k → k' ∈ s.readers ref → k' ∈ s'.readers ref) :
    CallsOk s' ∧ Barred s s' := by
  refine ⟨⟨?_, ?_⟩, hbarred⟩
  · intro id ref hat
    rw [hattached] at hat
    obtain ⟨hlt, hid⟩ := h.attached id ref hat
    exact ⟨Nat.lt_of_lt_of_le hlt hbarred.nextRef, (hbarred.legs ref hlt).id.trans hid⟩
  · intro k' c' hc' hinside'
    rw [hcalls, update_apply] at hc'
    split at hc'
    · next heq =>
      subst heq
      cases hc'
      obtain ⟨hlt, hm, hdraining⟩ := h.inside k' c hc hinside
      refine ⟨Nat.lt_of_lt_of_le hlt hbarred.nextRef, by rw [hself hinside']; exact hm, ?_⟩
      exact (hbarred.legs c.ref hlt).draining.trans hdraining
    · next hne =>
      obtain ⟨hlt, hm, hdraining⟩ := h.inside k' c' hc' hinside'
      exact ⟨Nat.lt_of_lt_of_le hlt hbarred.nextRef, hothers k' c'.ref hne hm,
        (hbarred.legs c'.ref hlt).draining.trans hdraining⟩

theorem barred_begin {k : κ} {seq : Nat} {ref : Ref} {rescue retry : Bool} {owner : Int}
    (h : CallsOk s) (hs : callStep cfg s k (.begin seq ref rescue retry owner) = some s') :
    CallsOk s' ∧ Barred s s' := by
  simp only [callStep] at hs
  split_ifs at hs with hguard hclosed
  · cases hs
    refine h.of_barred (Barred.of_legs rfl rfl) (fun _ _ hat => hat)
      (fun k' c hc hinside => ?_) rfl
    simp only [State.setCall, update_apply] at hc
    split at hc
    · cases hc
      cases hinside
    · exact hc
  · cases hs
    refine ⟨⟨h.attached, fun k' c hc hinside => ?_⟩, Barred.of_legs rfl rfl⟩
    simp only [State.setCall, update_apply] at hc ⊢
    split at hc
    · next heq =>
      subst heq
      cases hc
      refine ⟨hguard.2, ?_, ?_⟩
      · rw [if_pos rfl]
        exact List.mem_cons_self
      · rw [not_or, Bool.not_eq_true, Bool.not_eq_true] at hclosed
        exact hclosed.2
    · obtain ⟨hlt, hm, hdraining⟩ := h.inside k' c hc hinside
      refine ⟨hlt, ?_, hdraining⟩
      split
      · next heq =>
        rw [heq] at hm
        exact List.mem_cons_of_mem _ hm
      · exact hm

theorem barred_callStep {k : κ} {a : CallAct} (h : CallsOk s)
    (hs : callStep cfg s k a = some s') : CallsOk s' ∧ Barred s s' := by
  cases a with
  | begin seq ref rescue retry owner => exact barred_begin h hs
  | enqueue =>
    obtain ⟨c, hc, hs⟩ := bind_eq_some_iff.mp hs
    split at hs
    · next started hstage =>
      split_ifs at hs
      cases hs
      have hinside : c.stage.inside = true := by rw [hstage]; rfl
      obtain ⟨_, _, hopen⟩ := h.inside k c hc hinside
      -- the leg of a call inside does not drain, so it may grow
      refine h.advance hc hinside (Barred.of_update rfl rfl
        ⟨(pushAttempt_fields ..).1, pushAttempt_draining .., fun hdraining => ?_⟩) rfl rfl
          (fun _ => rfl) fun _ _ _ hm => hm
      rw [hopen] at hdraining
      cases hdraining
    · cases hs
  | mark now =>
    obtain ⟨c, hc, hs⟩ := bind_eq_some_iff.mp hs
    split at hs
    · next hstage =>
      have hinside : c.stage.inside = true := by rw [hstage]; rfl
      split at hs <;> cases hs
      · exact h.advance hc hinside (Barred.of_legs rfl rfl) rfl rfl (fun _ => rfl)
          fun _ _ _ hm => hm
      · exact h.advance hc hinside (Barred.of_legs rfl rfl) rfl rfl (fun hin => by cases hin)
          fun _ _ hne hm => mem_readers_returnCall hne hm
    · cases hs
  | note =>
    obtain ⟨c, hc, hs⟩ := bind_eq_some_iff.mp hs
    split at hs
    · next started hstage =>
      have hinside : c.stage.inside = true := by rw [hstage]; rfl
      cases hs
      exact h.advance hc hinside (Barred.of_legs rfl rfl) rfl rfl (fun _ => rfl)
        fun _ _ _ hm => hm
    · cases hs
  | abort | recheck =>
    obtain ⟨c, hc, hs⟩ := bind_eq_some_iff.mp hs
    split at hs
    · next started hstage =>
      have hinside : c.stage.inside = true := by rw [hstage]; rfl
      split_ifs at hs
      all_goals
        cases hs
        exact h.advance hc hinside (Barred.of_legs rfl rfl) rfl rfl (fun hin => by cases hin)
          fun _ _ hne hm => mem_readers_returnCall hne hm
    · cases hs

theorem barred_move (h : CallsOk s) (hmove : CarrierMove cfg s s') : CallsOk s' ∧ Barred s s' := by
  cases hmove with
  | same heq =>
    subst heq
    exact ⟨h, Barred.of_legs rfl rfl⟩
  | call k a hs => exact barred_callStep h hs
  | endCall k heq =>
    subst heq
    refine h.of_barred (Barred.of_legs rfl rfl) (fun _ _ hat => hat) (fun k' c hc _ => ?_) rfl
    simp only [State.setCall, update_apply] at hc
    split at hc
    · cases hc
    · exact hc
  | writer ref a hs => exact barred_writerStep h hs
  | leg a ha hs => exact barred_legStep h ha hs
  | ledger l heq =>
    subst heq
    exact ⟨⟨h.attached, h.inside⟩, Barred.of_legs rfl rfl⟩

end Carriers

section Endpoint

variable {κ : Type} {e e' : Endpoint κ} {cfg : Config} {a : Act κ}

/-- The target of every registered operation drains. -/
structure Fence (e : Endpoint κ) : Prop where
  calls : CallsOk e.carrier
  ops : ∀ id op, e.drainOps id = some op → op.target < e.carrier.nextRef ∧
    (e.carrier.legs op.target).id = id ∧ (e.carrier.legs op.target).draining = true

/-- The step ends an operation on the leg by an abort. -/
def Aborts (e : Endpoint κ) (a : Act κ) (target : Ref) : Prop :=
  ∃ id op, a = .op id .abortFinal ∧ e.drainOps id = some op ∧ op.target = target ∧
    op.commitSent = false ∧ op.commitRequested = false

/-- A draining leg takes no attempt, and drains on unless an abort ends. -/
def Barrier (e : Endpoint κ) (a : Act κ) (e' : Endpoint κ) : Prop :=
  ∀ ref, ref < e.carrier.nextRef → (e.carrier.legs ref).draining = true →
    ref < e'.carrier.nextRef ∧ NoNewAttempt (e.carrier.legs ref) (e'.carrier.legs ref) ∧
      (¬ Aborts e a ref → (e'.carrier.legs ref).draining = true)

theorem OpMove.target {id : LegID} {op op' : StreamDrainOperation} (h : OpMove a id op op') :
    op'.target = op.target := by
  cases h with
  | stays htarget | moves htarget => exact htarget
  | resumes act send after err ha hposition herr heq =>
    subst heq
    cases after <;> cases err <;> rfl

/-- The flag of one leg was set; nothing else changed that a drain looks at. -/
structure FlagSet (s s' : Carrier.State κ) (ref : Ref) (draining : Bool) : Prop where
  lt : ref < s.nextRef
  flag : (s'.legs ref).draining = draining
  others : ∀ r, r ≠ ref → s'.legs r = s.legs r
  id : ∀ r, (s'.legs r).id = (s.legs r).id
  queues : ∀ r, NoNewAttempt (s.legs r) (s'.legs r)
  nextRef : s'.nextRef = s.nextRef
  attached : s'.attached = s.attached
  calls : s'.calls = s.calls
  readers : s'.readers = s.readers

theorem flagSet_setDraining {s s' : Carrier.State κ} {ref : Ref} {draining : Bool}
    (hs : legStep cfg s (.setDraining ref draining) = some s') : FlagSet s s' ref draining := by
  simp only [legStep] at hs
  split_ifs at hs with hlt
  cases hs
  refine ⟨hlt, ?_, fun r hne => update_of_ne hne .., fun r => ?_, fun r => ?_,
    rfl, rfl, rfl, rfl⟩
  · simp only [State.setLeg, update_self]
  · simp only [State.setLeg, update_apply]
    split
    · next heq =>
      rw [heq]
    · rfl
  · simp only [State.setLeg, update_apply]
    split
    · next heq =>
      rw [heq]
      exact NoNewAttempt.refl _
    · exact NoNewAttempt.refl _

/-- The flag of a leg rises only while no call is inside. -/
theorem CallsOk.setDraining {s s' : Carrier.State κ} {ref : Ref} {draining : Bool} (h : CallsOk s)
    (hset : FlagSet s s' ref draining) (hfree : draining = true → s.readers ref = []) :
    CallsOk s' := by
  constructor
  · intro id r hat
    rw [hset.attached] at hat
    obtain ⟨hlt, hid⟩ := h.attached id r hat
    rw [hset.nextRef, hset.id]
    exact ⟨hlt, hid⟩
  · intro k c hc hinside
    rw [hset.calls] at hc
    obtain ⟨hlt, hm, hopen⟩ := h.inside k c hc hinside
    rw [hset.nextRef, hset.readers]
    refine ⟨hlt, hm, ?_⟩
    by_cases heq : c.ref = ref
    · rw [heq, hset.flag]
      cases draining with
      | false => rfl
      | true =>
        rw [heq, hfree rfl] at hm
        cases hm
    · rw [hset.others c.ref heq]
      exact hopen

theorem fence_registers {id : LegID} {op' : StreamDrainOperation} (h : Fence e)
    (hid : (e.carrier.legs op'.target).id = id) (hreaders : e.carrier.readers op'.target = [])
    (hcarrier : legStep cfg e.carrier (.setDraining op'.target true) = some e'.carrier)
    (hops : e'.drainOps = update e.drainOps id (some op')) :
    Fence e' ∧ Barrier e a e' := by
  have hset := flagSet_setDraining hcarrier
  have hraised : ∀ ref, (e.carrier.legs ref).draining = true →
      (e'.carrier.legs ref).draining = true := by
    intro ref hdraining
    by_cases heq : ref = op'.target
    · rw [heq]
      exact hset.flag
    · rw [hset.others ref heq]
      exact hdraining
  refine ⟨⟨h.calls.setDraining hset fun _ => hreaders, fun id' op hop => ?_⟩,
    fun ref hlt hdraining => ?_⟩
  · rw [hops, update_apply] at hop
    rw [hset.nextRef, hset.id]
    split at hop
    · next heq =>
      cases hop
      exact ⟨hset.lt, hid.trans heq.symm, hset.flag⟩
    · obtain ⟨hlt', hid', hdraining⟩ := h.ops id' op hop
      exact ⟨hlt', hid', hraised _ hdraining⟩
  · rw [hset.nextRef]
    exact ⟨hlt, hset.queues ref, fun _ => hraised ref hdraining⟩

theorem fence_aborts {id : LegID} {op : StreamDrainOperation} (h : Fence e)
    (ha : a = .op id .abortFinal) (hop : e.drainOps id = some op)
    (huncommitted : op.commitSent = false ∧ op.commitRequested = false)
    (hcarrier : legStep cfg e.carrier (.setDraining op.target false) = some e'.carrier)
    (hops : e'.drainOps = update e.drainOps id none) : Fence e' ∧ Barrier e a e' := by
  have hset := flagSet_setDraining hcarrier
  refine ⟨⟨h.calls.setDraining hset nofun, fun id' op' hop' => ?_⟩, fun ref hlt hdraining => ?_⟩
  · rw [hops, update_apply] at hop'
    split at hop'
    · cases hop'
    · next hne =>
      -- another operation has another leg id, so another target
      obtain ⟨hlt', hid', hdraining'⟩ := h.ops id' op' hop'
      have htarget : op'.target ≠ op.target := by
        intro heq
        rw [heq, (h.ops id op hop).2.1] at hid'
        exact hne hid'.symm
      rw [hset.nextRef, hset.others _ htarget]
      exact ⟨hlt', hid', hdraining'⟩
  · rw [hset.nextRef]
    refine ⟨hlt, hset.queues ref, fun hno => ?_⟩
    by_cases heq : ref = op.target
    · exact absurd ⟨id, op, ha, hop, heq.symm, huncommitted⟩ hno
    · rw [hset.others ref heq]
      exact hdraining

variable [DecidableEq κ]

theorem fence_moves (h : Fence e) (hcarrier : CarrierMove cfg e.carrier e'.carrier)
    (hops : ∀ id op', e'.drainOps id = some op' →
      ∃ op, e.drainOps id = some op ∧ OpMove a id op op') : Fence e' ∧ Barrier e a e' := by
  obtain ⟨hcalls, hbarred⟩ := barred_move h.calls hcarrier
  refine ⟨⟨hcalls, fun id op' hop' => ?_⟩, fun ref hlt hdraining => ?_⟩
  · obtain ⟨op, hop, hmove⟩ := hops id op' hop'
    obtain ⟨hlt, hid, hdraining⟩ := h.ops id op hop
    have hkept := hbarred.legs op.target hlt
    rw [hmove.target]
    exact ⟨Nat.lt_of_lt_of_le hlt hbarred.nextRef, hkept.id.trans hid,
      hkept.draining.trans hdraining⟩
  · have hkept := hbarred.legs ref hlt
    exact ⟨Nat.lt_of_lt_of_le hlt hbarred.nextRef, hkept.queues hdraining,
      fun _ => hkept.draining.trans hdraining⟩

theorem fence_effect (h : Fence e) (heffect : Effect cfg a e e') : Fence e' ∧ Barrier e a e' := by
  cases heffect with
  | moves hcarrier hops _ => exact fence_moves h hcarrier hops
  | registers id op' hid _ hreaders hcarrier hops _ _ =>
    exact fence_registers h hid hreaders hcarrier hops
  | aborts id op ha hop huncommitted hcarrier hops _ =>
    exact fence_aborts h ha hop huncommitted hcarrier hops

end Endpoint

section Session

variable {κ : Type} [DecidableEq κ] {cfg : Config} {s s' : State κ} {a : Role × Act κ}

omit [DecidableEq κ] in
theorem fence_init (cfg : Config) (role : Role) : Fence (init κ cfg role) := by
  constructor
  · constructor
    · intro id ref hat
      simp only [init, Endpoint.init, Carrier.init, reduceCtorEq] at hat
    · intro k c hc
      simp only [init, Endpoint.init, Carrier.init, reduceCtorEq] at hc
  · intro id op hop
    simp only [init, Endpoint.init, reduceCtorEq] at hop

theorem fence_step (h : ∀ role, Fence (s role)) (hs : step cfg s a = some s') :
    (∀ role, Fence (s' role)) ∧ Barrier (s a.1) a.2 (s' a.1) ∧ s' a.1.peer = s a.1.peer := by
  obtain ⟨e, he, rfl⟩ := map_eq_some_iff.1 hs
  obtain ⟨hfence, hbarrier⟩ := fence_effect (h a.1) (effect_endpointStep he)
  refine ⟨fun role => ?_, ?_, update_of_ne (Role.peer_ne _) ..⟩
  · rw [update_apply]
    split
    · exact hfence
    · exact h role
  · rw [update_self]
    exact hbarrier

theorem fence_of_reachable (hreach : Reachable (step cfg) (init κ cfg) s) (role : Role) :
    Fence (s role) :=
  hreach.invariant (fun r => fence_init cfg r) (fun _ _ _ h hs => (fence_step h hs).1) role

/-- No step of a run ends an abort on the leg. -/
def unaborted (role : Role) (target : Ref) (s : State κ) (a : Role × Act κ) : Prop :=
  a.1 = role → ¬ Aborts (s role) a.2 target

/-- From the start of an operation on, nothing joins the queues of its target, however the run
goes on, until an abort ends. -/
theorem noNewAttempt_of_run {role : Role} {id : LegID} {op : StreamDrainOperation}
    {acts : List (Role × Act κ)} (hfence : ∀ r, Fence (s r))
    (hop : (s role).drainOps id = some op) (hrun : runActs (step cfg) s acts = some s')
    (hacts : EachStep (step cfg) (unaborted role op.target) s acts) :
    NoNewAttempt ((s role).carrier.legs op.target) ((s' role).carrier.legs op.target) := by
  obtain ⟨hlt, _, hdraining⟩ := (hfence role).ops id op hop
  let Inv : State κ → Prop := fun t =>
    (∀ r, Fence (t r)) ∧ op.target < (t role).carrier.nextRef ∧
      ((t role).carrier.legs op.target).draining = true ∧
      NoNewAttempt ((s role).carrier.legs op.target) ((t role).carrier.legs op.target)
  have hkept : ∀ t a t', Inv t → unaborted role op.target t a → step cfg t a = some t' →
      Inv t' := by
    rintro t a t' ⟨hfence, hlt, hdraining, hqueues⟩ hcond hs
    obtain ⟨hfence', hbarrier, hpeer⟩ := fence_step hfence hs
    rcases Role.eq_or_eq_peer role a.1 with rfl | rfl
    · obtain ⟨hlt', hnew, hdraining'⟩ := hbarrier op.target hlt hdraining
      exact ⟨hfence', hlt', hdraining' (hcond rfl), hqueues.trans hnew⟩
    · refine ⟨hfence', ?_⟩
      rw [hpeer]
      exact ⟨hlt, hdraining, hqueues⟩
  have hinit : Inv s := ⟨hfence, hlt, hdraining, NoNewAttempt.refl _⟩
  exact (invariant_of_eachStep hkept hinit hacts hrun).2.2.2

/-- A coordinated drain ends in a retirement, and `DrainLeg` returns success, only by
agreement on one operation: both endpoints declared READY for it and its responder accepted a
Commit.  Nothing joins the queues of the target of a registered operation until an abort. -/
theorem drain_agreement (hreach : Reachable (step cfg) (init κ cfg) s) :
    (∀ role key initiator, .retired key initiator ∈ (s role).log →
      (∀ r, DeclaredReady (s r).log key) ∧
        .commitAccepted key ∈ (s (if initiator then role.peer else role)).log) ∧
    (∀ role key, .returnedNil key ∈ (s role).log →
      (∀ r, DeclaredReady (s r).log key) ∧ .commitAccepted key ∈ (s role.peer).log) ∧
    ∀ role id op, (s role).drainOps id = some op →
      ∀ acts s', runActs (step cfg) s acts = some s' →
        EachStep (step cfg) (unaborted role op.target) s acts →
        NoNewAttempt ((s role).carrier.legs op.target) ((s' role).carrier.legs op.target) := by
  have hbacked := backed_of_reachable hreach
  refine ⟨fun role key initiator hm => ?_, fun role key hm => ?_, ?_⟩
  · exact hbacked.agreed ((hbacked role).events _ hm)
  · exact hbacked.agreed ((hbacked role).events _ hm)
  · intro role id op hop acts s' hrun hacts
    exact noNewAttempt_of_run (fence_of_reachable hreach) hop hrun hacts

end Session

section Complete

/-- Two legs. -/
def drainConfig : Config :=
  { maxActiveLegs := 2, queueFrames := 4, boundedRescue := false, slowLegProtection := false }

/-- Both endpoints attach the two legs, which carry drain frames. -/
def attachBoth : List (Role × Act Unit) :=
  [.client, .server].flatMap fun role =>
    [(role, .attachLeg 0 true 10), (role, .attachLeg 1 true 11)]

/-- The operation sends its frame over the other leg. -/
def sendOn (role : Role) (id : LegID) (ref : Ref) : List (Role × Act Unit) :=
  [(role, .op id .send), (role, .opSend id .push), (role, .writeControl ref true),
    (role, .opSend id .result)]

/-- Steps of the goroutine of the operation on leg 0. -/
def goroutine (role : Role) (acts : List OpAct) : List (Role × Act Unit) :=
  acts.map fun a => (role, .op 0 a)

/-- The client drains leg 0: the two READY frames are exchanged. -/
def readyRun : List (Role × Act Unit) :=
  attachBoth ++ [(.client, .drainLeg 0), (.client, .drainEnter 0), (.client, .drainStart 0 5)] ++
    sendOn .client 0 1 ++
    [(.server, .readFrame 1 0), (.server, .accept 1), (.server, .enter 1)] ++
    goroutine .server [.checkError, .checkTarget, .poll, .decide false] ++
    sendOn .server 0 1 ++
    goroutine .server [.skipRetire] ++
    [(.client, .readFrame 1 0)] ++
    goroutine .client [.checkError, .noAck, .poll, .markReady, .decide false] ++
    sendOn .client 0 1 ++
    [(.server, .readFrame 1 1)]

/-- The client sends its Commit, which the server accepts. -/
def commitRun : List (Role × Act Unit) :=
  readyRun ++
    goroutine .client
      [.commit, .noAck, .wake, .checkError, .noAck, .poll, .markReady, .decide false, .commit] ++
    sendOn .client 0 1 ++
    goroutine .client [.noAck] ++
    [(.server, .readFrame 1 2)] ++
    goroutine .server [.wake, .checkError, .checkTarget, .poll, .decide false]

/-- The CommitAck is written, both endpoints retire the leg and `DrainLeg` returns. -/
def drainRun : List (Role × Act Unit) :=
  commitRun ++ sendOn .server 0 1 ++
    goroutine .server [.tryRetire, .retire, .finish] ++
    [(.client, .readFrame 1 1)] ++
    goroutine .client [.wake, .checkError, .tryRetire, .retire, .finish]

theorem drainRun_ends :
    (runActs (step drainConfig) (init Unit drainConfig) drainRun).any (fun s =>
      decide (.retired ⟨5, 1, 10⟩ false ∈ (s .server).log ∧
        .returnedNil ⟨5, 1, 10⟩ ∈ (s .client).log)) = true := by
  decide +kernel

/-- A complete drain: both endpoints retire leg 0 by agreement. -/
theorem drain_agreement_drainRun :
    ∃ s, Reachable (step drainConfig) (init Unit drainConfig) s ∧
      .retired ⟨5, 1, 10⟩ false ∈ (s .server).log ∧
      .returnedNil ⟨5, 1, 10⟩ ∈ (s .client).log ∧
      ∀ r, DeclaredReady (s r).log ⟨5, 1, 10⟩ := by
  obtain ⟨s, hrun, h⟩ := (any_eq_true ..).1 drainRun_ends
  simp only [decide_eq_true_eq] at h
  have hreach : Reachable (step drainConfig) (init Unit drainConfig) s := ⟨drainRun, hrun⟩
  exact ⟨s, hreach, h.1, h.2, ((drain_agreement hreach).1 _ _ _ h.1).1⟩

end Complete

end Smp3Multipath.Core.Drain

import Smp3Multipath.Core.Carrier

/-!
# What a carrier step leaves alone

The goroutines that call `tryQueue` reason about records they are not busy with:
no step of a carrier creates a claim except the claim of the call it is a step
of, and none touches sequencing or the local enqueue phase of a record.
-/

namespace Smp3Multipath.Core.Carrier

open StreamTXLedger Function List Option

variable {κ : Type}

/-- A ledger change that creates no claim outside of the keys in `key`. -/
structure Footprint (l l' : StreamTXLedger) (key : Nat → Bool → Prop) : Prop where
  stream : SameStream l l'
  localEnqueue : ∀ seq, (l'.record seq).localEnqueue = (l.record seq).localEnqueue
  claims : ∀ seq ∈ l.outstanding, ∀ rescue, ¬ key seq rescue →
    l.claim seq rescue = none → l'.claim seq rescue = none

namespace Footprint

variable {l l' : StreamTXLedger} {key : Nat → Bool → Prop}

theorem refl (l : StreamTXLedger) : Footprint l l key :=
  ⟨SameStream.refl l, fun _ => rfl, fun _ _ _ _ h => h⟩

theorem of_same (hs : SameStream l l') (h : SameClaims l l') : Footprint l l' key where
  stream := hs
  localEnqueue := h.localEnqueue
  claims seq _ rescue _ hnone := by rw [h.claim, hnone]

theorem of_dropped {seq : Nat} {leg : LegID} {rescue : Bool} (hs : SameStream l l')
    (h : ClaimDropped l l' seq leg rescue) : Footprint l l' key where
  stream := hs
  localEnqueue := h.localEnqueue
  claims seq' _ rescue' _ hnone := by
    cases hafter : l'.claim seq' rescue' with
    | none => rfl
    | some c =>
      rw [h.claim_of_some hafter] at hnone
      cases hnone

theorem of_taken {seq : Nat} {leg : LegID} {rescue : Bool} {now : Time} (hs : SameStream l l')
    (h : ClaimTaken l l' seq leg rescue now) :
    Footprint l l' fun seq' rescue' => seq' = seq ∧ rescue' = rescue where
  stream := hs
  localEnqueue := h.localEnqueue
  claims seq' _ rescue' hkey hnone := by
    rw [h.other seq' rescue' (by by_contra hne; push Not at hne; exact hkey hne), hnone]

end Footprint

section Updates

/-- A relation between the old and the new leg at one reference, and reflexive elsewhere,
relates all legs. -/
theorem update_cases (legs : Ref → Leg) (ref : Ref) (leg : Leg) (P : Leg → Leg → Prop)
    (hself : P (legs ref) leg) (hrefl : ∀ l, P l l) (r : Ref) :
    P (legs r) (update legs ref leg r) := by
  rw [update_apply]
  split
  · next heq =>
    subst heq
    exact hself
  · exact hrefl _

theorem pushAttempt_fields (leg : Leg) (a : Attempt) :
    (pushAttempt leg a).id = leg.id ∧ (pushAttempt leg a).stage = leg.stage ∧
      (pushAttempt leg a).retired = leg.retired ∧ (pushAttempt leg a).writer = leg.writer ∧
      (pushAttempt leg a).attempts.Perm (a :: leg.attempts) ∧
      ∀ b ∈ (pushAttempt leg a).rescue, b ∈ leg.rescue ∨ (b = a ∧ a.rescue = true) := by
  unfold pushAttempt
  split
  · next hrescue =>
    refine ⟨rfl, rfl, rfl, rfl, ?_, fun b hb => ?_⟩
    · simp only [Leg.attempts, ← append_assoc]
      exact (perm_append_singleton a _).append_right _
    · rcases mem_append.mp hb with hb | hb
      · exact .inl hb
      · exact .inr ⟨mem_singleton.mp hb, hrescue⟩
  · refine ⟨rfl, rfl, rfl, rfl, ?_, fun b hb => .inl hb⟩
    simp only [Leg.attempts, append_assoc, singleton_append]
    exact perm_middle

end Updates

section Legs

variable {s s' : State κ} {ref : Ref} {cfg : Config}

theorem writerStep_footprint {a : WriterAct} (hs : writerStep cfg s ref a = some s') :
    s'.calls = s.calls ∧ Footprint s.ledger s'.ledger fun _ _ => False := by
  cases a with
  | takeRescue | takeSend | rescueFirst | proceed | dropStale | controlFail | exit =>
    simp only [writerStep] at hs
    repeat' split at hs
    all_goals first
      | cases hs
        exact ⟨rfl, Footprint.refl _⟩
      | cases hs
  | beginWrite now =>
    simp only [writerStep] at hs
    split at hs
    · split_ifs at hs
      cases hs
      exact ⟨rfl, Footprint.of_same (markWriteStarted_sameStream ..)
        (markWriteStarted_claims s.ledger)⟩
    · cases hs
  | writeOk now =>
    simp only [writerStep] at hs
    split at hs <;> cases hs
    exact ⟨rfl, Footprint.of_dropped (markAttemptSent_sameStream ..)
      (markAttemptSent_claims s.ledger)⟩
  | writeFail =>
    simp only [writerStep] at hs
    split at hs <;> cases hs
    exact ⟨rfl, Footprint.of_dropped (clearAttemptAt_sameStream ..)
      (clearAttemptAt_claims s.ledger).1⟩
  | notWritable | releaseRescue =>
    simp only [writerStep] at hs
    split at hs
    · split_ifs at hs
      cases hs
      exact ⟨rfl, Footprint.of_dropped (clearAttemptAt_sameStream ..)
        (clearAttemptAt_claims s.ledger).1⟩
    · cases hs

theorem legStep_footprint {a : LegAct} (hs : legStep cfg s a = some s') :
    s'.calls = s.calls ∧ Footprint s.ledger s'.ledger fun _ _ => False := by
  cases a with
  | invalidate ref =>
    simp only [legStep] at hs
    split_ifs at hs
    cases hs
    refine ⟨rfl, invalidateLeg_sameStream .., invalidateLeg_localEnqueue s.ledger _,
      fun seq hout rescue _ hnone => ?_⟩
    rw [(invalidateLeg_claims s.ledger hout).1, hnone]
    rfl
  | attachLeg _ | fail _ | closeConn _ | remove _ | readerExit _ | retire _ | setDraining _ _
  | retireDrained _ =>
    simp only [legStep] at hs
    split_ifs at hs
    cases hs
    exact ⟨rfl, Footprint.refl _⟩

end Legs

section Calls

variable {cfg : Config}

theorem grant_claims {l l' : StreamTXLedger} {c : Call} {leg : LegID} {now : Time}
    (h : grant l c leg now = some l') : ClaimTaken l l' c.seq leg c.rescue now := by
  unfold grant at h
  cases hrescue : c.rescue with
  | true =>
    rw [hrescue, if_pos rfl] at h
    split at h
    · exact markRestrictedRescueTransit_claims l h
    · exact markRescueTransitLocked_claims l h
  | false =>
    rw [hrescue, if_neg Bool.false_ne_true] at h
    exact markTransit_claims l h

theorem noteAccepted_claims {cfg : Config} {l : StreamTXLedger} {c : Call} {leg : LegID}
    {started : Time} : SameClaims l (noteAccepted cfg l c leg started) := by
  unfold noteAccepted
  split
  · exact markRescueQueued_claims l
  · split
    · exact markOrdinaryAdmitted_claims l
    · exact SameClaims.refl l

theorem grant_sameStream {l l' : StreamTXLedger} {c : Call} {leg : LegID} {now : Time}
    (h : grant l c leg now = some l') : SameStream l l' := by
  unfold grant at h
  split_ifs at h
  · have hs := markRestrictedRescueTransit_sameStream l c.seq leg c.owner now
    rwa [h] at hs
  · have hs := markRescueTransit_sameStream l c.seq leg now
    rwa [h] at hs
  · have hs := markTransit_sameStream l c.seq leg now
    rwa [h] at hs

theorem noteAccepted_sameStream {l : StreamTXLedger} {c : Call} {leg : LegID} {started : Time} :
    SameStream l (noteAccepted cfg l c leg started) := by
  unfold noteAccepted
  split_ifs
  · exact markRescueQueued_sameStream l c.seq leg started
  · exact markOrdinaryAdmitted_sameStream l c.seq leg
  · exact SameStream.refl l

variable [DecidableEq κ] {s s' : State κ} {k : κ}

theorem update_some_cases {calls : κ → Option Call} {c : Call} {k' : κ} {c' : Call}
    (h : update calls k (some c) k' = some c') :
    (k' = k ∧ c' = c) ∨ (k' ≠ k ∧ calls k' = some c') := by
  rw [update_apply] at h
  split at h
  · next heq => exact .inl ⟨heq, (Option.some.inj h).symm⟩
  · next hne => exact .inr ⟨hne, h⟩

theorem mem_readers_returnCall {c : Call} {k' : κ} {ref : Ref} (hne : k' ≠ k)
    (hm : k' ∈ s.readers ref) :
    k' ∈ update s.readers c.ref ((s.readers c.ref).erase k) ref := by
  rw [update_apply]
  split
  · next heq => exact (mem_erase_of_ne hne).mpr (heq ▸ hm)
  · exact hm

@[simp] theorem setCall_calls_self (c : Option Call) : (s.setCall k c).calls k = c :=
  update_self ..

theorem setCall_calls_of_ne {k' : κ} (hne : k' ≠ k) (c : Option Call) :
    (s.setCall k c).calls k' = s.calls k' :=
  update_of_ne hne ..

/-- Is this the first step of a call? -/
def CallAct.isBegin : CallAct → Bool
  | .begin .. => true
  | _ => false

theorem callStep_begin {seq : Nat} {ref : Ref} {rescue retry : Bool} {owner : Int}
    (hs : callStep cfg s k (.begin seq ref rescue retry owner) = some s') :
    s.calls k = none ∧ s'.ledger = s.ledger ∧ (∀ k', k' ≠ k → s'.calls k' = s.calls k') ∧
      ∃ c, s'.calls k = some c ∧ c.seq = seq ∧ c.rescue = rescue ∧ c.retry = retry ∧
        (c.stage = .checked ∨ c.stage = .returned false) := by
  simp only [callStep] at hs
  split_ifs at hs with hguard hclosed
  · cases hs
    exact ⟨hguard.1, rfl, fun k' hne => update_of_ne hne .., _,
      update_self .., rfl, rfl, rfl, .inr rfl⟩
  · cases hs
    exact ⟨hguard.1, rfl, fun k' hne => update_of_ne hne .., _,
      update_self .., rfl, rfl, rfl, .inl rfl⟩

/-- The later steps of a call: whose they are and what they touch. -/
structure Continues (s s' : State κ) (k : κ) (c c' : Call) : Prop where
  before : s.calls k = some c
  after : s'.calls k = some c'
  others : ∀ k', k' ≠ k → s'.calls k' = s.calls k'
  seq : c'.seq = c.seq
  rescue : c'.rescue = c.rescue
  footprint : Footprint s.ledger s'.ledger fun seq rescue => seq = c.seq ∧ rescue = c.rescue

/-- Where the call goes with each of its later steps. -/
def Advances (l : StreamTXLedger) (c : Call) : CallAct → CallStage → Prop
  | .begin .., _ => False
  | .mark now, stage =>
    c.stage = .checked ∧ (stage = .marked now ∨ stage = .returned (refusedResult l c))
  | .enqueue, stage => ∃ t, c.stage = .marked t ∧ stage = .queued t
  | .abort, stage => ∃ t, c.stage = .marked t ∧ stage = .returned false
  | .note, stage => ∃ t, c.stage = .queued t ∧ stage = .noted t
  | .recheck, stage => ∃ t ok, c.stage = .noted t ∧ stage = .returned ok

theorem clearAttemptAt_footprint {l : StreamTXLedger} {c : Call} {id : LegID} {started : Time} :
    Footprint l (l.clearAttemptAt c.seq id c.rescue started)
      fun seq rescue => seq = c.seq ∧ rescue = c.rescue :=
  Footprint.of_dropped (clearAttemptAt_sameStream ..) (clearAttemptAt_claims l).1

theorem callStep_advances {a : CallAct} (ha : a.isBegin = false)
    (hs : callStep cfg s k a = some s') :
    ∃ c stage, s.calls k = some c ∧
      s'.calls = update s.calls k (some { c with stage := stage }) ∧
      Advances s.ledger c a stage ∧
      Footprint s.ledger s'.ledger fun seq rescue => seq = c.seq ∧ rescue = c.rescue := by
  cases a with
  | begin => cases ha
  | mark now =>
    obtain ⟨c, hc, hs⟩ := bind_eq_some_iff.mp hs
    split at hs
    · next hstage =>
      split at hs
      · next ledger hgrant =>
        cases hs
        exact ⟨c, _, hc, rfl, ⟨hstage, .inl rfl⟩,
          Footprint.of_taken (grant_sameStream hgrant) (grant_claims hgrant)⟩
      · cases hs
        exact ⟨c, _, hc, rfl, ⟨hstage, .inr rfl⟩, Footprint.refl _⟩
    · cases hs
  | enqueue =>
    obtain ⟨c, hc, hs⟩ := bind_eq_some_iff.mp hs
    split at hs
    · next t hstage =>
      split_ifs at hs
      cases hs
      exact ⟨c, _, hc, rfl, ⟨t, hstage, rfl⟩, Footprint.refl _⟩
    · cases hs
  | abort =>
    obtain ⟨c, hc, hs⟩ := bind_eq_some_iff.mp hs
    split at hs
    · next t hstage =>
      split_ifs at hs
      cases hs
      exact ⟨c, _, hc, rfl, ⟨t, hstage, rfl⟩, clearAttemptAt_footprint⟩
    · cases hs
  | note =>
    obtain ⟨c, hc, hs⟩ := bind_eq_some_iff.mp hs
    split at hs
    · next t hstage =>
      cases hs
      exact ⟨c, _, hc, rfl, ⟨t, hstage, rfl⟩,
        Footprint.of_same noteAccepted_sameStream noteAccepted_claims⟩
    · cases hs
  | recheck =>
    obtain ⟨c, hc, hs⟩ := bind_eq_some_iff.mp hs
    split at hs
    · next t hstage =>
      split_ifs at hs
      · cases hs
        exact ⟨c, _, hc, rfl, ⟨t, false, hstage, rfl⟩, clearAttemptAt_footprint⟩
      · cases hs
        exact ⟨c, _, hc, rfl, ⟨t, true, hstage, rfl⟩, Footprint.refl _⟩
    · cases hs

theorem callStep_continues {a : CallAct} (ha : a.isBegin = false)
    (hs : callStep cfg s k a = some s') : ∃ c c', Continues s s' k c c' := by
  obtain ⟨c, stage, hc, hcalls, -, hfootprint⟩ := callStep_advances ha hs
  refine ⟨c, { c with stage := stage }, hc, ?_, fun k' hne => ?_, rfl, rfl, hfootprint⟩
  · rw [hcalls, update_self]
  · rw [hcalls, update_of_ne hne]

end Calls

section Registry

variable {s s' : State κ} {cfg : Config}

/-- Ids and the leg map stay. -/
structure SameRegistry (s s' : State κ) : Prop where
  attached : s'.attached = s.attached
  id : ∀ ref, (s'.legs ref).id = (s.legs ref).id

theorem SameRegistry.of_update {ref : Ref} {leg : Leg} (hattached : s'.attached = s.attached)
    (hlegs : s'.legs = update s.legs ref leg) (hid : leg.id = (s.legs ref).id) :
    SameRegistry s s' := by
  refine ⟨hattached, ?_⟩
  rw [hlegs]
  exact update_cases s.legs ref leg (fun l l' => l'.id = l.id) hid fun _ => rfl

theorem writerStep_sameRegistry {ref : Ref} {a : WriterAct}
    (hs : writerStep cfg s ref a = some s') : SameRegistry s s' := by
  cases a <;>
    simp only [writerStep] at hs <;>
    repeat' split at hs
  all_goals first
    | cases hs
      exact SameRegistry.of_update rfl rfl rfl
    | cases hs

theorem callStep_sameRegistry [DecidableEq κ] {k : κ} {a : CallAct}
    (hs : callStep cfg s k a = some s') : SameRegistry s s' := by
  cases a with
  | begin seq ref rescue retry owner =>
    simp only [callStep] at hs
    split_ifs at hs
    all_goals
      cases hs
      exact ⟨rfl, fun _ => rfl⟩
  | enqueue =>
    obtain ⟨c, hc, hs⟩ := bind_eq_some_iff.mp hs
    split at hs
    · split_ifs at hs
      cases hs
      exact SameRegistry.of_update rfl rfl (pushAttempt_fields ..).1
    · cases hs
  | mark _ | abort | note | recheck =>
    obtain ⟨c, hc, hs⟩ := bind_eq_some_iff.mp hs
    repeat' split at hs
    all_goals first
      | cases hs
        exact ⟨rfl, fun _ => rfl⟩
      | cases hs

theorem legStep_registry {a : LegAct} (hs : legStep cfg s a = some s') :
    (∀ id ref, s'.attached id = some ref → s.attached id = some ref ∨ id < cfg.maxActiveLegs) ∧
      ∀ ref, (s'.legs ref).id = (s.legs ref).id ∨ (s'.legs ref).id < cfg.maxActiveLegs := by
  have hdetach : ∀ leg' : LegID, ∀ id ref,
      update s.attached leg' none id = some ref → s.attached id = some ref := by
    intro leg' id ref h
    rw [update_apply] at h
    split at h
    · cases h
    · exact h
  have hsame : ∀ ref leg, leg.id = (s.legs ref).id →
      ∀ r, (update s.legs ref leg r).id = (s.legs r).id :=
    fun ref leg hid r =>
      update_cases s.legs ref leg (fun l l' => l'.id = l.id) hid (fun _ => rfl) r
  cases a with
  | attachLeg id =>
    simp only [legStep] at hs
    split_ifs at hs with hguard
    cases hs
    refine ⟨fun id' ref h => ?_, fun ref => ?_⟩
    · by_cases heq : id' = id
      · subst heq
        exact .inr hguard.1
      · have hbefore : update s.attached id (some s.nextRef) id' = some ref := h
        rw [update_of_ne heq] at hbefore
        exact .inl hbefore
    · exact update_cases s.legs s.nextRef { id := id }
        (fun l l' => l'.id = l.id ∨ l'.id < cfg.maxActiveLegs) (.inr hguard.1)
        (fun _ => .inl rfl) ref
  | remove ref | retireDrained ref =>
    simp only [legStep] at hs
    split_ifs at hs
    cases hs
    exact ⟨fun id r h => .inl (hdetach _ id r h), fun r => .inl (hsame ref _ (by rfl) r)⟩
  | fail ref | closeConn ref | invalidate ref | readerExit ref | retire ref
  | setDraining ref _ =>
    simp only [legStep] at hs
    split_ifs at hs
    cases hs
    exact ⟨fun _ _ h => .inl h, fun r => .inl (hsame ref _ (by rfl) r)⟩

end Registry

end Smp3Multipath.Core.Carrier

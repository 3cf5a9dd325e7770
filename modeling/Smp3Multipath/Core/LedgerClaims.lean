import Smp3Multipath.Core.LedgerFrame

/-!
# Claims

A record carries at most one normal and one rescue claim, each on a leg id with
the start of its attempt.  Every ledger operation is described here by what it
does to the claims, to the leg a record was last sent on and to its local
enqueue phase; the invariants of the carriers read nothing else.
-/

namespace Smp3Multipath.Core.StreamTXLedger

/-- The claim of one kind a record carries: its leg and the start of its attempt. -/
def recordClaim (r : StreamTXRecord) (rescue : Bool) : Option (LegID × Time) :=
  if rescue then
    if r.rescueInTransit then some (r.rescueLeg, r.rescueSince) else none
  else
    if r.inTransit then some (r.transitLeg, r.transitSince) else none

/-- The claim of one kind on a sequence. -/
def claim (l : StreamTXLedger) (seq : Nat) (rescue : Bool) : Option (LegID × Time) :=
  recordClaim (l.record seq) rescue

/-- Would a completed write of this attempt become the record's last send? -/
def takesLead
    (l : StreamTXLedger) (seq : Nat) (leg : LegID) (rescue : Bool) (now : Time) : Bool :=
  let r := l.record seq
  let since := if rescue then r.rescueSince else r.transitSince
  let started := if since = 0 then now else since
  l.attemptCurrent seq leg rescue &&
    (decide (r.lastSentAttemptAt = 0) || decide (r.lastSentAttemptAt ≤ started))

/-- Sequencing, last sends and local phases agree, whatever the claims. -/
structure SameSends (l l' : StreamTXLedger) : Prop where
  next : l'.nextSequence = l.nextSequence
  outstanding : l'.outstanding = l.outstanding
  lastSentLeg : ∀ seq, (l'.record seq).lastSentLeg = (l.record seq).lastSentLeg
  localEnqueue : ∀ seq, (l'.record seq).localEnqueue = (l.record seq).localEnqueue

/-- The claims agree as well. -/
structure SameClaims (l l' : StreamTXLedger) : Prop extends SameSends l l' where
  claim : ∀ seq rescue, l'.claim seq rescue = l.claim seq rescue

/-- A claim was granted where there was none. -/
structure ClaimTaken
    (l l' : StreamTXLedger) (seq : Nat) (leg : LegID) (rescue : Bool) (now : Time) : Prop
    extends SameSends l l' where
  mem : seq ∈ l.outstanding
  free : l.claim seq rescue = none
  self : l'.claim seq rescue = some (leg, now)
  other : ∀ seq' rescue', seq' ≠ seq ∨ rescue' ≠ rescue →
    l'.claim seq' rescue' = l.claim seq' rescue'

/-- At most the claim of one key was given up, and only if it was on the leg. -/
structure ClaimDropped
    (l l' : StreamTXLedger) (seq : Nat) (leg : LegID) (rescue : Bool) : Prop where
  next : l'.nextSequence = l.nextSequence
  outstanding : l'.outstanding = l.outstanding
  localEnqueue : ∀ seq, (l'.record seq).localEnqueue = (l.record seq).localEnqueue
  self : l'.claim seq rescue = l.claim seq rescue ∨
    (l'.claim seq rescue = none ∧ ∃ since, l.claim seq rescue = some (leg, since))
  other : ∀ seq' rescue', seq' ≠ seq ∨ rescue' ≠ rescue →
    l'.claim seq' rescue' = l.claim seq' rescue'

section Basic

variable {l l' : StreamTXLedger} {seq : Nat} {leg : LegID} {rescue : Bool} {now : Time}

theorem SameClaims.refl (l : StreamTXLedger) : SameClaims l l :=
  ⟨⟨rfl, rfl, fun _ => rfl, fun _ => rfl⟩, fun _ _ => rfl⟩

theorem SameClaims.of_sameRecords (h : SameRecords l l') : SameClaims l l' where
  next := h.next
  outstanding := h.outstanding
  lastSentLeg seq := by rw [h.record]
  localEnqueue seq := by rw [h.record]
  claim seq rescue := by unfold StreamTXLedger.claim; rw [h.record]

theorem modifyRecord_keeps {β : Type} (g : StreamTXRecord → β)
    {f : StreamTXRecord → StreamTXRecord} (h : g (f (l.record seq)) = g (l.record seq)) (i : Nat) :
    g ((l.modifyRecord seq f).record i) = g (l.record i) := by
  rw [modifyRecord_record]
  split
  · next heq => rw [heq, h]
  · rfl

theorem SameSends.modifyRecord {f : StreamTXRecord → StreamTXRecord}
    (hsent : (f (l.record seq)).lastSentLeg = (l.record seq).lastSentLeg)
    (hlocal : (f (l.record seq)).localEnqueue = (l.record seq).localEnqueue) :
    SameSends l (l.modifyRecord seq f) :=
  ⟨rfl, rfl, modifyRecord_keeps StreamTXRecord.lastSentLeg hsent,
    modifyRecord_keeps StreamTXRecord.localEnqueue hlocal⟩

theorem claim_modifyRecord_self (f : StreamTXRecord → StreamTXRecord) (rescue : Bool) :
    (l.modifyRecord seq f).claim seq rescue = recordClaim (f (l.record seq)) rescue := by
  rw [claim, modifyRecord_record_self]

theorem claim_modifyRecord_other {f : StreamTXRecord → StreamTXRecord}
    (h : ∀ rescue', rescue' ≠ rescue → recordClaim (f (l.record seq)) rescue' = l.claim seq rescue')
    (seq' : Nat) (rescue' : Bool) (hne : seq' ≠ seq ∨ rescue' ≠ rescue) :
    (l.modifyRecord seq f).claim seq' rescue' = l.claim seq' rescue' := by
  by_cases hseq : seq' = seq
  · subst hseq
    rw [claim_modifyRecord_self]
    exact h rescue' (hne.resolve_left (not_not.2 rfl))
  · rw [claim, claim, modifyRecord_record_of_ne l hseq f]

theorem attemptCurrent_iff :
    l.attemptCurrent seq leg rescue = true ↔
      seq ∈ l.outstanding ∧ ∃ since, l.claim seq rescue = some (leg, since) := by
  unfold attemptCurrent claim recordClaim
  cases rescue <;> simp

theorem ClaimDropped.of_same (h : SameClaims l l') : ClaimDropped l l' seq leg rescue where
  next := h.next
  outstanding := h.outstanding
  localEnqueue := h.localEnqueue
  self := .inl (h.claim seq rescue)
  other seq' rescue' _ := h.claim seq' rescue'

theorem ClaimDropped.claim_of_some (h : ClaimDropped l l' seq leg rescue) {seq' : Nat}
    {rescue' : Bool} {c : LegID × Time} (hclaim : l'.claim seq' rescue' = some c) :
    l.claim seq' rescue' = some c := by
  by_cases hkey : seq' = seq ∧ rescue' = rescue
  · obtain ⟨rfl, rfl⟩ := hkey
    rcases h.self with hsame | ⟨hnone, _⟩
    · rwa [hsame] at hclaim
    · rw [hnone] at hclaim
      cases hclaim
  · rw [← h.other seq' rescue' (by by_contra hne; push Not at hne; exact hkey hne)]
    exact hclaim

end Basic

section Operations

variable (l : StreamTXLedger) {l' : StreamTXLedger}
variable {seq : Nat} {leg : LegID} {rescue : Bool} {now started : Time}

theorem markTransit_claims (h : l.markTransit seq leg now = some l') :
    ClaimTaken l l' seq leg false now := by
  obtain ⟨hm, hfree, rfl⟩ := markTransit_eq_some_iff.mp h
  refine ⟨SameSends.modifyRecord rfl rfl, hm, ?_, ?_, claim_modifyRecord_other ?_⟩
  · simp [claim, recordClaim, hfree]
  · simp [claim, recordClaim, claimNormal]
  · intro rescue' hne
    cases rescue' with
    | false => exact absurd rfl hne
    | true => rfl

theorem markRescueTransitLocked_claims (h : l.markRescueTransitLocked seq leg now = some l') :
    ClaimTaken l l' seq leg true now := by
  obtain ⟨hm, hfree, _, rfl⟩ := markRescueTransitLocked_eq_some_iff.mp h
  refine ⟨SameSends.modifyRecord rfl rfl, hm, ?_, ?_, claim_modifyRecord_other ?_⟩
  · simp [claim, recordClaim, hfree]
  · simp [claim, recordClaim, claimRescue]
  · intro rescue' hne
    cases rescue' with
    | false => rfl
    | true => exact absurd rfl hne

theorem markRestrictedRescueTransit_claims {owner : Int}
    (h : l.markRestrictedRescueTransit seq leg owner now = some l') :
    ClaimTaken l l' seq leg true now := by
  unfold markRestrictedRescueTransit at h
  split at h
  · cases h
  · exact markRescueTransitLocked_claims l h

theorem SameClaims.modifyRecord {f : StreamTXRecord → StreamTXRecord}
    (hsent : (f (l.record seq)).lastSentLeg = (l.record seq).lastSentLeg)
    (hlocal : (f (l.record seq)).localEnqueue = (l.record seq).localEnqueue)
    (hclaim : ∀ rescue, recordClaim (f (l.record seq)) rescue = l.claim seq rescue) :
    SameClaims l (l.modifyRecord seq f) :=
  ⟨SameSends.modifyRecord hsent hlocal,
    fun i rescue => modifyRecord_keeps (fun r => recordClaim r rescue) (hclaim rescue) i⟩

theorem markRescueQueued_claims : SameClaims l ((l.markRescueQueued seq leg started).getD l) := by
  unfold markRescueQueued
  dsimp only
  split
  · exact SameClaims.refl l
  · exact SameClaims.modifyRecord (f := fun r => { r with lastRescueAt := started })
      l rfl rfl fun rescue => rfl

theorem markWriteStarted_claims : SameClaims l (l.markWriteStarted seq leg rescue now) := by
  unfold markWriteStarted
  dsimp only
  split
  · exact SameClaims.modifyRecord l rfl rfl fun rescue => rfl
  · exact SameClaims.refl l

theorem dropRescueClaim_claims
    (hon : (l.record seq).rescueInTransit = true ∧ (l.record seq).rescueLeg = leg) :
    ClaimDropped l (l.modifyRecord seq dropRescueClaim) seq leg true := by
  refine ⟨rfl, rfl, modifyRecord_keeps StreamTXRecord.localEnqueue rfl, .inr ⟨?_, ?_⟩,
    claim_modifyRecord_other ?_⟩
  · simp [claim, recordClaim, dropRescueClaim]
  · exact ⟨(l.record seq).rescueSince, by simp [claim, recordClaim, hon.1, hon.2]⟩
  · intro rescue' hne
    cases rescue' with
    | false => rfl
    | true => exact absurd rfl hne

theorem dropNormalClaim_claims
    (hon : (l.record seq).inTransit = true ∧ (l.record seq).transitLeg = leg) :
    ClaimDropped l (l.modifyRecord seq dropNormalClaim) seq leg false := by
  refine ⟨rfl, rfl, modifyRecord_keeps StreamTXRecord.localEnqueue rfl, .inr ⟨?_, ?_⟩,
    claim_modifyRecord_other ?_⟩
  · simp [claim, recordClaim, dropNormalClaim]
  · exact ⟨(l.record seq).transitSince, by simp [claim, recordClaim, hon.1, hon.2]⟩
  · intro rescue' hne
    cases rescue' with
    | false => exact absurd rfl hne
    | true => rfl

theorem clearAttemptAt_claims :
    ClaimDropped l (l.clearAttemptAt seq leg rescue started) seq leg rescue ∧
      SameSends l (l.clearAttemptAt seq leg rescue started) := by
  have hsame : ClaimDropped l l seq leg rescue ∧ SameSends l l :=
    ⟨ClaimDropped.of_same (SameClaims.refl l), (SameClaims.refl l).toSameSends⟩
  unfold clearAttemptAt
  dsimp only
  split
  · exact hsame
  cases rescue with
  | true =>
    rw [if_pos rfl]
    split
    · next hon =>
      exact ⟨dropRescueClaim_claims l ⟨hon.1, hon.2.1⟩, SameSends.modifyRecord rfl rfl⟩
    · exact hsame
  | false =>
    rw [if_neg Bool.false_ne_true]
    split
    · next hon =>
      exact ⟨dropNormalClaim_claims l ⟨hon.1, hon.2.1⟩, SameSends.modifyRecord rfl rfl⟩
    · exact hsame

/-- The attempt that a claim belongs to clears it, and so does a clear without a time. -/
theorem clearAttemptAt_self {since : Time} (hm : seq ∈ l.outstanding)
    (hclaim : l.claim seq rescue = some (leg, since)) (hstarted : started = 0 ∨ started = since) :
    (l.clearAttemptAt seq leg rescue started).claim seq rescue = none := by
  unfold clearAttemptAt
  dsimp only
  rw [if_neg (not_not.2 hm)]
  cases rescue with
  | true =>
    obtain ⟨hon, ⟨⟩⟩ := Option.ite_none_right_eq_some.1 hclaim
    rw [if_pos rfl, if_pos ⟨hon, rfl, hstarted.imp_right Eq.symm⟩]
    simp [claim, recordClaim, dropRescueClaim]
  | false =>
    obtain ⟨hon, ⟨⟩⟩ := Option.ite_none_right_eq_some.1 hclaim
    rw [if_neg Bool.false_ne_true, if_pos ⟨hon, rfl, hstarted.imp_right Eq.symm⟩]
    simp [claim, recordClaim, dropNormalClaim]

theorem clearAttemptAt_stale
    (h : ∀ since, l.claim seq rescue = some (leg, since) → ¬ (started = 0 ∨ started = since)) :
    l.clearAttemptAt seq leg rescue started = l := by
  unfold clearAttemptAt
  dsimp only
  split
  · rfl
  · cases rescue with
    | true =>
      rw [if_pos rfl, if_neg]
      rintro ⟨hon, hleg, hstarted⟩
      exact h _ (by simp [claim, recordClaim, hon, hleg]) (hstarted.imp_right Eq.symm)
    | false =>
      rw [if_neg Bool.false_ne_true, if_neg]
      rintro ⟨hon, hleg, hstarted⟩
      exact h _ (by simp [claim, recordClaim, hon, hleg]) (hstarted.imp_right Eq.symm)

theorem markOrdinaryAdmitted_claims {id : LegID} :
    SameClaims l (l.markOrdinaryAdmitted seq id) := by
  unfold markOrdinaryAdmitted
  split
  · exact SameClaims.of_sameRecords (ensureLocked_sameRecords l)
  · next l₁ hleg =>
    have h₁ := SameClaims.of_sameRecords (ensureLegLocked_sameRecords hleg)
    dsimp only
    split
    · exact h₁
    · have h₂ : SameClaims l₁ (l₁.modifyRecord seq fun r => { r with ordinaryAdmitted := true }) :=
        SameClaims.modifyRecord l₁ rfl rfl fun rescue => rfl
      exact
        { next := h₂.next.trans h₁.next
          outstanding := h₂.outstanding.trans h₁.outstanding
          lastSentLeg := fun i => (h₂.lastSentLeg i).trans (h₁.lastSentLeg i)
          localEnqueue := fun i => (h₂.localEnqueue i).trans (h₁.localEnqueue i)
          claim := fun i rescue => (h₂.claim i rescue).trans (h₁.claim i rescue) }

theorem markAttemptSent_claims :
    ClaimDropped l (l.markAttemptSent seq leg rescue now).1 seq leg rescue := by
  have hsame : ClaimDropped l l seq leg rescue := ClaimDropped.of_same (SameClaims.refl l)
  unfold markAttemptSent
  dsimp only
  split
  · exact hsame
  cases rescue with
  | true =>
    rw [if_pos rfl]
    split
    · exact hsame
    · next hon =>
      push Not at hon
      refine ⟨rfl, rfl, modifyRecord_keeps StreamTXRecord.localEnqueue rfl, .inr ⟨?_, ?_⟩,
        claim_modifyRecord_other ?_⟩
      · simp [claim, recordClaim, sentRescue, commitSend]
      · exact ⟨(l.record seq).rescueSince, by simp [claim, recordClaim, hon.1, hon.2]⟩
      · intro rescue' hne
        cases rescue' with
        | false => rfl
        | true => exact absurd rfl hne
  | false =>
    rw [if_neg Bool.false_ne_true]
    split
    · exact hsame
    · next hon =>
      push Not at hon
      refine ⟨rfl, rfl, modifyRecord_keeps StreamTXRecord.localEnqueue rfl, .inr ⟨?_, ?_⟩,
        claim_modifyRecord_other ?_⟩
      · simp [claim, recordClaim, sentNormal, commitSend, dropNormalClaim]
      · exact ⟨(l.record seq).transitSince, by simp [claim, recordClaim, hon.1, hon.2]⟩
      · intro rescue' hne
        cases rescue' with
        | false => exact absurd rfl hne
        | true => rfl

theorem markAttemptSent_self (hcurrent : l.attemptCurrent seq leg rescue = true) :
    (l.markAttemptSent seq leg rescue now).1.claim seq rescue = none := by
  obtain ⟨hm, since, hclaim⟩ := attemptCurrent_iff.mp hcurrent
  unfold markAttemptSent
  dsimp only
  rw [if_neg (not_not.2 hm)]
  cases rescue with
  | true =>
    simp only [claim, recordClaim, if_true] at hclaim
    split at hclaim
    · next hon =>
      cases hclaim
      simp [claim, recordClaim, sentRescue, commitSend, hon]
    · cases hclaim
  | false =>
    simp only [claim, recordClaim, Bool.false_eq_true, if_false] at hclaim
    split at hclaim
    · next hon =>
      cases hclaim
      simp [claim, recordClaim, sentNormal, commitSend, dropNormalClaim, hon]
    · cases hclaim

theorem markAttemptSent_stale (hstale : l.attemptCurrent seq leg rescue = false) :
    (l.markAttemptSent seq leg rescue now).1 = l := by
  unfold markAttemptSent
  dsimp only
  split
  · rfl
  · next hm =>
    unfold attemptCurrent at hstale
    cases rescue with
    | true =>
      simp [not_not.1 hm] at hstale
      rw [if_pos rfl, if_pos]
      by_cases hon : (l.record seq).rescueInTransit = true
      · exact .inr (hstale hon)
      · exact .inl hon
    | false =>
      simp [not_not.1 hm] at hstale
      rw [if_neg Bool.false_ne_true, if_pos]
      by_cases hon : (l.record seq).inTransit = true
      · exact .inr (hstale hon)
      · exact .inl hon

theorem recordClaim_dropNormal (leg : LegID) (r : StreamTXRecord) (rescue : Bool) :
    recordClaim (if r.inTransit = true ∧ r.transitLeg = leg then dropNormalClaim r else r) rescue =
      if rescue then recordClaim r true
      else (recordClaim r false).filter fun c => c.1 != leg := by
  cases rescue with
  | true => split <;> rfl
  | false =>
    by_cases hon : r.inTransit = true <;> by_cases hleg : r.transitLeg = leg <;>
      simp [recordClaim, dropNormalClaim, Option.filter, hon, hleg]

theorem recordClaim_dropRescue (leg : LegID) (r : StreamTXRecord) (rescue : Bool) :
    recordClaim (if r.rescueInTransit = true ∧ r.rescueLeg = leg then dropRescueClaim r else r)
        rescue =
      if rescue then (recordClaim r true).filter fun c => c.1 != leg
      else recordClaim r false := by
  cases rescue with
  | true =>
    by_cases hon : r.rescueInTransit = true <;> by_cases hleg : r.rescueLeg = leg <;>
      simp [recordClaim, dropRescueClaim, Option.filter, hon, hleg]
  | false => split <;> rfl

theorem recordClaim_invalidateRecord (leg : LegID) (r : StreamTXRecord) (rescue : Bool) :
    recordClaim (invalidateRecord leg r) rescue =
      (recordClaim r rescue).filter fun c => c.1 != leg := by
  have hsent : ∀ r : StreamTXRecord,
      recordClaim (if r.lastSentLeg = (leg : Int) then { r with lastSentLeg := -1 } else r) rescue =
        recordClaim r rescue := by
    intro r
    split <;> rfl
  have howner : ∀ rescue, recordClaim
      (if r.ordinaryOwner = (leg : Int) then { r with duplicated := true, invalidated := true }
        else r) rescue = recordClaim r rescue := by
    intro rescue
    split <;> rfl
  unfold invalidateRecord
  dsimp only
  rw [hsent, recordClaim_dropRescue]
  cases rescue with
  | true => rw [if_pos rfl, recordClaim_dropNormal, if_pos rfl, howner]
  | false =>
    rw [if_neg Bool.false_ne_true, recordClaim_dropNormal, if_neg Bool.false_ne_true, howner]

theorem invalidateRecord_lastSentLeg (leg : LegID) (r : StreamTXRecord) :
    (invalidateRecord leg r).lastSentLeg =
      if r.lastSentLeg = (leg : Int) then -1 else r.lastSentLeg := by
  have hsent : ∀ r : StreamTXRecord,
      (if r.lastSentLeg = (leg : Int) then { r with lastSentLeg := -1 } else r).lastSentLeg =
        if r.lastSentLeg = (leg : Int) then -1 else r.lastSentLeg := by
    intro r
    split <;> rfl
  have hrescue : ∀ r : StreamTXRecord,
      (if r.rescueInTransit = true ∧ r.rescueLeg = leg then dropRescueClaim r
        else r).lastSentLeg = r.lastSentLeg := by
    intro r
    split <;> rfl
  have hnormal : ∀ r : StreamTXRecord,
      (if r.inTransit = true ∧ r.transitLeg = leg then dropNormalClaim r
        else r).lastSentLeg = r.lastSentLeg := by
    intro r
    split <;> rfl
  have howner : (if r.ordinaryOwner = (leg : Int) then
      { r with duplicated := true, invalidated := true } else r).lastSentLeg = r.lastSentLeg := by
    split <;> rfl
  unfold invalidateRecord
  dsimp only
  rw [hsent, hrescue, hnormal, howner]

theorem invalidateRecord_localEnqueue (leg : LegID) (r : StreamTXRecord) :
    (invalidateRecord leg r).localEnqueue = r.localEnqueue :=
  invalidateRecord_keeps (P := fun r' => r'.localEnqueue = r.localEnqueue) leg (fun _ h => h)
    (fun _ h => h) (fun _ h => h) (fun _ h => h) rfl

theorem invalidateLeg_claims (hm : seq ∈ l.outstanding) :
    ((l.invalidateLeg leg).claim seq rescue =
        (l.claim seq rescue).filter fun c => c.1 != leg) ∧
      ((l.invalidateLeg leg).record seq).lastSentLeg =
        if (l.record seq).lastSentLeg = (leg : Int) then -1 else (l.record seq).lastSentLeg := by
  unfold invalidateLeg claim
  dsimp only
  rw [if_pos hm]
  exact ⟨recordClaim_invalidateRecord leg _ rescue, invalidateRecord_lastSentLeg leg _⟩

theorem invalidateLeg_localEnqueue (leg : LegID) (i : Nat) :
    ((l.invalidateLeg leg).record i).localEnqueue = (l.record i).localEnqueue := by
  unfold invalidateLeg
  dsimp only
  split
  · exact invalidateRecord_localEnqueue leg _
  · rfl

/-- An ACK only retires: what stays outstanding keeps claims, last send and phase. -/
theorem applyACK_claims (next : Nat) (now : Time) :
    (∀ i ∈ (l.applyACK next now).1.outstanding, i ∈ l.outstanding) ∧
      (l.applyACK next now).1.nextSequence = l.nextSequence ∧
      ∀ i, ((l.applyACK next now).1.record i).lastSentLeg = (l.record i).lastSentLeg ∧
        ((l.applyACK next now).1.record i).localEnqueue = (l.record i).localEnqueue ∧
        ∀ rescue, (l.applyACK next now).1.claim i rescue = l.claim i rescue := by
  refine ⟨?_, applyACK_nextSequence next now, ?_⟩
  · intro i hi
    rcases applyACK_spec now l next with ⟨_, h⟩ | ⟨_, _, _, _, hout, _⟩
    · rwa [h.outstanding] at hi
    · rw [hout] at hi
      exact (List.mem_filter.mp hi).1
  · have hstamp : SameClaims l (l.modifyRecord next (stampFrontier now)) :=
      SameClaims.modifyRecord l rfl rfl fun rescue => rfl
    have hrecord : (l.applyACK next now).1.record = l.record ∨
        (l.applyACK next now).1.record = (l.modifyRecord next (stampFrontier now)).record := by
      rcases applyACK_spec now l next with ⟨_, h⟩ | ⟨_, _, _, _, _, h⟩
      · exact .inl h.record
      · exact h
    intro i
    unfold claim
    rcases hrecord with h | h
    · rw [h]
      exact ⟨rfl, rfl, fun _ => rfl⟩
    · rw [h]
      exact ⟨hstamp.lastSentLeg i, hstamp.localEnqueue i, fun rescue => hstamp.claim i rescue⟩

theorem addLocal_claims (payload : List UInt8) (now : Time) :
    (l.addLocal payload now).2 = l.nextSequence ∧
      (l.addLocal payload now).1.nextSequence = l.nextSequence + 1 ∧
      (∀ i, i ∈ (l.addLocal payload now).1.outstanding ↔
        i = l.nextSequence ∨ i ∈ l.outstanding) ∧
      ((l.addLocal payload now).1.record l.nextSequence).lastSentLeg = -1 ∧
      ((l.addLocal payload now).1.record l.nextSequence).localEnqueue = true ∧
      (∀ rescue, (l.addLocal payload now).1.claim l.nextSequence rescue = none) ∧
      ∀ i, i ≠ l.nextSequence → (l.addLocal payload now).1.record i = l.record i := by
  refine ⟨?_, ?_, fun i => ?_, ?_, ?_, fun rescue => ?_, fun i hi => ?_⟩
  · simp [addLocal, add]
  · simp [addLocal, add]
  · simp [addLocal, add, List.mem_insert_iff]
  · simp [addLocal, add]
  · simp [addLocal, add]
  · cases rescue <;> simp [claim, recordClaim, addLocal, add]
  · simp [addLocal, add, hi]

end Operations

end Smp3Multipath.Core.StreamTXLedger

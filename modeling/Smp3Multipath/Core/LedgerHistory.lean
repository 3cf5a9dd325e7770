import Smp3Multipath.Core.LedgerAccounting
import Smp3Multipath.Core.LedgerClaims

/-!
# The history of a ledger

`record_applyOp` says once what an operation can do to a record: nothing, or one of the
rewrites listed for the operation.  What the marks of a record tell about its past follows
from what each rewrite keeps.  A claim comes with a grant and goes with one of four
operations (`Ends`); the history of a run, the claims granted
and ended, the sends and the losses of an owner, is kept beside the ledger.
-/

namespace Smp3Multipath.Core.StreamTXLedger

open List Option

section Edits

/-- The rewrites that an operation may apply to a record. -/
def LedgerOp.edits : LedgerOp → List (StreamTXRecord → StreamTXRecord)
  | .add .. => []
  | .finishLocalEnqueue _ => [fun r => { r with localEnqueue := false }]
  | .markTransit _ leg now => [claimNormal leg now]
  | .markRescueTransit _ leg now => [claimRescue leg now]
  | .markRestrictedRescueTransit _ leg _ now => [claimRescue leg now]
  | .markRescueQueued _ _ started => [fun r => { r with lastRescueAt := started }]
  | .clearAttemptAt .. => [dropNormalClaim, dropRescueClaim]
  | .markAttemptSent _ leg _ now => [sentNormal leg now, sentRescue leg now]
  | .invalidateLeg leg => [invalidateRecord leg]
  | .markOrdinaryAdmitted .. => [fun r => { r with ordinaryAdmitted := true }]
  | .assignOrdinary _ id now => [takeOwner id now]
  | .markWriteStarted _ _ _ now => [fun r => { r with firstWriteAt := now }]
  | .setOrigin _ generation epoch =>
    [fun r => { r with originGeneration := generation, originEpoch := epoch }]
  | .storeRecoveryProbeWriteStartedAt _ startedAt =>
    [fun r => { r with recoveryProbeWriteStartedAt := startedAt }]
  | .applyACK _ now => [stampFrontier now]

variable {l : StreamTXLedger} {seq : Nat}

/-- A record that nothing has happened to. -/
def isNew (r : StreamTXRecord) : Prop :=
  r.sendCount = 0 ∧ r.ordinaryOwner = -1 ∧ r.recoveryProbeWriteStartedAt = none

/-- An operation leaves a record alone, applies one of its rewrites, or has just added it. -/
theorem record_applyOp (l : StreamTXLedger) (op : LedgerOp) (seq : Nat) :
    (l.applyOp op).record seq = l.record seq ∨
      (∃ f ∈ op.edits, (l.applyOp op).record seq = f (l.record seq)) ∨
      seq = l.nextSequence ∧ isNew ((l.applyOp op).record seq) := by
  have hedit : ∀ {i f} {l' : StreamTXLedger}, f ∈ op.edits →
      l'.record = (l.modifyRecord i f).record →
      l'.record seq = l.record seq ∨ ∃ f ∈ op.edits, l'.record seq = f (l.record seq) := by
    intro i f l' hf hl'
    rw [hl', modifyRecord_record]
    split
    · next hi => exact .inr ⟨f, hf, by rw [hi]⟩
    · exact .inl rfl
  have hrescue : ∀ {i leg now}, claimRescue leg now ∈ op.edits →
      ((l.markRescueTransitLocked i leg now).getD l).record seq = l.record seq ∨
        ∃ f ∈ op.edits,
          ((l.markRescueTransitLocked i leg now).getD l).record seq = f (l.record seq) := by
    intro i leg now hf
    cases hclaim : l.markRescueTransitLocked i leg now with
    | none => exact .inl rfl
    | some l' =>
      obtain ⟨_, _, _, rfl⟩ := markRescueTransitLocked_eq_some_iff.mp hclaim
      exact hedit hf rfl
  refine or_assoc.1 ?_
  cases op with
  | add payload now isLocal =>
    by_cases hseq : seq = l.nextSequence
    · exact .inr ⟨hseq, by simp [isNew, applyOp, add, hseq]⟩
    · exact .inl (.inl (by simp [applyOp, add, hseq]))
  | finishLocalEnqueue i | storeRecoveryProbeWriteStartedAt i startedAt => exact .inl (hedit (.head _) rfl)
  | markTransit i leg now =>
    left
    rw [applyOp]
    cases hclaim : l.markTransit i leg now with
    | none => exact .inl rfl
    | some l' =>
      obtain ⟨_, _, rfl⟩ := markTransit_eq_some_iff.mp hclaim
      exact hedit (.head _) rfl
  | markRescueTransit i leg now => exact .inl (hrescue (.head _))
  | markRestrictedRescueTransit i leg owner now =>
    left
    rw [applyOp, markRestrictedRescueTransit]
    split
    · exact .inl rfl
    · exact hrescue (.head _)
  | markRescueQueued i leg started =>
    left
    rw [applyOp, markRescueQueued]
    split
    · exact .inl rfl
    · exact hedit (.head _) rfl
  | clearAttemptAt i leg rescue started =>
    left
    rw [applyOp, clearAttemptAt]
    split_ifs
    · exact hedit (.tail _ (.head _)) rfl
    · exact .inl rfl
    · exact hedit (.head _) rfl
    · exact .inl rfl
    · exact .inl rfl
  | markAttemptSent i leg rescue now =>
    left
    rw [applyOp, markAttemptSent]
    split_ifs
    · exact .inl rfl
    · exact hedit (.tail _ (.head _)) rfl
    · exact .inl rfl
    · exact hedit (.head _) rfl
    · exact .inl rfl
  | invalidateLeg leg =>
    left
    rw [applyOp, invalidateLeg]
    dsimp only
    split
    · exact .inr ⟨_, .head _, rfl⟩
    · exact .inl rfl
  | markOrdinaryAdmitted i id =>
    left
    rcases markOrdinaryAdmitted_spec l i id with hl' | hl'
    · exact .inl (congrFun hl'.record seq)
    · exact hedit (.head _) hl'.record
  | assignOrdinary i id now =>
    left
    rcases assignOrdinary_spec l i id now with hl' | hl'
    · exact .inl (congrFun hl'.record seq)
    · exact hedit (.head _) hl'.record
  | markWriteStarted i leg rescue now =>
    left
    rw [applyOp, markWriteStarted]
    split
    · exact hedit (.head _) rfl
    · exact .inl rfl
  | setOrigin i generation epoch =>
    left
    rw [applyOp, setOrigin]
    split
    · exact hedit (.head _) rfl
    · exact .inl rfl
  | applyACK next now =>
    left
    rcases applyACK_spec now l next with ⟨_, hl'⟩ | ⟨_, _, _, _, _, hl' | hl'⟩
    · exact .inl (congrFun hl'.record seq)
    · exact .inl (congrFun hl' seq)
    · exact hedit (.head _) hl'

theorem keeps_record_applyOp {P : StreamTXRecord → Prop} (hseq : seq < l.nextSequence)
    {op : LedgerOp} (hedit : ∀ f ∈ op.edits, ∀ r, P r → P (f r)) (h : P (l.record seq)) :
    P ((l.applyOp op).record seq) := by
  rcases record_applyOp l op seq with hsame | ⟨f, hf, hrecord⟩ | ⟨hnew, _⟩
  · rwa [hsame]
  · rw [hrecord]
    exact hedit f hf _ h
  · omega

theorem invalidateRecord_sendCount (leg : LegID) (r : StreamTXRecord) :
    (invalidateRecord leg r).sendCount = r.sendCount :=
  invalidateRecord_keeps (P := fun r' => r'.sendCount = r.sendCount) leg (fun _ h => h)
    (fun _ h => h) (fun _ h => h) (fun _ h => h) rfl

theorem invalidateRecord_duplicated (leg : LegID) (r : StreamTXRecord) :
    (invalidateRecord leg r).duplicated =
      (r.duplicated || decide (r.ordinaryOwner = (leg : Int))) := by
  have hrest : ∀ (c : Prop) [Decidable c] (r r' : StreamTXRecord),
      r'.duplicated = r.duplicated → (if c then r' else r).duplicated = r.duplicated := by
    intro c _ r r' h
    split
    · exact h
    · rfl
  unfold invalidateRecord
  extract_lets owned normal rescued
  have howned : owned.duplicated = (r.duplicated || decide (r.ordinaryOwner = (leg : Int))) := by
    unfold owned
    split
    · next howner => rw [decide_eq_true howner, Bool.or_true]
    · next howner => rw [decide_eq_false howner, Bool.or_false]
  calc (if rescued.lastSentLeg = (leg : Int) then { rescued with lastSentLeg := -1 }
        else rescued).duplicated
    _ = rescued.duplicated := hrest _ _ _ rfl
    _ = normal.duplicated := hrest _ _ _ rfl
    _ = owned.duplicated := hrest _ _ _ rfl
    _ = (r.duplicated || decide (r.ordinaryOwner = (leg : Int))) := howned

/-- The mark of a second copy stays. -/
theorem duplicated_applyOp (hseq : seq < l.nextSequence) (op : LedgerOp)
    (h : (l.record seq).duplicated = true) : ((l.applyOp op).record seq).duplicated = true := by
  refine keeps_record_applyOp (P := fun r => r.duplicated = true) hseq (fun f hf r hr => ?_) h
  cases op with
  | add payload now isLocal => cases hf
  | markTransit i leg now =>
    rw [mem_singleton.1 hf]
    simp [claimNormal, hr]
  | clearAttemptAt i leg rescue started | markAttemptSent i leg rescue now => rcases mem_pair.1 hf with rfl | rfl <;> exact hr
  | invalidateLeg leg => rw [mem_singleton.1 hf, invalidateRecord_duplicated, hr, Bool.true_or]
  | markRescueTransit i leg now | markRestrictedRescueTransit i leg owner now =>
    rw [mem_singleton.1 hf]
    rfl
  | _ =>
    rw [mem_singleton.1 hf]
    exact hr

end Edits

section Claims

/-- A claim: its record and kind, its leg and the start of its attempt. -/
structure Claim where
  seq : Nat
  rescue : Bool
  leg : LegID
  since : Time
deriving DecidableEq

/-- The claim stands: its record is outstanding and carries it. -/
def Live (l : StreamTXLedger) (c : Claim) : Prop :=
  c.seq ∈ l.outstanding ∧ l.claim c.seq c.rescue = some (c.leg, c.since)

instance (l : StreamTXLedger) (c : Claim) : Decidable (Live l c) :=
  inferInstanceAs (Decidable (_ ∧ _))

/-- The claim that an operation is granted. -/
def granted (l : StreamTXLedger) : LedgerOp → Option Claim
  | .markTransit i leg now =>
    if (l.markTransit i leg now).isSome then some ⟨i, false, leg, now⟩ else none
  | .markRescueTransit i leg now =>
    if (l.markRescueTransit i leg now).isSome then some ⟨i, true, leg, now⟩ else none
  | .markRestrictedRescueTransit i leg owner now =>
    if (l.markRestrictedRescueTransit i leg owner now).isSome then some ⟨i, true, leg, now⟩
    else none
  | _ => none

/-- The claim is of the kind, on the record and on the leg. -/
def Claim.On (c : Claim) (seq : Nat) (leg : LegID) (rescue : Bool) : Prop :=
  c.seq = seq ∧ c.leg = leg ∧ c.rescue = rescue

/-- A committed send, a clear with the claim's own timestamp or none, the invalidation of its
leg, and an ACK past its record. -/
def Ends (l : StreamTXLedger) (c : Claim) : LedgerOp → Prop
  | .markAttemptSent i leg rescue _ => c.On i leg rescue
  | .clearAttemptAt i leg rescue started => c.On i leg rescue ∧ (started = 0 ∨ started = c.since)
  | .invalidateLeg leg => c.leg = leg
  | .applyACK next _ => c.seq < next ∧ next ≤ l.nextSequence
  | _ => False

variable {l l' : StreamTXLedger} {c : Claim}

theorem ClaimTaken.live_iff {seq : Nat} {leg : LegID} {rescue : Bool} {now : Time}
    (h : ClaimTaken l l' seq leg rescue now) :
    Live l' c ↔ some ⟨seq, rescue, leg, now⟩ = some c ∨ Live l c := by
  unfold Live
  rw [h.outstanding, Option.some.injEq]
  by_cases hkey : c.seq = seq ∧ c.rescue = rescue
  · rw [hkey.1, hkey.2, h.self, h.free]
    obtain ⟨rfl, rfl⟩ := hkey
    constructor
    · rintro ⟨_, hc⟩
      cases hc
      exact .inl rfl
    · rintro (hc | ⟨_, hc⟩)
      · exact ⟨h.mem, by rw [← hc]⟩
      · cases hc
  · rw [h.other c.seq c.rescue (by by_contra hall; push Not at hall; exact hkey hall)]
    constructor
    · exact .inr
    · rintro (hc | hc)
      · exact absurd ⟨by rw [← hc], by rw [← hc]⟩ hkey
      · exact hc

theorem live_of_grant {o : Option StreamTXLedger} {seq : Nat} {leg : LegID} {rescue : Bool}
    {now : Time} (h : ∀ l', o = some l' → ClaimTaken l l' seq leg rescue now) :
    Live (o.getD l) c ↔
      (if o.isSome then some ⟨seq, rescue, leg, now⟩ else none) = some c ∨ Live l c := by
  cases o with
  | none => simp
  | some l' => exact (h l' rfl).live_iff

/-- A claim survives an operation that drops one unless it is the claim dropped. -/
theorem ClaimDropped.live_iff {i : Nat} {leg : LegID} {rescue : Bool} {gone : Time → Prop}
    (h : ClaimDropped l l' i leg rescue)
    (hgone : ∀ since, i ∈ l.outstanding → l.claim i rescue = some (leg, since) → gone since →
      l'.claim i rescue = none)
    (hkept : (∀ since, l.claim i rescue = some (leg, since) → ¬ gone since) →
      l'.claim i rescue = l.claim i rescue) :
    Live l' c ↔ Live l c ∧ ¬ (c.On i leg rescue ∧ gone c.since) := by
  unfold Live
  rw [h.outstanding, and_assoc]
  refine and_congr_right fun hm => ?_
  by_cases hkey : c.seq = i ∧ c.rescue = rescue
  · rw [hkey.1, hkey.2]
    constructor
    · intro hc
      have hold : l.claim i rescue = some (c.leg, c.since) := h.claim_of_some hc
      refine ⟨hold, fun hon => ?_⟩
      have hleg : c.leg = leg := hon.1.2.1
      rw [hgone c.since (hkey.1 ▸ hm) (hleg ▸ hold) hon.2] at hc
      cases hc
    · rintro ⟨hc, hon⟩
      rw [hkept ?_]
      · exact hc
      · intro since hclaim hsince
        rw [hc] at hclaim
        cases hclaim
        exact hon ⟨⟨hkey.1, rfl, hkey.2⟩, hsince⟩
  · rw [h.other c.seq c.rescue (by by_contra hall; push Not at hall; exact hkey hall)]
    refine ⟨fun hc => ⟨hc, fun hon => hkey ⟨hon.1.1, hon.1.2.2⟩⟩, fun hc => hc.1⟩

/-- What one operation does to the claims of a ledger. -/
theorem live_applyOp (hwf : WellFormed l) (op : LedgerOp) :
    Live (l.applyOp op) c ↔ l.granted op = some c ∨ (Live l c ∧ ¬ Ends l c op) := by
  -- the operations whose rewrites keep the claims of a record
  have hsame : (∀ f ∈ op.edits, ∀ r rescue, recordClaim (f r) rescue = recordClaim r rescue) →
      (l.applyOp op).outstanding = l.outstanding →
      (Live (l.applyOp op) c ↔ none = some c ∨ (Live l c ∧ ¬ False)) := by
    intro hedit hout
    simp only [reduceCtorEq, false_or, not_false_eq_true, and_true]
    unfold Live
    rw [hout]
    refine and_congr_right fun hm => ?_
    have hclaim : (l.applyOp op).claim c.seq c.rescue = l.claim c.seq c.rescue := by
      refine keeps_record_applyOp
        (P := fun r => recordClaim r c.rescue = l.claim c.seq c.rescue)
        ((hwf.mem_iff c.seq).1 hm).2 ?_ rfl
      exact fun f hf r hr => (hedit f hf r c.rescue).trans hr
    rw [hclaim]
  cases op with
  | add payload now isLocal =>
    simp only [granted, Ends, reduceCtorEq, false_or, not_false_eq_true, and_true]
    unfold Live claim
    have hout : c.seq ∈ (l.applyOp (.add payload now isLocal)).outstanding ↔
        c.seq = l.nextSequence ∨ c.seq ∈ l.outstanding := by
      simp [applyOp, add, mem_insert_iff]
    rw [hout]
    by_cases hseq : c.seq = l.nextSequence
    · have hnew : c.seq ∉ l.outstanding := by
        rw [hwf.mem_iff, hseq]
        omega
      have hnone : recordClaim ((l.applyOp (.add payload now isLocal)).record c.seq) c.rescue =
          none := by
        cases hrescue : c.rescue <;> simp [applyOp, add, hseq, recordClaim]
      rw [hnone]
      simp [hnew]
    · have hrecord : (l.applyOp (.add payload now isLocal)).record c.seq = l.record c.seq := by
        simp [applyOp, add, hseq]
      rw [hrecord]
      simp [hseq]
  | applyACK next now =>
    simp only [granted, Ends, reduceCtorEq, false_or]
    have hclaim : (l.applyOp (.applyACK next now)).claim c.seq c.rescue =
        l.claim c.seq c.rescue :=
      ((applyACK_claims l next now).2.2 c.seq).2.2 c.rescue
    have hout : c.seq ∈ (l.applyOp (.applyACK next now)).outstanding ↔
        c.seq ∈ l.outstanding ∧ ¬ (c.seq < next ∧ next ≤ l.nextSequence) := by
      rw [applyOp, ((hwf.applyACK next now).mem_iff c.seq), hwf.mem_iff]
      rcases applyACK_spec now l next with ⟨_, h⟩ | ⟨_, _, hnext, hacked, _⟩
      · rw [h.acked, h.next]
        omega
      · rw [hacked, hnext]
        omega
    unfold Live
    rw [hclaim, hout]
    tauto
  | markTransit i leg now =>
    simp only [Ends, not_false_eq_true, and_true]
    exact live_of_grant fun l' h => markTransit_claims l h
  | markRescueTransit i leg now =>
    simp only [Ends, not_false_eq_true, and_true]
    exact live_of_grant fun l' h => markRescueTransitLocked_claims l h
  | markRestrictedRescueTransit i leg owner now =>
    simp only [Ends, not_false_eq_true, and_true]
    exact live_of_grant fun l' h => markRestrictedRescueTransit_claims l h
  | clearAttemptAt i leg rescue started =>
    simp only [granted, Ends, reduceCtorEq, false_or]
    refine (clearAttemptAt_claims l).1.live_iff (fun since hm => clearAttemptAt_self l hm) ?_
    exact fun h => by rw [clearAttemptAt_stale l h]
  | markAttemptSent i leg rescue now =>
    simp only [granted, Ends, reduceCtorEq, false_or]
    have hiff := @ClaimDropped.live_iff l _ c i leg rescue (fun _ => True)
      (@markAttemptSent_claims l i leg rescue now)
      (fun since hm hclaim _ =>
        markAttemptSent_self l (attemptCurrent_iff.2 ⟨hm, since, hclaim⟩))
      (fun h => by
        have hstale : l.attemptCurrent i leg rescue = false := by
          rw [Bool.eq_false_iff, ne_eq, attemptCurrent_iff]
          rintro ⟨_, since, hclaim⟩
          exact h since hclaim trivial
        rw [markAttemptSent_stale l hstale])
    rw [applyOp, hiff]
    simp only [and_true]
  | invalidateLeg leg =>
    simp only [granted, Ends, reduceCtorEq, false_or]
    unfold Live
    rw [show (l.applyOp (.invalidateLeg leg)).outstanding = l.outstanding from rfl, and_assoc]
    refine and_congr_right fun hm => ?_
    have hclaim : (l.applyOp (.invalidateLeg leg)).claim c.seq c.rescue =
        (l.claim c.seq c.rescue).filter fun c => c.1 != leg := by
      rw [claim, claim, ← recordClaim_invalidateRecord]
      simp [applyOp, invalidateLeg, hm]
    rw [hclaim, filter_eq_some_iff]
    simp
  | _ =>
    refine hsame ?_ (applyOp_sameStream l _ (by simp) (by simp)).outstanding
    intro f hf r rescue
    cases mem_singleton.1 hf
    rfl

end Claims

section Marks

variable {l : StreamTXLedger} {seq : Nat}

theorem WellFormed.applyOp (hwf : WellFormed l) (op : LedgerOp) : WellFormed (l.applyOp op) := by
  by_cases hadd : ∀ payload now isLocal, op ≠ .add payload now isLocal
  · by_cases hack : ∀ next now, op ≠ .applyACK next now
    · exact hwf.of_sameStream (applyOp_sameStream l op hadd hack)
    · push Not at hack
      obtain ⟨next, now, rfl⟩ := hack
      exact hwf.applyACK next now
  · push Not at hadd
    obtain ⟨payload, now, isLocal, rfl⟩ := hadd
    exact hwf.add payload now isLocal

theorem applyOp_nextSequence (l : StreamTXLedger) (op : LedgerOp) :
    (l.applyOp op).nextSequence = l.nextSequence ∨
      (l.applyOp op).nextSequence = l.nextSequence + 1 ∧
        ((l.applyOp op).record l.nextSequence).sendCount = 0 := by
  by_cases hadd : ∀ payload now isLocal, op ≠ .add payload now isLocal
  · by_cases hack : ∀ next now, op ≠ .applyACK next now
    · exact .inl (applyOp_sameStream l op hadd hack).next
    · push Not at hack
      obtain ⟨next, now, rfl⟩ := hack
      exact .inl (applyACK_nextSequence next now)
  · push Not at hadd
    obtain ⟨payload, now, isLocal, rfl⟩ := hadd
    right
    simp [applyOp, add]

/-- The record whose send an operation applies. -/
def sentBy (l : StreamTXLedger) : LedgerOp → List Nat
  | .markAttemptSent i leg rescue now =>
    if (l.markAttemptSent i leg rescue now).2.applied then [i] else []
  | _ => []

/-- The outstanding records whose ordinary owner an operation invalidates. -/
def losing (l : StreamTXLedger) : LedgerOp → List Nat
  | .invalidateLeg leg => l.outstanding.filter fun i => (l.record i).ordinaryOwner = (leg : Int)
  | _ => []

theorem sendCount_markAttemptSent (i : Nat) (leg : LegID) (rescue : Bool) (now : Time) :
    ((l.markAttemptSent i leg rescue now).1.record seq).sendCount =
      (l.record seq).sendCount + (l.sentBy (.markAttemptSent i leg rescue now)).count seq := by
  have hsent : ∀ f : StreamTXRecord → StreamTXRecord,
      (f (l.record i)).sendCount = (l.record i).sendCount + 1 →
        ((l.modifyRecord i f).record seq).sendCount = (l.record seq).sendCount + [i].count seq := by
    intro f hf
    by_cases hi : i = seq
    · subst hi
      rw [modifyRecord_record_self, hf, count_singleton_self]
    · rw [modifyRecord_record_of_ne l (Ne.symm hi)]
      simp [hi]
  rw [sentBy, markAttemptSent]
  by_cases hi : i ∉ l.outstanding
  · rw [if_pos hi]
    rfl
  · rw [if_neg hi]
    cases rescue with
    | true =>
      rw [if_pos rfl]
      by_cases hoff : ¬ (l.record i).rescueInTransit = true ∨ (l.record i).rescueLeg ≠ leg
      · rw [if_pos hoff]
        rfl
      · rw [if_neg hoff]
        exact hsent (sentRescue leg now) rfl
    | false =>
      rw [if_neg Bool.false_ne_true]
      by_cases hoff : ¬ (l.record i).inTransit = true ∨ (l.record i).transitLeg ≠ leg
      · rw [if_pos hoff]
        rfl
      · rw [if_neg hoff]
        exact hsent (sentNormal leg now) rfl

theorem sendCount_applyOp (hseq : seq < l.nextSequence) (op : LedgerOp) :
    ((l.applyOp op).record seq).sendCount =
      (l.record seq).sendCount + (l.sentBy op).count seq := by
  have hkeep : (∀ f ∈ op.edits, ∀ r, (f r).sendCount = r.sendCount) →
      ((l.applyOp op).record seq).sendCount = (l.record seq).sendCount := by
    intro hedit
    refine keeps_record_applyOp (P := fun r => r.sendCount = (l.record seq).sendCount) hseq ?_ rfl
    exact fun f hf r hr => (hedit f hf r).trans hr
  cases op with
  | markAttemptSent i leg rescue now => exact sendCount_markAttemptSent i leg rescue now
  | add payload now isLocal => exact hkeep fun f hf => nomatch hf
  | clearAttemptAt i leg rescue started =>
    refine hkeep fun f hf r => ?_
    rcases mem_pair.1 hf with rfl | rfl <;> rfl
  | invalidateLeg leg =>
    refine hkeep fun f hf r => ?_
    rw [mem_singleton.1 hf]
    exact invalidateRecord_sendCount leg r
  | _ =>
    refine hkeep fun f hf r => ?_
    cases mem_singleton.1 hf
    rfl

theorem granted_inv {op : LedgerOp} {c : Claim} (h : l.granted op = some c) :
    (c.rescue = false ∧ l.markTransit c.seq c.leg c.since = some (l.applyOp op)) ∨
      (c.rescue = true ∧ l.markRescueTransitLocked c.seq c.leg c.since = some (l.applyOp op)) := by
  cases op with
  | markTransit i leg now =>
    obtain ⟨hsome, heq⟩ := ite_none_right_eq_some.1 h
    obtain ⟨l', hl'⟩ := isSome_iff_exists.1 hsome
    cases heq
    exact .inl ⟨rfl, by rw [applyOp, hl', getD_some]⟩
  | markRescueTransit i leg now =>
    obtain ⟨hsome, heq⟩ := ite_none_right_eq_some.1 h
    obtain ⟨l', hl'⟩ := isSome_iff_exists.1 hsome
    cases heq
    rw [applyOp, hl']
    exact .inr ⟨rfl, hl'⟩
  | markRestrictedRescueTransit i leg owner now =>
    obtain ⟨hsome, heq⟩ := ite_none_right_eq_some.1 h
    obtain ⟨l', hl'⟩ := isSome_iff_exists.1 hsome
    cases heq
    rw [applyOp, hl']
    unfold markRestrictedRescueTransit at hl'
    split at hl'
    · cases hl'
    · exact .inr ⟨rfl, hl'⟩
  | _ => cases h

theorem granted_taken {op : LedgerOp} {c : Claim} (h : l.granted op = some c) :
    ClaimTaken l (l.applyOp op) c.seq c.leg c.rescue c.since := by
  rcases granted_inv h with ⟨hkind, hclaim⟩ | ⟨hkind, hclaim⟩
  · rw [hkind]
    exact markTransit_claims l hclaim
  · rw [hkind]
    exact markRescueTransitLocked_claims l hclaim

theorem applyOp_marks (op : LedgerOp) :
    (∀ c, l.granted op = some c → c.rescue = true →
      ((l.applyOp op).record c.seq).duplicated = true) ∧
    ∀ seq ∈ l.losing op, ((l.applyOp op).record seq).duplicated = true := by
  constructor
  · intro c hgrant hrescue
    rcases granted_inv hgrant with ⟨hkind, _⟩ | ⟨_, hclaim⟩
    · rw [hkind] at hrescue
      cases hrescue
    · obtain ⟨_, _, _, hnew⟩ := markRescueTransitLocked_eq_some_iff.mp hclaim
      rw [hnew, modifyRecord_record_self]
      rfl
  · intro seq hseq
    cases op with
    | invalidateLeg leg =>
      obtain ⟨hm, howner⟩ := mem_filter.1 hseq
      rw [applyOp, invalidateLeg]
      dsimp only
      rw [if_pos hm, invalidateRecord_duplicated]
      simp [of_decide_eq_true howner]
    | _ => cases hseq

theorem losing_mem {op : LedgerOp} (hseq : seq ∈ l.losing op) : seq ∈ l.outstanding := by
  cases op with
  | invalidateLeg leg => exact (mem_filter.1 hseq).1
  | _ => cases hseq

theorem sentBy_mem {op : LedgerOp} (hseq : seq ∈ l.sentBy op) : seq ∈ l.outstanding := by
  cases op with
  | markAttemptSent i leg rescue now =>
    rw [sentBy, mem_ite_nil_right, mem_singleton] at hseq
    obtain ⟨happlied, rfl⟩ := hseq
    by_contra hm
    rw [markAttemptSent, if_pos hm] at happlied
    cases happlied
  | _ => cases hseq

end Marks

section History

/-- A ledger and what happened to it. -/
structure History where
  ledger : StreamTXLedger
  /-- Claims granted so far. -/
  granted : List Claim
  /-- Claims that stood before an operation and not after it. -/
  ended : List Claim
  /-- Records of the applied sends. -/
  sent : List Nat
  /-- Records whose ordinary owner was invalidated while they were outstanding. -/
  ownerLost : List Nat

namespace History

def start (maxLegs : Nat) : History :=
  { ledger := newStreamTXLedger maxLegs, granted := [], ended := [], sent := [], ownerLost := [] }

def next (h : History) (op : LedgerOp) : History :=
  { ledger := h.ledger.applyOp op
    granted := h.granted ++ (h.ledger.granted op).toList
    ended := h.ended ++
      h.granted.filter fun c => decide (Live h.ledger c) && decide (¬ Live (h.ledger.applyOp op) c)
    sent := h.sent ++ h.ledger.sentBy op
    ownerLost := h.ownerLost ++ h.ledger.losing op }

/-- The history of a sequence of operations on a new ledger. -/
def after (maxLegs : Nat) (ops : List LedgerOp) : History :=
  ops.foldl next (start maxLegs)

/-- What holds of every history is what the start has and an operation keeps. -/
theorem after_induction {P : History → Prop} (maxLegs : Nat) (ops : List LedgerOp)
    (hstart : P (start maxLegs)) (hnext : ∀ h op, P h → P (h.next op)) : P (after maxLegs ops) := by
  unfold after
  generalize start maxLegs = h at hstart
  induction ops generalizing h with
  | nil => exact hstart
  | cons op ops ih => exact ih (h.next op) (hnext h op hstart)

/-- How a history agrees with its ledger. -/
structure Agrees (h : History) : Prop where
  wf : WellFormed h.ledger
  live_granted : ∀ c, Live h.ledger c → c ∈ h.granted
  ended_granted : ∀ c ∈ h.ended, c ∈ h.granted
  once : h.granted.Nodup → ∀ c ∈ h.granted,
    h.ended.count c = if Live h.ledger c then 0 else 1
  /-- The ledger's own count, and nothing was sent of a record not added yet. -/
  sent : ∀ seq < h.ledger.nextSequence, (h.ledger.record seq).sendCount = h.sent.count seq
  added : ∀ seq ∈ h.sent ++ h.granted.map Claim.seq ++ h.ownerLost, seq < h.ledger.nextSequence
  /-- A rescue and the loss of the owner mark the record for good. -/
  rescued : ∀ c ∈ h.granted, c.rescue = true → (h.ledger.record c.seq).duplicated = true
  lost : ∀ seq ∈ h.ownerLost, (h.ledger.record seq).duplicated = true

variable {h : History}

theorem agrees_start (maxLegs : Nat) : Agrees (start maxLegs) where
  wf := WellFormed.new maxLegs
  live_granted c hc := by simp [Live, start, newStreamTXLedger] at hc
  ended_granted c hc := by cases hc
  once _ c hc := by cases hc
  sent seq hseq := by cases hseq
  added seq hseq := by cases hseq
  rescued c hc := by cases hc
  lost seq hseq := by cases hseq

theorem Agrees.granted_lt (hagree : Agrees h) {c : Claim} (hc : c ∈ h.granted) :
    c.seq < h.ledger.nextSequence :=
  hagree.added c.seq
    (mem_append_left _ (mem_append_right _ (mem_map_of_mem hc)))

/-- A claim that is granted again is a claim of another attempt. -/
theorem Agrees.count_ended (hagree : Agrees h) (op : LedgerOp) {c : Claim}
    (hdistinct : (h.next op).granted.Nodup) (hc : c ∈ (h.next op).granted) :
    (h.next op).ended.count c = if Live (h.next op).ledger c then 0 else 1 := by
  have hlive := @live_applyOp h.ledger c hagree.wf op
  obtain ⟨hold, _, hfresh⟩ := nodup_append.1 hdistinct
  have hsplit : (h.next op).ended.count c = h.ended.count c +
      (h.granted.filter fun c => decide (Live h.ledger c) &&
        decide (¬ Live (h.ledger.applyOp op) c)).count c :=
    count_append
  rw [hsplit]
  rcases mem_append.1 hc with hc | hc
  · -- a claim granted before: it ends now if it stood and does not any more
    have hnew : h.ledger.granted op ≠ some c := fun hgrant =>
      hfresh c hc c (by simp [hgrant]) rfl
    have honce := hagree.once hold c hc
    have hone : h.granted.count c = 1 := count_eq_one_of_mem hold hc
    by_cases hbefore : Live h.ledger c
    · rw [if_pos hbefore] at honce
      by_cases hafter : Live (h.ledger.applyOp op) c
      · rw [honce, count_eq_zero_of_not_mem (by simp [hafter])]
        exact (if_pos hafter).symm
      · rw [honce, count_filter (by simp [hbefore, hafter]), hone]
        exact (if_neg hafter).symm
    · have hafter : ¬ Live (h.ledger.applyOp op) c := fun hafter =>
        (hlive.1 hafter).elim hnew fun hkept => hbefore hkept.1
      rw [if_neg hbefore] at honce
      rw [honce, count_eq_zero_of_not_mem (by simp [hbefore])]
      exact (if_neg hafter).symm
  · -- the claim granted now
    have hgrant : h.ledger.granted op = some c := by simpa using hc
    have hnot : c ∉ h.granted := fun hm => hfresh c hm c hc rfl
    rw [count_eq_zero_of_not_mem fun hm => hnot (hagree.ended_granted c hm),
      count_eq_zero_of_not_mem fun hm => hnot (mem_filter.1 hm).1]
    exact (if_pos (hlive.2 (.inl hgrant))).symm

theorem agrees_next (hagree : Agrees h) (op : LedgerOp) : Agrees (h.next op) where
  wf := hagree.wf.applyOp op
  live_granted c hc := by
    rcases (live_applyOp hagree.wf op).1 hc with hgrant | ⟨hbefore, _⟩
    · exact mem_append_right _ (by simp [hgrant])
    · exact mem_append_left _ (hagree.live_granted c hbefore)
  ended_granted c hc := by
    refine mem_append_left _ ?_
    rcases mem_append.1 hc with hc | hc
    · exact hagree.ended_granted c hc
    · exact (mem_filter.1 hc).1
  once hdistinct c hc := hagree.count_ended op hdistinct hc
  sent seq hseq := by
    have hcount : (h.next op).sent.count seq = h.sent.count seq + (h.ledger.sentBy op).count seq :=
      count_append
    rw [hcount]
    by_cases hold : seq < h.ledger.nextSequence
    · rw [← hagree.sent seq hold]
      exact sendCount_applyOp hold op
    · -- the record just added
      rcases applyOp_nextSequence h.ledger op with hnext | ⟨hnext, hempty⟩
      · exact absurd (hnext ▸ hseq) hold
      have hfirst : seq = h.ledger.nextSequence := by
        have : seq < h.ledger.nextSequence + 1 := hnext ▸ hseq
        omega
      have hzero : h.sent.count seq = 0 :=
        count_eq_zero_of_not_mem fun hm => hold (hagree.added seq (by simp [hm]))
      have hnone : (h.ledger.sentBy op).count seq = 0 :=
        count_eq_zero_of_not_mem fun hm =>
          hold ((hagree.wf.mem_iff seq).1 (sentBy_mem hm)).2
      rw [hzero, hnone, hfirst]
      exact hempty
  added seq hseq := by
    have hle : h.ledger.nextSequence ≤ (h.ledger.applyOp op).nextSequence := by
      rcases applyOp_nextSequence h.ledger op with hnext | ⟨hnext, _⟩ <;> omega
    have hm : ∀ {seq}, seq ∈ h.ledger.outstanding → seq < (h.next op).ledger.nextSequence :=
      fun hm => Nat.lt_of_lt_of_le ((hagree.wf.mem_iff _).1 hm).2 hle
    have hold : ∀ {seq}, seq ∈ h.sent ++ h.granted.map Claim.seq ++ h.ownerLost →
        seq < (h.next op).ledger.nextSequence :=
      fun hm => Nat.lt_of_lt_of_le (hagree.added _ hm) hle
    simp only [next, map_append, mem_append] at hseq
    rcases hseq with ((hseq | hseq) | hseq | hseq) | hseq | hseq
    · exact hold (by simp [hseq])
    · exact hm (sentBy_mem hseq)
    · exact hold (mem_append_left _ (mem_append_right _ hseq))
    · obtain ⟨c, hc, rfl⟩ := mem_map.1 hseq
      exact hm (granted_taken (by simpa using hc)).mem
    · exact hold (mem_append_right _ hseq)
    · exact hm (losing_mem hseq)
  rescued c hc hrescue := by
    rcases mem_append.1 hc with hc | hc
    · exact duplicated_applyOp (hagree.granted_lt hc) op (hagree.rescued c hc hrescue)
    · exact (applyOp_marks op).1 c (by simpa using hc) hrescue
  lost seq hseq := by
    rcases mem_append.1 hseq with hseq | hseq
    · exact duplicated_applyOp (hagree.added seq (mem_append_right _ hseq)) op
        (hagree.lost seq hseq)
    · exact (applyOp_marks op).2 seq hseq

theorem agrees_after (maxLegs : Nat) (ops : List LedgerOp) : Agrees (after maxLegs ops) :=
  after_induction maxLegs ops (agrees_start maxLegs) fun _ op hagree => agrees_next hagree op

end History

end History

section Retired

variable {l l' : StreamTXLedger} {seq : Nat}

/-- The record that an operation is handed a pointer to. -/
def LedgerOp.pointer : LedgerOp → Option Nat
  | .add .. | .invalidateLeg _ | .applyACK .. => none
  | .finishLocalEnqueue i | .markTransit i .. | .markRescueTransit i ..
  | .markRestrictedRescueTransit i .. | .markRescueQueued i .. | .clearAttemptAt i ..
  | .markAttemptSent i .. | .markOrdinaryAdmitted i _ | .assignOrdinary i .. | .markWriteStarted i ..
  | .setOrigin i .. | .storeRecoveryProbeWriteStartedAt i _ => some i

/-- The records, the outstanding ones and both frontiers are the same up to the local phase and the
probe time of one record, and the per-leg slices up to their width.  It leaves open `maxLegs`,
`futureACKCount` and `lastACKProgress`. -/
structure SameButMarks (seq : Nat) (l l' : StreamTXLedger) : Prop where
  records : ∃ phase probe, SameRecords (l.modifyRecord seq fun r =>
    { r with localEnqueue := phase, recoveryProbeWriteStartedAt := probe }) l'
  slice : ∀ c : Counter, ∃ n, c.slice l' = c.slice l ++ List.replicate n 0

theorem SameButMarks.of_sameRecords (h : SameRecords l l')
    (hslice : ∀ c : Counter, ∃ n, c.slice l' = c.slice l ++ List.replicate n 0) :
    SameButMarks seq l l' := by
  refine ⟨⟨(l.record seq).localEnqueue, (l.record seq).recoveryProbeWriteStartedAt, ?_⟩, hslice⟩
  have hrecord : l'.record = Function.update l.record seq (l.record seq) := by
    rw [Function.update_eq_self, h.record]
  exact ⟨h.next, h.acked, h.outstanding, hrecord⟩

theorem slice_ensureLocked (l : StreamTXLedger) (c : Counter) :
    ∃ n, c.slice l.ensureLocked = c.slice l ++ List.replicate n 0 := by
  unfold ensureLocked
  dsimp only
  split
  · cases c <;> exact ⟨_, rfl⟩
  · refine ⟨0, ?_⟩
    cases c <;> simp [Counter.slice]

theorem slice_ensureLegLocked {id : LegID} (h : l.ensureLegLocked id = some l') (c : Counter) :
    ∃ n, c.slice l' = c.slice l ++ List.replicate n 0 := by
  obtain ⟨n, hn⟩ := slice_ensureLocked l c
  unfold ensureLegLocked at h
  dsimp only at h
  split_ifs at h
  · cases h
    exact ⟨n, hn⟩
  · cases h
    refine ⟨n + (id + 1 - l.ensureLocked.ordinaryFrames.length), ?_⟩
    rw [← replicate_append_replicate, ← append_assoc, ← hn]
    cases c <;> rfl
  · cases h
    refine ⟨n, hn ▸ ?_⟩
    cases c <;> rfl

/-- What an operation may do through a pointer to a retired record: the operations on attempts
and origins nothing, the others nothing to an attempt or another record. -/
def RetiredKept (seq : Nat) (l : StreamTXLedger) (op : LedgerOp) : Prop :=
  match op with
  | .finishLocalEnqueue _ | .storeRecoveryProbeWriteStartedAt .. | .markOrdinaryAdmitted ..
  | .assignOrdinary .. => SameButMarks seq l (l.applyOp op)
  | _ => l.applyOp op = l

theorem applyOp_retired (hret : seq ∉ l.outstanding) {op : LedgerOp}
    (hptr : op.pointer = some seq) : RetiredKept seq l op := by
  cases op with
  | add payload now isLocal | invalidateLeg leg | applyACK next now => cases hptr
  | finishLocalEnqueue i =>
    cases hptr
    exact ⟨⟨false, (l.record seq).recoveryProbeWriteStartedAt, rfl, rfl, rfl, rfl⟩,
      fun c => ⟨0, by cases c <;> simp [Counter.slice, applyOp, finishLocalEnqueue, modifyRecord]⟩⟩
  | storeRecoveryProbeWriteStartedAt i startedAt =>
    cases hptr
    exact ⟨⟨(l.record seq).localEnqueue, startedAt, rfl, rfl, rfl, rfl⟩, fun c => ⟨0, by
      cases c <;>
        simp [Counter.slice, applyOp, storeRecoveryProbeWriteStartedAt, modifyRecord]⟩⟩
  | markOrdinaryAdmitted i id =>
    cases hptr
    dsimp only [RetiredKept, applyOp]
    unfold markOrdinaryAdmitted
    split
    · exact .of_sameRecords (ensureLocked_sameRecords l) (slice_ensureLocked l)
    · next l₁ hleg =>
      have hsame := ensureLegLocked_sameRecords hleg
      dsimp only
      rw [if_pos (.inl (by rwa [hsame.outstanding]))]
      exact .of_sameRecords hsame (slice_ensureLegLocked hleg)
  | assignOrdinary i id now =>
    cases hptr
    dsimp only [RetiredKept, applyOp]
    unfold assignOrdinary
    split
    · exact .of_sameRecords (ensureLocked_sameRecords l) (slice_ensureLocked l)
    · next l₁ hleg =>
      have hsame := ensureLegLocked_sameRecords hleg
      dsimp only
      rw [if_pos (by rwa [hsame.outstanding])]
      exact .of_sameRecords hsame (slice_ensureLegLocked hleg)
  | markTransit i leg now =>
    cases hptr
    simp [RetiredKept, applyOp, markTransit, hret]
  | markRescueTransit i leg now =>
    cases hptr
    simp [RetiredKept, applyOp, markRescueTransit, markRescueTransitLocked, hret]
  | markRestrictedRescueTransit i leg owner now =>
    cases hptr
    simp [RetiredKept, applyOp, markRestrictedRescueTransit, markRescueTransitLocked, hret]
  | markRescueQueued i leg started =>
    cases hptr
    simp [RetiredKept, applyOp, markRescueQueued, hret]
  | clearAttemptAt i leg rescue started =>
    cases hptr
    simp [RetiredKept, applyOp, clearAttemptAt, hret]
  | markAttemptSent i leg rescue now =>
    cases hptr
    simp [RetiredKept, applyOp, markAttemptSent, hret]
  | markWriteStarted i leg rescue now =>
    cases hptr
    simp [RetiredKept, applyOp, markWriteStarted, hret]
  | setOrigin i generation epoch =>
    cases hptr
    simp [RetiredKept, applyOp, setOrigin, hret]

end Retired

section Consumed

/-- A rescue claim is not granted on the leg of the normal claim. -/
theorem granted_apart {l : StreamTXLedger} {op : LedgerOp} {c : Claim} (h : l.granted op = some c)
    (hrescue : c.rescue = true) (since : Time) : l.claim c.seq false ≠ some (c.leg, since) := by
  intro hnormal
  rcases granted_inv h with ⟨hkind, _⟩ | ⟨_, hclaim⟩
  · rw [hkind] at hrescue
    cases hrescue
  · obtain ⟨_, _, hidle, _⟩ := markRescueTransitLocked_eq_some_iff.mp hclaim
    unfold claim recordClaim at hnormal
    rw [if_neg Bool.false_ne_true] at hnormal
    obtain ⟨hon, heq⟩ := ite_none_right_eq_some.1 hnormal
    exact hidle ⟨hon, congrArg Prod.fst (Option.some.inj heq)⟩

/-- How the claims of a ledger come and go. -/
structure ConsumedOnce (h : History) : Prop where
  /-- One claim of each kind at most, and a new one only where there is none. -/
  one_each : ∀ c c', Live h.ledger c → Live h.ledger c' → c.seq = c'.seq →
    c.rescue = c'.rescue → c = c'
  grant_free : ∀ op c, h.ledger.granted op = some c → ∀ c', Live h.ledger c' →
    c'.seq = c.seq → c'.rescue ≠ c.rescue ∧ (c.rescue = true → c'.leg ≠ c.leg)
  /-- Exactly the listed operations end a claim, and only a grant begins one. -/
  ends : ∀ op c, Live (h.ledger.applyOp op) c ↔
    h.ledger.granted op = some c ∨ (Live h.ledger c ∧ ¬ Ends h.ledger c op)
  /-- Every claim granted stands or has ended once. -/
  once : (h.granted.map Claim.since).Nodup → ∀ c ∈ h.granted,
    h.ended.count c = if Live h.ledger c then 0 else 1
  /-- A clear with the timestamp of another attempt ends no claim. -/
  stale : (h.granted.map Claim.since).Nodup → ∀ old ∈ h.granted, ∀ c, Live h.ledger c →
    old ≠ c → old.since ≠ 0 → ∀ seq leg rescue,
      Live (h.ledger.applyOp (.clearAttemptAt seq leg rescue old.since)) c
  /-- The counter, a `uint32` in the source, is the number of applied sends until that wraps. -/
  sends : ∀ seq < h.ledger.nextSequence, h.sent.count seq < 2 ^ 32 →
    (h.ledger.record seq).sendCount = h.sent.count seq
  /-- A pointer to a retired record is good for its local phase and its probe time only. -/
  retired : ∀ (op : LedgerOp) (seq : Nat), op.pointer = some seq →
    seq ∉ h.ledger.outstanding → RetiredKept seq h.ledger op

/-- Every claim is taken at most once at a time and consumed exactly once, whatever the
operations. -/
theorem attempts_consumed_once
    (maxLegs : Nat)
    (ops : List LedgerOp) :
    ConsumedOnce (History.after maxLegs ops) := by
  have hagree := History.agrees_after maxLegs ops
  generalize History.after maxLegs ops = h at hagree
  refine ⟨?_, ?_, fun op c => live_applyOp hagree.wf op, ?_, ?_,
    fun seq hseq _ => hagree.sent seq hseq, fun op seq hptr hret => applyOp_retired hret hptr⟩
  · rintro ⟨seq, rescue, leg, since⟩ ⟨seq', rescue', leg', since'⟩ hc hc' hseq hrescue
    dsimp only at hseq hrescue
    subst hseq hrescue
    have heq := hc.2.symm.trans hc'.2
    cases heq
    rfl
  · intro op c hgrant c' hc' hseq
    have hkind : c'.rescue ≠ c.rescue := by
      intro hkind
      have heq := hc'.2
      rw [hseq, hkind, (granted_taken hgrant).free] at heq
      cases heq
    refine ⟨hkind, fun hrescue hleg => granted_apart hgrant hrescue c'.since ?_⟩
    have hnormal : c'.rescue = false := by
      rw [hrescue] at hkind
      simpa using hkind
    rw [← hleg, ← hnormal, ← hseq]
    exact hc'.2
  · intro hdistinct
    exact hagree.once hdistinct.of_map
  · intro hdistinct old hold c hc hne hzero seq leg rescue
    refine (live_applyOp hagree.wf _).2 (.inr ⟨hc, ?_⟩)
    rintro ⟨_, hstarted | hstarted⟩
    · exact hzero hstarted
    · exact hne (inj_on_of_nodup_map hdistinct hold (hagree.live_granted c hc) hstarted)

/-- A rescue and then a normal claim on the same leg, and a record that its producer still
writes to after the acknowledgement. -/
theorem normal_claim_joins_rescue :
    let joined := History.after 2 [.add [7] 1 true, .markRescueTransit 0 1 2]
    let retired := History.after 2 [.add [7] 1 true, .markTransit 0 1 2, .applyACK 1 3]
    Live joined.ledger ⟨0, true, 1, 2⟩ ∧
      joined.ledger.granted (.markTransit 0 1 3) = some ⟨0, false, 1, 3⟩ ∧
      Live (joined.ledger.applyOp (.markTransit 0 1 3)) ⟨0, true, 1, 2⟩ ∧
      Live (joined.ledger.applyOp (.markTransit 0 1 3)) ⟨0, false, 1, 3⟩ ∧
      0 ∉ retired.ledger.outstanding ∧
      (retired.ledger.record 0).localEnqueue = true ∧
      ((retired.ledger.applyOp (.finishLocalEnqueue 0)).record 0).localEnqueue = false := by
  decide

end Consumed

end Smp3Multipath.Core.StreamTXLedger

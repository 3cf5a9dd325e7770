import Smp3Multipath.Core.StreamTx

/-!
# What each ledger operation leaves unchanged

The stream view of a ledger is its sequencing (`nextSequence`, `ackedNext`,
`outstanding`) and the payload of every record.  Only `add` and `applyACK`
change it.  `LedgerOp` lists every operation that mutates a ledger, so that a
statement about all interleavings quantifies over lists of `LedgerOp`.
-/

namespace Smp3Multipath.Core.StreamTXLedger

open Function List

section Fields

variable (l : StreamTXLedger)

theorem modifyRecord_record (seq i : Nat) (f : StreamTXRecord → StreamTXRecord) :
    (l.modifyRecord seq f).record i =
      if i = seq then f (l.record seq) else l.record i := by
  simp only [modifyRecord, update_apply]

@[simp] theorem modifyRecord_record_self (seq : Nat) (f : StreamTXRecord → StreamTXRecord) :
    (l.modifyRecord seq f).record seq = f (l.record seq) := by
  simp [modifyRecord_record]

theorem modifyRecord_record_of_ne {seq i : Nat} (h : i ≠ seq)
    (f : StreamTXRecord → StreamTXRecord) : (l.modifyRecord seq f).record i = l.record i := by
  simp [modifyRecord_record, h]

@[simp] theorem ensureLocked_nextSequence : l.ensureLocked.nextSequence = l.nextSequence := by
  unfold ensureLocked
  dsimp only
  split <;> rfl

@[simp] theorem ensureLocked_ackedNext : l.ensureLocked.ackedNext = l.ackedNext := by
  unfold ensureLocked
  dsimp only
  split <;> rfl

@[simp] theorem ensureLocked_outstanding : l.ensureLocked.outstanding = l.outstanding := by
  unfold ensureLocked
  dsimp only
  split <;> rfl

@[simp] theorem ensureLocked_record : l.ensureLocked.record = l.record := by
  unfold ensureLocked
  dsimp only
  split <;> rfl

end Fields

/-- The two ledgers agree on sequencing and on the whole record heap. -/
structure SameRecords (l l' : StreamTXLedger) : Prop where
  next : l'.nextSequence = l.nextSequence
  acked : l'.ackedNext = l.ackedNext
  outstanding : l'.outstanding = l.outstanding
  record : l'.record = l.record

theorem ensureLocked_sameRecords (l : StreamTXLedger) : SameRecords l l.ensureLocked :=
  ⟨by simp, by simp, by simp, by simp⟩

theorem ensureLegLocked_sameRecords {l l' : StreamTXLedger} {id : LegID}
    (h : l.ensureLegLocked id = some l') : SameRecords l l' := by
  unfold ensureLegLocked at h
  dsimp only at h
  split_ifs at h <;>
    · cases h
      exact ⟨by simp, by simp, by simp, by simp⟩

/-- The two ledgers agree on sequencing and on every payload. -/
structure SameStream (l l' : StreamTXLedger) : Prop where
  next : l'.nextSequence = l.nextSequence
  acked : l'.ackedNext = l.ackedNext
  outstanding : l'.outstanding = l.outstanding
  payload : ∀ seq, (l'.record seq).payload = (l.record seq).payload

namespace SameStream

theorem refl (l : StreamTXLedger) : SameStream l l :=
  ⟨rfl, rfl, rfl, fun _ => rfl⟩

theorem trans {l l' l'' : StreamTXLedger} (h : SameStream l l') (h' : SameStream l' l'') :
    SameStream l l'' where
  next := h'.next.trans h.next
  acked := h'.acked.trans h.acked
  outstanding := h'.outstanding.trans h.outstanding
  payload seq := (h'.payload seq).trans (h.payload seq)

theorem of_sameRecords {l l' : StreamTXLedger} (h : SameRecords l l') : SameStream l l' :=
  ⟨h.next, h.acked, h.outstanding, fun seq => by rw [h.record]⟩

theorem modifyRecord (l : StreamTXLedger) (seq : Nat) {f : StreamTXRecord → StreamTXRecord}
    (hf : ∀ r, (f r).payload = r.payload) : SameStream l (l.modifyRecord seq f) := by
  refine ⟨rfl, rfl, rfl, fun i => ?_⟩
  rw [modifyRecord_record]
  split
  · next h => rw [hf, h]
  · rfl

end SameStream

/-- Every operation that mutates a ledger, with its arguments. -/
inductive LedgerOp where
  | add (payload : List UInt8) (now : Time) (isLocal : Bool)
  | finishLocalEnqueue (seq : Nat)
  | markTransit (seq : Nat) (leg : LegID) (now : Time)
  | markRescueTransit (seq : Nat) (leg : LegID) (now : Time)
  | markRestrictedRescueTransit (seq : Nat) (leg : LegID) (owner : Int) (now : Time)
  | markRescueQueued (seq : Nat) (leg : LegID) (started : Time)
  | clearAttemptAt (seq : Nat) (leg : LegID) (rescue : Bool) (started : Time)
  | markAttemptSent (seq : Nat) (leg : LegID) (rescue : Bool) (now : Time)
  | invalidateLeg (leg : LegID)
  | markOrdinaryAdmitted (seq : Nat) (id : LegID)
  | assignOrdinary (seq : Nat) (id : LegID) (now : Time)
  | markWriteStarted (seq : Nat) (leg : LegID) (rescue : Bool) (now : Time)
  | setOrigin (seq generation : Nat) (epoch : Time)
  | storeRecoveryProbeWriteStartedAt (seq : Nat) (startedAt : Option Time)
  | applyACK (next : Nat) (now : Time)
deriving DecidableEq

/-- The ledger after one operation; a refused claim changes nothing. -/
def applyOp (l : StreamTXLedger) : LedgerOp → StreamTXLedger
  | .add payload now isLocal => (l.add payload now isLocal).1
  | .finishLocalEnqueue seq => l.finishLocalEnqueue seq
  | .markTransit seq leg now => (l.markTransit seq leg now).getD l
  | .markRescueTransit seq leg now => (l.markRescueTransit seq leg now).getD l
  | .markRestrictedRescueTransit seq leg owner now =>
    (l.markRestrictedRescueTransit seq leg owner now).getD l
  | .markRescueQueued seq leg started => (l.markRescueQueued seq leg started).getD l
  | .clearAttemptAt seq leg rescue started => l.clearAttemptAt seq leg rescue started
  | .markAttemptSent seq leg rescue now => (l.markAttemptSent seq leg rescue now).1
  | .invalidateLeg leg => l.invalidateLeg leg
  | .markOrdinaryAdmitted seq id => l.markOrdinaryAdmitted seq id
  | .assignOrdinary seq id now => (l.assignOrdinary seq id now).1
  | .markWriteStarted seq leg rescue now => l.markWriteStarted seq leg rescue now
  | .setOrigin seq generation epoch => l.setOrigin seq generation epoch
  | .storeRecoveryProbeWriteStartedAt seq startedAt =>
    l.storeRecoveryProbeWriteStartedAt seq startedAt
  | .applyACK next now => (l.applyACK next now).1

section Claims

variable {l l' : StreamTXLedger} {seq : Nat} {leg : LegID} {now : Time}

/-- What a granted normal claim is. -/
theorem markTransit_eq_some_iff :
    l.markTransit seq leg now = some l' ↔
      seq ∈ l.outstanding ∧ (l.record seq).inTransit = false ∧
        l' = l.modifyRecord seq (claimNormal leg now) := by
  unfold markTransit
  split_ifs with h
  · constructor
    · intro hnone
      cases hnone
    · rintro ⟨hm, hfree, _⟩
      rcases h with h | h
      · exact absurd hm h
      · simp [hfree] at h
  · push Not at h
    constructor
    · intro hsome
      exact ⟨h.1, by simpa using h.2, (Option.some.inj hsome).symm⟩
    · rintro ⟨_, _, rfl⟩
      rfl

theorem markRescueTransitLocked_eq_some_iff :
    l.markRescueTransitLocked seq leg now = some l' ↔
      seq ∈ l.outstanding ∧ (l.record seq).rescueInTransit = false ∧
        ¬ ((l.record seq).inTransit = true ∧ (l.record seq).transitLeg = leg) ∧
        l' = l.modifyRecord seq (claimRescue leg now) := by
  unfold markRescueTransitLocked
  split_ifs with h hsame
  · constructor
    · intro hnone
      cases hnone
    · rintro ⟨hm, hfree, _, _⟩
      rcases h with h | h
      · exact absurd hm h
      · simp [hfree] at h
  · constructor
    · intro hnone
      cases hnone
    · rintro ⟨_, _, hne, _⟩
      exact absurd hsame hne
  · push Not at h
    constructor
    · intro hsome
      exact ⟨h.1, by simpa using h.2, hsame, (Option.some.inj hsome).symm⟩
    · rintro ⟨_, _, _, rfl⟩
      rfl

end Claims

section Stream

variable (l : StreamTXLedger)

theorem getD_sameStream {o : Option StreamTXLedger} (h : ∀ l', o = some l' → SameStream l l') :
    SameStream l (o.getD l) := by
  cases o with
  | none => exact SameStream.refl l
  | some l' => exact h l' rfl

theorem finishLocalEnqueue_sameStream (seq : Nat) : SameStream l (l.finishLocalEnqueue seq) := by
  apply SameStream.modifyRecord
  intro r
  rfl

theorem storeRecoveryProbeWriteStartedAt_sameStream (seq : Nat) (startedAt : Option Time) :
    SameStream l (l.storeRecoveryProbeWriteStartedAt seq startedAt) := by
  apply SameStream.modifyRecord
  intro r
  rfl

theorem markTransit_sameStream (seq : Nat) (leg : LegID) (now : Time) :
    SameStream l ((l.markTransit seq leg now).getD l) := by
  refine getD_sameStream l fun l' h => ?_
  obtain ⟨_, _, rfl⟩ := markTransit_eq_some_iff.1 h
  exact SameStream.modifyRecord l seq fun _ => rfl

theorem markRescueTransit_sameStream (seq : Nat) (leg : LegID) (now : Time) :
    SameStream l ((l.markRescueTransit seq leg now).getD l) := by
  refine getD_sameStream l fun l' h => ?_
  obtain ⟨_, _, _, rfl⟩ := markRescueTransitLocked_eq_some_iff.1 h
  exact SameStream.modifyRecord l seq fun _ => rfl

theorem markRestrictedRescueTransit_sameStream (seq : Nat) (leg : LegID) (owner : Int)
    (now : Time) : SameStream l ((l.markRestrictedRescueTransit seq leg owner now).getD l) := by
  unfold markRestrictedRescueTransit
  split
  · exact SameStream.refl l
  · exact markRescueTransit_sameStream l seq leg now

theorem markRescueQueued_sameStream (seq : Nat) (leg : LegID) (started : Time) :
    SameStream l ((l.markRescueQueued seq leg started).getD l) := by
  refine getD_sameStream l fun l' h => ?_
  unfold markRescueQueued at h
  dsimp only at h
  split_ifs at h
  cases h
  exact SameStream.modifyRecord l seq fun _ => rfl

theorem clearAttemptAt_sameStream (seq : Nat) (leg : LegID) (rescue : Bool) (started : Time) :
    SameStream l (l.clearAttemptAt seq leg rescue started) := by
  unfold clearAttemptAt
  dsimp only
  split_ifs <;>
    first
    | exact SameStream.refl l
    | exact SameStream.modifyRecord l seq fun _ => rfl

theorem markAttemptSent_sameStream (seq : Nat) (leg : LegID) (rescue : Bool) (now : Time) :
    SameStream l (l.markAttemptSent seq leg rescue now).1 := by
  unfold markAttemptSent
  dsimp only
  split_ifs <;>
    first
    | exact SameStream.refl l
    | exact SameStream.modifyRecord l seq fun _ => rfl

theorem invalidateRecord_keeps {P : StreamTXRecord → Prop} (leg : LegID) {r : StreamTXRecord}
    (howner : ∀ r, P r → P { r with duplicated := true, invalidated := true })
    (hnormal : ∀ r, P r → P (dropNormalClaim r)) (hrescue : ∀ r, P r → P (dropRescueClaim r))
    (hsent : ∀ r, P r → P { r with lastSentLeg := -1 }) (h : P r) : P (invalidateRecord leg r) := by
  have hs : ∀ (c : Prop) [Decidable c] {r r' : StreamTXRecord}, P r → (P r → P r') →
      P (if c then r' else r) := by
    intro c _ r r' hr hr'
    split
    · exact hr' hr
    · exact hr
  have howned := hs (r.ordinaryOwner = (leg : Int)) h (howner r)
  exact hs _ (hs _ (hs _ howned (hnormal _)) (hrescue _)) (hsent _)

@[simp] theorem invalidateRecord_payload (leg : LegID) (r : StreamTXRecord) :
    (invalidateRecord leg r).payload = r.payload :=
  invalidateRecord_keeps (P := fun r' => r'.payload = r.payload) leg (fun _ h => h)
    (fun _ h => h) (fun _ h => h) (fun _ h => h) rfl

theorem invalidateLeg_sameStream (leg : LegID) : SameStream l (l.invalidateLeg leg) := by
  refine ⟨rfl, rfl, rfl, fun seq => ?_⟩
  simp only [invalidateLeg]
  split
  · exact invalidateRecord_payload leg (l.record seq)
  · rfl

theorem markOrdinaryAdmitted_spec (seq : Nat) (id : LegID) :
    SameRecords l (l.markOrdinaryAdmitted seq id) ∨
      SameRecords (l.modifyRecord seq fun r => { r with ordinaryAdmitted := true })
        (l.markOrdinaryAdmitted seq id) := by
  unfold markOrdinaryAdmitted
  split
  · exact .inl (ensureLocked_sameRecords l)
  · next l₁ h =>
    have h₁ : SameRecords l l₁ := ensureLegLocked_sameRecords h
    dsimp only
    split
    · exact .inl h₁
    · exact .inr ⟨h₁.next, h₁.acked, h₁.outstanding, by
        simp [modifyRecord, h₁.record]⟩

theorem markOrdinaryAdmitted_sameStream (seq : Nat) (id : LegID) :
    SameStream l (l.markOrdinaryAdmitted seq id) := by
  rcases markOrdinaryAdmitted_spec l seq id with h | h
  · exact SameStream.of_sameRecords h
  · have hmod : SameStream l
        (l.modifyRecord seq fun r => { r with ordinaryAdmitted := true }) :=
      SameStream.modifyRecord l seq fun _ => rfl
    exact hmod.trans (SameStream.of_sameRecords h)

theorem assignOrdinary_spec (seq : Nat) (id : LegID) (now : Time) :
    SameRecords l (l.assignOrdinary seq id now).1 ∨
      SameRecords (l.modifyRecord seq (takeOwner id now)) (l.assignOrdinary seq id now).1 := by
  unfold assignOrdinary
  split
  · exact .inl (ensureLocked_sameRecords l)
  · next l₁ h =>
    have h₁ : SameRecords l l₁ := ensureLegLocked_sameRecords h
    dsimp only
    split
    · exact .inl h₁
    · split
      · exact .inl h₁
      · right
        split <;>
          exact ⟨h₁.next, h₁.acked, h₁.outstanding, by
            simp [modifyRecord, chargeOrdinary, releaseOrdinary, h₁.record]⟩

theorem assignOrdinary_sameStream (seq : Nat) (id : LegID) (now : Time) :
    SameStream l (l.assignOrdinary seq id now).1 := by
  rcases assignOrdinary_spec l seq id now with h | h
  · exact SameStream.of_sameRecords h
  · have hmod : SameStream l (l.modifyRecord seq (takeOwner id now)) :=
      SameStream.modifyRecord l seq fun _ => rfl
    exact hmod.trans (SameStream.of_sameRecords h)

theorem markWriteStarted_sameStream (seq : Nat) (leg : LegID) (rescue : Bool) (now : Time) :
    SameStream l (l.markWriteStarted seq leg rescue now) := by
  unfold markWriteStarted
  dsimp only
  split
  · exact SameStream.modifyRecord l seq fun _ => rfl
  · exact SameStream.refl l

theorem setOrigin_sameStream (seq generation : Nat) (epoch : Time) :
    SameStream l (l.setOrigin seq generation epoch) := by
  unfold setOrigin
  split
  · exact SameStream.modifyRecord l seq fun _ => rfl
  · exact SameStream.refl l

end Stream

section Retirement

variable (now : Time) (head : Option StreamTXRecord)

theorem retireOne_spec (st : StreamTXLedger × StreamTXACKResult) (seq : Nat) :
    (retireOne now head st seq).1.nextSequence = st.1.nextSequence ∧
      (retireOne now head st seq).1.ackedNext = st.1.ackedNext ∧
      (retireOne now head st seq).1.record = st.1.record ∧
      (retireOne now head st seq).1.outstanding = st.1.outstanding.filter (· ≠ seq) := by
  unfold retireOne
  dsimp only
  by_cases hm : seq ∈ st.1.outstanding
  · rw [if_neg (not_not.2 hm)]
    split <;> exact ⟨rfl, rfl, rfl, rfl⟩
  · rw [if_pos hm]
    refine ⟨rfl, rfl, rfl, ?_⟩
    refine (filter_eq_self.2 fun i hi => ?_).symm
    simp only [ne_eq, decide_eq_true_eq]
    rintro rfl
    exact hm hi

theorem foldl_retireOne_spec (seqs : List Nat) (st : StreamTXLedger × StreamTXACKResult) :
    (seqs.foldl (retireOne now head) st).1.nextSequence = st.1.nextSequence ∧
      (seqs.foldl (retireOne now head) st).1.ackedNext = st.1.ackedNext ∧
      (seqs.foldl (retireOne now head) st).1.record = st.1.record ∧
      (seqs.foldl (retireOne now head) st).1.outstanding =
        st.1.outstanding.filter (· ∉ seqs) := by
  induction seqs generalizing st with
  | nil => simp
  | cons seq seqs ih =>
    obtain ⟨hnext, hacked, hrecord, hout⟩ := ih (retireOne now head st seq)
    obtain ⟨hnext', hacked', hrecord', hout'⟩ := retireOne_spec now head st seq
    rw [foldl_cons]
    refine ⟨hnext.trans hnext', hacked.trans hacked', hrecord.trans hrecord', ?_⟩
    rw [hout, hout', filter_filter]
    refine filter_congr fun i _ => ?_
    simp only [mem_cons, not_or, Bool.decide_and, ne_eq]
    exact Bool.and_comm _ _

variable (l : StreamTXLedger)

theorem exposeFrontier_spec :
    SameRecords l (l.exposeFrontier now) ∨
      SameRecords (l.modifyRecord l.ackedNext (stampFrontier now))
        (l.exposeFrontier now) := by
  unfold exposeFrontier
  split
  · exact .inr ⟨rfl, rfl, rfl, rfl⟩
  · exact .inl ⟨rfl, rfl, rfl, rfl⟩

theorem advanceACK_spec (next : Nat) :
    (l.advanceACK next now).1.nextSequence = l.nextSequence ∧
      (l.advanceACK next now).1.ackedNext = next ∧
      (l.advanceACK next now).1.outstanding =
        l.outstanding.filter (· ∉ List.range' l.ackedNext (next - l.ackedNext)) ∧
      ((l.advanceACK next now).1.record = l.record ∨
        (l.advanceACK next now).1.record = (l.modifyRecord next (stampFrontier now)).record) := by
  obtain ⟨hnext, _, hrecord, hout⟩ := foldl_retireOne_spec now l.ackHead
    (List.range' l.ackedNext (next - l.ackedNext)) (l, l.advancedResult next)
  rw [← retireThrough] at hnext hrecord hout
  unfold advanceACK
  generalize l.retireThrough next now = retired at hnext hrecord hout
  dsimp only at hnext hrecord hout ⊢
  rcases exposeFrontier_spec now { retired.1 with ackedNext := next } with h | h
  · split <;>
      exact ⟨h.next.trans hnext, h.acked, h.outstanding.trans hout,
        .inl (h.record.trans hrecord)⟩
  · have hrec := h.record.trans
      (show _ = (l.modifyRecord next (stampFrontier now)).record by
        simp only [modifyRecord, hrecord])
    split <;>
      exact ⟨h.next.trans hnext, h.acked, h.outstanding.trans hout, .inr hrec⟩

/-- An ACK either leaves the stream view alone or advances the frontier to `next`. -/
theorem applyACK_spec (next : Nat) :
    ((l.nextSequence < next ∨ next ≤ l.ackedNext) ∧ SameRecords l (l.applyACK next now).1) ∨
      (l.ackedNext < next ∧ next ≤ l.nextSequence ∧
        (l.applyACK next now).1.nextSequence = l.nextSequence ∧
        (l.applyACK next now).1.ackedNext = next ∧
        (l.applyACK next now).1.outstanding =
          l.outstanding.filter (· ∉ List.range' l.ackedNext (next - l.ackedNext)) ∧
        ((l.applyACK next now).1.record = l.record ∨
          (l.applyACK next now).1.record = (l.modifyRecord next (stampFrontier now)).record)) := by
  unfold applyACK
  dsimp only
  simp only [ensureLocked_nextSequence, ensureLocked_ackedNext]
  split
  · next hfuture =>
    exact .inl ⟨.inl hfuture, by simp, by simp, by simp, by simp⟩
  · next hfuture =>
    split
    · next hold =>
      exact .inl ⟨.inr hold, ensureLocked_sameRecords l⟩
    · next hold =>
      obtain ⟨hnext, hacked, hout, hrecord⟩ := advanceACK_spec now l.ensureLocked next
      simp only [ensureLocked_nextSequence, ensureLocked_ackedNext,
        ensureLocked_outstanding, ensureLocked_record, modifyRecord] at hnext hout hrecord
      exact .inr ⟨by omega, by omega, hnext, hacked, hout, hrecord⟩

end Retirement

section Stream

/-- The payloads added so far, in sequence order. -/
def payloads (l : StreamTXLedger) : List (List UInt8) :=
  (List.range l.nextSequence).map fun seq => (l.record seq).payload

variable {l l' : StreamTXLedger}

@[simp] theorem payloads_length : l.payloads.length = l.nextSequence := by
  simp [payloads]

theorem payloads_getElem? {seq : Nat} (h : seq < l.nextSequence) :
    l.payloads[seq]? = some (l.record seq).payload := by
  simp [payloads, h]

theorem SameStream.payloads_eq (h : SameStream l l') : l'.payloads = l.payloads := by
  simp only [payloads, h.next]
  exact map_congr_left fun seq _ => h.payload seq

theorem payloads_add (payload : List UInt8) (now : Time) (isLocal : Bool) :
    (l.add payload now isLocal).1.payloads = l.payloads ++ [payload] := by
  simp only [payloads, add, ensureLocked_nextSequence, ensureLocked_record,
    range_succ, map_append, map_cons, map_nil,
    update_self]
  congr 1
  refine map_congr_left fun seq hseq => ?_
  have hlt : seq < l.nextSequence := mem_range.1 hseq
  rw [update_of_ne (by omega)]

theorem applyACK_record_payload (next : Nat) (now : Time) (seq : Nat) :
    ((l.applyACK next now).1.record seq).payload = (l.record seq).payload := by
  rcases applyACK_spec now l next with ⟨_, h⟩ | ⟨_, _, _, _, _, h | h⟩
  · rw [h.record]
  · rw [h]
  · rw [h, modifyRecord_record]
    split
    · next heq => rw [heq, stampFrontier]
    · rfl

theorem applyACK_nextSequence (next : Nat) (now : Time) :
    (l.applyACK next now).1.nextSequence = l.nextSequence := by
  rcases applyACK_spec now l next with ⟨_, h⟩ | ⟨_, _, h, _⟩
  · exact h.next
  · exact h

theorem payloads_applyACK (next : Nat) (now : Time) :
    (l.applyACK next now).1.payloads = l.payloads := by
  simp only [payloads, applyACK_nextSequence]
  exact map_congr_left fun seq _ => applyACK_record_payload next now seq

/-- The representation invariant of the outstanding map. -/
structure WellFormed (l : StreamTXLedger) : Prop where
  acked_le : l.ackedNext ≤ l.nextSequence
  mem_iff : ∀ seq, seq ∈ l.outstanding ↔ l.ackedNext ≤ seq ∧ seq < l.nextSequence
  nodup : l.outstanding.Nodup

namespace WellFormed

theorem new (maxLegs : Nat) : WellFormed (newStreamTXLedger maxLegs) where
  acked_le := Nat.le_refl 0
  mem_iff seq := by simp [newStreamTXLedger]
  nodup := nodup_nil

theorem of_sameStream (hwf : WellFormed l) (h : SameStream l l') : WellFormed l' where
  acked_le := by rw [h.acked, h.next]; exact hwf.acked_le
  mem_iff seq := by rw [h.outstanding, h.acked, h.next]; exact hwf.mem_iff seq
  nodup := by rw [h.outstanding]; exact hwf.nodup

theorem add (hwf : WellFormed l) (payload : List UInt8) (now : Time) (isLocal : Bool) :
    WellFormed (l.add payload now isLocal).1 where
  acked_le := by
    have := hwf.acked_le
    simp only [StreamTXLedger.add, ensureLocked_ackedNext, ensureLocked_nextSequence]
    omega
  mem_iff seq := by
    have hle := hwf.acked_le
    simp only [StreamTXLedger.add, ensureLocked_ackedNext, ensureLocked_nextSequence,
      ensureLocked_outstanding, mem_insert_iff, hwf.mem_iff]
    omega
  nodup := by
    simp only [StreamTXLedger.add, ensureLocked_outstanding]
    exact List.Nodup.insert hwf.nodup

theorem applyACK (hwf : WellFormed l) (next : Nat) (now : Time) :
    WellFormed (l.applyACK next now).1 := by
  rcases applyACK_spec now l next with ⟨_, h⟩ | ⟨hlt, hle, hnext, hacked, hout, _⟩
  · exact hwf.of_sameStream (SameStream.of_sameRecords h)
  · refine ⟨by omega, fun seq => ?_, ?_⟩
    · rw [hout, hnext, hacked, mem_filter, hwf.mem_iff]
      simp only [decide_not, Bool.not_eq_eq_eq_not, Bool.not_true, decide_eq_false_iff_not,
        mem_range'_1]
      omega
    · rw [hout]
      exact hwf.nodup.filter _

theorem outstanding_eq_nil_iff (hwf : WellFormed l) :
    l.outstanding = [] ↔ l.ackedNext = l.nextSequence := by
  have hle := hwf.acked_le
  rw [eq_nil_iff_forall_not_mem]
  constructor
  · intro h
    have hfront := h l.ackedNext
    rw [hwf.mem_iff] at hfront
    omega
  · intro h seq
    rw [hwf.mem_iff]
    omega

end WellFormed

theorem retireOne_released (now : Time) (head : Option StreamTXRecord)
    {st : StreamTXLedger × StreamTXACKResult} {seq : Nat} (hm : seq ∈ st.1.outstanding) :
    (retireOne now head st seq).2.released = st.2.released + 1 := by
  unfold retireOne
  dsimp only
  rw [if_neg (not_not.2 hm)]
  split <;> rfl

theorem foldl_retireOne_released (now : Time) (head : Option StreamTXRecord) {seqs : List Nat}
    {st : StreamTXLedger × StreamTXACKResult} (hnodup : seqs.Nodup)
    (hm : ∀ seq ∈ seqs, seq ∈ st.1.outstanding) :
    (seqs.foldl (retireOne now head) st).2.released = st.2.released + seqs.length := by
  induction seqs generalizing st with
  | nil => rfl
  | cons seq seqs ih =>
    obtain ⟨hnotMem, hnodup⟩ := nodup_cons.1 hnodup
    have hone := retireOne_released now head (hm seq mem_cons_self)
    obtain ⟨_, _, _, hout⟩ := retireOne_spec now head st seq
    -- retiring `seq` leaves the later sequences outstanding
    have hrest : ∀ i ∈ seqs, i ∈ (retireOne now head st seq).1.outstanding := by
      intro i hi
      rw [hout, mem_filter]
      refine ⟨hm i (mem_cons_of_mem _ hi), ?_⟩
      simp only [ne_eq, decide_eq_true_eq]
      rintro rfl
      exact hnotMem hi
    rw [foldl_cons, ih hnodup hrest, hone, length_cons]
    omega

theorem applyACK_released (hwf : WellFormed l) {next : Nat} (now : Time)
    (hlt : l.ackedNext < next) (hle : next ≤ l.nextSequence) :
    (l.applyACK next now).2.released = next - l.ackedNext := by
  have hm : ∀ seq ∈ List.range' l.ackedNext (next - l.ackedNext),
      seq ∈ l.ensureLocked.outstanding := by
    intro seq hseq
    rw [mem_range'_1] at hseq
    rw [ensureLocked_outstanding, hwf.mem_iff]
    omega
  have hfold := @foldl_retireOne_released now l.ensureLocked.ackHead _
    (l.ensureLocked, l.ensureLocked.advancedResult next) nodup_range' hm
  have hthrough : (l.ensureLocked.retireThrough next now).2.released = next - l.ackedNext := by
    simpa [retireThrough, advancedResult] using hfold
  unfold applyACK
  dsimp only
  rw [ensureLocked_nextSequence, ensureLocked_ackedNext, if_neg (by omega), if_neg (by omega)]
  unfold advanceACK
  dsimp only
  split <;> exact hthrough

theorem applyOp_sameStream (l : StreamTXLedger) (op : LedgerOp)
    (hadd : ∀ payload now isLocal, op ≠ .add payload now isLocal)
    (hack : ∀ next now, op ≠ .applyACK next now) : SameStream l (l.applyOp op) := by
  cases op with
  | add payload now isLocal => exact absurd rfl (hadd payload now isLocal)
  | applyACK next now => exact absurd rfl (hack next now)
  | finishLocalEnqueue seq => exact finishLocalEnqueue_sameStream l seq
  | storeRecoveryProbeWriteStartedAt seq startedAt =>
    exact storeRecoveryProbeWriteStartedAt_sameStream l seq startedAt
  | markTransit seq leg now => exact markTransit_sameStream l seq leg now
  | markRescueTransit seq leg now => exact markRescueTransit_sameStream l seq leg now
  | markRestrictedRescueTransit seq leg owner now =>
    exact markRestrictedRescueTransit_sameStream l seq leg owner now
  | markRescueQueued seq leg started => exact markRescueQueued_sameStream l seq leg started
  | clearAttemptAt seq leg rescue started =>
    exact clearAttemptAt_sameStream l seq leg rescue started
  | markAttemptSent seq leg rescue now => exact markAttemptSent_sameStream l seq leg rescue now
  | invalidateLeg leg => exact invalidateLeg_sameStream l leg
  | markOrdinaryAdmitted seq id => exact markOrdinaryAdmitted_sameStream l seq id
  | assignOrdinary seq id now => exact assignOrdinary_sameStream l seq id now
  | markWriteStarted seq leg rescue now => exact markWriteStarted_sameStream l seq leg rescue now
  | setOrigin seq generation epoch => exact setOrigin_sameStream l seq generation epoch

end Stream

section Extends

/-- `l'` has every record of `l` with the same payload. -/
structure Extends (l l' : StreamTXLedger) : Prop where
  next_le : l.nextSequence ≤ l'.nextSequence
  payload : ∀ seq, seq < l.nextSequence →
    (l'.record seq).payload = (l.record seq).payload

variable {l l' : StreamTXLedger}

theorem SameStream.toExtends (h : SameStream l l') : Extends l l' :=
  ⟨Nat.le_of_eq h.next.symm, fun seq _ => h.payload seq⟩

theorem add_extends (payload : List UInt8) (now : Time) (isLocal : Bool) :
    Extends l (l.add payload now isLocal).1 := by
  refine ⟨by simp [add], fun seq hseq => ?_⟩
  simp only [add, ensureLocked_nextSequence, ensureLocked_record]
  rw [update_of_ne (by omega)]

theorem applyACK_extends (next : Nat) (now : Time) : Extends l (l.applyACK next now).1 :=
  ⟨Nat.le_of_eq (applyACK_nextSequence next now).symm,
    fun seq _ => applyACK_record_payload next now seq⟩

theorem Extends.take_payloads (h : Extends l l') {n : Nat} (hn : n ≤ l.nextSequence) :
    l'.payloads.take n = l.payloads.take n := by
  have hle := h.next_le
  apply ext_getElem?
  intro i
  by_cases hi : i < n
  · rw [getElem?_take_of_lt hi, getElem?_take_of_lt hi,
      payloads_getElem? (by omega), payloads_getElem? (by omega), h.payload i (by omega)]
  · rw [getElem?_eq_none (by simp; omega), getElem?_eq_none (by simp; omega)]

theorem Extends.payloads_isPrefix (h : Extends l l') : l.payloads <+: l'.payloads := by
  have htake := h.take_payloads (Nat.le_refl l.nextSequence)
  rw [take_of_length_le (l := l.payloads) (by simp)] at htake
  rw [← htake]
  exact take_prefix _ _

end Extends

end Smp3Multipath.Core.StreamTXLedger

import Smp3Multipath.Core.LedgerHistory
import Smp3Multipath.Core.LedgerRepresentation

/-!
# What an acknowledgement credits

The retirement loop of `ApplyACK` adds up over the records it passes: each gives its bytes to
at most one leg and its verdict to the ordinary owner it has.  `credit` is what one record
adds, and the result of an ACK is the sum of these.  What a verdict tells of the record's
past is read off its history.
-/

namespace Smp3Multipath.Core.StreamTXLedger

open List

section Dated

variable {l : StreamTXLedger}

/-- The times an operation hands over are readings of a clock, which never shows the zero time. -/
def LedgerOp.ClockRead : LedgerOp → Prop
  | .assignOrdinary _ _ now => now ≠ 0
  | .storeRecoveryProbeWriteStartedAt _ startedAt => startedAt ≠ some 0
  | _ => True

/-- An owned record has the time of its assignment, and a probe time is one. -/
def Dated (r : StreamTXRecord) : Prop :=
  (0 ≤ r.ordinaryOwner → r.assignedAt ≠ 0) ∧ r.recoveryProbeWriteStartedAt ≠ some 0

theorem invalidateRecord_dated {leg : LegID} {r : StreamTXRecord} (h : Dated r) :
    Dated (invalidateRecord leg r) :=
  invalidateRecord_keeps leg (fun _ h => h) (fun _ h => h) (fun _ h => h) (fun _ h => h) h

theorem dated_applyOp {op : LedgerOp} (hclock : op.ClockRead) (h : ∀ seq, Dated (l.record seq))
    (seq : Nat) : Dated ((l.applyOp op).record seq) := by
  rcases record_applyOp l op seq with hsame | ⟨f, hf, hrecord⟩ | ⟨_, _, howner, hprobe⟩
  · rw [hsame]
    exact h seq
  · rw [hrecord]
    have hr := h seq
    cases op with
    | add payload now isLocal => cases hf
    | invalidateLeg leg =>
      rw [mem_singleton.1 hf]
      exact invalidateRecord_dated hr
    | assignOrdinary i id now =>
      rw [mem_singleton.1 hf]
      exact ⟨fun _ => hclock, hr.2⟩
    | storeRecoveryProbeWriteStartedAt i startedAt =>
      rw [mem_singleton.1 hf]
      exact ⟨hr.1, hclock⟩
    | clearAttemptAt i leg rescue started | markAttemptSent i leg rescue now =>
      rcases mem_pair.1 hf with rfl | rfl <;> exact hr
    | _ =>
      rw [mem_singleton.1 hf]
      exact hr
  · exact ⟨fun h => absurd (howner ▸ h) (by simp), by simp [hprobe]⟩

theorem dated_after (maxLegs : Nat) {ops : List LedgerOp} (hclock : ∀ op ∈ ops, op.ClockRead)
    (seq : Nat) : Dated ((History.after maxLegs ops).ledger.record seq) := by
  have hrun : ∀ h : History, (∀ seq, Dated (h.ledger.record seq)) →
      ∀ seq, Dated ((ops.foldl History.next h).ledger.record seq) := by
    induction ops with
    | nil => exact fun h hdated => hdated
    | cons op ops ih =>
      intro h hdated
      refine ih (fun op hop => hclock op (mem_cons_of_mem _ hop)) (h.next op) ?_
      exact dated_applyOp (hclock op mem_cons_self) hdated
  refine hrun (History.start maxLegs) (fun seq => ?_) seq
  exact ⟨fun howner => absurd howner (by simp [History.start, newStreamTXLedger]),
    fun hprobe => nomatch hprobe⟩

end Dated

section Verdicts

/-- What an ACK decides about a retired record that has an ordinary owner. -/
inductive Verdict where
  | duplicate
  | neverWritten
  | lateFrontier
  | timely
  | ordered
deriving DecidableEq

/-- The owner's counter that a verdict goes to. -/
def Verdict.counter : Verdict → StreamTXACKLegResult → Nat
  | .duplicate, p => p.proofRejected.duplicate
  | .neverWritten, p => p.proofRejected.neverWritten
  | .lateFrontier, p => p.proofRejected.lateFrontier
  | .timely, p => p.uniqueTimely
  | .ordered, p => p.uniqueOrdered

/-- The record is credited as unique. -/
def Verdict.unique : Verdict → Bool
  | .timely | .ordered => true
  | _ => false

def verdict (now : Time) (head : Option StreamTXRecord) (r : StreamTXRecord) : Verdict :=
  let startedAt := r.recoveryProbeWriteStartedAt.getD r.firstWriteAt
  if r.duplicated ∨ 1 < r.sendCount then .duplicate
  else if r.firstWriteAt = 0 then .neverWritten
  else if startedAt ≠ 0 ∧ withinProofBudget now startedAt then .timely
  else if (r.frontierAt != 0 && withinProofBudget now r.frontierAt) || behindCleanHead head r then
    .ordered
  else .lateFrontier

variable {now : Time} {head : Option StreamTXRecord} {r : StreamTXRecord}

theorem verdict_of_copies (hcopies : r.duplicated = true ∨ 1 < r.sendCount) :
    verdict now head r = .duplicate :=
  if_pos hcopies

theorem verdict_of_unwritten (hcopies : ¬(r.duplicated = true ∨ 1 < r.sendCount))
    (hfirst : r.firstWriteAt = 0) : verdict now head r = .neverWritten :=
  (if_neg hcopies).trans (if_pos hfirst)

theorem verdict_of_written (hcopies : ¬(r.duplicated = true ∨ 1 < r.sendCount))
    (hfirst : r.firstWriteAt ≠ 0) :
    verdict now head r =
      if r.recoveryProbeWriteStartedAt.getD r.firstWriteAt ≠ 0 ∧
          withinProofBudget now (r.recoveryProbeWriteStartedAt.getD r.firstWriteAt) then .timely
      else if (r.frontierAt != 0 && withinProofBudget now r.frontierAt) ||
          behindCleanHead head r then .ordered
      else .lateFrontier :=
  (if_neg hcopies).trans (if_neg hfirst)

theorem counter_uniqueBytes (v : Verdict) (c : Prop) [Decidable c] (p : StreamTXACKLegResult)
    (bytes : Nat) : v.counter (if c then { p with uniqueBytes := bytes } else p) = v.counter p := by
  split
  · cases v <;> rfl
  · rfl

theorem classifyProof_counter (v : Verdict) (p : StreamTXACKLegResult) :
    v.counter (classifyProof now head r p) =
      v.counter p + if verdict now head r = v then 1 else 0 := by
  unfold classifyProof
  by_cases hcopies : r.duplicated = true ∨ 1 < r.sendCount
  · rw [if_pos hcopies, verdict_of_copies hcopies]
    cases v <;> rfl
  rw [if_neg hcopies]
  by_cases hfirst : r.firstWriteAt = 0
  · rw [if_pos hfirst, verdict_of_unwritten hcopies hfirst]
    cases v <;> rfl
  rw [if_neg hfirst, verdict_of_written hcopies hfirst]
  extract_lets startedAt age ordered entered rejected proved
  have hentered : v.counter entered = v.counter p := by
    cases v <;> rfl
  rw [counter_uniqueBytes, ← hentered]
  unfold proved
  split
  · cases v <;> rfl
  · split
    · cases v <;> rfl
    · cases v <;> rfl

theorem classifyProof_uniqueBytes (hdated : Dated r) (howner : 0 ≤ r.ordinaryOwner)
    (p : StreamTXACKLegResult) :
    (classifyProof now head r p).uniqueBytes =
      p.uniqueBytes + if (verdict now head r).unique then r.payload.length else 0 := by
  have hassigned := hdated.1 howner
  unfold classifyProof
  by_cases hcopies : r.duplicated = true ∨ 1 < r.sendCount
  · rw [if_pos hcopies, verdict_of_copies hcopies]
    rfl
  rw [if_neg hcopies]
  by_cases hfirst : r.firstWriteAt = 0
  · rw [if_pos hfirst, verdict_of_unwritten hcopies hfirst]
    rfl
  rw [if_neg hfirst, verdict_of_written hcopies hfirst]
  extract_lets startedAt age ordered entered rejected proved
  have hstarted : startedAt ≠ 0 := by
    unfold startedAt
    cases hprobe : r.recoveryProbeWriteStartedAt with
    | none => exact hfirst
    | some t => exact fun hzero => hdated.2 (by rw [hprobe, ← hzero]; rfl)
  have hproved : proved.uniqueBytes = p.uniqueBytes := by
    unfold proved
    split
    · rfl
    · split
      · rfl
      · rfl
  rw [← hproved]
  clear_value proved
  by_cases htimely : withinProofBudget now startedAt
  · rw [if_pos ⟨hassigned, Or.inl htimely⟩, if_pos (c := _ ∧ _) ⟨hstarted, htimely⟩]
    rfl
  rw [if_neg (c := startedAt ≠ 0 ∧ _) fun h => htimely h.2]
  by_cases hordered : ordered
  · rw [if_pos ⟨hassigned, Or.inr hordered⟩, if_pos hordered]
    rfl
  · rw [if_neg fun h => h.2.elim htimely hordered, if_neg hordered]
    rfl

theorem classifyProof_ackedBytes (p : StreamTXACKLegResult) :
    (classifyProof now head r p).ackedBytes = p.ackedBytes := by
  unfold classifyProof
  dsimp only
  split_ifs <;> rfl

end Verdicts

section Tally

/-- A record's entry in the per-leg results: its bytes and, if it has an owner, its verdict. -/
def credit (now : Time) (head : Option StreamTXRecord) (legs : Nat)
    (perLeg : List StreamTXACKLegResult) (r : StreamTXRecord) : List StreamTXACKLegResult :=
  if 0 ≤ r.ordinaryOwner ∧ r.ordinaryOwner.toNat < legs then
    (attributeAcked perLeg r).modify r.ordinaryOwner.toNat (classifyProof now head r)
  else attributeAcked perLeg r

variable {now : Time} {head : Option StreamTXRecord} {legs : Nat}

theorem credit_length (perLeg : List StreamTXACKLegResult) (r : StreamTXRecord) :
    (credit now head legs perLeg r).length = perLeg.length := by
  unfold credit
  split
  · rw [length_modify, attributeAcked_length]
  · exact attributeAcked_length perLeg r

theorem foldl_credit_length (rs : List StreamTXRecord) (perLeg : List StreamTXACKLegResult) :
    (rs.foldl (credit now head legs) perLeg).length = perLeg.length := by
  induction rs generalizing perLeg with
  | nil => rfl
  | cons r rs ih => rw [foldl_cons, ih, credit_length]

theorem foldl_retireOne_result {seqs : List Nat} {st : StreamTXLedger × StreamTXACKResult}
    (hnodup : seqs.Nodup) (hm : ∀ seq ∈ seqs, seq ∈ st.1.outstanding) :
    (seqs.foldl (retireOne now head) st).2.perLeg =
        (seqs.map st.1.record).foldl (credit now head st.1.ordinaryFrames.length) st.2.perLeg ∧
      (seqs.foldl (retireOne now head) st).2.retiredBytes =
        st.2.retiredBytes + payloadBytes (seqs.map st.1.record) := by
  induction seqs generalizing st with
  | nil => exact ⟨rfl, rfl⟩
  | cons seq seqs ih =>
    obtain ⟨hnot, hnodup⟩ := nodup_cons.1 hnodup
    obtain ⟨_, _, hrecord, hout⟩ := retireOne_spec now head st seq
    have hrest : ∀ i ∈ seqs, i ∈ (retireOne now head st seq).1.outstanding := by
      intro i hi
      rw [hout, mem_filter]
      refine ⟨hm i (mem_cons_of_mem _ hi), ?_⟩
      simp only [ne_eq, decide_eq_true_eq]
      rintro rfl
      exact hnot hi
    have hone : (retireOne now head st seq).2.perLeg =
          credit now head st.1.ordinaryFrames.length st.2.perLeg (st.1.record seq) ∧
        (retireOne now head st seq).2.retiredBytes =
          st.2.retiredBytes + (st.1.record seq).payload.length ∧
        (retireOne now head st seq).1.ordinaryFrames.length = st.1.ordinaryFrames.length := by
      unfold retireOne credit
      dsimp only
      rw [if_neg (not_not.2 (hm seq mem_cons_self))]
      split
      · exact ⟨rfl, rfl, length_modify _ _ _⟩
      · exact ⟨rfl, rfl, rfl⟩
    obtain ⟨hper, hbytes⟩ := ih hnodup hrest
    rw [foldl_cons, hper, hbytes, hrecord, hone.1, hone.2.1, hone.2.2]
    refine ⟨rfl, ?_⟩
    simp only [payloadBytes, map_cons, sum_cons]
    omega

/-- The records that leg `id` owns. -/
def ownedBy (id : Nat) (rs : List StreamTXRecord) : List StreamTXRecord :=
  rs.filter fun r => r.ordinaryOwner = (id : Int)

/-- A reading that only verdicts move is the sum over the records the leg owns. -/
theorem foldl_credit_owned {reading : StreamTXACKLegResult → Nat} {weight : StreamTXRecord → Nat}
    (hattr : ∀ perLeg r id, reading ((attributeAcked perLeg r).getD id {}) =
      reading (perLeg.getD id {})) (rs : List StreamTXRecord)
    (hclass : ∀ r ∈ rs, 0 ≤ r.ordinaryOwner → ∀ p,
      reading (classifyProof now head r p) = reading p + weight r)
    {perLeg : List StreamTXACKLegResult} (hlen : perLeg.length = legs) {id : Nat}
    (hid : id < legs) :
    reading ((rs.foldl (credit now head legs) perLeg).getD id {}) =
      reading (perLeg.getD id {}) + ((ownedBy id rs).map weight).sum := by
  induction rs generalizing perLeg with
  | nil => rfl
  | cons r rs ih =>
    have hone : reading ((credit now head legs perLeg r).getD id {}) =
        reading (perLeg.getD id {}) + if r.ordinaryOwner = (id : Int) then weight r else 0 := by
      unfold credit
      by_cases howner : r.ordinaryOwner = (id : Int)
      · have hin : id < (attributeAcked perLeg r).length := by
          rw [attributeAcked_length, hlen]
          exact hid
        rw [if_pos howner, howner, Int.toNat_natCast, if_pos ⟨Int.natCast_nonneg id, hid⟩,
          ← hattr perLeg r id, ← hclass r mem_cons_self (by omega)]
        simp [getD_eq_getElem?_getD, hin]
      · rw [if_neg howner, Nat.add_zero, ← hattr perLeg r id]
        split
        · next hin =>
          have hne : r.ordinaryOwner.toNat ≠ id := by omega
          simp [getD_eq_getElem?_getD, hne]
        · rfl
    rw [foldl_cons, ih (fun r hr => hclass r (mem_cons_of_mem _ hr))
      ((credit_length perLeg r).trans hlen), hone]
    unfold ownedBy
    rw [filter_cons]
    by_cases howner : r.ordinaryOwner = (id : Int)
    · rw [if_pos howner, if_pos (decide_eq_true howner), map_cons, sum_cons]
      omega
    · rw [if_neg howner, if_neg (by simp [howner]), Nat.add_zero]

theorem sum_map_modify {α : Type} (reading : α → Nat) {f : α → α} {k : Nat}
    (hf : ∀ a, reading (f a) = reading a + k) {xs : List α} {i : Nat} (hi : i < xs.length) :
    ((xs.modify i f).map reading).sum = (xs.map reading).sum + k := by
  induction xs generalizing i with
  | nil => cases hi
  | cons x xs ih =>
    cases i with
    | zero =>
      simp only [modify_zero_cons, map_cons, sum_cons, hf]
      omega
    | succ i =>
      have htail := ih (Nat.lt_of_succ_lt_succ hi)
      simp only [modify_succ_cons, map_cons, sum_cons, htail]
      omega

/-- The sum is kept by a change of one entry that keeps the reading. -/
theorem map_modify_same {α : Type} {reading : α → Nat} {f : α → α}
    (hf : ∀ a, reading (f a) = reading a) (xs : List α) (i : Nat) :
    (xs.modify i f).map reading = xs.map reading := by
  apply ext_getElem?
  intro j
  rw [getElem?_map, getElem?_map, getElem?_modify]
  cases xs[j]? with
  | none => rfl
  | some a => by_cases hj : i = j <;> simp [hj, hf]

/-- The bytes of a record that some leg of the table gets. -/
def attributable (legs : Nat) (r : StreamTXRecord) : Bool :=
  decide (0 ≤ ackLeg r) && decide ((ackLeg r).toNat < legs)

theorem sum_attributeAcked (perLeg : List StreamTXACKLegResult) (r : StreamTXRecord) :
    ((attributeAcked perLeg r).map StreamTXACKLegResult.ackedBytes).sum =
      (perLeg.map StreamTXACKLegResult.ackedBytes).sum +
        if attributable perLeg.length r then r.payload.length else 0 := by
  unfold attributeAcked attributable
  by_cases hin : 0 ≤ ackLeg r ∧ (ackLeg r).toNat < perLeg.length
  · rw [if_pos hin, if_pos (by simp [hin.1, hin.2])]
    refine sum_map_modify _ (fun p => ?_) hin.2
    dsimp only
    split <;> rfl
  · rw [if_neg hin, if_neg (by simpa using hin), Nat.add_zero]

theorem foldl_credit_ackedBytes (rs : List StreamTXRecord) {perLeg : List StreamTXACKLegResult}
    (hlen : perLeg.length = legs) :
    ((rs.foldl (credit now head legs) perLeg).map StreamTXACKLegResult.ackedBytes).sum =
      (perLeg.map StreamTXACKLegResult.ackedBytes).sum +
        payloadBytes (rs.filter (attributable legs)) := by
  induction rs generalizing perLeg with
  | nil => rfl
  | cons r rs ih =>
    have hone : ((credit now head legs perLeg r).map StreamTXACKLegResult.ackedBytes).sum =
        (perLeg.map StreamTXACKLegResult.ackedBytes).sum +
          if attributable legs r then r.payload.length else 0 := by
      rw [← hlen, ← sum_attributeAcked, credit]
      split
      · rw [map_modify_same classifyProof_ackedBytes]
      · rfl
    rw [foldl_cons, ih ((credit_length perLeg r).trans hlen), hone, filter_cons]
    split
    · simp only [payloadBytes, map_cons, sum_cons]
      omega
    · rfl

end Tally

section Conservation

/-- The records that an ACK passes over. -/
def passed (l : StreamTXLedger) (next : Nat) : List StreamTXRecord :=
  (List.range' l.ackedNext (next - l.ackedNext)).map l.record

/-- The result of an advancing ACK over the records it retires. -/
structure Credited (h : History) (clocked : Prop) (next : Nat) (now : Time)
    (result : StreamTXACKResult) : Prop where
  released : result.released = next - h.ledger.ackedNext
  retiredBytes : result.retiredBytes = payloadBytes (h.ledger.passed next)
  acked_le : (result.perLeg.map StreamTXACKLegResult.ackedBytes).sum ≤ result.retiredBytes
  acked_eq : (∀ r ∈ h.ledger.passed next, attributable result.perLeg.length r = true) →
    (result.perLeg.map StreamTXACKLegResult.ackedBytes).sum = result.retiredBytes
  /-- Every ordinary owner has its entry, and each record one verdict in it. -/
  owner_lt : ∀ r ∈ h.ledger.passed next, r.ordinaryOwner < (result.perLeg.length : Int)
  verdicts : ∀ id < result.perLeg.length, ∀ v : Verdict,
    v.counter (result.perLeg.getD id {}) = ((ownedBy id (h.ledger.passed next)).filter
      fun r => verdict now h.ledger.ackHead r = v).length
  uniqueBytes : clocked → ∀ id < result.perLeg.length,
    (result.perLeg.getD id {}).uniqueBytes = payloadBytes ((ownedBy id (h.ledger.passed next)).filter
      fun r => (verdict now h.ledger.ackHead r).unique)
  /-- A unique record was written, sent once at most, never rescued, and kept its owner's leg. -/
  unique : ∀ seq, h.ledger.ackedNext ≤ seq → seq < next →
    (verdict now h.ledger.ackHead (h.ledger.record seq)).unique = true →
      (h.ledger.record seq).firstWriteAt ≠ 0 ∧ h.sent.count seq ≤ 1 ∧
        (∀ c ∈ h.granted, c.seq = seq → c.rescue = false) ∧ seq ∉ h.ownerLost

/-- What an ACK of any value does. -/
structure ConservesRecords (h : History) (clocked : Prop) (next : Nat) (now : Time) : Prop where
  /-- The first operation on a ledger for one leg widens its slices to two. -/
  widened : 2 ≤ h.ledger.maxLegs → h.ledger.ensureLocked = h.ledger
  future : h.ledger.nextSequence < next → (h.ledger.applyACK next now).1 =
    { h.ledger.ensureLocked with futureACKCount := h.ledger.futureACKCount + 1 }
  old : next ≤ h.ledger.ackedNext → (h.ledger.applyACK next now).1 = h.ledger.ensureLocked
  advance : h.ledger.ackedNext < next → next ≤ h.ledger.nextSequence →
    Credited h clocked next now (h.ledger.applyACK next now).2

theorem sum_map_ite_filter {α : Type} (p : α → Bool) (g : α → Nat) (xs : List α) :
    (xs.map fun a => if p a then g a else 0).sum = ((xs.filter p).map g).sum := by
  induction xs with
  | nil => rfl
  | cons a xs ih =>
    rw [map_cons, sum_cons, ih, filter_cons]
    split
    · rw [map_cons, sum_cons]
    · rw [Nat.zero_add]

theorem ensureLocked_futureACKCount (l : StreamTXLedger) :
    l.ensureLocked.futureACKCount = l.futureACKCount := by
  unfold ensureLocked
  dsimp only
  split <;> rfl

variable {l : StreamTXLedger} {next : Nat} {now : Time}

theorem applyACK_result (hwf : WellFormed l) (haccounts : Accounts l) (hlt : l.ackedNext < next)
    (hle : next ≤ l.nextSequence) :
    (l.applyACK next now).2.perLeg = (l.passed next).foldl
        (credit now l.ackHead l.ensureLocked.maxLegs) (l.ensureLocked.advancedResult next).perLeg ∧
      (l.applyACK next now).2.retiredBytes = payloadBytes (l.passed next) := by
  have hm : ∀ seq ∈ List.range' l.ackedNext (next - l.ackedNext),
      seq ∈ l.ensureLocked.outstanding := by
    intro seq hseq
    rw [mem_range'_1] at hseq
    rw [ensureLocked_outstanding, hwf.mem_iff]
    omega
  have hframes : l.ensureLocked.ordinaryFrames.length = l.ensureLocked.maxLegs :=
    (accounts_ensureLocked haccounts).length_eq .frames
  have hhead : l.ensureLocked.ackHead = l.ackHead := by simp [ackHead]
  obtain ⟨hper, hbytes⟩ := @foldl_retireOne_result now l.ensureLocked.ackHead _
    (l.ensureLocked, l.ensureLocked.advancedResult next) nodup_range' hm
  rw [hframes, ensureLocked_record, hhead] at hper
  rw [ensureLocked_record, hhead] at hbytes
  unfold applyACK
  dsimp only
  rw [ensureLocked_nextSequence, ensureLocked_ackedNext, if_neg (by omega), if_neg (by omega)]
  unfold advanceACK retireThrough
  dsimp only
  rw [ensureLocked_ackedNext, hhead]
  have hzero : (l.ensureLocked.advancedResult next).retiredBytes = 0 := rfl
  rw [hzero, Nat.zero_add] at hbytes
  split <;> exact ⟨hper, hbytes⟩

theorem verdict_unique {head : Option StreamTXRecord} {r : StreamTXRecord}
    (h : (verdict now head r).unique = true) :
    r.duplicated = false ∧ r.sendCount ≤ 1 ∧ r.firstWriteAt ≠ 0 := by
  unfold verdict at h
  dsimp only at h
  by_cases hcopies : r.duplicated = true ∨ 1 < r.sendCount
  · rw [if_pos hcopies] at h
    cases h
  · rw [if_neg hcopies] at h
    by_cases hfirst : r.firstWriteAt = 0
    · rw [if_pos hfirst] at h
      cases h
    · push Not at hcopies
      exact ⟨by simpa using hcopies.1, hcopies.2, hfirst⟩

theorem sound_after (maxLegs : Nat) (ops : List LedgerOp) :
    ∃ readings, Sound readings (History.after maxLegs ops).ledger :=
  @History.after_induction (fun h => ∃ readings, Sound readings h.ledger) maxLegs ops
    ⟨[], sound_new maxLegs⟩ fun _ op ⟨_, hsound⟩ => ⟨_, (applyOp_checked hsound op).2⟩

/-- An ACK starts from empty entries. -/
theorem advancedResult_reading {reading : StreamTXACKLegResult → Nat}
    (hzero : ∀ frames bytes,
      reading { beforeOrdinaryFrames := frames, beforeOrdinaryBytes := bytes } = 0) (id : Nat) :
    reading ((l.advancedResult next).perLeg.getD id {}) = 0 := by
  rw [getD_eq_getElem?_getD, advancedResult, getElem?_map]
  cases (List.range l.maxLegs)[id]? with
  | none => exact hzero 0 0
  | some id => exact hzero _ _

theorem attributeAcked_reading {reading : StreamTXACKLegResult → Nat}
    (hsame : ∀ p acked sample assigned, reading { p with
      ackedBytes := acked, sampleBytes := sample, sampleAssignedMin := assigned } = reading p)
    (perLeg : List StreamTXACKLegResult) (r : StreamTXRecord) (id : Nat) :
    reading ((attributeAcked perLeg r).getD id {}) = reading (perLeg.getD id {}) := by
  unfold attributeAcked
  split
  · rw [getD_eq_getElem?_getD, getD_eq_getElem?_getD, getElem?_modify]
    cases perLeg[id]? with
    | none => rfl
    | some p =>
      simp only [Option.map_eq_map, Option.map_some, Option.getD_some]
      split_ifs
      · exact hsame p _ _ _
      · exact hsame p _ _ _
      · exact hsame p _ _ _
      · rfl
  · rfl

theorem perLeg_owned {reading : StreamTXACKLegResult → Nat} {weight : StreamTXRecord → Nat}
    (hwf : WellFormed l) (haccounts : Accounts l) (hlt : l.ackedNext < next)
    (hle : next ≤ l.nextSequence)
    (hzero : ∀ frames bytes,
      reading { beforeOrdinaryFrames := frames, beforeOrdinaryBytes := bytes } = 0)
    (hsame : ∀ p acked sample assigned, reading { p with
      ackedBytes := acked, sampleBytes := sample, sampleAssignedMin := assigned } = reading p)
    (hclass : ∀ r ∈ l.passed next, 0 ≤ r.ordinaryOwner → ∀ p,
      reading (classifyProof now l.ackHead r p) = reading p + weight r) {id : Nat}
    (hid : id < l.ensureLocked.maxLegs) :
    reading ((l.applyACK next now).2.perLeg.getD id {}) =
      ((ownedBy id (l.passed next)).map weight).sum := by
  rw [(applyACK_result hwf haccounts hlt hle).1,
    foldl_credit_owned (attributeAcked_reading hsame) _ hclass (by simp [advancedResult]) hid,
    advancedResult_reading hzero, Nat.zero_add]

theorem credited_of_advance {h : History} {clocked : Prop} (hagree : h.Agrees)
    (haccounts : Accounts h.ledger) (hdated : clocked → ∀ seq, Dated (h.ledger.record seq))
    (hlt : h.ledger.ackedNext < next) (hle : next ≤ h.ledger.nextSequence) :
    Credited h clocked next now (h.ledger.applyACK next now).2 := by
  obtain ⟨hper, hbytes⟩ := @applyACK_result h.ledger next now hagree.wf haccounts hlt hle
  have hlen : (h.ledger.applyACK next now).2.perLeg.length = h.ledger.ensureLocked.maxLegs := by
    rw [hper, foldl_credit_length]
    simp [advancedResult]
  have hacked : ((h.ledger.applyACK next now).2.perLeg.map StreamTXACKLegResult.ackedBytes).sum =
      payloadBytes ((h.ledger.passed next).filter
        (attributable (h.ledger.applyACK next now).2.perLeg.length)) := by
    have hempty : ((h.ledger.ensureLocked.advancedResult next).perLeg.map
        StreamTXACKLegResult.ackedBytes).sum = 0 := by
      simp [advancedResult, Function.comp_def]
    rw [hlen, hper, foldl_credit_ackedBytes _ (by simp [advancedResult]), hempty, Nat.zero_add]
  refine ⟨applyACK_released hagree.wf now hlt hle, hbytes, ?_, ?_, ?_, ?_, ?_, ?_⟩
  · rw [hacked, hbytes]
    exact List.Sublist.sum_le_sum (filter_sublist.map _) fun _ _ => Nat.zero_le _
  · intro hall
    rw [hacked, hbytes, filter_eq_self.2 hall]
  · intro r hr
    obtain ⟨seq, hseq, rfl⟩ := mem_map.1 hr
    rw [mem_range'_1] at hseq
    have howner := (accounts_ensureLocked haccounts).owner_lt seq (by
      rw [ensureLocked_outstanding, hagree.wf.mem_iff]
      omega)
    rwa [ensureLocked_record, ← hlen] at howner
  · intro id hid v
    rw [@perLeg_owned h.ledger next now v.counter _ hagree.wf haccounts hlt hle
      (by intro _ _; cases v <;> rfl) (by intro _ _ _ _; cases v <;> rfl)
      (fun r _ _ p => classifyProof_counter v p) _ (hlen ▸ hid)]
    have hcount := sum_map_ite_filter
      (fun r => decide (verdict now h.ledger.ackHead r = v)) (fun _ => 1)
      (ownedBy id (h.ledger.passed next))
    simp only [decide_eq_true_eq] at hcount
    rw [hcount, map_const', sum_replicate_nat, Nat.mul_one]
  · intro hclocked id hid
    rw [@perLeg_owned h.ledger next now StreamTXACKLegResult.uniqueBytes _ hagree.wf haccounts hlt
      hle (fun _ _ => rfl) (fun _ _ _ _ => rfl) ?_ _ (hlen ▸ hid)]
    · exact sum_map_ite_filter _ _ _
    · intro r hr howner p
      obtain ⟨seq, _, rfl⟩ := mem_map.1 hr
      exact classifyProof_uniqueBytes (hdated hclocked seq) howner p
  · intro seq hseq hnext hunique
    obtain ⟨hclean, hsends, hfirst⟩ := verdict_unique hunique
    have hadded : seq < h.ledger.nextSequence := by omega
    refine ⟨hfirst, hagree.sent seq hadded ▸ hsends, fun c hc hcseq => ?_, fun hlost => ?_⟩
    · cases hrescue : c.rescue with
      | false => rfl
      | true =>
        have hmark := hagree.rescued c hc hrescue
        rw [hcseq, hclean] at hmark
        cases hmark
    · have hmark := hagree.lost seq hlost
      rw [hclean] at hmark
      cases hmark

/-- Whatever the history of the ledger and the value acknowledged: an ACK that does not advance
changes no record, one that does retires exactly the records it passes, their bytes and their
verdicts are the per-leg results, and a record credited as unique was never sent twice. -/
theorem ack_conserves_records (maxLegs : Nat) (ops : List LedgerOp) (next : Nat) (now : Time) :
    ConservesRecords (History.after maxLegs ops) (∀ op ∈ ops, op.ClockRead) next now := by
  have hagree := History.agrees_after maxLegs ops
  obtain ⟨_, hsound⟩ := sound_after maxLegs ops
  have hdated : (∀ op ∈ ops, op.ClockRead) →
      ∀ seq, Dated ((History.after maxLegs ops).ledger.record seq) :=
    fun hclock => dated_after maxLegs hclock
  generalize History.after maxLegs ops = h at hagree hsound hdated
  have hframes : h.ledger.ordinaryFrames.length = h.ledger.maxLegs :=
    hsound.accounts.length_eq .frames
  refine ⟨fun hwide => ?_, fun hfuture => ?_, fun hold => ?_,
    credited_of_advance hagree hsound.accounts hdated⟩
  · have hmax : max h.ledger.maxLegs 2 = h.ledger.maxLegs := Nat.max_eq_left hwide
    unfold ensureLocked
    dsimp only
    rw [hmax, if_neg (by omega)]
  · unfold applyACK
    dsimp only
    rw [ensureLocked_nextSequence, if_pos hfuture, ensureLocked_futureACKCount]
  · have hle := hagree.wf.acked_le
    unfold applyACK
    dsimp only
    rw [ensureLocked_nextSequence, ensureLocked_ackedNext, if_neg (by omega), if_pos hold]

/-- An acknowledgement that overtakes the writer's own report credits a record of no send. -/
theorem unique_without_send :
    let h := History.after 2 [.add [7] 1 true, .assignOrdinary 0 1 2, .markTransit 0 1 3,
      .markWriteStarted 0 1 false 4]
    ((h.ledger.applyACK 1 5).2.perLeg.getD 1 {}).uniqueTimely = 1 ∧
      (verdict 5 h.ledger.ackHead (h.ledger.record 0)).unique = true ∧
      h.sent.count 0 = 0 := by
  decide

end Conservation

end Smp3Multipath.Core.StreamTXLedger

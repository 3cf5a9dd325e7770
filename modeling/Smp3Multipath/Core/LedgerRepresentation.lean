import Smp3Multipath.Core.LedgerAccounting

/-!
# The ledger's representation invariant

The retirement loop of an ACK takes every record off its owner's counters, so no
operation fails a check along any sequence of operations, and the counters always
are what the outstanding records say.
-/

namespace Smp3Multipath.Core.StreamTXLedger

open Lib.Run Lib.Counters List

section Retirement

variable {l : StreamTXLedger} {now : Time} {head : Option StreamTXRecord}

/-- A record that leaves, taken off its owner's counters. -/
theorem accounts_release {seq i : Nat} (hl : Accounts l) (hseq : seq ∈ l.outstanding)
    (howner : (l.record seq).ordinaryOwner = i) :
    ({ l with outstanding := l.outstanding.filter (· ≠ seq) }.releaseOrdinary? i
        (l.record seq)) =
      some ({ l with outstanding := l.outstanding.filter (· ≠ seq) }.releaseOrdinary i
        (l.record seq)) ∧
      Accounts ({ l with outstanding := l.outstanding.filter (· ≠ seq) }.releaseOrdinary i
        (l.record seq)) := by
  have hslice : ∀ c : Counter,
      c.slice { l with outstanding := l.outstanding.filter (· ≠ seq) } = c.slice l := by
    intro c
    cases c <;> rfl
  have hi : ∀ c : Counter, i < (c.slice l).length := by
    intro c
    have hlt := hl.owner_lt seq hseq
    rw [hl.length_eq]
    omega
  refine ⟨releaseOrdinary?_eq_some (fun c => ?_) fun c => ?_, ?_⟩
  · rw [hslice]
    exact hi c
  · rw [hslice]
    exact hl.amount_le hseq howner c
  · refine ⟨hl.nodup.filter _, fun c => ?_, fun k hk => ?_, fun c => ?_⟩
    · rw [slice_releaseOrdinary, length_modify, hslice]
      exact hl.length_eq c
    · exact hl.owner_lt k (mem_filter.1 hk).1
    · unfold Counter.Balanced
      rw [slice_releaseOrdinary, hslice]
      exact (hl.balanced c).release hl.nodup hseq howner (hi c)

/-- A record without an owner that leaves. -/
theorem accounts_remove {seq : Nat} (hl : Accounts l) (hseq : seq ∈ l.outstanding)
    (howner : (l.record seq).ordinaryOwner < 0) :
    Accounts { l with outstanding := l.outstanding.filter (· ≠ seq) } := by
  refine ⟨hl.nodup.filter _, fun c => ?_, fun k hk => ?_, fun c => ?_⟩
  · rw [← hl.length_eq c]
    cases c <;> rfl
  · exact hl.owner_lt k (mem_filter.1 hk).1
  · have hb := (hl.balanced c).remove_unowned hl.nodup hseq howner
    cases c <;> exact hb

theorem attributeAcked_length (perLeg : List StreamTXACKLegResult) (r : StreamTXRecord) :
    (attributeAcked perLeg r).length = perLeg.length := by
  unfold attributeAcked
  split
  · exact length_modify _ _ _
  · rfl

/-- Inside the retirement loop: the books are balanced and `perLeg` has a place for each leg. -/
structure Retiring (st : StreamTXLedger × StreamTXACKResult) : Prop where
  accounts : Accounts st.1
  perLeg : st.2.perLeg.length = st.1.maxLegs

theorem retireOne_checked {st : StreamTXLedger × StreamTXACKResult} (hst : Retiring st)
    (seq : Nat) :
    retireOne? now head st seq = some (retireOne now head st seq) ∧
      Retiring (retireOne now head st seq) := by
  obtain ⟨l, result⟩ := st
  obtain ⟨hl, hper⟩ := hst
  dsimp only at hl hper
  have hlen : l.ordinaryFrames.length = l.maxLegs := hl.length_eq .frames
  have hattr := attributeAcked_length result.perLeg (l.record seq)
  unfold retireOne? retireOne
  dsimp only
  by_cases hseq : seq ∈ l.outstanding
  · simp only [hseq, not_true_eq_false, if_false]
    by_cases howner : 0 ≤ (l.record seq).ordinaryOwner
    · obtain ⟨o, ho⟩ := Int.eq_ofNat_of_zero_le howner
      have holt := hl.owner_lt seq hseq
      have hrel := accounts_release hl hseq ho
      have hin : (0 : Int) ≤ o ∧ o < l.ordinaryFrames.length := ⟨by omega, by omega⟩
      have hplace : o < (attributeAcked result.perLeg (l.record seq)).length := by omega
      simp only [ho, Int.toNat_natCast, if_pos hin, if_pos hplace, hrel.1, Option.map_some]
      exact ⟨trivial, hrel.2, by rw [length_modify, hattr]; exact hper⟩
    · have hneg : (l.record seq).ordinaryOwner < 0 := by omega
      simp only [howner, false_and, if_false]
      exact ⟨trivial, accounts_remove hl hseq hneg, hattr.trans hper⟩
  · simp only [hseq, not_false_eq_true, if_true]
    exact ⟨trivial, hl, hper⟩

theorem foldlM_retireOne_checked (seqs : List Nat) {st : StreamTXLedger × StreamTXACKResult}
    (hst : Retiring st) :
    seqs.foldlM (retireOne? now head) st = some (seqs.foldl (retireOne now head) st) ∧
      Retiring (seqs.foldl (retireOne now head) st) := by
  induction seqs generalizing st with
  | nil => exact ⟨rfl, hst⟩
  | cons seq seqs ih =>
    obtain ⟨hone, hst'⟩ := @retireOne_checked now head st hst seq
    rw [foldlM_cons, hone]
    exact ih hst'

theorem accounts_exposeFrontier (hl : Accounts l) : Accounts (l.exposeFrontier now) := by
  unfold exposeFrontier
  split
  · next h =>
    refine hl.rebook h.1 ?_ rfl (fun c => ?_) (fun i hi => ?_) ?_ fun c i => ?_
    · exact SameStream.modifyRecord l _ fun r => show (stampFrontier now r).payload = _ from rfl
    · rw [slice_modifyRecord]
    · exact modifyRecord_record_of_ne l hi _
    · rw [modifyRecord_record_self]
      exact hl.owner_lt _ h.1
    · rw [slice_modifyRecord, modifyRecord_record_self]
      have hamount : c.amount (stampFrontier now (l.record l.ackedNext)) =
          c.amount (l.record l.ackedNext) := by
        cases c <;> rfl
      have howner : (stampFrontier now (l.record l.ackedNext)).ordinaryOwner =
          (l.record l.ackedNext).ordinaryOwner := rfl
      rw [hamount, howner, Int.sub_add_cancel]
  · exact hl

theorem Accounts.setProgress
    (hl : Accounts l)
    (acked : Nat) (future : Nat) (progress : Time) :
    Accounts { l with ackedNext := acked, futureACKCount := future, lastACKProgress := progress } := by
  refine ⟨hl.nodup, fun c => ?_, hl.owner_lt, fun c => ?_⟩
  · have hlen := hl.length_eq c
    cases c <;> exact hlen
  · have hb := hl.balanced c
    cases c <;> exact hb

theorem accounts_advanceACK (hl : Accounts l) (next : Nat) :
    l.advanceACK? next now = some (l.advanceACK next now).1 ∧
      Accounts (l.advanceACK next now).1 := by
  have hstart : Retiring (l, l.advancedResult next) :=
    ⟨hl, by simp [advancedResult]⟩
  obtain ⟨hfold, hend⟩ := @foldlM_retireOne_checked now l.ackHead
    (List.range' l.ackedNext (next - l.ackedNext)) _ hstart
  have hread : l.maxLegs ≤ l.ordinaryFrames.length ∧ l.maxLegs ≤ l.ordinaryBytes.length :=
    ⟨(hl.length_eq .frames).ge, (hl.length_eq .bytes).ge⟩
  unfold advanceACK? advanceACK
  rw [if_pos hread, hfold, ← retireThrough]
  rw [← retireThrough] at hend
  have hexposed : Accounts (exposeFrontier { (l.retireThrough next now).1 with
      ackedNext := next } now) :=
    accounts_exposeFrontier (hend.accounts.setProgress next _ _)
  dsimp only [Option.map_some]
  split
  · exact ⟨rfl, hexposed.setProgress _ _ now⟩
  · exact ⟨rfl, hexposed⟩

theorem accounts_applyACK (hl : Accounts l) (next : Nat) :
    l.applyACK? next now = some (l.applyACK next now).1 ∧
      Accounts (l.applyACK next now).1 := by
  have hg := accounts_ensureLocked hl
  unfold applyACK? applyACK
  dsimp only
  split_ifs
  · exact ⟨rfl, hg.setProgress _ _ _⟩
  · exact ⟨rfl, hg⟩
  · exact accounts_advanceACK hg next

end Retirement

section Frontier

variable {l : StreamTXLedger}

/-- The clock reading of an operation that stamps the frontier. -/
def LedgerOp.clock : LedgerOp → Option Time
  | .add _ now _ => some now
  | .applyACK _ now => some now
  | _ => none

/-- Every frontier timestamp is one of the readings, and the record at the frontier has one. -/
structure Stamped (readings : List Time) (l : StreamTXLedger) : Prop where
  stamps : ∀ seq ∈ l.outstanding,
    (l.record seq).frontierAt = 0 ∨ (l.record seq).frontierAt ∈ readings
  frontier : l.ackedNext ∈ l.outstanding → (l.record l.ackedNext).frontierAt ∈ readings

theorem stamped_of_same {l' : StreamTXLedger} {readings : List Time} (hl : Stamped readings l)
    (hstream : SameStream l l')
    (hfrontier : ∀ seq, (l'.record seq).frontierAt = (l.record seq).frontierAt) :
    Stamped readings l' where
  stamps seq hseq := by
    rw [hstream.outstanding] at hseq
    rw [hfrontier]
    exact hl.stamps seq hseq
  frontier h := by
    rw [hstream.outstanding, hstream.acked] at h
    rw [hstream.acked, hfrontier]
    exact hl.frontier h

theorem Stamped.mono {readings readings' : List Time} (hl : Stamped readings l)
    (h : ∀ t ∈ readings, t ∈ readings') : Stamped readings' l :=
  ⟨fun seq hseq => (hl.stamps seq hseq).imp id (h _), fun hseq => h _ (hl.frontier hseq)⟩

theorem stamped_add {readings : List Time} (hl : Stamped readings l) (payload : List UInt8)
    (now : Time) (isLocal : Bool) (hnow : now ∈ readings) :
    Stamped readings (l.add payload now isLocal).1 := by
  have hself : ((l.add payload now isLocal).1.record l.nextSequence).frontierAt =
      if l.nextSequence = l.ackedNext then now else 0 := by
    simp [add]
  have hold : ∀ seq, seq ≠ l.nextSequence →
      (l.add payload now isLocal).1.record seq = l.record seq := by
    intro seq hne
    simp [add, hne]
  have hm : ∀ seq, seq ∈ (l.add payload now isLocal).1.outstanding →
      seq ≠ l.nextSequence → seq ∈ l.outstanding := by
    intro seq hseq hne
    simp only [add, ensureLocked_outstanding, ensureLocked_nextSequence,
      mem_insert_iff] at hseq
    exact hseq.resolve_left hne
  refine ⟨fun seq hseq => ?_, fun hseq => ?_⟩
  · rcases eq_or_ne seq l.nextSequence with rfl | hne
    · rw [hself]
      split
      · exact .inr hnow
      · exact .inl rfl
    · rw [hold seq hne]
      exact hl.stamps seq (hm seq hseq hne)
  · have hacked : (l.add payload now isLocal).1.ackedNext = l.ackedNext := by
      simp [add]
    rw [hacked] at hseq ⊢
    rcases eq_or_ne l.ackedNext l.nextSequence with h | hne
    · rw [h, hself, if_pos h.symm]
      exact hnow
    · rw [hold _ hne]
      exact hl.frontier (hm _ hseq hne)

theorem exposeFrontier_frontierAt (now : Time) (hnext : l.ackedNext ∈ l.outstanding) :
    ((l.exposeFrontier now).record l.ackedNext).frontierAt =
      if (l.record l.ackedNext).frontierAt = 0 then now
      else (l.record l.ackedNext).frontierAt := by
  unfold exposeFrontier
  by_cases hzero : (l.record l.ackedNext).frontierAt = 0
  · rw [if_pos ⟨hnext, hzero⟩, if_pos hzero, modifyRecord_record_self, stampFrontier]
  · rw [if_neg fun h => hzero h.2, if_neg hzero]

theorem advanceACK_frontierAt {next : Nat} (now : Time)
    (hnext : next ∈ (l.advanceACK next now).1.outstanding) :
    ((l.advanceACK next now).1.record next).frontierAt =
      if (l.record next).frontierAt = 0 then now else (l.record next).frontierAt := by
  obtain ⟨_, _, hrecord, hout⟩ := foldl_retireOne_spec now l.ackHead
    (List.range' l.ackedNext (next - l.ackedNext)) (l, l.advancedResult next)
  rw [(advanceACK_spec now l next).2.2.1, ← hout, ← retireThrough] at hnext
  rw [← retireThrough] at hrecord
  have hexposed := @exposeFrontier_frontierAt
    { (l.retireThrough next now).1 with ackedNext := next } now hnext
  dsimp only at hrecord
  rw [← hrecord]
  unfold advanceACK
  dsimp only
  split
  · exact hexposed
  · exact hexposed

theorem stamped_applyACK {readings : List Time} (hl : Stamped readings l) (next : Nat)
    (now : Time) (hnow : now ∈ readings) : Stamped readings (l.applyACK next now).1 := by
  rcases applyACK_spec now l next with ⟨_, hsame⟩ | ⟨hlt, hle, _, hacked, hout, hrecord⟩
  · refine stamped_of_same hl (SameStream.of_sameRecords hsame) fun seq => ?_
    rw [hsame.record]
  have hold : ∀ seq ∈ (l.applyACK next now).1.outstanding, seq ∈ l.outstanding := by
    intro seq hseq
    rw [hout] at hseq
    exact mem_of_mem_filter hseq
  have hfresh : ∀ seq ∈ l.outstanding, seq ≠ next →
      (l.applyACK next now).1.record seq = l.record seq := by
    intro seq _ hne
    rcases hrecord with h | h
    · rw [h]
    · rw [h, modifyRecord_record_of_ne l hne]
  have hself : next ∈ (l.applyACK next now).1.outstanding →
      ((l.applyACK next now).1.record next).frontierAt ∈ readings := by
    intro hm
    have heq : l.applyACK next now = l.ensureLocked.advanceACK next now := by
      unfold applyACK
      simp only [ensureLocked_nextSequence, ensureLocked_ackedNext]
      rw [if_neg (by omega), if_neg (by omega)]
    have hold' := hl.stamps next (hold next hm)
    rw [heq] at hm ⊢
    rw [advanceACK_frontierAt now hm, ensureLocked_record]
    split
    · exact hnow
    · next hne => exact hold'.resolve_left hne
  refine ⟨fun seq hseq => ?_, fun hseq => ?_⟩
  · rcases eq_or_ne seq next with rfl | hne
    · exact .inr (hself hseq)
    · rw [hfresh seq (hold seq hseq) hne]
      exact hl.stamps seq (hold seq hseq)
  · rw [hacked] at hseq ⊢
    exact hself hseq

end Frontier

section Runs

variable {l : StreamTXLedger}

/-- What every ledger operation keeps, after clock readings `readings`. -/
structure Sound (readings : List Time) (l : StreamTXLedger) : Prop where
  wellFormed : WellFormed l
  accounts : Accounts l
  stamped : Stamped readings l

theorem sound_new (maxLegs : Nat) : Sound [] (newStreamTXLedger maxLegs) where
  wellFormed := WellFormed.new maxLegs
  accounts := accounts_new maxLegs
  stamped := ⟨fun _ h => (nomatch h), fun h => (nomatch h)⟩

theorem markOrdinaryAdmitted_frontierAt (seq : Nat) (id : LegID) (i : Nat) :
    ((l.markOrdinaryAdmitted seq id).record i).frontierAt = (l.record i).frontierAt := by
  rcases markOrdinaryAdmitted_spec l seq id with h | h
  · rw [h.record]
  · rw [h.record, modifyRecord_record]
    split
    · next heq => rw [heq]
    · rfl

theorem assignOrdinary_frontierAt (seq : Nat) (id : LegID) (now : Time) (i : Nat) :
    ((l.assignOrdinary seq id now).1.record i).frontierAt = (l.record i).frontierAt := by
  rcases assignOrdinary_spec l seq id now with h | h
  · rw [h.record]
  · rw [h.record, modifyRecord_record]
    split
    · next heq => rw [heq, takeOwner]
    · rfl

/-- No operation panics on a sound ledger, and each leaves a sound ledger. -/
theorem applyOp_checked {readings : List Time} (hl : Sound readings l) (op : LedgerOp) :
    l.applyOp? op = some (l.applyOp op) ∧
      Sound (readings ++ op.clock.toList) (l.applyOp op) := by
  obtain ⟨hwf, haccounts, hstamped⟩ := hl
  have hmono : ∀ t ∈ readings, t ∈ readings ++ op.clock.toList :=
    fun t ht => mem_append_left _ ht
  have hother := applyOp_sameAccount l op
  cases op with
  | add payload now isLocal =>
    refine ⟨rfl, hwf.add payload now isLocal, accounts_add haccounts hwf payload now isLocal, ?_⟩
    exact stamped_add (hstamped.mono hmono) payload now isLocal (by simp [LedgerOp.clock])
  | applyACK next now =>
    obtain ⟨hchecked, haccounts'⟩ := @accounts_applyACK l now haccounts next
    refine ⟨hchecked, hwf.applyACK next now, haccounts', ?_⟩
    exact stamped_applyACK (hstamped.mono hmono) next now (by simp [LedgerOp.clock])
  | markOrdinaryAdmitted seq id =>
    obtain ⟨hchecked, haccounts'⟩ := accounts_markOrdinaryAdmitted haccounts seq id
    have hsame := markOrdinaryAdmitted_sameStream l seq id
    refine ⟨hchecked, hwf.of_sameStream hsame, haccounts', ?_⟩
    exact stamped_of_same (hstamped.mono hmono) hsame
      (markOrdinaryAdmitted_frontierAt seq id)
  | assignOrdinary seq id now =>
    obtain ⟨hchecked, haccounts'⟩ := accounts_assignOrdinary haccounts seq id now
    have hsame := assignOrdinary_sameStream l seq id now
    refine ⟨hchecked, hwf.of_sameStream hsame, haccounts', ?_⟩
    exact stamped_of_same (hstamped.mono hmono) hsame
      (assignOrdinary_frontierAt seq id now)
  | _ =>
    have hsame := hother (by simp) (by simp) (by simp) (by simp)
    exact ⟨rfl, hwf.of_sameStream hsame.stream, haccounts.of_sameAccount hsame,
      stamped_of_same (hstamped.mono hmono) hsame.stream hsame.frontierAt⟩

theorem runActs_checked {readings : List Time} (hl : Sound readings l) (ops : List LedgerOp) :
    Lib.Run.runActs applyOp? l ops = some (ops.foldl applyOp l) ∧
      Sound (readings ++ ops.filterMap LedgerOp.clock) (ops.foldl applyOp l) := by
  induction ops generalizing l readings with
  | nil => exact ⟨rfl, by simpa using hl⟩
  | cons op ops ih =>
    obtain ⟨hone, hl'⟩ := applyOp_checked hl op
    obtain ⟨hrun, hend⟩ := ih hl'
    constructor
    · rw [Lib.Run.runActs, hone]
      exact hrun
    · have hreadings : readings ++ op.clock.toList ++ ops.filterMap LedgerOp.clock =
          readings ++ (op :: ops).filterMap LedgerOp.clock := by
        cases hc : op.clock <;> simp [hc]
      rw [← hreadings]
      exact hend

/-- The outstanding records that leg `id` owns. -/
def owned (l : StreamTXLedger) (id : Nat) : List StreamTXRecord :=
  (l.outstanding.map l.record).filter (·.ordinaryOwner = id)

/-- The number of payload bytes of the records. -/
def payloadBytes (rs : List StreamTXRecord) : Nat :=
  (rs.map (·.payload.length)).sum

/-- The representation of the ledger: its keys are the unacknowledged sequences, and the slices
tally the records by their owner. -/
structure Represented (l : StreamTXLedger) : Prop where
  keys : ∀ seq, seq ∈ l.outstanding ↔ l.ackedNext ≤ seq ∧ seq < l.nextSequence
  frames : ∀ id, l.ordinaryFrames.getD id 0 = ((l.owned id).length : Int)
  bytes : ∀ id, l.ordinaryBytes.getD id 0 = (payloadBytes (l.owned id) : Int)
  pending : ∀ id, l.pendingBytes.getD id 0 =
    (payloadBytes ((l.owned id).filter fun r => !r.ordinaryAdmitted) : Int)

theorem ownedSum_eq_owned (c : Counter) (id : Nat) :
    Lib.Counters.ownedSum l.outstanding (fun seq => (l.record seq).ordinaryOwner)
      (fun seq => (c.amount (l.record seq) : Int)) id =
      (((l.owned id).map c.amount).sum : Nat) := by
  unfold owned
  induction l.outstanding with
  | nil => rfl
  | cons seq seqs ih =>
    rw [Lib.Counters.ownedSum_cons, ih, map_cons, filter_cons]
    by_cases howner : (l.record seq).ordinaryOwner = id
    · simp [howner]
    · simp [howner]

theorem map_amount_pending_sum (rs : List StreamTXRecord) :
    (rs.map Counter.pending.amount).sum =
      payloadBytes (rs.filter fun r => !r.ordinaryAdmitted) := by
  unfold payloadBytes
  induction rs with
  | nil => rfl
  | cons r rs ih =>
    rw [map_cons, sum_cons, ih, filter_cons]
    cases hr : r.ordinaryAdmitted <;> simp [Counter.amount, hr]

theorem represented_of_sound {readings : List Time} (hl : Sound readings l) : Represented l := by
  have hcounter : ∀ (c : Counter) (id : Nat),
      (c.slice l).getD id 0 = (((l.owned id).map c.amount).sum : Nat) :=
    fun c id => (hl.accounts.balanced c id).trans (ownedSum_eq_owned c id)
  refine ⟨hl.wellFormed.mem_iff, fun id => ?_, fun id => hcounter .bytes id, fun id => ?_⟩
  · have hone : ((l.owned id).map Counter.frames.amount).sum = (l.owned id).length := by
      rw [show Counter.frames.amount = fun _ => 1 from rfl, map_const',
        sum_replicate_nat, Nat.mul_one]
    rw [← hone]
    exact hcounter .frames id
  · rw [← map_amount_pending_sum]
    exact hcounter .pending id

/-- Any sequence of ledger operations, with any sequences and legs, runs without an index out of
range and without a counter below zero.  It ends in a ledger that holds exactly the unacknowledged
sequences, whose slices are the frame, byte and pending-byte tallies of each owner, and whose
frontier record carries the clock reading of an operation of the run. -/
theorem ledger_runs_represented (maxLegs : Nat) (ops : List LedgerOp) :
    ∃ l, Lib.Run.runActs applyOp? (newStreamTXLedger maxLegs) ops = some l ∧
      ops.foldl applyOp (newStreamTXLedger maxLegs) = l ∧
      Represented l ∧
      (l.ackedNext ∈ l.outstanding →
        ∃ op ∈ ops, op.clock = some (l.record l.ackedNext).frontierAt) := by
  obtain ⟨hrun, hl⟩ := runActs_checked (sound_new maxLegs) ops
  refine ⟨_, hrun, rfl, represented_of_sound hl, fun hfrontier => ?_⟩
  have hstamp := hl.stamped.frontier hfrontier
  rw [nil_append, mem_filterMap] at hstamp
  exact hstamp

end Runs

end Smp3Multipath.Core.StreamTXLedger

import Smp3Multipath.Core.LedgerFrame
import Smp3Multipath.Lib.Counters
import Smp3Multipath.Lib.Run

/-!
# The ledger's accounting

`applyOp?` runs a ledger operation with every slice access and every subtraction
checked: it is `none` where the source would index out of range or take a counter
below zero.  The accounting invariant says that the per-leg counters are the counts
and byte sums of the outstanding records by ordinary owner; it keeps every checked
operation from failing.
-/

namespace Smp3Multipath.Core.StreamTXLedger

open Lib.Run Lib.Counters List

section Checked

/-- `xs[i] -= n`; `none` if `i` is out of range or the counter would go below zero. -/
def subAt? (xs : List Int) (i n : Nat) : Option (List Int) :=
  if i < xs.length ∧ (n : Int) ≤ xs.getD i 0 then some (xs.modify i (· - (n : Int))) else none

/-- `xs[i] += n`; `none` if `i` is out of range. -/
def addAt? (xs : List Int) (i n : Nat) : Option (List Int) :=
  if i < xs.length then some (xs.modify i (· + (n : Int))) else none

variable (l : StreamTXLedger)

/-- `releaseOrdinary`, checked. -/
def releaseOrdinary? (owner : Nat) (r : StreamTXRecord) : Option StreamTXLedger := do
  let frames ← subAt? l.ordinaryFrames owner 1
  let bytes ← subAt? l.ordinaryBytes owner r.payload.length
  let pending ←
    (if r.ordinaryAdmitted then some l.pendingBytes
     else subAt? l.pendingBytes owner r.payload.length)
  some { l with ordinaryFrames := frames, ordinaryBytes := bytes, pendingBytes := pending }

/-- `chargeOrdinary`, checked. -/
def chargeOrdinary? (owner : Nat) (r : StreamTXRecord) : Option StreamTXLedger := do
  let frames ← addAt? l.ordinaryFrames owner 1
  let bytes ← addAt? l.ordinaryBytes owner r.payload.length
  let pending ←
    (if r.ordinaryAdmitted then some l.pendingBytes
     else addAt? l.pendingBytes owner r.payload.length)
  some { l with ordinaryFrames := frames, ordinaryBytes := bytes, pendingBytes := pending }

/-- `markOrdinaryAdmitted`, checked. -/
def markOrdinaryAdmitted? (seq : Nat) (id : LegID) : Option StreamTXLedger :=
  match l.ensureLegLocked id with
  | none => some l.ensureLocked
  | some l =>
    let r := l.record seq
    if seq ∉ l.outstanding ∨ r.ordinaryOwner ≠ (id : Int) ∨ r.ordinaryAdmitted then
      some l
    else
      (subAt? l.pendingBytes id r.payload.length).map fun pending =>
        { l.modifyRecord seq fun r => { r with ordinaryAdmitted := true } with
          pendingBytes := pending }

/-- `assignOrdinary`, checked. -/
def assignOrdinary? (seq : Nat) (id : LegID) (now : Time) : Option StreamTXLedger :=
  match l.ensureLegLocked id with
  | none => some l.ensureLocked
  | some l =>
    let r := l.record seq
    if seq ∉ l.outstanding then
      some l
    else if r.ordinaryOwner = (id : Int) then
      some l
    else
      (if 0 ≤ r.ordinaryOwner then l.releaseOrdinary? r.ordinaryOwner.toNat r else some l).bind
        fun l => (l.modifyRecord seq (takeOwner id now)).chargeOrdinary? id r

/-- `retireOne`, checked; a record's proof is entered at its owner's place in `perLeg`. -/
def retireOne?
    (now : Time) (head : Option StreamTXRecord)
    (st : StreamTXLedger × StreamTXACKResult) (seq : Nat) :
    Option (StreamTXLedger × StreamTXACKResult) :=
  let l := st.1
  let result := st.2
  if seq ∉ l.outstanding then
    some st
  else
    let r := l.record seq
    let perLeg := attributeAcked result.perLeg r
    let retired := { l with outstanding := l.outstanding.filter (· ≠ seq) }
    let result :=
      { result with
        retiredBytes := result.retiredBytes + r.payload.length
        released := result.released + 1 }
    if 0 ≤ r.ordinaryOwner ∧ r.ordinaryOwner.toNat < l.ordinaryFrames.length then
      if r.ordinaryOwner.toNat < perLeg.length then
        (retired.releaseOrdinary? r.ordinaryOwner.toNat r).map fun l =>
          (l, { result with
            perLeg := perLeg.modify r.ordinaryOwner.toNat (classifyProof now head r) })
      else
        none
    else
      some (retired, { result with perLeg := perLeg })

/-- `advanceACK`, checked; the counters are first read for every leg. -/
def advanceACK? (next : Nat) (now : Time) : Option StreamTXLedger :=
  if l.maxLegs ≤ l.ordinaryFrames.length ∧ l.maxLegs ≤ l.ordinaryBytes.length then
    ((List.range' l.ackedNext (next - l.ackedNext)).foldlM
      (retireOne? now l.ackHead) (l, l.advancedResult next)).map fun retired =>
        let l' := exposeFrontier { retired.1 with ackedNext := next } now
        if 0 < retired.2.released then { l' with lastACKProgress := now } else l'
  else
    none

/-- `applyACK`, checked. -/
def applyACK? (next : Nat) (now : Time) : Option StreamTXLedger :=
  let l := l.ensureLocked
  if l.nextSequence < next then
    some { l with futureACKCount := l.futureACKCount + 1 }
  else if next ≤ l.ackedNext then
    some l
  else
    l.advanceACK? next now

/-- A ledger operation, checked; only these three use a slice. -/
def applyOp? : LedgerOp → Option StreamTXLedger
  | .markOrdinaryAdmitted seq id => l.markOrdinaryAdmitted? seq id
  | .assignOrdinary seq id now => l.assignOrdinary? seq id now
  | .applyACK next now => l.applyACK? next now
  | op => some (l.applyOp op)

end Checked

section Counters

/-- The three per-leg counters. -/
inductive Counter where
  | frames
  | bytes
  | pending
deriving DecidableEq

/-- The counter's slice. -/
def Counter.slice : Counter → StreamTXLedger → List Int
  | .frames, l => l.ordinaryFrames
  | .bytes, l => l.ordinaryBytes
  | .pending, l => l.pendingBytes

/-- What a record counts for. -/
def Counter.amount : Counter → StreamTXRecord → Nat
  | .frames, _ => 1
  | .bytes, r => r.payload.length
  | .pending, r => if r.ordinaryAdmitted then 0 else r.payload.length

/-- The counter's slice is balanced over the outstanding records. -/
def Counter.Balanced (c : Counter) (l : StreamTXLedger) : Prop :=
  Lib.Counters.Balanced (c.slice l) l.outstanding (fun seq => (l.record seq).ordinaryOwner)
    (fun seq => (c.amount (l.record seq) : Int))

/-- The accounting invariant. -/
structure Accounts (l : StreamTXLedger) : Prop where
  nodup : l.outstanding.Nodup
  /-- The three slices have `maxLegs` entries. -/
  length_eq : ∀ c : Counter, (c.slice l).length = l.maxLegs
  /-- An owner is a leg that the slices reach. -/
  owner_lt : ∀ seq ∈ l.outstanding, (l.record seq).ordinaryOwner < (l.maxLegs : Int)
  balanced : ∀ c : Counter, c.Balanced l

variable {l l' : StreamTXLedger}

theorem slice_releaseOrdinary (c : Counter) (l : StreamTXLedger) (owner : Nat)
    (r : StreamTXRecord) :
    c.slice (l.releaseOrdinary owner r) =
      (c.slice l).modify owner (· - (c.amount r : Int)) := by
  cases c with
  | frames | bytes => rfl
  | pending =>
    simp only [Counter.slice, Counter.amount, releaseOrdinary]
    cases r.ordinaryAdmitted with
    | true => exact (modify_sub_zero _ _).symm
    | false => rfl

theorem slice_chargeOrdinary (c : Counter) (l : StreamTXLedger) (owner : Nat) (r : StreamTXRecord) :
    c.slice (l.chargeOrdinary owner r) =
      (c.slice l).modify owner (· + (c.amount r : Int)) := by
  cases c with
  | frames | bytes => rfl
  | pending =>
    simp only [Counter.slice, Counter.amount, chargeOrdinary]
    cases r.ordinaryAdmitted with
    | true => exact (modify_add_zero _ _).symm
    | false => rfl

theorem subAt?_eq_some {xs : List Int} {i n : Nat} (hi : i < xs.length)
    (hn : (n : Int) ≤ xs.getD i 0) : subAt? xs i n = some (xs.modify i (· - (n : Int))) :=
  if_pos ⟨hi, hn⟩

theorem addAt?_eq_some {xs : List Int} {i : Nat} (n : Nat) (hi : i < xs.length) :
    addAt? xs i n = some (xs.modify i (· + (n : Int))) :=
  if_pos hi

theorem releaseOrdinary?_eq_some {owner : Nat} {r : StreamTXRecord}
    (hlen : ∀ c : Counter, owner < (c.slice l).length)
    (hle : ∀ c : Counter, (c.amount r : Int) ≤ (c.slice l).getD owner 0) :
    l.releaseOrdinary? owner r = some (l.releaseOrdinary owner r) := by
  have hframes := subAt?_eq_some (hlen .frames) (hle .frames)
  have hbytes := subAt?_eq_some (hlen .bytes) (hle .bytes)
  have hpending := subAt?_eq_some (hlen .pending) (hle .pending)
  simp only [Counter.slice, Counter.amount] at hframes hbytes hpending
  unfold releaseOrdinary? releaseOrdinary
  rw [hframes, hbytes]
  cases hadm : r.ordinaryAdmitted with
  | true => rfl
  | false =>
    rw [hadm] at hpending
    simp only [Bool.false_eq_true, if_false] at hpending ⊢
    rw [hpending]
    rfl

theorem chargeOrdinary?_eq_some {owner : Nat} (r : StreamTXRecord)
    (hlen : ∀ c : Counter, owner < (c.slice l).length) :
    l.chargeOrdinary? owner r = some (l.chargeOrdinary owner r) := by
  have hframes := addAt?_eq_some 1 (hlen .frames)
  have hbytes := addAt?_eq_some r.payload.length (hlen .bytes)
  have hpending := addAt?_eq_some r.payload.length (hlen .pending)
  simp only [Counter.slice] at hframes hbytes hpending
  unfold chargeOrdinary? chargeOrdinary
  rw [hframes, hbytes, hpending]
  cases r.ordinaryAdmitted <;> rfl

end Counters

section Frame

variable {l l' : StreamTXLedger}

/-- The record rewrites that no counter and no frontier timestamp sees. -/
def Neutral (f : StreamTXRecord → StreamTXRecord) : Prop :=
  ∀ r, (f r).payload = r.payload ∧ (f r).ordinaryOwner = r.ordinaryOwner ∧
    (f r).ordinaryAdmitted = r.ordinaryAdmitted ∧ (f r).frontierAt = r.frontierAt

/-- The two ledgers agree on everything the accounting reads. -/
structure SameAccount (l l' : StreamTXLedger) : Prop where
  stream : SameStream l l'
  maxLegs : l'.maxLegs = l.maxLegs
  slice : ∀ c : Counter, c.slice l' = c.slice l
  owner : ∀ seq, (l'.record seq).ordinaryOwner = (l.record seq).ordinaryOwner
  admitted : ∀ seq, (l'.record seq).ordinaryAdmitted = (l.record seq).ordinaryAdmitted
  frontierAt : ∀ seq, (l'.record seq).frontierAt = (l.record seq).frontierAt

theorem SameAccount.refl (l : StreamTXLedger) : SameAccount l l :=
  ⟨SameStream.refl l, rfl, fun _ => rfl, fun _ => rfl, fun _ => rfl, fun _ => rfl⟩

theorem SameAccount.of_neutral {l l' : StreamTXLedger} {f : StreamTXRecord → StreamTXRecord}
    (hf : Neutral f) (hstream : SameStream l l') (hlegs : l'.maxLegs = l.maxLegs)
    (hslice : ∀ c : Counter, c.slice l' = c.slice l)
    (hrecord : ∀ i, l'.record i = f (l.record i) ∨ l'.record i = l.record i) :
    SameAccount l l' := by
  have hreading : ∀ {β : Type} (g : StreamTXRecord → β) (_ : ∀ r, g (f r) = g r) (i : Nat),
      g (l'.record i) = g (l.record i) := by
    intro β g hg i
    rcases hrecord i with h | h
    · rw [h, hg]
    · rw [h]
  refine ⟨hstream, hlegs, hslice, ?_, ?_, ?_⟩
  · exact hreading _ fun r => (hf r).2.1
  · exact hreading _ fun r => (hf r).2.2.1
  · exact hreading _ fun r => (hf r).2.2.2

theorem SameAccount.modifyRecord (l : StreamTXLedger) (seq : Nat)
    {f : StreamTXRecord → StreamTXRecord} (hf : Neutral f) :
    SameAccount l (l.modifyRecord seq f) := by
  refine SameAccount.of_neutral hf (SameStream.modifyRecord l seq fun r => (hf r).1) rfl
    (fun c => by cases c <;> rfl) fun i => ?_
  rw [modifyRecord_record]
  split
  · next h => exact .inl (by rw [h])
  · exact .inr rfl

theorem SameAccount.amount (h : SameAccount l l') (c : Counter) (seq : Nat) :
    c.amount (l'.record seq) = c.amount (l.record seq) := by
  cases c <;> simp only [Counter.amount, h.stream.payload, h.admitted]

theorem Accounts.of_sameAccount (hl : Accounts l) (h : SameAccount l l') : Accounts l' where
  nodup := by rw [h.stream.outstanding]; exact hl.nodup
  length_eq c := by rw [h.slice, h.maxLegs]; exact hl.length_eq c
  owner_lt seq hseq := by
    rw [h.stream.outstanding] at hseq
    rw [h.owner, h.maxLegs]
    exact hl.owner_lt seq hseq
  balanced c := by
    have hc := hl.balanced c
    unfold Counter.Balanced at hc ⊢
    rw [h.slice, h.stream.outstanding]
    refine hc.congr (fun seq _ => h.owner seq) fun seq _ => ?_
    rw [h.amount c seq]

theorem getD_sameAccount {o : Option StreamTXLedger} (h : ∀ l', o = some l' → SameAccount l l') :
    SameAccount l (o.getD l) := by
  cases o with
  | none => exact SameAccount.refl l
  | some l' => exact h l' rfl

theorem invalidateRecord_neutral (leg : LegID) : Neutral (invalidateRecord leg) := by
  intro r
  refine invalidateRecord_keeps (P := fun r' => r'.payload = r.payload ∧
      r'.ordinaryOwner = r.ordinaryOwner ∧ r'.ordinaryAdmitted = r.ordinaryAdmitted ∧
      r'.frontierAt = r.frontierAt) leg (fun _ h => h) (fun _ h => h) (fun _ h => h)
    (fun _ h => h) ?_
  exact ⟨rfl, rfl, rfl, rfl⟩

theorem invalidateLeg_sameAccount (l : StreamTXLedger) (leg : LegID) :
    SameAccount l (l.invalidateLeg leg) := by
  refine SameAccount.of_neutral (invalidateRecord_neutral leg) (invalidateLeg_sameStream l leg) rfl
    (fun c => by cases c <;> rfl) fun i => ?_
  simp only [invalidateLeg]
  split
  · exact .inl rfl
  · exact .inr rfl

/-- Every operation other than `add`, the two that move a counter and `applyACK` leaves the
accounting alone. -/
theorem applyOp_sameAccount (l : StreamTXLedger) (op : LedgerOp)
    (hadd : ∀ payload now isLocal, op ≠ .add payload now isLocal)
    (hmark : ∀ seq id, op ≠ .markOrdinaryAdmitted seq id)
    (hassign : ∀ seq id now, op ≠ .assignOrdinary seq id now)
    (hack : ∀ next now, op ≠ .applyACK next now) : SameAccount l (l.applyOp op) := by
  have hneutral : ∀ {f : StreamTXRecord → StreamTXRecord} {seq : Nat}, Neutral f →
      SameAccount l (l.modifyRecord seq f) := fun hf => SameAccount.modifyRecord l _ hf
  cases op with
  | add payload now isLocal => exact absurd rfl (hadd payload now isLocal)
  | markOrdinaryAdmitted seq id => exact absurd rfl (hmark seq id)
  | assignOrdinary seq id now => exact absurd rfl (hassign seq id now)
  | applyACK next now => exact absurd rfl (hack next now)
  | finishLocalEnqueue seq =>
    simp only [applyOp, finishLocalEnqueue]
    exact hneutral fun _ => ⟨rfl, rfl, rfl, rfl⟩
  | storeRecoveryProbeWriteStartedAt seq startedAt =>
    simp only [applyOp, storeRecoveryProbeWriteStartedAt]
    exact hneutral fun _ => ⟨rfl, rfl, rfl, rfl⟩
  | markTransit seq leg now =>
    refine getD_sameAccount fun l' h => ?_
    obtain ⟨_, _, rfl⟩ := markTransit_eq_some_iff.1 h
    exact hneutral fun _ => ⟨rfl, rfl, rfl, rfl⟩
  | markRescueTransit seq leg now =>
    refine getD_sameAccount fun l' h => ?_
    obtain ⟨_, _, _, rfl⟩ := markRescueTransitLocked_eq_some_iff.1 h
    exact hneutral fun _ => ⟨rfl, rfl, rfl, rfl⟩
  | markRestrictedRescueTransit seq leg owner now =>
    refine getD_sameAccount fun l' h => ?_
    unfold markRestrictedRescueTransit at h
    split at h
    · cases h
    · obtain ⟨_, _, _, rfl⟩ := markRescueTransitLocked_eq_some_iff.1 h
      exact hneutral fun _ => ⟨rfl, rfl, rfl, rfl⟩
  | markRescueQueued seq leg started =>
    refine getD_sameAccount fun l' h => ?_
    unfold markRescueQueued at h
    dsimp only at h
    split_ifs at h
    cases h
    exact hneutral fun _ => ⟨rfl, rfl, rfl, rfl⟩
  | clearAttemptAt seq leg rescue started =>
    simp only [applyOp, clearAttemptAt]
    split_ifs <;>
      first
      | exact SameAccount.refl l
      | exact hneutral fun _ => ⟨rfl, rfl, rfl, rfl⟩
  | markAttemptSent seq leg rescue now =>
    simp only [applyOp, markAttemptSent]
    split_ifs <;>
      first
      | exact SameAccount.refl l
      | exact hneutral fun _ => ⟨rfl, rfl, rfl, rfl⟩
  | invalidateLeg leg => exact invalidateLeg_sameAccount l leg
  | markWriteStarted seq leg rescue now =>
    simp only [applyOp, markWriteStarted]
    split
    · exact hneutral fun _ => ⟨rfl, rfl, rfl, rfl⟩
    · exact SameAccount.refl l
  | setOrigin seq generation epoch =>
    simp only [applyOp, setOrigin]
    split
    · exact hneutral fun _ => ⟨rfl, rfl, rfl, rfl⟩
    · exact SameAccount.refl l

end Frame

section Steps

variable {l l' : StreamTXLedger}

theorem accounts_new (maxLegs : Nat) : Accounts (newStreamTXLedger maxLegs) where
  nodup := nodup_nil
  length_eq c := by cases c <;> simp [Counter.slice, newStreamTXLedger]
  owner_lt seq hseq := by cases hseq
  balanced c := by
    intro i
    have hzero : c.slice (newStreamTXLedger maxLegs) =
        [] ++ List.replicate (newStreamTXLedger maxLegs).maxLegs 0 := by
      cases c <;> rfl
    rw [hzero, getD_append_zeros]
    rfl

/-- The slices only grow by zeros. -/
structure Grown (l l' : StreamTXLedger) : Prop where
  records : SameRecords l l'
  maxLegs_le : l.maxLegs ≤ l'.maxLegs
  slice : ∀ c : Counter, ∃ n, c.slice l' = c.slice l ++ List.replicate n 0
  length_eq : ∀ c : Counter, (c.slice l').length = l'.maxLegs

theorem Accounts.grow (hl : Accounts l) (h : Grown l l') : Accounts l' where
  nodup := by rw [h.records.outstanding]; exact hl.nodup
  length_eq := h.length_eq
  owner_lt seq hseq := by
    rw [h.records.outstanding] at hseq
    rw [h.records.record]
    have hle : (l.maxLegs : Int) ≤ l'.maxLegs := Int.ofNat_le.2 h.maxLegs_le
    exact lt_of_lt_of_le (hl.owner_lt seq hseq) hle
  balanced c := by
    obtain ⟨n, hn⟩ := h.slice c
    unfold Counter.Balanced
    rw [hn, h.records.outstanding, h.records.record]
    exact (hl.balanced c).grow n

theorem grown_ensureLocked (hlen : ∀ c : Counter, (c.slice l).length = l.maxLegs) :
    Grown l l.ensureLocked := by
  have hframes : l.ordinaryFrames.length = l.maxLegs := hlen .frames
  have hbytes : l.ordinaryBytes.length = l.maxLegs := hlen .bytes
  have hpending : l.pendingBytes.length = l.maxLegs := hlen .pending
  refine ⟨ensureLocked_sameRecords l, ?_, ?_, ?_⟩ <;>
    unfold ensureLocked <;>
    dsimp only <;>
    split
  · exact Nat.le_max_left _ _
  · exact Nat.le_max_left _ _
  · intro c
    cases c <;> exact ⟨_, rfl⟩
  · intro c
    refine ⟨0, ?_⟩
    cases c <;> simp [Counter.slice]
  · intro c
    cases c <;> simp only [Counter.slice, growTo, length_append, length_replicate] <;>
      omega
  · intro c
    cases c <;> simp only [Counter.slice] <;> omega

theorem grown_ensureLegLocked {id : LegID} (hlen : ∀ c : Counter, (c.slice l).length = l.maxLegs)
    (h : l.ensureLegLocked id = some l') : Grown l l' ∧ id < l'.maxLegs := by
  have hrecords := ensureLegLocked_sameRecords h
  have hg := grown_ensureLocked hlen
  have hframes : l.ensureLocked.ordinaryFrames.length = l.ensureLocked.maxLegs :=
    hg.length_eq .frames
  have hbytes : l.ensureLocked.ordinaryBytes.length = l.ensureLocked.maxLegs :=
    hg.length_eq .bytes
  have hpending : l.ensureLocked.pendingBytes.length = l.ensureLocked.maxLegs :=
    hg.length_eq .pending
  unfold ensureLegLocked at h
  dsimp only at h
  split_ifs at h with hid hfits hshort
  · cases h
    exact ⟨hg, hfits⟩
  · cases h
    refine ⟨⟨hrecords, ?_, fun c => ?_, fun c => ?_⟩, Nat.lt_succ_self id⟩
    · have := hg.maxLegs_le
      dsimp only
      omega
    · obtain ⟨n, hn⟩ := hg.slice c
      refine ⟨n + (id + 1 - l.ensureLocked.ordinaryFrames.length), ?_⟩
      rw [← replicate_append_replicate, ← append_assoc, ← hn]
      cases c <;> rfl
    · cases c <;> simp only [Counter.slice, length_append, length_replicate] <;> omega
  · -- the slices are as long as `maxLegs`, so an id past `maxLegs` is past their end
    rw [hframes] at hshort
    exact absurd (Nat.lt_of_not_le hfits) hshort

theorem accounts_ensureLocked (hl : Accounts l) : Accounts l.ensureLocked :=
  hl.grow (grown_ensureLocked hl.length_eq)

/-- An id of a byte always gets its place in the slices. -/
theorem accounts_ensureLegLocked {id : LegID} (hl : Accounts l)
    (h : l.ensureLegLocked id = some l') : Accounts l' ∧ id < l'.maxLegs :=
  ⟨hl.grow (grown_ensureLegLocked hl.length_eq h).1, (grown_ensureLegLocked hl.length_eq h).2⟩

theorem accounts_add (hl : Accounts l) (hwf : WellFormed l) (payload : List UInt8) (now : Time)
    (isLocal : Bool) : Accounts (l.add payload now isLocal).1 := by
  have hg := accounts_ensureLocked hl
  have hnew : l.nextSequence ∉ l.outstanding := by
    rw [hwf.mem_iff]
    omega
  have hslice : ∀ c : Counter,
      c.slice (l.add payload now isLocal).1 = c.slice l.ensureLocked := by
    intro c
    cases c <;> rfl
  have hout : (l.add payload now isLocal).1.outstanding = l.nextSequence :: l.outstanding := by
    simp only [add, ensureLocked_outstanding, ensureLocked_nextSequence]
    exact insert_of_not_mem hnew
  have hself : ((l.add payload now isLocal).1.record l.nextSequence).ordinaryOwner = -1 := by
    simp [add]
  have hold : ∀ seq ∈ l.outstanding,
      (l.add payload now isLocal).1.record seq = l.record seq := by
    intro seq hseq
    have hne : seq ≠ l.nextSequence := fun h => hnew (h ▸ hseq)
    simp [add, hne]
  refine ⟨(hwf.add payload now isLocal).nodup, fun c => ?_, fun seq hseq => ?_, fun c => ?_⟩
  · rw [hslice]
    exact hg.length_eq c
  · rw [hout] at hseq
    show _ < (l.ensureLocked.maxLegs : Int)
    rcases mem_cons.1 hseq with rfl | hseq
    · rw [hself]
      omega
    · rw [hold seq hseq]
      have hlt := hg.owner_lt seq (by rw [ensureLocked_outstanding]; exact hseq)
      rwa [ensureLocked_record] at hlt
  · have hb := hg.balanced c
    unfold Counter.Balanced at hb ⊢
    rw [ensureLocked_outstanding, ensureLocked_record] at hb
    rw [hslice, hout]
    refine Balanced.cons_unowned ?_ (by rw [hself]; decide)
    refine hb.congr (fun seq hseq => ?_) fun seq hseq => ?_
    · rw [hold seq hseq]
    · rw [hold seq hseq]

theorem Accounts.amount_le {seq i : Nat} (hl : Accounts l) (hseq : seq ∈ l.outstanding)
    (howner : (l.record seq).ordinaryOwner = i) (c : Counter) :
    (c.amount (l.record seq) : Int) ≤ (c.slice l).getD i 0 := by
  rw [hl.balanced c i]
  have hnonneg : ∀ k ∈ l.outstanding, (0 : Int) ≤ (c.amount (l.record k) : Int) :=
    fun k _ => Int.natCast_nonneg _
  exact amount_le_ownedSum hnonneg hl.nodup hseq howner

/-- One outstanding record is rewritten within the slices' reach, and every counter follows. -/
theorem Accounts.rebook {seq : Nat} (hl : Accounts l) (hseq : seq ∈ l.outstanding)
    (hstream : SameStream l l') (hmaxLegs : l'.maxLegs = l.maxLegs)
    (hlen : ∀ c : Counter, (c.slice l').length = (c.slice l).length)
    (hother : ∀ i, i ≠ seq → l'.record i = l.record i)
    (howner : (l'.record seq).ordinaryOwner < (l.maxLegs : Int))
    (hslice : ∀ (c : Counter) (i : Nat), (c.slice l').getD i 0 = (c.slice l).getD i 0 -
      (if (l.record seq).ordinaryOwner = i then (c.amount (l.record seq) : Int) else 0) +
      (if (l'.record seq).ordinaryOwner = i then (c.amount (l'.record seq) : Int) else 0)) :
    Accounts l' where
  nodup := by rw [hstream.outstanding]; exact hl.nodup
  length_eq c := by rw [hlen, hmaxLegs]; exact hl.length_eq c
  owner_lt i hi := by
    rw [hstream.outstanding] at hi
    rw [hmaxLegs]
    by_cases h : i = seq
    · rw [h]
      exact howner
    · rw [hother i h]
      exact hl.owner_lt i hi
  balanced c := by
    have hc := hl.balanced c
    unfold Counter.Balanced at hc ⊢
    rw [hstream.outstanding]
    refine hc.rebook hl.nodup hseq (fun i _ h => ?_) (fun i _ h => ?_) (hslice c)
    · rw [hother i h]
    · rw [hother i h]

theorem accounts_markOrdinaryAdmitted (hl : Accounts l) (seq id : Nat) :
    l.markOrdinaryAdmitted? seq id = some (l.markOrdinaryAdmitted seq id) ∧
      Accounts (l.markOrdinaryAdmitted seq id) := by
  unfold markOrdinaryAdmitted? markOrdinaryAdmitted
  cases hleg : l.ensureLegLocked id with
  | none => exact ⟨rfl, accounts_ensureLocked hl⟩
  | some l₁ =>
    obtain ⟨h₁, hid⟩ := accounts_ensureLegLocked hl hleg
    dsimp only
    split_ifs with hskip
    · exact ⟨rfl, h₁⟩
    · push Not at hskip
      obtain ⟨hseq, howner, hadm⟩ := hskip
      have hlen : id < l₁.pendingBytes.length := by
        rw [show l₁.pendingBytes.length = l₁.maxLegs from h₁.length_eq .pending]
        exact hid
      have hle : ((l₁.record seq).payload.length : Int) ≤ l₁.pendingBytes.getD id 0 := by
        have hle := h₁.amount_le hseq howner .pending
        rwa [show Counter.pending.amount (l₁.record seq) = (l₁.record seq).payload.length by
          rw [Counter.amount, if_neg hadm]] at hle
      refine ⟨by rw [subAt?_eq_some hlen hle]; rfl, ?_⟩
      have hpayload : ∀ r : StreamTXRecord,
          ({ r with ordinaryAdmitted := true } : StreamTXRecord).payload = r.payload :=
        fun _ => rfl
      refine h₁.rebook hseq ?_ rfl (fun c => ?_) (fun i hi => ?_) ?_ fun c i => ?_
      · have hsame := SameStream.modifyRecord l₁ seq hpayload
        exact ⟨hsame.next, hsame.acked, hsame.outstanding, hsame.payload⟩
      · cases c <;> simp [Counter.slice, modifyRecord]
      · simp [modifyRecord, hi]
      · simpa [modifyRecord] using h₁.owner_lt seq hseq
      · cases c with
        | frames | bytes => simp [Counter.slice, Counter.amount, modifyRecord]
        | pending =>
          simp only [Counter.slice, Counter.amount, hadm, howner, modifyRecord_record_self]
          rw [getD_modify _ i _ hlen]
          rcases eq_or_ne i id with rfl | hi
          · simp
          · rw [if_neg hi, if_neg (by omega), if_neg (by omega)]
            omega

/-- The ledger with the record handed from its owner, if it has one, to `id`. -/
def handOver (l : StreamTXLedger) (seq : Nat) (id : LegID) (now : Time) : StreamTXLedger :=
  let r := l.record seq
  let l := if 0 ≤ r.ordinaryOwner then l.releaseOrdinary r.ordinaryOwner.toNat r else l
  (l.modifyRecord seq (takeOwner id now)).chargeOrdinary id r

theorem slice_modifyRecord (c : Counter) (l : StreamTXLedger) (seq : Nat)
    (f : StreamTXRecord → StreamTXRecord) : c.slice (l.modifyRecord seq f) = c.slice l := by
  cases c <;> rfl

theorem slice_handOver {seq id : Nat} (hl : Accounts l) (hseq : seq ∈ l.outstanding)
    (hid : id < l.maxLegs) (now : Time) (c : Counter) :
    (c.slice (l.handOver seq id now)).length = (c.slice l).length ∧
      ∀ i : Nat, (c.slice (l.handOver seq id now)).getD i 0 = (c.slice l).getD i 0 -
        (if (l.record seq).ordinaryOwner = i then (c.amount (l.record seq) : Int) else 0) +
        (if (id : Int) = i then (c.amount (l.record seq) : Int) else 0) := by
  unfold handOver
  dsimp only
  rw [slice_chargeOrdinary, slice_modifyRecord, length_modify]
  by_cases howner : 0 ≤ (l.record seq).ordinaryOwner
  · obtain ⟨o, ho⟩ := Int.eq_ofNat_of_zero_le howner
    have holt := hl.owner_lt seq hseq
    rw [if_pos howner, slice_releaseOrdinary, length_modify, ho]
    refine ⟨rfl, fun i => ?_⟩
    have hidlen : id < (c.slice l).length := by rw [hl.length_eq]; exact hid
    have holen : o < (c.slice l).length := by rw [hl.length_eq]; omega
    rw [getD_modify _ i _ (by rw [length_modify]; exact hidlen), Int.toNat_natCast,
      getD_modify _ i _ holen, getD_modify _ id _ holen]
    rcases eq_or_ne i id with rfl | hi
    · rcases eq_or_ne i o with rfl | hio
      · simp
      · rw [if_pos rfl, if_neg hio, if_neg (by omega), if_pos rfl, Int.sub_zero]
    · rw [if_neg hi, if_neg (show ¬(id : Int) = i by omega), Int.add_zero]
      rcases eq_or_ne i o with rfl | hio
      · rw [if_pos rfl, if_pos rfl]
      · rw [if_neg hio, if_neg (by omega), Int.sub_zero]
  · rw [if_neg howner]
    refine ⟨rfl, fun i => ?_⟩
    have hnot : ¬(l.record seq).ordinaryOwner = i := by omega
    rw [getD_modify _ i _ (by rw [hl.length_eq]; exact hid), if_neg hnot, Int.sub_zero]
    rcases eq_or_ne i id with rfl | hi
    · rw [if_pos rfl, if_pos rfl]
    · rw [if_neg hi, if_neg (by omega), Int.add_zero]

theorem handOver_sameStream (l : StreamTXLedger) (seq : Nat) (id : LegID) (now : Time) :
    SameStream l (l.handOver seq id now) := by
  have hsame := SameStream.modifyRecord l seq (fun r =>
    show (takeOwner id now r).payload = r.payload from rfl)
  unfold handOver
  dsimp only
  split <;> exact ⟨hsame.next, hsame.acked, hsame.outstanding, hsame.payload⟩

theorem accounts_handOver {seq id : Nat} (hl : Accounts l) (hseq : seq ∈ l.outstanding)
    (hid : id < l.maxLegs) (now : Time) : Accounts (l.handOver seq id now) := by
  have hrecord : (l.handOver seq id now).record =
      (l.modifyRecord seq (takeOwner id now)).record := by
    unfold handOver
    dsimp only
    split <;> rfl
  have hself : (l.handOver seq id now).record seq = takeOwner id now (l.record seq) := by
    rw [hrecord, modifyRecord_record_self]
  have hamount : ∀ c : Counter,
      c.amount (takeOwner id now (l.record seq)) = c.amount (l.record seq) := by
    intro c
    cases c <;> rfl
  refine hl.rebook hseq (handOver_sameStream l seq id now) ?_
    (fun c => (slice_handOver hl hseq hid now c).1) (fun i hi => ?_) ?_ fun c i => ?_
  · unfold handOver
    dsimp only
    split <;> rfl
  · rw [hrecord, modifyRecord_record_of_ne l hi]
  · rw [hself]
    exact Int.ofNat_lt.2 hid
  · rw [(slice_handOver hl hseq hid now c).2 i, hself, hamount]
    rfl

/-- The record's amounts are on its old owner's counters, so the hand-over does not fail. -/
theorem handOver_checked {seq id : Nat} (hl : Accounts l) (hseq : seq ∈ l.outstanding)
    (hid : id < l.maxLegs) (now : Time) :
    ((if 0 ≤ (l.record seq).ordinaryOwner then
        l.releaseOrdinary? (l.record seq).ordinaryOwner.toNat (l.record seq)
      else some l).bind fun l' =>
        (l'.modifyRecord seq (takeOwner id now)).chargeOrdinary? id (l.record seq)) =
      some (l.handOver seq id now) := by
  have hidlen : ∀ c : Counter, id < (c.slice l).length := by
    intro c
    rw [hl.length_eq]
    exact hid
  unfold handOver
  dsimp only
  split_ifs with howner
  · obtain ⟨o, ho⟩ := Int.eq_ofNat_of_zero_le howner
    have holt := hl.owner_lt seq hseq
    have hrel : l.releaseOrdinary? (l.record seq).ordinaryOwner.toNat (l.record seq) =
        some (l.releaseOrdinary (l.record seq).ordinaryOwner.toNat (l.record seq)) := by
      rw [ho, Int.toNat_natCast]
      refine releaseOrdinary?_eq_some (fun c => ?_) fun c => hl.amount_le hseq ho c
      rw [hl.length_eq]
      omega
    rw [hrel, Option.bind_some]
    refine chargeOrdinary?_eq_some _ fun c => ?_
    rw [slice_modifyRecord, slice_releaseOrdinary, length_modify]
    exact hidlen c
  · rw [Option.bind_some]
    refine chargeOrdinary?_eq_some _ fun c => ?_
    rw [slice_modifyRecord]
    exact hidlen c

theorem accounts_assignOrdinary (hl : Accounts l) (seq id : Nat) (now : Time) :
    l.assignOrdinary? seq id now = some (l.assignOrdinary seq id now).1 ∧
      Accounts (l.assignOrdinary seq id now).1 := by
  unfold assignOrdinary? assignOrdinary
  cases hleg : l.ensureLegLocked id with
  | none => exact ⟨rfl, accounts_ensureLocked hl⟩
  | some l₁ =>
    obtain ⟨h₁, hid⟩ := accounts_ensureLegLocked hl hleg
    dsimp only
    by_cases hseq : seq ∈ l₁.outstanding
    · by_cases hsame : (l₁.record seq).ordinaryOwner = id
      · simp only [hseq, hsame, not_true_eq_false, if_false, if_true]
        exact ⟨trivial, h₁⟩
      · simp only [hseq, hsame, not_true_eq_false, if_false]
        exact ⟨handOver_checked h₁ hseq hid now, accounts_handOver h₁ hseq hid now⟩
    · simp only [hseq, not_false_eq_true, if_true]
      exact ⟨trivial, h₁⟩

end Steps

end Smp3Multipath.Core.StreamTXLedger

import Smp3Multipath.Core.StreamRepair
import Smp3Multipath.Lib.SlotInsert

/-!
# The repair batch of a restricted owner

`RestrictedFrontierBatch` walks the outstanding map, whose order Go leaves open, and keeps the
eight lowest eligible sequences in a fixed array; then it cuts the array where the payloads
exceed a byte budget.  The order of the walk is a parameter here.
-/

namespace Smp3Multipath.Core.StreamTXLedger

open Lib Lib.SlotInsert List

/-- An order in which Go may walk the outstanding map: every key once. -/
structure IterationOrder (l : StreamTXLedger) (order : List Nat) : Prop where
  nodup : order.Nodup
  mem_iff : ∀ seq, seq ∈ order ↔ seq ∈ l.outstanding

/-- The record passes the filter of `RestrictedFrontierBatch`. -/
def batchEligible (owner : Int) (now cutoff : Time) (cooldown : Int) (r : StreamTXRecord) : Bool :=
  !(decide (r.ordinaryOwner ≠ owner) || decide (cutoff < r.createdAt) || r.rescueInTransit ||
    (decide (r.lastRescueAt ≠ 0) && decide ((now : Int) - (r.lastRescueAt : Int) < cooldown)))

/-- The second loop: cut before the payload that exceeds the budget, but not before the first. -/
def cutBatch (size : Nat → Nat) (byteBudget : Int) (bytes count : Nat) : List Nat → List Nat
  | [] => []
  | seq :: rest =>
    if count > 0 ∧ ((bytes + size seq : Nat) : Int) > byteBudget then []
    else seq :: cutBatch size byteBudget (bytes + size seq) (count + 1) rest

/-- `RestrictedFrontierBatch` over a walk in the given order; `none` is the nil slice. -/
def restrictedFrontierBatch (l : StreamTXLedger) (order : List Nat) (frontier : Option Nat)
    (owner : Int) (now cutoff : Time) (cooldown byteBudget : Int) : Option (List Nat) :=
  match frontier with
  | none => none
  | some frontier =>
    if l.ackedNext ∉ l.outstanding ∨ frontier ≠ l.ackedNext ∨
        (l.record frontier).ordinaryOwner ≠ owner then none
    else
      let kept := order.foldl (fun kept seq =>
        if batchEligible owner now cutoff cooldown (l.record seq) then kept.offer 8 seq
        else kept) Slots.empty
      some (cutBatch (fun seq => (l.record seq).payload.length) byteBudget 0 0 kept.contents)

section Cut

variable {size : Nat → Nat} {byteBudget : Int}

/-- The payloads of a prefix are within the budget, which the first of them need not be. -/
def WithinBudget (size : Nat → Nat) (byteBudget : Int) (batch : List Nat) : Prop :=
  batch.length ≤ 1 ∨ ((batch.map size).sum : Int) ≤ byteBudget

/-- The longest prefix within the budget. -/
structure LongestWithin (size : Nat → Nat) (byteBudget : Int) (candidates batch : List Nat) :
    Prop where
  isPrefix : batch <+: candidates
  within : WithinBudget size byteBudget batch
  longest : ∀ other, other <+: candidates → WithinBudget size byteBudget other →
    other.length ≤ batch.length

/-- The loop after the first payload. -/
theorem cutBatch_later (bytes count : Nat) (candidates : List Nat) (hcount : 0 < count) :
    cutBatch size byteBudget bytes count candidates <+: candidates ∧
      (cutBatch size byteBudget bytes count candidates ≠ [] →
        (bytes + ((cutBatch size byteBudget bytes count candidates).map size).sum : Int) ≤
          byteBudget) ∧
      ∀ other, other <+: candidates → (bytes + ((other.map size).sum : Nat) : Int) ≤ byteBudget →
        other.length ≤ (cutBatch size byteBudget bytes count candidates).length := by
  induction candidates generalizing bytes count with
  | nil =>
    refine ⟨prefix_refl _, fun hne => absurd rfl hne, fun other hother _ => ?_⟩
    rw [prefix_nil.1 hother]
    exact Nat.le_refl _
  | cons seq rest ih =>
    rw [cutBatch]
    split
    · next hover =>
      refine ⟨List.nil_prefix, fun hne => absurd rfl hne, fun other hother hfits => ?_⟩
      rcases prefix_cons_iff.1 hother with rfl | ⟨tail, rfl, htail⟩
      · exact Nat.le_refl _
      · rw [map_cons, sum_cons] at hfits
        omega
    · next hroom =>
      obtain ⟨hstart, hwithin, hlongest⟩ := ih (bytes + size seq) (count + 1) (Nat.succ_pos _)
      refine ⟨(prefix_cons_inj seq).2 hstart, fun _ => ?_, fun other hother hfits => ?_⟩
      · rw [map_cons, sum_cons]
        by_cases hnil : cutBatch size byteBudget (bytes + size seq) (count + 1) rest = []
        · rw [hnil]
          simp only [map_nil, sum_nil]
          omega
        · have hbound := hwithin hnil
          omega
      · rcases prefix_cons_iff.1 hother with rfl | ⟨tail, rfl, htail⟩
        · exact Nat.zero_le _
        · rw [map_cons, sum_cons] at hfits
          exact Nat.succ_le_succ (hlongest tail htail (by omega))

theorem cutBatch_longest (candidates : List Nat) :
    LongestWithin size byteBudget candidates (cutBatch size byteBudget 0 0 candidates) := by
  cases candidates with
  | nil =>
    refine ⟨prefix_refl _, .inl (Nat.zero_le 1), fun other hother _ => ?_⟩
    rw [prefix_nil.1 hother]
    exact Nat.le_refl _
  | cons first rest =>
    obtain ⟨hstart, hwithin, hlongest⟩ :=
      @cutBatch_later size byteBudget (0 + size first) (0 + 1) rest Nat.one_pos
    rw [cutBatch, if_neg (by omega)]
    refine ⟨(prefix_cons_inj first).2 hstart, ?_, fun other hother hother' => ?_⟩
    · by_cases hnil : cutBatch size byteBudget (0 + size first) (0 + 1) rest = []
      · rw [hnil]
        exact .inl (Nat.le_refl 1)
      · refine .inr ?_
        have hbound := hwithin hnil
        rw [map_cons, sum_cons]
        omega
    · rcases prefix_cons_iff.1 hother with rfl | ⟨tail, rfl, htail⟩
      · exact Nat.zero_le _
      · refine Nat.succ_le_succ ?_
        rcases hother' with hone | hfits
        · have hzero : tail.length = 0 := Nat.le_zero.1 (Nat.le_of_succ_le_succ hone)
          rw [hzero]
          exact Nat.zero_le _
        · rw [map_cons, sum_cons] at hfits
          exact hlongest tail htail (by omega)

end Cut

section Batch

variable {l : StreamTXLedger}

/-- The eligible sequences among the outstanding ones. -/
def eligibleSet (l : StreamTXLedger) (owner : Int) (now cutoff : Time) (cooldown : Int) :
    Finset Nat :=
  l.outstanding.toFinset.filter fun seq =>
    batchEligible owner now cutoff cooldown (l.record seq) = true

theorem walk_contents {order : List Nat} (horder : IterationOrder l order) (owner : Int)
    (now cutoff : Time) (cooldown : Int) :
    (order.foldl (fun kept seq =>
      if batchEligible owner now cutoff cooldown (l.record seq) then kept.offer 8 seq
      else kept) Slots.empty).contents =
      ((eligibleSet l owner now cutoff cooldown).sort (· ≤ ·)).take 8 := by
  have hset : (order.filter fun seq => batchEligible owner now cutoff cooldown (l.record seq)).toFinset =
      eligibleSet l owner now cutoff cooldown := by
    ext seq
    simp [eligibleSet, horder.mem_iff]
  rw [← foldl_filter, Slots.contents_offerAll 8 (horder.nodup.filter _), hset]

/-- The batch of the current frontier's owner, as a cut of the lowest eligible sequences. -/
theorem batch_current {order : List Nat} {owner : Int} (horder : IterationOrder l order)
    (hout : l.ackedNext ∈ l.outstanding) (howner : (l.record l.ackedNext).ordinaryOwner = owner)
    (now cutoff : Time) (cooldown byteBudget : Int) :
    l.restrictedFrontierBatch order (some l.ackedNext) owner now cutoff cooldown byteBudget =
      some (cutBatch (fun seq => (l.record seq).payload.length) byteBudget 0 0
        (((eligibleSet l owner now cutoff cooldown).sort (· ≤ ·)).take 8)) := by
  rw [← walk_contents horder]
  refine if_neg ?_
  simp only [not_or, not_not, ne_eq]
  exact ⟨hout, trivial, howner⟩

/-- The batch is the longest prefix, within the byte budget, of the eight lowest eligible
sequences, whatever the order of the walk; the first payload counts towards the budget, though
it is not held to it. -/
theorem restricted_batch_exact {order : List Nat} (horder : IterationOrder l order)
    (frontier : Option Nat) (owner : Int) (now cutoff : Time) (cooldown byteBudget : Int) :
    let current := ∃ seq, frontier = some seq ∧ seq = l.ackedNext ∧ seq ∈ l.outstanding ∧
      (l.record seq).ordinaryOwner = owner
    let lowest := ((eligibleSet l owner now cutoff cooldown).sort (· ≤ ·)).take 8
    (¬ current → l.restrictedFrontierBatch order frontier owner now cutoff cooldown byteBudget =
        none) ∧
      (current → ∃ batch,
        l.restrictedFrontierBatch order frontier owner now cutoff cooldown byteBudget =
            some batch ∧
          LongestWithin (fun seq => (l.record seq).payload.length) byteBudget lowest batch ∧
          (lowest ≠ [] → batch ≠ [])) ∧
      ∀ order', IterationOrder l order' →
        l.restrictedFrontierBatch order' frontier owner now cutoff cooldown byteBudget =
          l.restrictedFrontierBatch order frontier owner now cutoff cooldown byteBudget := by
  intro current lowest
  refine ⟨?_, ?_, ?_⟩
  · intro hnot
    cases frontier with
    | none => rfl
    | some seq =>
      refine if_pos ?_
      by_contra hguard
      simp only [not_or, not_not, ne_eq] at hguard
      obtain ⟨hout, rfl, howner⟩ := hguard
      exact hnot ⟨_, rfl, rfl, hout, howner⟩
  · rintro ⟨seq, rfl, rfl, hout, howner⟩
    refine ⟨_, batch_current horder hout howner now cutoff cooldown byteBudget,
      cutBatch_longest _, ?_⟩
    · intro hsome hnone
      have hlongest := (@cutBatch_longest (fun seq => (l.record seq).payload.length) byteBudget
        lowest).longest (lowest.take 1) (List.take_prefix 1 _)
        (.inl (length_take_le 1 lowest))
      rw [hnone, length_take, length_nil] at hlongest
      have hpos := length_pos_iff.2 hsome
      omega
  · intro order' horder'
    unfold restrictedFrontierBatch
    dsimp only
    rw [walk_contents horder, walk_contents horder']

/-- Two records of leg 0, of three and of two bytes. -/
def twoRecords : StreamTXLedger :=
  let l := (newStreamTXLedger 2).add [1, 2, 3] 1 false |>.1
  let l := (l.assignOrdinary 0 0 1).1
  let l := (l.add [4, 5] 2 false).1
  (l.assignOrdinary 1 0 2).1

theorem twoRecords_lowest : ((eligibleSet twoRecords 0 9 3 5).sort (· ≤ ·)).take 8 = [0, 1] := by
  have hset : eligibleSet twoRecords 0 9 3 5 = [0, 1].toFinset := by decide
  rw [hset, (toFinset_sort (· ≤ ·) (by decide)).2 (by decide)]
  rfl

theorem twoRecords_order : IterationOrder twoRecords [1, 0] :=
  ⟨by decide, fun seq => by
    have hout : twoRecords.outstanding = [1, 0] := by decide
    rw [hout]⟩

/-- The second payload alone is within a budget of four bytes, but not with the first. -/
theorem first_payload_counts :
    (([0, 1].tail.map fun seq => (twoRecords.record seq).payload.length).sum : Int) ≤ 4 ∧
      ((eligibleSet twoRecords 0 9 3 5).sort (· ≤ ·)).take 8 = [0, 1] ∧
      IterationOrder twoRecords [1, 0] ∧
      twoRecords.restrictedFrontierBatch [1, 0] (some 0) 0 9 3 5 4 = some [0] :=
  ⟨by decide, twoRecords_lowest, twoRecords_order, by decide⟩

/-- A budget of five bytes has room for both, walked from the later to the earlier. -/
theorem restricted_batch_exact_twoRecords :
    twoRecords.restrictedFrontierBatch [1, 0] (some 0) 0 9 3 5 5 = some [0, 1] ∧
      LongestWithin (fun seq => (twoRecords.record seq).payload.length) 5 [0, 1] [0, 1] := by
  have hbatch : twoRecords.restrictedFrontierBatch [1, 0] (some 0) 0 9 3 5 5 = some [0, 1] := by
    decide
  obtain ⟨batch, hsome, hlongest, -⟩ :=
    (restricted_batch_exact twoRecords_order (some 0) 0 9 3 5 5).2.1
      ⟨0, rfl, by decide, by decide, by decide⟩
  rw [hbatch] at hsome
  cases hsome
  rw [twoRecords_lowest] at hlongest
  exact ⟨hbatch, hlongest⟩

end Batch

end Smp3Multipath.Core.StreamTXLedger

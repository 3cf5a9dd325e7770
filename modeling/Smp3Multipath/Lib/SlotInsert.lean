import Mathlib.Data.List.Sort
import Mathlib.Data.Finset.Sort
import Mathlib.Data.List.InsertIdx

/-!
# The smallest elements, kept in an array of fixed size

Elements are offered one by one and in any order.  Each is put in its place among the slots
that are in use, the later ones move up by one, and what would leave the array is lost.
After any sequence of offers the slots hold the least elements offered, in order
(`contents_offerAll`), so the order of the offers does not matter.
-/

namespace Smp3Multipath.Lib.SlotInsert

open Function List

variable {α : Type*} [LinearOrder α]

/-- An array of which the first `used` slots are in use. -/
structure Slots (α : Type*) where
  slot : Nat → α
  used : Nat

/-- The elements in use, in order. -/
def Slots.contents (s : Slots α) : List α :=
  (List.range s.used).map s.slot

/-- The first place from `position` on, within the next `rounds`, whose element is not less. -/
def seek (slot : Nat → α) (x : α) (position : Nat) : Nat → Nat
  | 0 => position
  | rounds + 1 => if slot position < x then seek slot x (position + 1) rounds else position

/-- The loop that moves the elements above `position`, down from `top`, up by one. -/
def shift (position : Nat) (slot : Nat → α) : Nat → Nat → α
  | 0 => slot
  | i + 1 => if i + 1 > position then shift position (update slot (i + 1) (slot i)) i else slot

/-- Offer one element to an array of `k` slots. -/
def Slots.offer (k : Nat) (s : Slots α) (x : α) : Slots α :=
  let position := seek s.slot x 0 s.used
  if position ≥ k then s
  else
    let used := if s.used < k then s.used + 1 else s.used
    { slot := update (shift position s.slot (used - 1)) position x, used := used }

section Place

variable {slot : Nat → α} {x : α}

theorem seek_spec (position rounds : Nat) :
    position ≤ seek slot x position rounds ∧
      seek slot x position rounds ≤ position + rounds ∧
      (∀ i, position ≤ i → i < seek slot x position rounds → slot i < x) ∧
      (seek slot x position rounds < position + rounds →
        ¬ slot (seek slot x position rounds) < x) := by
  induction rounds generalizing position with
  | zero =>
    exact ⟨Nat.le_refl _, Nat.le_refl _, fun i hle hlt => absurd hlt (Nat.not_lt.2 hle),
      fun hlt => absurd hlt (Nat.lt_irrefl _)⟩
  | succ rounds ih =>
    rw [seek]
    split
    · next hless =>
      obtain ⟨hle, hbound, hbefore, hat⟩ := ih (position + 1)
      refine ⟨by omega, by omega, fun i hi hlt => ?_, fun hlt => hat (by omega)⟩
      rcases Nat.eq_or_lt_of_le hi with rfl | hpos
      · exact hless
      · exact hbefore i hpos hlt
    · next hstop =>
      exact ⟨Nat.le_refl _, by omega, fun i hle hlt => absurd hlt (Nat.not_lt.2 hle),
        fun _ => hstop⟩

omit [LinearOrder α] in
theorem shift_apply (position top i : Nat) :
    shift position slot top i = if position < i ∧ i ≤ top then slot (i - 1) else slot i := by
  induction top generalizing slot with
  | zero => rw [shift, if_neg (by omega)]
  | succ top ih =>
    rw [shift]
    split
    · next hmove =>
      rw [ih]
      by_cases hi : position < i ∧ i ≤ top
      · rw [if_pos hi, if_pos ⟨hi.1, by omega⟩, update_of_ne (by omega)]
      · rw [if_neg hi]
        by_cases htop : i = top + 1
        · rw [htop, update_self, if_pos ⟨by omega, Nat.le_refl _⟩, Nat.add_sub_cancel]
        · rw [update_of_ne htop, if_neg (by omega)]
    · rw [if_neg (by omega)]

end Place

section Insert

variable {x : α}

/-- The place of an element: what stands before it is less, what stands there is not. -/
theorem orderedInsert_eq_insertIdx {xs : List α} {p : Nat} (hp : p ≤ xs.length)
    (hbefore : ∀ i y, i < p → xs[i]? = some y → y < x) (hat : ∀ y, xs[p]? = some y → ¬ y < x) :
    xs.orderedInsert (· ≤ ·) x = xs.insertIdx p x := by
  induction xs generalizing p with
  | nil =>
    obtain rfl : p = 0 := by simpa using hp
    rfl
  | cons y ys ih =>
    cases p with
    | zero =>
      have hle : x ≤ y := not_lt.1 (hat y rfl)
      rw [orderedInsert_cons, if_pos hle, insertIdx_zero]
    | succ p =>
      have hlt : y < x := hbefore 0 y (Nat.succ_pos p) rfl
      rw [orderedInsert_cons, if_neg (not_le.2 hlt), insertIdx_succ_cons]
      refine congrArg (y :: ·) (ih (by simpa using hp) ?_ ?_)
      · exact fun i z hi hz => hbefore (i + 1) z (by omega) (by simpa using hz)
      · exact fun z hz => hat z (by simpa using hz)

/-- An element that is lost from the first `k` is not missed later. -/
theorem take_orderedInsert_take (k : Nat) (xs : List α) :
    ((xs.take k).orderedInsert (· ≤ ·) x).take k = (xs.orderedInsert (· ≤ ·) x).take k := by
  induction xs generalizing k with
  | nil => rw [take_nil]
  | cons y ys ih =>
    cases k with
    | zero => rfl
    | succ k =>
      rw [take_succ_cons, orderedInsert_cons, orderedInsert_cons]
      split
      · cases k with
        | zero => rfl
        | succ k => simp [take_take]
      · rw [take_succ_cons, take_succ_cons, ih]

end Insert

namespace Slots

variable {k : Nat} {s : Slots α} {x : α}

omit [LinearOrder α] in
theorem getElem?_contents (i : Nat) :
    s.contents[i]? = if i < s.used then some (s.slot i) else none := by
  unfold contents
  split
  · next hi => simp [hi]
  · next hi => simp [Nat.not_lt.1 hi]

/-- An offer puts the element in its place among the contents, and `k` of them stay. -/
theorem contents_offer (hused : s.used ≤ k) (x : α) :
    (s.offer k x).contents = (s.contents.orderedInsert (· ≤ ·) x).take k ∧
      (s.offer k x).used ≤ k := by
  obtain ⟨-, hbound, hbefore, hat⟩ := @seek_spec _ _ s.slot x 0 s.used
  have hplace : s.contents.orderedInsert (· ≤ ·) x =
      s.contents.insertIdx (seek s.slot x 0 s.used) x := by
    refine orderedInsert_eq_insertIdx ?_ ?_ ?_
    · simpa [contents] using hbound
    · intro i y hi hy
      rw [getElem?_contents, if_pos (by omega)] at hy
      cases hy
      exact hbefore i (Nat.zero_le i) hi
    · intro y hy
      rw [getElem?_contents] at hy
      split at hy
      · next hlt =>
        cases hy
        exact hat (by omega)
      · cases hy
  have hlength : s.contents.length = s.used := by simp [contents]
  rw [hplace]
  unfold offer
  generalize seek s.slot x 0 s.used = p at *
  dsimp only
  split
  · next hfull =>
    -- all slots are in use by lesser elements
    refine ⟨?_, hused⟩
    obtain rfl : p = s.contents.length := by omega
    rw [insertIdx_length_self, take_append_of_le_length (by omega),
      take_of_length_le (by omega)]
  · next hroom =>
    refine ⟨ext_getElem? fun i => ?_, by dsimp only; split <;> omega⟩
    have hcount : (if s.used < k then s.used + 1 else s.used) = min (s.used + 1) k := by
      split <;> omega
    rw [getElem?_contents, getElem?_take]
    dsimp only
    rw [hcount, getElem?_insertIdx]
    by_cases hi : i < min (s.used + 1) k
    · rw [if_pos hi, if_pos (by omega)]
      rcases Nat.lt_trichotomy i p with hlt | rfl | hgt
      · rw [if_pos hlt, update_of_ne (by omega), shift_apply, if_neg (by omega),
          getElem?_contents, if_pos (by omega)]
      · rw [if_neg (Nat.lt_irrefl i), if_pos rfl, if_pos (by omega), update_self]
      · rw [if_neg (by omega), if_neg (by omega), update_of_ne (by omega), shift_apply,
          if_pos (by omega), getElem?_contents, if_pos (by omega)]
    · rw [if_neg hi]
      split
      · rw [if_neg (by omega), if_neg (by omega), getElem?_contents, if_neg (by omega)]
      · rfl

/-- The empty array. -/
def empty [Inhabited α] : Slots α :=
  { slot := fun _ => default, used := 0 }

theorem contents_offerAll [Inhabited α] (k : Nat) {xs : List α} (hxs : xs.Nodup) :
    (xs.foldl (offer k) empty).contents = (xs.toFinset.sort (· ≤ ·)).take k := by
  have hrun : ∀ (xs ys : List α) (s : Slots α), s.used ≤ k → s.contents = ys.take k →
      (xs.foldl (offer k) s).contents =
        (xs.foldl (fun ys x => ys.orderedInsert (· ≤ ·) x) ys).take k := by
    intro xs
    induction xs with
    | nil => exact fun ys s _ hs => hs
    | cons x xs ih =>
      intro ys s hused hs
      obtain ⟨hcontents, hused'⟩ := contents_offer hused x
      refine ih _ _ hused' ?_
      rw [hcontents, hs, take_orderedInsert_take]
  have hsorted : xs.foldl (fun ys x => ys.orderedInsert (· ≤ ·) x) [] =
      xs.toFinset.sort (· ≤ ·) := by
    have hreverse : xs.foldl (fun ys x => ys.orderedInsert (· ≤ ·) x) [] =
        xs.reverse.insertionSort (· ≤ ·) := by
      rw [List.insertionSort, foldr_reverse]
    rw [hreverse]
    refine List.Perm.eq_of_pairwise' (pairwise_insertionSort _ _)
      (Finset.pairwise_sort _ _) ?_
    have hperm := (perm_insertionSort (· ≤ ·) xs.reverse).trans (reverse_perm xs)
    exact hperm.trans ((Finset.sort_perm_toList _ _).trans (toFinset_toList hxs)).symm
  rw [hrun xs [] empty (Nat.zero_le k) (by rw [take_nil]; rfl), hsorted]

end Slots

end Smp3Multipath.Lib.SlotInsert

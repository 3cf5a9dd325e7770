import Mathlib

/-!
# Counters kept per owner

A slice of counters, one for each owner, over a list of keys: every key has an
owner (negative for none) and an amount, and counter `i` is the sum of the amounts
of the keys that `i` owns.  The rules say what keeps the counters balanced when a
key leaves, comes, or changes its owner.
-/

namespace Smp3Multipath.Lib.Counters

open List

universe u

variable {κ : Type u}

/-- The amounts of the keys that `i` owns. -/
def ownedSum (keys : List κ) (owner amount : κ → Int) (i : Nat) : Int :=
  ((keys.filter fun k => owner k = i).map amount).sum

/-- Every counter is the sum of what its owner owns; a counter that the slice does not reach
counts as zero. -/
def Balanced (xs : List Int) (keys : List κ) (owner amount : κ → Int) : Prop :=
  ∀ i, xs.getD i 0 = ownedSum keys owner amount i

theorem getD_modify (xs : List Int) {i : Nat} (j : Nat) (f : Int → Int) (hi : i < xs.length) :
    (xs.modify i f).getD j 0 = if j = i then f (xs.getD i 0) else xs.getD j 0 := by
  rw [getD_eq_getElem?_getD, getD_eq_getElem?_getD, getD_eq_getElem?_getD,
    getElem?_modify]
  by_cases hj : j = i
  · subst hj
    simp [getElem?_eq_getElem hi]
  · simp [hj, Ne.symm hj]

theorem getD_append_zeros (xs : List Int) (n i : Nat) :
    (xs ++ List.replicate n 0).getD i 0 = xs.getD i 0 := by
  rw [getD_eq_getElem?_getD, getD_eq_getElem?_getD]
  by_cases hi : i < xs.length
  · rw [getElem?_append_left hi]
  · have hle : xs.length ≤ i := Nat.le_of_not_lt hi
    rw [getElem?_append_right hle, getElem?_eq_none hle, getElem?_replicate]
    split <;> rfl

theorem modify_sub_zero (xs : List Int) (i : Nat) : xs.modify i (· - 0) = xs := by
  have hid : (fun x : Int => x - 0) = id := by
    funext x
    exact Int.sub_zero x
  rw [hid, modify_id]

theorem modify_add_zero (xs : List Int) (i : Nat) : xs.modify i (· + 0) = xs := by
  have hid : (fun x : Int => x + 0) = id := by
    funext x
    exact Int.add_zero x
  rw [hid, modify_id]

section Sums

variable {keys keys' : List κ} {owner owner' amount amount' : κ → Int} {k : κ} {i : Nat}

theorem ownedSum_cons (k : κ) (keys : List κ) (i : Nat) :
    ownedSum (k :: keys) owner amount i =
      (if owner k = i then amount k else 0) + ownedSum keys owner amount i := by
  unfold ownedSum
  by_cases hk : owner k = i
  · simp [hk]
  · simp [hk]

theorem ownedSum_congr (howner : ∀ k ∈ keys, owner' k = owner k)
    (hamount : ∀ k ∈ keys, amount' k = amount k) :
    ownedSum keys owner' amount' i = ownedSum keys owner amount i := by
  induction keys with
  | nil => rfl
  | cons k keys ih =>
    rw [ownedSum_cons, ownedSum_cons, howner k mem_cons_self,
      hamount k mem_cons_self]
    rw [ih (fun j hj => howner j (mem_cons_of_mem _ hj))
      (fun j hj => hamount j (mem_cons_of_mem _ hj))]

theorem ownedSum_perm (h : keys.Perm keys') :
    ownedSum keys owner amount i = ownedSum keys' owner amount i :=
  ((h.filter _).map _).sum_eq

theorem ownedSum_nonneg (hamount : ∀ k ∈ keys, 0 ≤ amount k) :
    0 ≤ ownedSum keys owner amount i := by
  refine sum_nonneg fun x hx => ?_
  obtain ⟨k, hk, rfl⟩ := mem_map.1 hx
  exact hamount k (mem_filter.1 hk).1

variable [DecidableEq κ]

theorem perm_cons_filter_ne (hnodup : keys.Nodup) (hk : k ∈ keys) :
    keys.Perm (k :: keys.filter (· ≠ k)) := by
  have herase : keys.filter (· ≠ k) = keys.erase k := by
    rw [hnodup.erase_eq_filter]
    exact filter_congr fun j _ => by by_cases hj : j = k <;> simp [hj]
  rw [herase]
  exact perm_cons_erase hk

theorem amount_le_ownedSum (hamount : ∀ k ∈ keys, 0 ≤ amount k) (hnodup : keys.Nodup)
    (hk : k ∈ keys) (howner : owner k = i) : amount k ≤ ownedSum keys owner amount i := by
  have hrest : 0 ≤ ownedSum (keys.filter (· ≠ k)) owner amount i :=
    ownedSum_nonneg fun j hj => hamount j (mem_filter.1 hj).1
  rw [ownedSum_perm (perm_cons_filter_ne hnodup hk), ownedSum_cons, if_pos howner]
  omega

end Sums

namespace Balanced

variable {xs : List Int} {keys keys' : List κ} {owner owner' amount amount' : κ → Int} {k : κ}
  {i : Nat}

theorem congr (h : Balanced xs keys owner amount) (howner : ∀ k ∈ keys, owner' k = owner k)
    (hamount : ∀ k ∈ keys, amount' k = amount k) : Balanced xs keys owner' amount' := by
  intro j
  rw [h j, ownedSum_congr howner hamount]

theorem grow (h : Balanced xs keys owner amount) (n : Nat) :
    Balanced (xs ++ List.replicate n 0) keys owner amount := by
  intro j
  rw [getD_append_zeros, h j]

/-- A key without an owner comes. -/
theorem cons_unowned (h : Balanced xs keys owner amount) (hk : owner k < 0) :
    Balanced xs (k :: keys) owner amount := by
  intro j
  rw [ownedSum_cons, if_neg (by omega), Int.zero_add, h j]

variable [DecidableEq κ]

/-- A key without an owner leaves. -/
theorem remove_unowned (h : Balanced xs keys owner amount) (hnodup : keys.Nodup) (hm : k ∈ keys)
    (hk : owner k < 0) : Balanced xs (keys.filter (· ≠ k)) owner amount := by
  intro j
  rw [h j, ownedSum_perm (perm_cons_filter_ne hnodup hm), ownedSum_cons,
    if_neg (by omega), Int.zero_add]

/-- A key that `i` owns leaves, and its amount is taken off the counter. -/
theorem release (h : Balanced xs keys owner amount) (hnodup : keys.Nodup) (hm : k ∈ keys)
    (hk : owner k = i) (hi : i < xs.length) :
    Balanced (xs.modify i (· - amount k)) (keys.filter (· ≠ k)) owner amount := by
  intro j
  have hsum : ownedSum keys owner amount j =
      (if owner k = j then amount k else 0) + ownedSum (keys.filter (· ≠ k)) owner amount j := by
    rw [ownedSum_perm (perm_cons_filter_ne hnodup hm), ownedSum_cons]
  rw [getD_modify xs j _ hi]
  by_cases hj : j = i
  · subst hj
    rw [if_pos rfl, h j, hsum, if_pos hk]
    omega
  · rw [if_neg hj, h j, hsum, if_neg (by omega), Int.zero_add]

/-- A key changes its owner or its amount, and the counters follow. -/
theorem rebook {xs' : List Int} (h : Balanced xs keys owner amount) (hnodup : keys.Nodup)
    (hm : k ∈ keys) (howner : ∀ j ∈ keys, j ≠ k → owner' j = owner j)
    (hamount : ∀ j ∈ keys, j ≠ k → amount' j = amount j)
    (hxs : ∀ i : Nat, xs'.getD i 0 = xs.getD i 0 - (if owner k = i then amount k else 0) +
      (if owner' k = i then amount' k else 0)) : Balanced xs' keys owner' amount' := by
  intro i
  have hrest : ownedSum (keys.filter (· ≠ k)) owner' amount' i =
      ownedSum (keys.filter (· ≠ k)) owner amount i := by
    refine ownedSum_congr (fun j hj => ?_) fun j hj => ?_
    · obtain ⟨hj, hne⟩ := mem_filter.1 hj
      exact howner j hj (of_decide_eq_true hne)
    · obtain ⟨hj, hne⟩ := mem_filter.1 hj
      exact hamount j hj (of_decide_eq_true hne)
  have hold := h i
  rw [ownedSum_perm (perm_cons_filter_ne hnodup hm), ownedSum_cons] at hold
  rw [hxs i, ownedSum_perm (perm_cons_filter_ne hnodup hm), ownedSum_cons, hrest]
  omega

end Balanced

end Smp3Multipath.Lib.Counters

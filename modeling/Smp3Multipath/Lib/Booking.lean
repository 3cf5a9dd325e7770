import Mathlib.Algebra.BigOperators.Group.Finset.Basic
import Mathlib.Algebra.BigOperators.Group.Finset.Piecewise
import Mathlib.Algebra.Order.BigOperators.Group.Finset

/-!
# Bookings

Items with a weight, each booked to at most one account.  `booked` is what an account should hold;
`moveTo` is how a balance follows an item from one account to another.
-/

namespace Smp3Multipath.Lib.Booking

open Finset Function

section Booked

variable {ι κ : Type*} [DecidableEq κ] {weight weight' : ι → ℕ}
  {owner : ι → Option κ} {s s' : Finset ι} {i : ι} {k : κ}

/-- The weight of the items of `s` that are booked to the account `k`. -/
def booked (weight : ι → ℕ) (owner : ι → Option κ) (s : Finset ι) (k : κ) : ℕ :=
  ∑ i ∈ s, if owner i = some k then weight i else 0

theorem booked_update_add [DecidableEq ι] (hi : i ∈ s) (new : Option κ) :
    booked weight (update owner i new) s k + (if owner i = some k then weight i else 0) =
      booked weight owner s k + (if new = some k then weight i else 0) := by
  have hsplit : ∀ f : ι → Option κ, booked weight f s k =
      (if f i = some k then weight i else 0) + booked weight f (s.erase i) k :=
    fun f => (add_sum_erase s (fun j => if f j = some k then weight j else 0) hi).symm
  have hrest : booked weight (update owner i new) (s.erase i) k =
      booked weight owner (s.erase i) k := by
    refine sum_congr rfl fun j hj => ?_
    rw [update_of_ne (ne_of_mem_erase hj)]
  rw [hsplit (update owner i new), hsplit owner, hrest, update_self]
  omega

theorem weight_le_booked (hi : i ∈ s) (howner : owner i = some k) :
    weight i ≤ booked weight owner s k := by
  have hle := single_le_sum (f := fun j => if owner j = some k then weight j else 0)
    (fun _ _ => Nat.zero_le _) hi
  rwa [if_pos howner] at hle

/-- Items without an account can be added. -/
theorem booked_extend (hsub : s ⊆ s') (hnew : ∀ i ∈ s', i ∉ s → owner i = none)
    (hweight : ∀ i ∈ s, weight' i = weight i) :
    booked weight' owner s' k = booked weight owner s k := by
  have hsum : booked weight' owner s k = booked weight' owner s' k := by
    refine sum_subset hsub fun i hi hs => ?_
    rw [hnew i hi hs]
    exact if_neg nofun
  rw [← hsum]
  refine sum_congr rfl fun i hi => ?_
  rw [hweight i hi]

end Booked

section Move

variable {κ G : Type*} [DecidableEq κ] [AddCommGroup G]

/-- The balances after an amount was taken from an account. -/
def takeFrom (balance : κ → G) : Option κ → G → κ → G
  | some k, n => update balance k (balance k - n)
  | none, _ => balance

/-- The balances after an amount went from one account, if there was one, to another. -/
def moveTo (balance : κ → G) (previous : Option κ) (next : κ) (n : G) : κ → G :=
  update (takeFrom balance previous n) next (takeFrom balance previous n next + n)

theorem takeFrom_apply (balance : κ → G) (previous : Option κ) (n : G) (k : κ) :
    takeFrom balance previous n k = balance k - (if previous = some k then n else 0) := by
  cases previous with
  | none => exact (sub_zero _).symm
  | some p =>
    rw [takeFrom, update_apply]
    by_cases hk : k = p
    · rw [if_pos hk, if_pos (congrArg some hk.symm), hk]
    · rw [if_neg hk, if_neg fun h => hk (Option.some.inj h).symm, sub_zero]

theorem moveTo_apply (balance : κ → G) (previous : Option κ) (next : κ) (n : G) (k : κ) :
    moveTo balance previous next n k =
      balance k - (if previous = some k then n else 0) + (if k = next then n else 0) := by
  rw [moveTo, update_apply, ← takeFrom_apply]
  split
  · next hk => rw [hk]
  · rw [add_zero]

/-- A move within the accounts of `s` keeps their total, and a first booking adds to it. -/
theorem sum_moveTo {s : Finset κ} {previous : Option κ} {next : κ} (balance : κ → G)
    (hprevious : ∀ k, previous = some k → k ∈ s) (hnext : next ∈ s) (n : G) :
    ∑ k ∈ s, moveTo balance previous next n k =
      ∑ k ∈ s, balance k + (if previous = none then n else 0) := by
  have htaken : ∑ k ∈ s, (if previous = some k then n else 0) =
      if previous = none then 0 else n := by
    cases previous with
    | none => exact sum_eq_zero fun k _ => if_neg nofun
    | some p =>
      simp only [Option.some.injEq]
      rw [sum_ite_eq, if_pos (hprevious p rfl), if_neg nofun]
  simp only [moveTo_apply, sum_add_distrib, sum_sub_distrib]
  rw [htaken, sum_ite_eq', if_pos hnext]
  split
  · rw [sub_zero]
  · rw [sub_add_cancel, add_zero]

end Move

end Smp3Multipath.Lib.Booking

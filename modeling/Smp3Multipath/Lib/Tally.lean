import Mathlib.Algebra.BigOperators.Group.Finset.Basic
import Mathlib.Algebra.BigOperators.Group.Finset.Piecewise
import Mathlib.Algebra.Order.BigOperators.Group.Finset

/-!
# Tallies

Cells that hold lists of items, and how often an item occurs in a finite set of
them.  An ownership invariant ("exactly one cell holds the item") is a tally of
one; a hand-over changes one cell at a time, which `tally_update_add` accounts
for.
-/

namespace Smp3Multipath.Lib.Tally

open Finset Function

variable {ι : Type*} {β : Type*} {α : Type*} [DecidableEq α]

/-- The occurrences of `x` in the cells of `s`. -/
def tally (cells : ι → List α) (s : Finset ι) (x : α) : Nat :=
  ∑ i ∈ s, (cells i).count x

variable {cells : ι → List α} {s : Finset ι} {i j : ι} {x : α}

theorem tally_update_add [DecidableEq ι] (cells : ι → List α) (hi : i ∈ s) (items : List α) :
    tally (update cells i items) s x + (cells i).count x =
      tally cells s x + items.count x := by
  have hsplit : ∀ f : ι → List α,
      tally f s x = (f i).count x + tally f (s.erase i) x :=
    fun f => (add_sum_erase s (fun j => (f j).count x) hi).symm
  have hrest : tally (update cells i items) (s.erase i) x =
      tally cells (s.erase i) x := by
    refine sum_congr rfl fun j hj => ?_
    rw [update_of_ne (ne_of_mem_erase hj)]
  rw [hsplit (update cells i items), hsplit cells, hrest, update_self]
  omega

/-- The same for cells that are a view `g` of other data. -/
theorem tally_comp_update_add [DecidableEq ι] (g : β → List α) (f : ι → β) (hi : i ∈ s) (b : β) :
    tally (g ∘ update f i b) s x + (g (f i)).count x =
      tally (g ∘ f) s x + (g b).count x := by
  rw [comp_update]
  exact tally_update_add (g ∘ f) hi (g b)

theorem count_le_tally (hi : i ∈ s) : (cells i).count x ≤ tally cells s x :=
  single_le_sum (f := fun j => (cells j).count x) (fun _ _ => Nat.zero_le _) hi

theorem tally_pos (hi : i ∈ s) (hx : x ∈ cells i) : 0 < tally cells s x :=
  Nat.lt_of_lt_of_le (List.count_pos_iff.mpr hx) (count_le_tally hi)

theorem two_le_tally [DecidableEq ι] (hi : i ∈ s) (hj : j ∈ s) (hne : i ≠ j) (hxi : x ∈ cells i)
    (hxj : x ∈ cells j) : 2 ≤ tally cells s x := by
  have hsplit : tally cells s x = (cells i).count x + tally cells (s.erase i) x :=
    (add_sum_erase s (fun j => (cells j).count x) hi).symm
  have hone : 0 < (cells i).count x := List.count_pos_iff.mpr hxi
  have hrest : 0 < tally cells (s.erase i) x :=
    tally_pos (mem_erase.mpr ⟨hne.symm, hj⟩) hxj
  omega

theorem tally_range_succ {cells : Nat → List α} (n : Nat) :
    tally cells (range (n + 1)) x = tally cells (range n) x + (cells n).count x :=
  sum_range_succ _ n

theorem tally_congr {cells' : ι → List α} (h : ∀ i ∈ s, cells' i = cells i) :
    tally cells' s x = tally cells s x :=
  sum_congr rfl fun i hi => by rw [h i hi]

end Smp3Multipath.Lib.Tally

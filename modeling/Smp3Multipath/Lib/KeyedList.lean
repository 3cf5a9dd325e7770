import Mathlib.Data.List.Nodup

/-!
# Lists of entries under distinct keys

A finite map whose entries carry their own key, as a list.  The order of the
entries means nothing: every rule is about membership.
-/

namespace Smp3Multipath.Lib.KeyedList

open List

universe u v

variable {α : Type u} {κ : Type v} [DecidableEq κ] (key : α → κ)

/-- The entry under a key. -/
def lookup (xs : List α) (k : κ) : Option α :=
  xs.find? fun x => key x = k

/-- The entries but the one under a key. -/
def remove (xs : List α) (k : κ) : List α :=
  xs.filter fun x => key x ≠ k

/-- The entries with `x` under its key. -/
def put (xs : List α) (x : α) : List α :=
  x :: remove key xs (key x)

variable {key} {xs : List α} {k : κ} {x y : α}

theorem mem_of_lookup (h : lookup key xs k = some x) : x ∈ xs :=
  mem_of_find?_eq_some h

theorem key_of_lookup (h : lookup key xs k = some x) : key x = k :=
  of_decide_eq_true (find?_some (p := fun x => decide (key x = k)) h)

theorem lookup_eq_none_iff : lookup key xs k = none ↔ k ∉ xs.map key := by
  simp [lookup, find?_eq_none]

theorem mem_remove_iff : y ∈ remove key xs k ↔ y ∈ xs ∧ key y ≠ k := by
  simp [remove, mem_filter]

theorem mem_put_iff : y ∈ put key xs x ↔ y = x ∨ y ∈ xs ∧ key y ≠ key x := by
  rw [put, mem_cons, mem_remove_iff]

theorem lookup_of_mem (hnodup : (xs.map key).Nodup) (hx : x ∈ xs) :
    lookup key xs (key x) = some x := by
  cases hfound : lookup key xs (key x) with
  | none => exact absurd (mem_map_of_mem hx) (lookup_eq_none_iff.1 hfound)
  | some y =>
    have hkey : key y = key x := key_of_lookup hfound
    rw [inj_on_of_nodup_map hnodup (mem_of_lookup hfound) hx hkey]

theorem nodup_remove (hnodup : (xs.map key).Nodup) (k : κ) : ((remove key xs k).map key).Nodup :=
  hnodup.sublist (filter_sublist.map key)

theorem not_mem_map_remove (k : κ) : k ∉ (remove key xs k).map key := by
  intro hk
  obtain ⟨x, hx, hxk⟩ := mem_map.1 hk
  exact (mem_remove_iff.1 hx).2 hxk

theorem nodup_put (hnodup : (xs.map key).Nodup) (x : α) : ((put key xs x).map key).Nodup :=
  nodup_cons.2 ⟨not_mem_map_remove (key x), nodup_remove hnodup (key x)⟩

end Smp3Multipath.Lib.KeyedList

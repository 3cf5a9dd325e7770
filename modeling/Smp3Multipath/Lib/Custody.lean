import Mathlib.Data.List.Basic

/-!
# Tasks that have a key in hand

A list of running tasks, each with the key it will see to.  A key is held while some task has it.
A task that ends, or turns into another one, changes what is held only for its own key.
-/

namespace Smp3Multipath.Lib.Custody

universe u v

variable {τ : Type u} {κ : Type v} (key : τ → κ)

/-- Some task has the key. -/
def Held (tasks : List τ) (k : κ) : Prop :=
  ∃ t ∈ tasks, key t = k

variable {key} {tasks : List τ} {t t' : τ} {k : κ}

theorem Held.cons (h : Held key tasks k) : Held key (t :: tasks) k := by
  obtain ⟨u, hu, hk⟩ := h
  exact ⟨u, List.mem_cons_of_mem t hu, hk⟩

theorem held_cons_self : Held key (t :: tasks) (key t) :=
  ⟨t, List.mem_cons_self, rfl⟩

variable [DecidableEq τ]

/-- The end of a task takes at most its own key out of hand. -/
theorem Held.erase (h : Held key tasks k) : key t = k ∨ Held key (tasks.erase t) k := by
  obtain ⟨u, hu, hk⟩ := h
  by_cases htu : t = u
  · exact .inl (htu ▸ hk)
  · exact .inr ⟨u, (List.mem_erase_of_ne (Ne.symm htu)).2 hu, hk⟩

/-- A task that turns into one with the same key keeps everything in hand. -/
theorem Held.turn (h : Held key tasks k) (hkey : key t' = key t) :
    Held key (t' :: tasks.erase t) k := by
  rcases h.erase with ht | h
  · exact ⟨t', List.mem_cons_self, hkey.trans ht⟩
  · exact h.cons

end Smp3Multipath.Lib.Custody

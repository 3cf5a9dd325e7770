import Mathlib.Data.List.Basic

/-!
# Keys remembered for a limited time

A set of keys, each with the time at which it was taken in.  An entry at `now`
first drops the keys that are older than `ttl` and then takes its own key in, unless
that is there.  The readings `now` of several users need not come in the order in
which they are used, but none is ahead of the clock.

`Covers` is what such a set is good for: a key that was taken in at `start` or later
is refused as long as the clock has not passed `start + ttl`.
-/

namespace Smp3Multipath.Lib.ExpiringSet

universe u

variable {κ : Type u}

/-- The entries that are not older than `ttl`. -/
def purge (ttl now : Int) (entries : List (κ × Int)) : List (κ × Int) :=
  entries.filter fun entry => decide (now - entry.2 ≤ ttl)

/-- Is the key new? And the entries after. -/
def enter [DecidableEq κ] (ttl now : Int) (entries : List (κ × Int)) (key : κ) :
    Bool × List (κ × Int) :=
  if key ∈ (purge ttl now entries).map Prod.fst then (false, purge ttl now entries)
  else (true, (key, now) :: purge ttl now entries)

/-- The key is there with a time from `start` on, or `start + ttl` is over. -/
def Covers (ttl start clock : Int) (entries : List (κ × Int)) (key : κ) : Prop :=
  (∃ created, (key, created) ∈ entries ∧ start ≤ created) ∨ start + ttl < clock

variable {ttl start now clock clock' : Int} {entries : List (κ × Int)} {key key' : κ}

theorem mem_purge_iff {entry : κ × Int} :
    entry ∈ purge ttl now entries ↔ entry ∈ entries ∧ now - entry.2 ≤ ttl := by
  rw [purge, List.mem_filter, decide_eq_true_iff]

namespace Covers

theorem mono (h : Covers ttl start clock entries key) (hclock : clock ≤ clock') :
    Covers ttl start clock' entries key := by
  rcases h with hm | hover
  · exact .inl hm
  · exact .inr (by omega)

theorem purge (h : Covers ttl start clock entries key) (hnow : now ≤ clock) :
    Covers ttl start clock (purge ttl now entries) key := by
  rcases h with ⟨created, hm, hstart⟩ | hover
  · by_cases hold : now - created ≤ ttl
    · exact .inl ⟨created, mem_purge_iff.2 ⟨hm, hold⟩, hstart⟩
    · exact .inr (by omega)
  · exact .inr hover

variable [DecidableEq κ]

theorem enter (h : Covers ttl start clock entries key) (hnow : now ≤ clock) :
    Covers ttl start clock (enter ttl now entries key').2 key := by
  have hpurge := h.purge hnow
  unfold ExpiringSet.enter
  split
  · exact hpurge
  · rcases hpurge with ⟨created, hm, hstart⟩ | hover
    · exact .inl ⟨created, List.mem_cons_of_mem _ hm, hstart⟩
    · exact .inr hover

theorem refused (h : Covers ttl start clock entries key) (hnow : now ≤ clock)
    (htime : clock ≤ start + ttl) : (ExpiringSet.enter ttl now entries key).1 = false := by
  rcases h.purge hnow with ⟨created, hm, -⟩ | hover
  · have hkey : key ∈ (ExpiringSet.purge ttl now entries).map Prod.fst :=
      List.mem_map.2 ⟨_, hm, rfl⟩
    rw [ExpiringSet.enter, if_pos hkey]
  · omega

end Covers

theorem covers_of_enter [DecidableEq κ] (h : (enter ttl now entries key).1 = true)
    (hstart : start ≤ now) : Covers ttl start clock (enter ttl now entries key).2 key := by
  unfold enter at h ⊢
  split at h
  · cases h
  · rename_i hnew
    rw [if_neg hnew]
    exact .inl ⟨now, List.mem_cons_self, hstart⟩

end Smp3Multipath.Lib.ExpiringSet

import Smp3Multipath.Native.Probation

/-!
# The owner of the probation

`primaryCarrierHealth` notes that a probation is in flight and not whose it is.  A history is a
sequence of calls on it, each made by a connection; `holders` are the connections that were granted
a probation and have not yet reported its end.  A connection hands its own probation flag to
`noteFallback`, and calls `noteRecovery` and `releaseProbation` only while the flag is set.

A connection without the probation that reports a failure in the probation state starts a new
cooldown: the penalty grows, and the slot is free while its holder still runs.  This cannot happen
to a history that meets `Owned`.
-/

namespace Smp3Multipath.Native.Probation

open Lib.Run List

section History

structure History where
  health : Health := init.health
  /-- The last reading of the clock. -/
  clock : Int := 0
  /-- The connections that have selected their carrier. -/
  selected : List Nat := []
  holders : List Nat := []
deriving DecidableEq

/-- A call on `primaryCarrierHealth` by connection `i`. -/
inductive Call where
  | selectCarrier (i : Nat) (now : Int)
  /-- `recordPrimaryFailure` makes this call for a connection that is not on probation. -/
  | noteInitialFailure (i : Nat) (now : Int)
  | noteFallback (i : Nat) (now : Int)
  | noteRecovery (i : Nat)
  | releaseProbation (i : Nat)
deriving DecidableEq

variable (settings : Settings)

/-- One call.  The flag of a report is whether the connection is on probation; a late report of a
connection whose probation `finishProbation` has released, and which still has its own flag set, is
left out. -/
def History.call (s : History) : Call → Option History
  | .selectCarrier i now =>
    if s.clock ≤ now ∧ i ∉ s.selected then
      match selectCarrier now s.health with
      | ((_, probation), health) =>
        some
          { health := health, clock := now, selected := i :: s.selected
            holders := if probation then i :: s.holders else s.holders }
    else none
  | .noteInitialFailure i now =>
    if s.clock ≤ now ∧ i ∈ s.selected ∧ i ∉ s.holders then
      some { s with health := noteInitialFailure settings now s.health, clock := now }
    else none
  | .noteFallback i now =>
    if s.clock ≤ now ∧ i ∈ s.selected then
      some
        { s with
          health := noteFallback settings now (decide (i ∈ s.holders)) s.health
          clock := now
          holders := s.holders.erase i }
    else none
  | .noteRecovery i =>
    if i ∈ s.holders then
      some { s with health := noteRecovery s.health, holders := s.holders.erase i }
    else none
  | .releaseProbation i =>
    if i ∈ s.holders then
      some { s with health := releaseProbation s.health, holders := s.holders.erase i }
    else none

/-- The failure of a connection that is not on probation comes before any cooldown was recorded,
or in a cooldown that runs; in the probation state it is one too few to count. -/
def Owned (s : History) : Call → Prop
  | .noteInitialFailure _ now =>
    s.health.state = .probation →
      (s.health.initialFailures.filter fun t =>
        !decide (t < now - settings.initialFailureWindow)).length + 1 <
          settings.initialFailureThreshold
  | .noteFallback i now =>
    i ∉ s.holders → s.health.state = .available ∨
      s.health.state = .cooldown ∧ now < s.health.cooldownUntil
  | _ => True

instance (s : History) (c : Call) : Decidable (Owned settings s c) := by
  unfold Owned
  split <;> infer_instance

def Call.caller : Call → Nat
  | .selectCarrier i _ | .noteInitialFailure i _ | .noteFallback i _ | .noteRecovery i
  | .releaseProbation i => i

/-- At most one connection is on probation, the slot is its, and a recorded penalty is bounded. -/
structure OneHolder (s : History) : Prop where
  one : s.holders.length ≤ 1
  slot : s.holders ≠ [] → s.health.probationInFlight = true ∧ s.health.state = .probation
  bounded : s.health.state ≠ .available → s.health.cooldownPenalty ≤ settings.maxCooldown

/-- A call takes no probation from another connection, and a recorded penalty grows only with a
failure of the connection on probation, unless a recovery resets it. -/
structure Respects (s : History) (c : Call) (s' : History) : Prop where
  kept : ∀ j ∈ s.holders, j ≠ c.caller → j ∈ s'.holders ∧ s'.health.probationInFlight = true
  penalty : s.health.state ≠ .available →
    s.health.cooldownPenalty < s'.health.cooldownPenalty →
      (∃ i now, c = .noteFallback i now ∧ i ∈ s.holders) ∨ ∃ i, c = .noteRecovery i

end History

section Ownership

variable {settings : Settings} {s s' : History} {c : Call} {now : Int} {h : Health} {i : Nat}

theorem noteFallbackLocked_bounded :
    (noteFallbackLocked settings now h).cooldownPenalty ≤ settings.maxCooldown := by
  simp only [noteFallbackLocked]
  split_ifs <;> omega

/-- A selection grants the probation only if nobody has it, and then takes the slot. -/
theorem selectCarrier_grant :
    (selectCarrier now h).2.cooldownPenalty = h.cooldownPenalty ∧
      ((selectCarrier now h).2.state = .available ↔ h.state = .available) ∧
      ((selectCarrier now h).1.2 = true →
        ((selectCarrier now h).2.probationInFlight = true ∧
          (selectCarrier now h).2.state = .probation) ∧
        ¬ (h.probationInFlight = true ∧ h.state = .probation)) ∧
      (h.probationInFlight = true ∧ h.state = .probation →
        (selectCarrier now h).2.probationInFlight = true ∧
          (selectCarrier now h).2.state = .probation) := by
  cases hstate : h.state <;> cases hflight : h.probationInFlight <;>
    by_cases hlive : now < h.cooldownUntil <;> simp [selectCarrier, hstate, hflight, hlive]

theorem OneHolder.erase_eq (h : OneHolder settings s) (hi : i ∈ s.holders) : s.holders = [i] := by
  have hone := h.one
  match hs : s.holders with
  | [] => simp [hs] at hi
  | [j] => simp_all
  | _ :: _ :: _ => simp [hs] at hone

/-- A failure that starts a cooldown where nobody is on probation and no penalty is recorded. -/
theorem OneHolder.fresh (h : OneHolder settings s) (hstate : s.health.state ≠ .probation) :
    s.holders = [] := by
  by_contra hne
  exact hstate (h.slot hne).2

theorem oneHolder_call (h : OneHolder settings s) (howned : Owned settings s c)
    (hcall : s.call settings c = some s') : OneHolder settings s' ∧ Respects s c s' := by
  cases c with
  | selectCarrier i now =>
    obtain ⟨hpenalty, havail, hgrant, hkeep⟩ := @selectCarrier_grant now s.health
    rw [History.call] at hcall
    generalize selectCarrier now s.health = r at hcall hpenalty havail hgrant hkeep
    obtain ⟨⟨carrier, probation⟩, h'⟩ := r
    obtain ⟨_, ⟨⟩⟩ := Option.ite_none_right_eq_some.1 hcall
    refine ⟨⟨?_, fun hne => ?_, fun hstate => ?_⟩, ⟨fun j hj _ => ?_, fun _ hlt => ?_⟩⟩
    · cases probation with
      | false => exact h.one
      | true =>
        have hnone : s.holders = [] := by
          by_contra hne
          exact (hgrant rfl).2 (h.slot hne)
        simp [hnone]
    · cases probation with
      | false => exact hkeep (h.slot hne)
      | true => exact (hgrant rfl).1
    · exact Int.le_trans (Int.le_of_eq hpenalty) (h.bounded (mt havail.2 hstate))
    · refine ⟨?_, (hkeep (h.slot (ne_nil_of_mem hj))).1⟩
      cases probation <;> simp [hj]
    · exact absurd (hpenalty ▸ hlt) (Int.lt_irrefl _)
  | noteInitialFailure i now =>
    obtain ⟨⟨_, _, hi⟩, ⟨⟩⟩ := Option.ite_none_right_eq_some.1 hcall
    unfold Owned at howned
    unfold noteInitialFailure
    dsimp only
    split_ifs with hcool hbelow
    · exact ⟨⟨h.one, h.slot, h.bounded⟩, ⟨fun j hj _ => ⟨hj, (h.slot (ne_nil_of_mem hj)).1⟩,
        fun _ hlt => absurd hlt (Int.lt_irrefl _)⟩⟩
    · exact ⟨⟨h.one, h.slot, h.bounded⟩, ⟨fun j hj _ => ⟨hj, (h.slot (ne_nil_of_mem hj)).1⟩,
        fun _ hlt => absurd hlt (Int.lt_irrefl _)⟩⟩
    · -- the threshold is reached, so the state is `available`
      have hprobation : s.health.state ≠ .probation := by
        intro hstate
        have := howned hstate
        simp at hbelow
        omega
      have hnone : s.holders = [] := h.fresh hprobation
      refine ⟨⟨h.one, fun hne => absurd hnone hne, fun _ => noteFallbackLocked_bounded⟩,
        ⟨fun j hj => by simp [hnone] at hj, fun hstate => ?_⟩⟩
      cases hs : s.health.state <;> simp_all
  | noteFallback i now =>
    obtain ⟨_, ⟨⟩⟩ := Option.ite_none_right_eq_some.1 hcall
    by_cases hi : i ∈ s.holders
    · -- the connection on probation fails
      have hone := h.erase_eq hi
      have hlocked : noteFallback settings now (decide (i ∈ s.holders)) s.health =
          noteFallbackLocked settings now s.health := by
        simp [noteFallback, hi]
      rw [hlocked]
      refine ⟨⟨by simp [hone], fun hne => absurd (by simp [hone]) hne,
        fun _ => noteFallbackLocked_bounded⟩, ⟨fun j hj hne => ?_, fun _ _ => .inl ⟨i, now, rfl, hi⟩⟩⟩
      rw [hone, mem_singleton] at hj
      exact absurd hj hne
    · rw [erase_of_not_mem hi]
      rcases howned hi with hstate | ⟨hstate, hlive⟩
      · have hnone : s.holders = [] := h.fresh (by rw [hstate]; decide)
        refine ⟨⟨h.one, fun hne => absurd hnone hne, fun _ => ?_⟩,
          ⟨fun j hj => by simp [hnone] at hj, fun hne => absurd hstate hne⟩⟩
        simp only [noteFallback, hstate, reduceCtorEq, false_and, if_false]
        exact noteFallbackLocked_bounded
      · have hsame : noteFallback settings now (decide (i ∈ s.holders)) s.health = s.health := by
          simp [noteFallback, hstate, hlive, hi]
        rw [hsame]
        exact ⟨⟨h.one, h.slot, h.bounded⟩,
          ⟨fun j hj _ => ⟨hj, (h.slot (ne_nil_of_mem hj)).1⟩,
            fun _ hlt => absurd hlt (Int.lt_irrefl _)⟩⟩
  | noteRecovery i =>
    obtain ⟨hi, ⟨⟩⟩ := Option.ite_none_right_eq_some.1 hcall
    have hone := h.erase_eq hi
    refine ⟨⟨by simp [hone], fun hne => absurd (by simp [hone]) hne,
      fun hstate => absurd rfl hstate⟩, ⟨fun j hj hne => ?_, fun _ _ => .inr ⟨i, rfl⟩⟩⟩
    rw [hone, mem_singleton] at hj
    exact absurd hj hne
  | releaseProbation i =>
    obtain ⟨hi, ⟨⟩⟩ := Option.ite_none_right_eq_some.1 hcall
    have hone := h.erase_eq hi
    have hrelease : releaseProbation s.health = { s.health with probationInFlight := false } := by
      simp [releaseProbation, (h.slot (ne_nil_of_mem hi)).2]
    rw [hrelease]
    refine ⟨⟨by simp [hone], fun hne => absurd (by simp [hone]) hne, h.bounded⟩,
      ⟨fun j hj hne => ?_, fun _ hlt => absurd hlt (Int.lt_irrefl _)⟩⟩
    rw [hone, mem_singleton] at hj
    exact absurd hj hne

end Ownership

/-- Along every history that meets `Owned` one connection at most is on probation, a penalty is
bounded, and no call that meets it takes the probation of another connection or raises a recorded
penalty without being its failure. -/
theorem probation_has_one_owner (settings : Settings) {calls : List Call} {s : History}
    (howned : EachStep (History.call settings) (Owned settings) {} calls)
    (hrun : runActs (History.call settings) {} calls = some s) :
    OneHolder settings s ∧
      ∀ c s', Owned settings s c → s.call settings c = some s' → Respects s c s' := by
  have hinit : OneHolder settings {} :=
    ⟨Nat.zero_le _, fun h => absurd rfl h, fun h => absurd rfl h⟩
  have hs : OneHolder settings s :=
    invariant_of_eachStep (fun _ _ _ h ho hc => (oneHolder_call h ho hc).1) hinit howned hrun
  exact ⟨hs, fun c s' ho hc => (oneHolder_call hs ho hc).2⟩

/-- Settings with a low threshold; not those of `defaultAdaptiveSettings`. -/
def sampleSettings : Settings :=
  { cooldown := 90, maxCooldown := 300, initialFailureThreshold := 2, initialFailureWindow := 60 }

/-- A cooldown, a probation, and its failure. -/
def failedProbation : List Call :=
  [.selectCarrier 0 0, .noteFallback 0 1, .selectCarrier 1 100, .noteFallback 1 110]

theorem probation_has_one_owner_failed :
    ∃ s, runActs (History.call sampleSettings) {} failedProbation = some s ∧
      s.health.cooldownPenalty = 180 ∧ OneHolder sampleSettings s :=
  ⟨_, rfl, rfl, (@probation_has_one_owner sampleSettings failedProbation _ (by decide) rfl).1⟩

/-- Connection 0 has the primary carrier since before the cooldown.  Its failure comes while
connection 2 is on probation, doubles the penalty and frees the slot: connection 3 is granted a
probation beside connection 2. -/
theorem old_connection_clears_probation :
    ∃ s, runActs (History.call sampleSettings) {} [.selectCarrier 0 0, .selectCarrier 1 0,
      .noteFallback 1 1, .selectCarrier 2 100, .noteFallback 0 101, .selectCarrier 3 300] = some s ∧
      s.health.cooldownPenalty = 180 ∧ ¬ OneHolder sampleSettings s :=
  ⟨_, rfl, rfl, fun h => absurd h.one (by decide)⟩

end Smp3Multipath.Native.Probation

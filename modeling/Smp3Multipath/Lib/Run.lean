import Mathlib.Data.List.Basic

/-!
# Runs of a partial step function

A system is given by `step : σ → α → Option σ`: the state after one action, or
`none` when the action is not enabled.  A run is a list of actions.  The two
induction rules below (`Reachable.invariant` and `invariant_of_eachStep`) are
the only inductions over runs that the component modules need.
-/

namespace Smp3Multipath.Lib.Run

universe u v

variable {σ : Type u} {α : Type v}

/-- The state after a list of actions, `none` once an action is not enabled. -/
def runActs (step : σ → α → Option σ) : σ → List α → Option σ
  | s, [] => some s
  | s, a :: as => (step s a).bind fun s' => runActs step s' as

/-- `s` is reached from `init` by some list of actions. -/
def Reachable (step : σ → α → Option σ) (init s : σ) : Prop :=
  ∃ acts, runActs step init acts = some s

/-- Every action of the run meets `cond` in the state in which it is taken. -/
def EachStep
    (step : σ → α → Option σ) (cond : σ → α → Prop) :
    σ → List α → Prop
  | _, [] => True
  | s, a :: as => cond s a ∧ ∀ s', step s a = some s' → EachStep step cond s' as

variable {step : σ → α → Option σ} {s s' s'' init : σ}

@[simp] theorem runActs_nil : runActs step s [] = some s := by
  rfl

theorem runActs_cons_iff {a : α} {as : List α} :
    runActs step s (a :: as) = some s'' ↔
      ∃ s', step s a = some s' ∧ runActs step s' as = some s'' := by
  simp only [runActs, Option.bind_eq_some_iff]

theorem runActs_append {as bs : List α} :
    runActs step s (as ++ bs) =
      (runActs step s as).bind fun s' => runActs step s' bs := by
  induction as generalizing s with
  | nil => rfl
  | cons a as ih =>
    simp only [List.cons_append, runActs, Option.bind_assoc]
    congr 1
    funext s'
    exact ih

theorem runActs_append_iff {as bs : List α} :
    runActs step s (as ++ bs) = some s'' ↔
      ∃ s', runActs step s as = some s' ∧ runActs step s' bs = some s'' := by
  rw [runActs_append, Option.bind_eq_some_iff]

theorem runActs_append_of {as bs : List α} (has : runActs step s as = some s')
    (hbs : runActs step s' bs = some s'') : runActs step s (as ++ bs) = some s'' := by
  rw [runActs_append, has]
  exact hbs

namespace Reachable

theorem refl : Reachable step init init :=
  ⟨[], rfl⟩

theorem tail {a : α} (h : Reachable step init s) (hs : step s a = some s') :
    Reachable step init s' := by
  obtain ⟨acts, hacts⟩ := h
  exact ⟨acts ++ [a], runActs_append_of hacts (runActs_cons_iff.2 ⟨s', hs, rfl⟩)⟩

theorem trans (h : Reachable step init s) (h' : Reachable step s s') : Reachable step init s' := by
  obtain ⟨acts, hacts⟩ := h
  obtain ⟨acts', hacts'⟩ := h'
  exact ⟨acts ++ acts', runActs_append_of hacts hacts'⟩

end Reachable

/-- A property kept by every step is kept by every run. -/
theorem runActs_preserves {Inv : σ → Prop} (hs : ∀ s a s', Inv s → step s a = some s' → Inv s')
    {acts : List α} (hinv : Inv s) (hrun : runActs step s acts = some s') : Inv s' := by
  induction acts generalizing s with
  | nil =>
    cases hrun
    exact hinv
  | cons a as ih =>
    obtain ⟨t, ht, hrun⟩ := runActs_cons_iff.1 hrun
    exact ih (hs s a t hinv ht) hrun

/-- The invariant rule for reachable states. -/
theorem Reachable.invariant {Inv : σ → Prop} (h : Reachable step init s) (hinit : Inv init)
    (hs : ∀ s a s', Inv s → step s a = some s' → Inv s') : Inv s := by
  obtain ⟨acts, hacts⟩ := h
  exact runActs_preserves hs hinit hacts

/-- The invariant rule for runs whose every step meets a side condition. -/
theorem invariant_of_eachStep {Inv : σ → Prop} {cond : σ → α → Prop}
    (hs : ∀ s a s', Inv s → cond s a → step s a = some s' → Inv s') {acts : List α}
    (hinit : Inv s) (hcond : EachStep step cond s acts) (hrun : runActs step s acts = some s') :
    Inv s' := by
  induction acts generalizing s with
  | nil =>
    cases hrun
    exact hinit
  | cons a as ih =>
    obtain ⟨t, ht, hrun⟩ := runActs_cons_iff.1 hrun
    exact ih (hs s a t hinit hcond.1 ht) (hcond.2 t ht) hrun

section EachStep

variable {cond : σ → α → Prop}

theorem eachStep_of_forall {acts : List α} (h : ∀ a ∈ acts, ∀ s, cond s a) :
    EachStep step cond s acts := by
  induction acts generalizing s with
  | nil => trivial
  | cons a as ih =>
    refine ⟨h a List.mem_cons_self s, fun s' _ => ih fun b hb => ?_⟩
    exact h b (List.mem_cons_of_mem _ hb)

/-- On a concrete run the side condition can be evaluated. -/
instance decidableEachStep [∀ s a, Decidable (cond s a)] :
    (acts : List α) → (s : σ) → Decidable (EachStep step cond s acts)
  | [], _ => .isTrue trivial
  | a :: as, s =>
    match hs : step s a with
    | none =>
      decidable_of_iff (cond s a) ⟨fun h => ⟨h, fun s' hs' => by rw [hs] at hs'; cases hs'⟩,
        fun h => h.1⟩
    | some s' =>
      have := decidableEachStep as s'
      decidable_of_iff (cond s a ∧ EachStep step cond s' as)
        ⟨fun h => ⟨h.1, fun t ht => by rw [hs] at ht; cases ht; exact h.2⟩,
          fun h => ⟨h.1, h.2 s' hs⟩⟩

theorem eachStep_append {as bs : List α} (has : EachStep step cond s as)
    (hbs : ∀ s', runActs step s as = some s' → EachStep step cond s' bs) :
    EachStep step cond s (as ++ bs) := by
  induction as generalizing s with
  | nil => exact hbs s rfl
  | cons a as ih =>
    refine ⟨has.1, fun s' hs' => ih (has.2 s' hs') fun s'' hs'' => ?_⟩
    exact hbs s'' (runActs_cons_iff.2 ⟨s', hs', hs''⟩)

/-- Where `cond` says exactly which steps keep `P`, `P` holds all along a run exactly if every
step of it meets `cond`. -/
theorem forall_take_iff_eachStep (Inv : σ → Prop) {P : σ → Prop}
    (hs : ∀ s a s', Inv s → P s → step s a = some s' → Inv s' ∧ (P s' ↔ cond s a))
    {acts : List α} (hinv : Inv s) (hP : P s) (hrun : runActs step s acts = some s') :
    (∀ n t, runActs step s (acts.take n) = some t → P t) ↔ EachStep step cond s acts := by
  induction acts generalizing s with
  | nil =>
    refine ⟨fun _ => trivial, fun _ n t ht => ?_⟩
    rw [List.take_nil, runActs_nil] at ht
    cases ht
    exact hP
  | cons a as ih =>
    obtain ⟨s₁, hs₁, hrun⟩ := runActs_cons_iff.1 hrun
    obtain ⟨hinv₁, hiff⟩ := hs s a s₁ hinv hP hs₁
    constructor
    · intro hall
      have hP₁ : P s₁ := hall 1 s₁ (runActs_cons_iff.2 ⟨s₁, hs₁, rfl⟩)
      refine ⟨hiff.1 hP₁, fun s₂ hs₂ => ?_⟩
      rw [hs₁] at hs₂
      cases hs₂
      refine (ih hinv₁ hP₁ hrun).1 fun n t ht => hall (n + 1) t ?_
      exact runActs_cons_iff.2 ⟨s₁, hs₁, ht⟩
    · rintro ⟨hcond, hrest⟩ n t ht
      cases n with
      | zero =>
        cases ht
        exact hP
      | succ n =>
        obtain ⟨s₂, hs₂, ht⟩ := runActs_cons_iff.1 ht
        rw [hs₁] at hs₂
        cases hs₂
        exact (ih hinv₁ (hiff.2 hcond) hrun).2 (hrest s₁ hs₁) n t ht

end EachStep

end Smp3Multipath.Lib.Run

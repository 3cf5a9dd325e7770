import Smp3Multipath.Core.AttachLeg
import Smp3Multipath.Lib.Run

/-!
# The leg registry

Attach, failure, replacement, coordinated retirement and shutdown, interleaved
in any way.  What the source does under one lock is one step, and every gap
between two locked sections is open to the other goroutines: a failing leg is
closed, then removed, then waited for; a drained leg is removed, then closed;
`failWithAppClose` publishes `done` together with its snapshot of the legs and
closes them one by one afterwards.

`registry_safe` holds in every reachable state.  At most one generation of an id is
attached, generations grow, and a generation is attached only after the workers
of the earlier ones have returned.  Once the engine is done nothing attaches,
and the legs are all closed when the calls that close them have run to their end.
-/

namespace Smp3Multipath.Core.Registry

open Lib.Run Function List Option

section Machine

/-- The goroutines of a leg that its `workers` group counts. -/
inductive Worker where
  | writer
  | reader
  | prober
deriving DecidableEq

/-- The steps.  The first three are those of `handleLegFailure`. -/
inductive Act where
  | attachLeg (id : LegID) (auth : Option StreamPathAuth)
  | invalidatePath (ref : Ref)
  | closeLeg (ref : Ref)
  | removeLeg (ref : Ref)
  /-- `retireDrainedLeg` up to the end of its locked part. -/
  | retireDrainedLeg (ref : Ref)
  | closeRetired (ref : Ref)
  | workerReturns (ref : Ref) (w : Worker)
  /-- `workers.Wait` returns and the barrier is lifted. -/
  | workersDone (ref : Ref)
  /-- `failWithAppClose` closes the RTT cache first. -/
  | closeCache
  | beginFinalizing
  /-- The locked part of `failWithAppClose`. -/
  | failWithAppClose
  | closeSnapshot (ref : Ref)

/-- Change one leg. -/
def State.modifyLeg (s : State) (ref : Ref) (f : StreamLeg → StreamLeg) : State :=
  { s with objects := s.objects.modify ref f }

/-- `streamLeg.close`. -/
def StreamLeg.close (leg : StreamLeg) : StreamLeg :=
  { leg with closed := true }

/-- One of the leg's goroutines returns. -/
def StreamLeg.returns (leg : StreamLeg) : Worker → StreamLeg
  | .writer => { leg with writer := false }
  | .reader => { leg with reader := false }
  | .prober => { leg with prober := false }

/-- `workers` is not at zero. -/
def StreamLeg.running (leg : StreamLeg) : Bool :=
  leg.writer || leg.reader || leg.prober

/-- Drop the leg's path binding from the cache. -/
def invalidatePath (s : State) (leg : StreamLeg) : State :=
  if leg.pathRTTEnabled then
    { s with pathRTTCache := s.pathRTTCache.map fun cache => cache.invalidateLeg leg.pathBinding }
  else s

/-- Take the leg out of the registry and raise the barrier. -/
def removeLeg (s : State) (id : LegID) (ref : Ref) : State :=
  { s with
    legs := update s.legs id none
    retiring := update s.retiring id (some ref) }

/-- Lift the barrier, if it is this leg's. -/
def liftBarrier (s : State) (id : LegID) (ref : Ref) : State :=
  if s.retiring id = some ref then { s with retiring := update s.retiring id none } else s

def legStep (s : State) (ref : Ref) (leg : StreamLeg) : Act → Option State
  | .invalidatePath _ => some (invalidatePath s leg)
  | .closeLeg _ => some (s.modifyLeg ref StreamLeg.close)
  | .removeLeg _ =>
    if leg.closed then
      if s.legs leg.id = some ref then
        some { removeLeg s leg.id ref with waiters := s.waiters ++ [ref] }
      else some s
    else none
  | .retireDrainedLeg _ =>
    -- that the leg is drained is the ledger's and the queues' business
    if s.legs leg.id = some ref then
      some { removeLeg s leg.id ref with retired := s.retired ++ [ref] }
    else none
  | .closeRetired _ =>
    if ref ∈ s.retired then
      some { (invalidatePath s leg).modifyLeg ref StreamLeg.close with
        retired := s.retired.erase ref, waiters := s.waiters ++ [ref] }
    else none
  | .workerReturns _ w => some (s.modifyLeg ref (·.returns w))
  | .workersDone _ =>
    if ref ∈ s.waiters ∧ leg.running = false then
      some { liftBarrier s leg.id ref with waiters := s.waiters.erase ref }
    else none
  | .closeSnapshot _ =>
    if ref ∈ s.closing then
      some { s.modifyLeg ref StreamLeg.close with closing := s.closing.erase ref }
    else none
  | _ => none

/-- The leg that a step is about. -/
def Act.ref? : Act → Option Ref
  | .invalidatePath ref | .closeLeg ref | .removeLeg ref | .retireDrainedLeg ref
  | .closeRetired ref | .workerReturns ref _ | .workersDone ref | .closeSnapshot ref => some ref
  | _ => none

def step (cfg : Config) (s : State) (a : Act) : Option State :=
  match a.ref? with
  | some ref => s.objects[ref]?.bind fun leg => legStep s ref leg a
  | none =>
    match a with
    | .attachLeg id auth => some (attachLeg cfg s id auth).1
    | .closeCache => some { s with pathRTTCache := s.pathRTTCache.map StreamRTTProbeCache.close }
    | .beginFinalizing => some (if s.done then s else { s with finalizing := true })
    | .failWithAppClose =>
      if s.done then none
      else
        some { s with
          finalizing := true, done := true
          closing := (List.range cfg.maxActiveLegs).filterMap s.legs }
    | _ => none

end Machine

section Attaching

variable {cfg : Config} {s s' : State} {id : LegID}

/-- Everything but the session identities and the cache is the same. -/
structure SameRegistry (s s' : State) : Prop where
  finalizing : s'.finalizing = s.finalizing
  done : s'.done = s.done
  legs : s'.legs = s.legs
  retiring : s'.retiring = s.retiring
  legGeneration : s'.legGeneration = s.legGeneration
  objects : s'.objects = s.objects
  closing : s'.closing = s.closing
  retired : s'.retired = s.retired
  waiters : s'.waiters = s.waiters

theorem SameRegistry.refl (s : State) : SameRegistry s s :=
  ⟨rfl, rfl, rfl, rfl, rfl, rfl, rfl, rfl, rfl⟩

theorem SameRegistry.of_attachPath {generation : Nat} {a : StreamPathAuth}
    {binding : StreamPathBinding} (h : attachPath cfg s id generation a = .ok (s', binding)) :
    SameRegistry s s' := by
  cases hpath : a.pathRTTEnabled with
  | false =>
    unfold attachPath at h
    rw [if_pos hpath] at h
    cases h
    exact SameRegistry.refl s
  | true =>
    obtain ⟨_, _, _, _, cache, cache', _, _, ⟨⟩⟩ := (attachPath_eq_ok_iff hpath).1 h
    exact ⟨rfl, rfl, rfl, rfl, rfl, rfl, rfl, rfl, rfl⟩

theorem SameRegistry.of_attachDrain {a : StreamPathAuth} (h : attachDrain s a = .ok s') :
    SameRegistry s s' := by
  unfold attachDrain at h
  split_ifs at h
  · cases h
    exact SameRegistry.refl s
  · cases h
    exact ⟨rfl, rfl, rfl, rfl, rfl, rfl, rfl, rfl, rfl⟩

theorem SameRegistry.trans {s'' : State} (h : SameRegistry s s') (h' : SameRegistry s' s'') :
    SameRegistry s s'' :=
  ⟨h'.finalizing.trans h.finalizing, h'.done.trans h.done, h'.legs.trans h.legs,
    h'.retiring.trans h.retiring, h'.legGeneration.trans h.legGeneration,
    h'.objects.trans h.objects, h'.closing.trans h.closing, h'.retired.trans h.retired,
    h'.waiters.trans h.waiters⟩

theorem attachGate_eq_none (h : attachGate cfg s id = none) :
    id < cfg.maxActiveLegs ∧ s.finalizing = false ∧ s.done = false ∧ s.legs id = none ∧
      s.retiring id = none := by
  unfold attachGate at h
  cases hretiring : s.retiring id with
  | some ref =>
    rw [hretiring] at h
    split_ifs at h
  | none =>
    rw [hretiring] at h
    dsimp only at h
    split_ifs at h with _ hrange hclosed hlegs _
    rw [not_or, Bool.not_eq_true, Bool.not_eq_true] at hclosed
    rw [Bool.not_eq_true, isSome_eq_false_iff, isNone_iff_eq_none] at hlegs
    exact ⟨Nat.not_le.1 hrange, hclosed.1, hclosed.2, hlegs, rfl⟩

theorem attachGate_ne_attached : attachGate cfg s id ≠ some .attached := by
  unfold attachGate
  cases s.retiring id with
  | some ref | none =>
    dsimp only
    split_ifs <;> exact fun h => (nomatch h)

/-- A pass of `attachLeg` leaves the registry alone or installs a new leg of the next
generation. -/
theorem attachLeg_cases (cfg : Config) (s : State) (id : LegID) (auth : Option StreamPathAuth) :
    (attachLeg cfg s id auth).2 ≠ .attached ∧ SameRegistry s (attachLeg cfg s id auth).1 ∨
      attachGate cfg s id = none ∧ ∃ t leg, SameRegistry s t ∧
        (attachLeg cfg s id auth).1 = install t leg ∧ leg.id = id ∧
        leg.generation = s.legGeneration id + 1 := by
  unfold attachLeg
  cases hgate : attachGate cfg s id with
  | some r =>
    refine .inl ⟨?_, SameRegistry.refl s⟩
    rintro rfl
    exact attachGate_ne_attached hgate
  | none =>
    dsimp only
    unfold attachAuth
    cases auth with
    | none => exact .inr ⟨rfl, s, _, SameRegistry.refl s, rfl, rfl, rfl⟩
    | some a =>
      dsimp only
      split_ifs
      · exact .inl ⟨fun h => (nomatch h), SameRegistry.refl s⟩
      cases hpath : attachPath cfg s id (s.legGeneration id + 1) a with
      | error e => exact .inl ⟨fun h => (nomatch h), SameRegistry.refl s⟩
      | ok out =>
        obtain ⟨s', binding⟩ := out
        have hsame := SameRegistry.of_attachPath hpath
        dsimp only
        cases hdrain : attachDrain s' a with
        | error e => exact .inl ⟨fun h => (nomatch h), hsame⟩
        | ok t =>
          refine .inr ⟨rfl, t, _, hsame.trans (SameRegistry.of_attachDrain hdrain), rfl,
            rfl, rfl⟩

end Attaching

section Invariant

variable {cfg : Config} {s s' : State}

/-- The leg behind a pointer. -/
def State.Has (s : State) (ref : Ref) (leg : StreamLeg) : Prop :=
  s.objects[ref]? = some leg

/-- The invariant of the registry. -/
structure Inv (cfg : Config) (s : State) : Prop where
  registered : ∀ id ref, s.legs id = some ref →
    id < cfg.maxActiveLegs ∧ ∃ leg, s.Has ref leg ∧ leg.id = id
  exclusive : ∀ id, s.legs id = none ∨ s.retiring id = none
  generation : ∀ ref leg, s.Has ref leg → leg.generation ≤ s.legGeneration leg.id
  increasing : ∀ ref ref' leg leg', ref < ref' → s.Has ref leg →
    s.Has ref' leg' → leg.id = leg'.id → leg.generation < leg'.generation
  /-- A leg with a goroutine left is in the registry or behind the barrier. -/
  running : ∀ ref leg, s.Has ref leg → leg.running = true →
    s.legs leg.id = some ref ∨ s.retiring leg.id = some ref
  /-- A leg that is not closed is in the registry, or its retirement is about to close it. -/
  unclosed : ∀ ref leg, s.Has ref leg → leg.closed = false →
    s.legs leg.id = some ref ∨ ref ∈ s.retired
  finalizing : s.done = true → s.finalizing = true
  /-- After the shutdown it is also in the snapshot. -/
  shutdown : s.done = true → ∀ ref leg, s.Has ref leg → leg.closed = false →
    ref ∈ s.closing ∨ ref ∈ s.retired

theorem inv_init : Inv cfg (init cfg) where
  registered id ref h := by cases h
  exclusive id := .inl rfl
  generation ref leg h := by cases h
  increasing ref ref' leg leg' _ h := by cases h
  running ref leg h := by cases h
  unclosed ref leg h := by cases h
  finalizing h := by cases h
  shutdown h := by cases h

theorem Inv.congr (h : Inv cfg s) (hsame : SameRegistry s s') : Inv cfg s' := by
  have hhas : s'.Has = s.Has := by
    funext ref leg
    unfold State.Has
    rw [hsame.objects]
  refine ⟨?_, ?_, ?_, ?_, ?_, ?_, ?_, ?_⟩
  · rw [hsame.legs, hhas]
    exact h.registered
  · rw [hsame.legs, hsame.retiring]
    exact h.exclusive
  · rw [hhas, hsame.legGeneration]
    exact h.generation
  · rw [hhas]
    exact h.increasing
  · rw [hhas, hsame.legs, hsame.retiring]
    exact h.running
  · rw [hhas, hsame.legs, hsame.retired]
    exact h.unclosed
  · rw [hsame.finalizing, hsame.done]
    exact h.finalizing
  · rw [hsame.done, hhas, hsame.closing, hsame.retired]
    exact h.shutdown

/-- The legs after an attach: the old ones and the new one. -/
theorem has_install {leg leg' : StreamLeg} {ref : Ref} (h : (install s leg).Has ref leg') :
    s.Has ref leg' ∧ ref < s.objects.length ∨ ref = s.objects.length ∧ leg' = leg := by
  unfold State.Has install at h
  dsimp only at h
  rw [getElem?_append] at h
  split at h
  · next hlt => exact .inl ⟨h, hlt⟩
  · next hge =>
    obtain ⟨hlt, heq⟩ := List.getElem?_eq_some_iff.1 h
    rw [length_singleton, Nat.lt_one_iff] at hlt
    refine .inr ⟨Nat.le_antisymm (Nat.le_of_sub_eq_zero hlt) (Nat.not_lt.1 hge), ?_⟩
    rw [← heq, getElem_singleton]

theorem Has.lt {ref : Ref} {leg : StreamLeg} (h : s.Has ref leg) : ref < s.objects.length :=
  (List.getElem?_eq_some_iff.1 h).1

/-- The registered leg of an id other than the new leg's. -/
theorem legs_install_of_ne {leg : StreamLeg} {id : LegID} (h : id ≠ leg.id) :
    (install s leg).legs id = s.legs id :=
  update_of_ne h _ _

/-- A new leg, where the id has none and none retires. -/
theorem Inv.install {leg : StreamLeg} (h : Inv cfg s) (hid : leg.id < cfg.maxActiveLegs)
    (hdone : s.done = false) (hlegs : s.legs leg.id = none) (hretiring : s.retiring leg.id = none)
    (hgeneration : leg.generation = s.legGeneration leg.id + 1) : Inv cfg (install s leg) := by
  have hself : (Registry.install s leg).legs leg.id = some s.objects.length :=
    update_self ..
  have hnew : (Registry.install s leg).Has s.objects.length leg := getElem?_concat_length
  have hold : ∀ {ref leg'}, s.Has ref leg' → (Registry.install s leg).Has ref leg' := by
    intro ref leg' hhas
    unfold State.Has Registry.install
    dsimp only
    rw [getElem?_append_left (Has.lt hhas)]
    exact hhas
  refine ⟨fun id ref hreg => ?_, fun id => ?_, fun ref leg' hhas => ?_,
    fun ref ref' leg₁ leg₂ hlt h₁ h₂ heq => ?_, fun ref leg' hhas hrun => ?_,
    fun ref leg' hhas hopen => ?_, fun hyes => ?_, fun hyes => ?_⟩
  · rcases eq_or_ne id leg.id with rfl | hne
    · rw [hself] at hreg
      cases hreg
      exact ⟨hid, leg, hnew, rfl⟩
    · rw [legs_install_of_ne hne] at hreg
      obtain ⟨hrange, leg', hhas, heq⟩ := h.registered id ref hreg
      exact ⟨hrange, leg', hold hhas, heq⟩
  · rcases eq_or_ne id leg.id with rfl | hne
    · exact .inr hretiring
    · rw [legs_install_of_ne hne]
      exact h.exclusive id
  · show leg'.generation ≤ update s.legGeneration leg.id leg.generation leg'.id
    rcases has_install hhas with ⟨hhas, _⟩ | ⟨_, rfl⟩
    · have hle := h.generation ref leg' hhas
      rcases eq_or_ne leg'.id leg.id with heq | hne
      · rw [heq] at hle ⊢
        rw [update_self]
        omega
      · rwa [update_of_ne hne]
    · have hself : update s.legGeneration leg'.id leg'.generation leg'.id =
          leg'.generation := update_self _ _ _
      exact Nat.le_of_eq hself.symm
  · rcases has_install h₂ with ⟨h₂, hlt₂⟩ | ⟨rfl, rfl⟩
    · rcases has_install h₁ with ⟨h₁, _⟩ | ⟨rfl, _⟩
      · exact h.increasing ref ref' leg₁ leg₂ hlt h₁ h₂ heq
      · exact absurd hlt (Nat.not_lt.2 (Nat.le_of_lt hlt₂))
    · rcases has_install h₁ with ⟨h₁, _⟩ | ⟨rfl, _⟩
      · have hle := h.generation ref leg₁ h₁
        rw [heq] at hle
        omega
      · exact absurd hlt (Nat.lt_irrefl _)
  · rcases has_install hhas with ⟨hhas, _⟩ | ⟨rfl, rfl⟩
    · rcases eq_or_ne leg'.id leg.id with heq | hne
      · rcases h.running ref leg' hhas hrun with hreg | hret
        · rw [heq, hlegs] at hreg
          cases hreg
        · rw [heq, hretiring] at hret
          cases hret
      · rw [legs_install_of_ne hne]
        exact h.running ref leg' hhas hrun
    · exact .inl hself
  · rcases has_install hhas with ⟨hhas, _⟩ | ⟨rfl, rfl⟩
    · rcases eq_or_ne leg'.id leg.id with heq | hne
      · rcases h.unclosed ref leg' hhas hopen with hreg | hret
        · rw [heq, hlegs] at hreg
          cases hreg
        · exact .inr hret
      · rw [legs_install_of_ne hne]
        exact h.unclosed ref leg' hhas hopen
    · exact .inl hself
  · exact absurd (hdone.symm.trans hyes) Bool.false_ne_true
  · exact absurd (hdone.symm.trans hyes) Bool.false_ne_true

theorem has_modifyLeg {ref ref' : Ref} {f : StreamLeg → StreamLeg} {leg' : StreamLeg}
    (h : (s.modifyLeg ref f).Has ref' leg') :
    ∃ leg, s.Has ref' leg ∧ (ref = ref' ∧ leg' = f leg ∨ ref ≠ ref' ∧ leg' = leg) := by
  unfold State.Has State.modifyLeg at h
  dsimp only at h
  rw [getElem?_modify, Option.map_eq_map, map_eq_some_iff] at h
  obtain ⟨leg, hleg, heq⟩ := h
  refine ⟨leg, hleg, ?_⟩
  split at heq
  · next hsame => exact .inl ⟨hsame, heq.symm⟩
  · next hne => exact .inr ⟨hne, heq.symm⟩

theorem modifyLeg_has {ref ref' : Ref} {f : StreamLeg → StreamLeg} {leg : StreamLeg}
    (h : s.Has ref' leg) : (s.modifyLeg ref f).Has ref' (if ref = ref' then f leg else leg) := by
  unfold State.Has State.modifyLeg at *
  dsimp only
  rw [getElem?_modify, h]
  rfl

/-- What a change of a leg may do: close it, or let one of its goroutines return. -/
structure Winds (f : StreamLeg → StreamLeg) : Prop where
  id : ∀ leg, (f leg).id = leg.id
  generation : ∀ leg, (f leg).generation = leg.generation
  running : ∀ leg, (f leg).running = true → leg.running = true
  closed : ∀ leg, (f leg).closed = false → leg.closed = false

theorem winds_close : Winds StreamLeg.close :=
  ⟨fun _ => rfl, fun _ => rfl, fun _ => id, fun _ h => (nomatch h)⟩

theorem winds_returns (w : Worker) : Winds (·.returns w) := by
  cases w with
  | writer =>
    refine ⟨fun _ => rfl, fun _ => rfl, fun leg h => ?_, fun _ => id⟩
    simp only [StreamLeg.returns, StreamLeg.running, Bool.false_or, Bool.or_eq_true] at h ⊢
    tauto
  | reader | prober =>
    refine ⟨fun _ => rfl, fun _ => rfl, fun leg h => ?_, fun _ => id⟩
    simp only [StreamLeg.returns, StreamLeg.running, Bool.or_false, Bool.or_eq_true] at h ⊢
    tauto

/-- Every leg after the change stems from one with the same id and generation that was at least
as far from its end. -/
theorem has_of_winds {ref ref' : Ref} {f : StreamLeg → StreamLeg} {leg' : StreamLeg}
    (hwinds : Winds f) (h : (s.modifyLeg ref f).Has ref' leg') :
    ∃ leg, s.Has ref' leg ∧ leg'.id = leg.id ∧ leg'.generation = leg.generation ∧
      (leg'.running = true → leg.running = true) ∧ (leg'.closed = false → leg.closed = false) := by
  obtain ⟨leg, hleg, ⟨_, rfl⟩ | ⟨_, rfl⟩⟩ := has_modifyLeg h
  · exact ⟨leg, hleg, hwinds.id leg, hwinds.generation leg, hwinds.running leg, hwinds.closed leg⟩
  · exact ⟨leg', hleg, rfl, rfl, id, id⟩

theorem Inv.modifyLeg {ref : Ref} {f : StreamLeg → StreamLeg} (h : Inv cfg s) (hwinds : Winds f) :
    Inv cfg (s.modifyLeg ref f) := by
  refine ⟨fun id ref' hreg => ?_, h.exclusive, fun ref' leg' hhas => ?_,
    fun ref₁ ref₂ leg₁ leg₂ hlt h₁ h₂ heq => ?_, fun ref' leg' hhas hrun => ?_,
    fun ref' leg' hhas hopen => ?_, h.finalizing, fun hdone ref' leg' hhas hopen => ?_⟩
  · obtain ⟨hrange, leg, hhas, heq⟩ := h.registered id ref' hreg
    refine ⟨hrange, _, modifyLeg_has hhas, ?_⟩
    split
    · exact (hwinds.id leg).trans heq
    · exact heq
  · obtain ⟨leg, hleg, hid, hgen, _, _⟩ := has_of_winds hwinds hhas
    rw [hid, hgen]
    exact h.generation ref' leg hleg
  · obtain ⟨old₁, hold₁, hid₁, hgen₁, _, _⟩ := has_of_winds hwinds h₁
    obtain ⟨old₂, hold₂, hid₂, hgen₂, _, _⟩ := has_of_winds hwinds h₂
    rw [hid₁, hid₂] at heq
    rw [hgen₁, hgen₂]
    exact h.increasing ref₁ ref₂ old₁ old₂ hlt hold₁ hold₂ heq
  · obtain ⟨leg, hleg, hid, _, hrun', _⟩ := has_of_winds hwinds hhas
    rw [hid]
    exact h.running ref' leg hleg (hrun' hrun)
  · obtain ⟨leg, hleg, hid, _, _, hclosed'⟩ := has_of_winds hwinds hhas
    rw [hid]
    exact h.unclosed ref' leg hleg (hclosed' hopen)
  · obtain ⟨leg, hleg, _, _, _, hclosed'⟩ := has_of_winds hwinds hhas
    exact h.shutdown hdone ref' leg hleg (hclosed' hopen)

theorem Inv.removeLeg {ref : Ref} {leg : StreamLeg} {retired waiters : List Ref} (h : Inv cfg s)
    (hhas : s.Has ref leg) (hreg : s.legs leg.id = some ref) (hsub : ∀ r ∈ s.retired, r ∈ retired)
    (hopen : leg.closed = true ∨ ref ∈ retired) :
    Inv cfg { removeLeg s leg.id ref with retired := retired, waiters := waiters } := by
  have hnone : s.retiring leg.id = none :=
    (h.exclusive leg.id).resolve_left (by rw [hreg]; exact some_ne_none ref)
  refine ⟨fun id ref' hreg' => ?_, fun id => ?_, h.generation, h.increasing,
    fun ref' leg' hhas' hrun => ?_, fun ref' leg' hhas' hopen' => ?_, h.finalizing,
    fun hdone ref' leg' hhas' hopen' => ?_⟩
  · rcases eq_or_ne id leg.id with rfl | hne
    · dsimp only [Registry.removeLeg] at hreg'
      rw [update_self] at hreg'
      cases hreg'
    · dsimp only [Registry.removeLeg] at hreg'
      rw [update_of_ne hne] at hreg'
      exact h.registered id ref' hreg'
  · dsimp only [Registry.removeLeg]
    rcases eq_or_ne id leg.id with rfl | hne
    · rw [update_self]
      exact .inl rfl
    · rw [update_of_ne hne, update_of_ne hne]
      exact h.exclusive id
  · dsimp only [Registry.removeLeg]
    rcases eq_or_ne leg'.id leg.id with heq | hne
    · rw [heq, update_self, update_self]
      rcases h.running ref' leg' hhas' hrun with hreg' | hret
      · rw [heq, hreg] at hreg'
        exact .inr hreg'
      · rw [heq, hnone] at hret
        cases hret
    · rw [update_of_ne hne, update_of_ne hne]
      exact h.running ref' leg' hhas' hrun
  · dsimp only [Registry.removeLeg]
    rcases eq_or_ne leg'.id leg.id with heq | hne
    · rcases h.unclosed ref' leg' hhas' hopen' with hreg' | hret
      · rw [heq, hreg] at hreg'
        cases hreg'
        have hsame : leg' = leg := Option.some.inj (hhas'.symm.trans hhas)
        rw [hsame] at hopen'
        exact .inr (hopen.resolve_left (by rw [hopen']; exact Bool.false_ne_true))
      · exact .inr (hsub ref' hret)
    · rw [update_of_ne hne]
      exact (h.unclosed ref' leg' hhas' hopen').imp_right (hsub ref')
  · exact (h.shutdown hdone ref' leg' hhas' hopen').imp_right (hsub ref')

/-- A closed leg needs nobody to close it. -/
theorem Inv.forget {ref : Ref} {closing retired waiters : List Ref} (h : Inv cfg s)
    (hclosed : ∀ leg, s.Has ref leg → leg.closed = true)
    (hclosing : ∀ r ∈ s.closing, r ≠ ref → r ∈ closing)
    (hretired : ∀ r ∈ s.retired, r ≠ ref → r ∈ retired) :
    Inv cfg { s with closing := closing, retired := retired, waiters := waiters } := by
  have hne : ∀ {ref' leg'}, s.Has ref' leg' → leg'.closed = false → ref' ≠ ref := by
    rintro ref' leg' hhas hopen rfl
    exact Bool.false_ne_true (hopen.symm.trans (hclosed leg' hhas))
  refine ⟨h.registered, h.exclusive, h.generation, h.increasing, h.running,
    fun ref' leg' hhas hopen => ?_, h.finalizing, fun hdone ref' leg' hhas hopen => ?_⟩
  · exact (h.unclosed ref' leg' hhas hopen).imp_right fun hm =>
      hretired ref' hm (hne hhas hopen)
  · rcases h.shutdown hdone ref' leg' hhas hopen with hm | hm
    · exact .inl (hclosing ref' hm (hne hhas hopen))
    · exact .inr (hretired ref' hm (hne hhas hopen))

theorem close_closed {ref : Ref} {leg : StreamLeg}
    (h : (s.modifyLeg ref StreamLeg.close).Has ref leg) : leg.closed = true := by
  obtain ⟨old, _, ⟨_, rfl⟩ | ⟨hne, _⟩⟩ := has_modifyLeg h
  · rfl
  · exact absurd rfl hne

theorem Inv.liftBarrier {ref : Ref} {leg : StreamLeg} (h : Inv cfg s) (hhas : s.Has ref leg)
    (hstopped : leg.running = false) : Inv cfg (liftBarrier s leg.id ref) := by
  unfold Registry.liftBarrier
  split
  · next hret =>
    refine ⟨h.registered, fun id => ?_, h.generation, h.increasing,
      fun ref' leg' hhas' hrun => ?_, h.unclosed, h.finalizing, h.shutdown⟩
    · dsimp only
      rcases eq_or_ne id leg.id with rfl | hne
      · rw [update_self]
        exact .inr rfl
      · rw [update_of_ne hne]
        exact h.exclusive id
    · dsimp only
      rcases h.running ref' leg' hhas' hrun with hreg | hret'
      · exact .inl hreg
      · rcases eq_or_ne leg'.id leg.id with heq | hne
        · rw [heq, hret] at hret'
          cases hret'
          have hsame : leg' = leg := Option.some.inj (hhas'.symm.trans hhas)
          rw [hsame, hstopped] at hrun
          cases hrun
        · rw [update_of_ne hne]
          exact .inr hret'
  · exact h

theorem sameRegistry_invalidatePath (s : State) (leg : StreamLeg) :
    SameRegistry s (invalidatePath s leg) := by
  unfold invalidatePath
  split
  · exact ⟨rfl, rfl, rfl, rfl, rfl, rfl, rfl, rfl, rfl⟩
  · exact SameRegistry.refl s

/-- The snapshot of the shutdown has every leg that is not closed and not about to be. -/
theorem Inv.failWithAppClose (h : Inv cfg s) :
    Inv cfg { s with
      finalizing := true, done := true
      closing := (List.range cfg.maxActiveLegs).filterMap s.legs } := by
  refine ⟨h.registered, h.exclusive, h.generation, h.increasing, h.running, h.unclosed,
    fun _ => rfl, fun _ ref leg hhas hopen => ?_⟩
  rcases h.unclosed ref leg hhas hopen with hreg | hret
  · have hrange := (h.registered leg.id ref hreg).1
    exact .inl (mem_filterMap.2 ⟨leg.id, mem_range.2 hrange, hreg⟩)
  · exact .inr hret

theorem inv_legStep {ref : Ref} {leg : StreamLeg} {a : Act} (h : Inv cfg s) (hhas : s.Has ref leg)
    (hs : legStep s ref leg a = some s') : Inv cfg s' := by
  cases a with
  | invalidatePath _ =>
    cases hs
    exact h.congr (sameRegistry_invalidatePath s leg)
  | closeLeg _ =>
    cases hs
    exact h.modifyLeg winds_close
  | removeLeg _ =>
    simp only [legStep] at hs
    split_ifs at hs with hclosed hreg
    · cases hs
      exact h.removeLeg hhas hreg (fun _ => id) (.inl hclosed)
    · cases hs
      exact h
  | retireDrainedLeg _ =>
    obtain ⟨hreg, ⟨⟩⟩ := ite_none_right_eq_some.1 hs
    refine h.removeLeg hhas hreg (fun r hr => mem_append_left _ hr) (.inr ?_)
    exact mem_append_right _ (mem_singleton_self ref)
  | closeRetired _ =>
    obtain ⟨_, ⟨⟩⟩ := ite_none_right_eq_some.1 hs
    have hclose : Inv cfg ((invalidatePath s leg).modifyLeg ref StreamLeg.close) :=
      (h.congr (sameRegistry_invalidatePath s leg)).modifyLeg winds_close
    have hretired : ((invalidatePath s leg).modifyLeg ref StreamLeg.close).retired = s.retired :=
      (sameRegistry_invalidatePath s leg).retired
    refine hclose.forget (fun _ => close_closed) (fun r hr _ => hr) fun r hr hne => ?_
    rw [hretired] at hr
    exact (mem_erase_of_ne hne).2 hr
  | workerReturns _ w =>
    cases hs
    exact h.modifyLeg (winds_returns w)
  | workersDone _ =>
    obtain ⟨⟨_, hstopped⟩, hsome⟩ := ite_none_right_eq_some.1 hs
    cases hsome
    have hlift := h.liftBarrier hhas hstopped
    exact ⟨hlift.registered, hlift.exclusive, hlift.generation, hlift.increasing, hlift.running,
      hlift.unclosed, hlift.finalizing, hlift.shutdown⟩
  | closeSnapshot _ =>
    obtain ⟨_, ⟨⟩⟩ := ite_none_right_eq_some.1 hs
    have hclose : Inv cfg (s.modifyLeg ref StreamLeg.close) := h.modifyLeg winds_close
    refine hclose.forget (fun _ => close_closed) (fun r hr hne => ?_) fun r hr _ => hr
    exact (mem_erase_of_ne hne).2 hr
  | _ =>
    cases hs

theorem inv_step {a : Act} (h : Inv cfg s) (hs : step cfg s a = some s') : Inv cfg s' := by
  unfold step at hs
  cases hsome : a.ref? with
  | some ref =>
    rw [hsome] at hs
    obtain ⟨leg, hhas, hleg⟩ := bind_eq_some_iff.1 hs
    exact inv_legStep h hhas hleg
  | none =>
    rw [hsome] at hs
    cases a with
    | attachLeg id auth =>
      cases hs
      rcases attachLeg_cases cfg s id auth with ⟨_, hsame⟩ |
        ⟨hgate, t, leg, hsame, heq, hid, hgeneration⟩
      · exact h.congr hsame
      · obtain ⟨hrange, _, hdone, hlegs, hretiring⟩ := attachGate_eq_none hgate
        rw [heq]
        subst hid
        refine (h.congr hsame).install hrange ?_ ?_ ?_ ?_
        · rw [hsame.done]
          exact hdone
        · rw [hsame.legs]
          exact hlegs
        · rw [hsame.retiring]
          exact hretiring
        · rw [hsame.legGeneration]
          exact hgeneration
    | closeCache =>
      cases hs
      exact h.congr ⟨rfl, rfl, rfl, rfl, rfl, rfl, rfl, rfl, rfl⟩
    | beginFinalizing =>
      cases hs
      split
      · exact h
      · exact ⟨h.registered, h.exclusive, h.generation, h.increasing, h.running, h.unclosed,
          fun _ => rfl, h.shutdown⟩
    | failWithAppClose =>
      dsimp only at hs
      split at hs <;> cases hs
      exact h.failWithAppClose
    | _ =>
      cases hsome

end Invariant

section Safety

variable {cfg : Config} {s : State}

/-- What the registry guarantees. -/
structure RegistrySafe (cfg : Config) (s : State) : Prop where
  /-- Two attached generations of one id are one. -/
  unique : ∀ ref ref' leg leg', s.Has ref leg → s.Has ref' leg' → leg.id = leg'.id →
    s.legs leg.id = some ref → s.legs leg'.id = some ref' → ref = ref'
  increasing : ∀ ref ref' leg leg', ref < ref' → s.Has ref leg → s.Has ref' leg' →
    leg.id = leg'.id → leg.generation < leg'.generation
  /-- While a generation is attached the goroutines of the earlier ones have returned. -/
  quiet : ∀ ref ref' leg leg', ref < ref' → s.Has ref leg → s.Has ref' leg' → leg.id = leg'.id →
    s.legs leg'.id = some ref' → leg.reader = false ∧ leg.writer = false ∧ leg.prober = false
  /-- A done engine attaches nothing. -/
  noAttach : s.done = true → ∀ id auth, (attachLeg cfg s id auth).2 ≠ .attached ∧
    SameRegistry s (attachLeg cfg s id auth).1
  /-- A done engine whose closing calls are over has closed every leg. -/
  allClosed : s.done = true → s.closing = [] → s.retired = [] →
    ∀ ref leg, s.Has ref leg → leg.closed = true

/-- Every reachable state of the registry is safe. -/
theorem registry_safe (cfg : Config) (s : State) (hreach : Reachable (step cfg) (init cfg) s) :
    RegistrySafe cfg s := by
  have h : Inv cfg s := hreach.invariant inv_init fun _ _ _ hinv hs => inv_step hinv hs
  refine ⟨fun ref ref' leg leg' _ _ heq hreg hreg' => ?_, h.increasing,
    fun ref ref' leg leg' hlt hhas hhas' heq hreg => ?_, fun hdone id auth => ?_,
    fun hdone hclosing hretired ref leg hhas => ?_⟩
  · rw [heq] at hreg
    exact Option.some.inj (hreg.symm.trans hreg')
  · have hstopped : leg.running = false := by
      rw [← Bool.not_eq_true]
      intro hrun
      rcases h.running ref leg hhas hrun with hreg' | hret
      · rw [heq, hreg] at hreg'
        cases hreg'
        exact Nat.lt_irrefl _ hlt
      · rw [heq] at hret
        rcases h.exclusive leg'.id with hnone | hnone
        · rw [hreg] at hnone
          cases hnone
        · rw [hret] at hnone
          cases hnone
    simp only [StreamLeg.running, Bool.or_eq_false_iff] at hstopped
    exact ⟨hstopped.1.2, hstopped.1.1, hstopped.2⟩
  · rcases attachLeg_cases cfg s id auth with hrefused | ⟨hgate, _⟩
    · exact hrefused
    · have hnot := (attachGate_eq_none hgate).2.2.1
      rw [hdone] at hnot
      cases hnot
  · by_contra hopen
    rw [Bool.not_eq_true] at hopen
    rcases h.shutdown hdone ref leg hhas hopen with hm | hm
    · rw [hclosing] at hm
      cases hm
    · rw [hretired] at hm
      cases hm

/-- A plain engine with one leg. -/
def plainConfig : Config :=
  { configError := "", maxActiveLegs := 1, experimentalPathAware := false, pathRole := .unset }

/-- A leg attaches, fails and is replaced; then the engine shuts down. -/
def replaceAndClose : List Act :=
  [ .attachLeg 0 none, .closeLeg 0, .removeLeg 0
  , .workerReturns 0 .writer, .workerReturns 0 .reader, .workersDone 0
  , .attachLeg 0 none, .failWithAppClose, .closeSnapshot 1 ]

theorem replaceAndClose_runs :
    (runActs (step plainConfig) (init plainConfig) replaceAndClose).any (fun s =>
      s.done && decide (s.legs 0 = some 1 ∧ s.objects.length = 2)) = true := by
  decide +kernel

theorem registry_safe_replaceAndClose :
    ∃ s, runActs (step plainConfig) (init plainConfig) replaceAndClose = some s ∧
      s.done = true ∧ s.legs 0 = some 1 ∧ RegistrySafe plainConfig s := by
  obtain ⟨s, hrun, hs⟩ := (Option.any_eq_true ..).1 replaceAndClose_runs
  simp only [Bool.and_eq_true, decide_eq_true_eq] at hs
  exact ⟨s, hrun, hs.1, hs.2.1, registry_safe plainConfig s ⟨replaceAndClose, hrun⟩⟩

theorem shutdown_leaves_open :
    (runActs (step plainConfig) (init plainConfig) [.attachLeg 0 none, .failWithAppClose]).any
      (fun s => s.done && s.objects[0]?.any fun leg => !leg.closed) = true := by
  decide +kernel

/-- `failWithAppClose` publishes `done` before it closes the legs of its snapshot. -/
theorem done_before_closed :
    ∃ s, Reachable (step plainConfig) (init plainConfig) s ∧ s.done = true ∧
      ∃ leg, s.Has 0 leg ∧ leg.closed = false := by
  obtain ⟨s, hrun, hs⟩ := (Option.any_eq_true ..).1 shutdown_leaves_open
  rw [Bool.and_eq_true] at hs
  obtain ⟨leg, hleg, hopen⟩ := (Option.any_eq_true ..).1 hs.2
  rw [Bool.not_eq_true'] at hopen
  exact ⟨s, ⟨_, hrun⟩, hs.1, leg, hleg, hopen⟩

end Safety

end Smp3Multipath.Core.Registry

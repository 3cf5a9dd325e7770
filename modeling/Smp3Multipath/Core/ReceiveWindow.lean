import Smp3Multipath.Core.StreamRx
import Smp3Multipath.Lib.Run

/-!
# The receive window under its loop

`rxLoop` takes a frame from `incoming`, gives it to `Insert`, and delivers a frame that is ready
together with what `PopContiguous` hands over behind it.  Between two inserts the window holds
frames behind the expected one only, and `gapSince` is the time from which on the expected one has
been missing.

Every frame comes with a buffer of the pool.  The buffers are numbered as they come; `held`,
`retained` and `released` are those that the loop holds, those that the window holds and those that
`putBuffer` has taken back.
-/

namespace Smp3Multipath.Core.ReceiveWindow

open Lib.Run StreamRXWindow Function List

section Model

/-- Where `rxLoop` is, with the buffers it holds. -/
inductive Phase where
  | idle
  /-- Before `Insert`. -/
  | received (frame : StreamRXFrame) (buffer : Nat)
  /-- Before the `putBuffer` of a frame that is not taken; after an error the loop returns. -/
  | discarding (buffer : Nat) (failed : Bool)
  /-- In `writeAll`. -/
  | delivering (buffer : Nat)
  /-- Before `CommitReady`. -/
  | delivered
  /-- Before `PopContiguous`. -/
  | committed
  /-- In the deferred function, before `DrainPending`. -/
  | leaving
  | draining (buffers : List Nat)
  | exited
deriving DecidableEq

def Phase.held : Phase → List Nat
  | .received _ buffer | .discarding buffer _ | .delivering buffer => [buffer]
  | .draining buffers => buffers
  | _ => []

structure State where
  window : StreamRXWindow
  phase : Phase
  /-- The buffer of the frame that is pending under a sequence. -/
  buffer : Nat → Nat
  released : List Nat
  arrived : Nat

def State.retained (s : State) : List Nat :=
  s.window.pending.map fun f => s.buffer f.sequence

def init (maxReorderFrames : Nat) : State :=
  ⟨newStreamRXWindow maxReorderFrames, .idle, fun _ => 0, [], 0⟩

inductive Act where
  | receive (frame : StreamRXFrame)
  | insert (now : Time)
  | putBuffer
  /-- `writeAll` returns. -/
  | written (ok : Bool)
  | commitReady (now : Time)
  | popContiguous
  /-- The engine is done or `incoming` is closed. -/
  | stop
  | drainPending
deriving DecidableEq

/-- The clock at a step that reads it. -/
def Act.time : Act → Option Time
  | .insert now | .commitReady now => some now
  | _ => none

/-- `Insert` and the `switch` on its result. -/
def State.insert (s : State) (frame : StreamRXFrame) (buffer : Nat) (now : Time) : State :=
  match s.window.insert frame now with
  | .error _ => { s with phase := .discarding buffer true }
  | .ok (w, .duplicate) | .ok (w, .bufferedDuplicate) =>
    { s with window := w, phase := .discarding buffer false }
  | .ok (w, .buffered) =>
    { s with
      window := w, phase := .idle, buffer := update s.buffer frame.sequence buffer }
  | .ok (w, .ready) => { s with window := w, phase := .delivering buffer }

/-- One step of `rxLoop`; the clock never shows the zero time. -/
def step (s : State) : Act → Option State
  | .receive frame =>
    match s.phase with
    | .idle => some { s with phase := .received frame s.arrived, arrived := s.arrived + 1 }
    | _ => none
  | .insert now =>
    match s.phase with
    | .received frame buffer => if now = 0 then none else some (s.insert frame buffer now)
    | _ => none
  | .putBuffer =>
    match s.phase with
    | .discarding buffer failed =>
      some { s with
        phase := if failed then .leaving else .idle
        released := buffer :: s.released }
    | .draining (buffer :: buffers) =>
      some { s with phase := .draining buffers, released := buffer :: s.released }
    | .draining [] => some { s with phase := .exited }
    | _ => none
  | .written ok =>
    match s.phase with
    | .delivering buffer =>
      some { s with
        phase := if ok then .delivered else .leaving
        released := buffer :: s.released }
    | _ => none
  | .commitReady now =>
    match s.phase with
    | .delivered =>
      if now = 0 then none
      else some { s with window := s.window.commitReady now, phase := .committed }
    | _ => none
  | .popContiguous =>
    match s.phase with
    | .committed =>
      match s.window.popContiguous with
      | some (w, frame) =>
        some { s with window := w, phase := .delivering (s.buffer frame.sequence) }
      | none => some { s with phase := .idle }
    | _ => none
  | .stop =>
    match s.phase with
    | .idle => some { s with phase := .leaving }
    | _ => none
  | .drainPending =>
    match s.phase with
    | .leaving =>
      some { s with
        window := s.window.drainPending.1
        phase := .draining (s.window.drainPending.2.map fun f => s.buffer f.sequence) }
    | _ => none

end Model

section Window

variable {w : StreamRXWindow} {now : Time} {frame : StreamRXFrame} {limit : Nat}

/-- What holds of the window in all phases. -/
structure Kept (limit : Nat) (w : StreamRXWindow) : Prop where
  limited : w.maxReorderFrames = limit
  nodup : (w.pending.map StreamRXFrame.sequence).Nodup
  bytes : w.pendingBytes = (w.pending.map fun f => (f.payload.length : Int)).sum
  bound : w.pending.length ≤ limit
  gap_le : w.gapExpected ≤ w.expected

/-- No frame is on its way to the application, and the gap is that of the expected sequence. -/
structure Settled (w : StreamRXWindow) : Prop where
  ready : w.readyPending = false
  later : ∀ f ∈ w.pending, w.expected < f.sequence
  gap : w.pending ≠ [] → w.gapSince ≠ 0 ∧ w.gapExpected = w.expected
  closed : w.pending = [] → w.gapSince = 0

theorem lookup_eq_none_iff {seq : Nat} :
    w.lookup seq = none ↔ ∀ f ∈ w.pending, f.sequence ≠ seq := by
  simp [StreamRXWindow.lookup]

theorem refreshGap_gap (hnow : now ≠ 0) :
    ((w.refreshGap now).pending ≠ [] →
      (w.refreshGap now).gapSince ≠ 0 ∧ (w.refreshGap now).gapExpected = w.expected) ∧
    ((w.refreshGap now).pending = [] → (w.refreshGap now).gapSince = 0) := by
  rw [refreshGap_pending]
  unfold refreshGap
  by_cases hempty : w.pending = []
  · rw [if_pos hempty]
    exact ⟨fun hne => absurd hempty hne, fun _ => rfl⟩
  · rw [if_neg hempty]
    refine ⟨fun _ => ?_, fun heq => absurd heq hempty⟩
    split
    · exact ⟨hnow, rfl⟩
    · next hsame =>
      push Not at hsame
      exact ⟨hsame.2, hsame.1⟩

theorem refreshGap_pendingBytes : (w.refreshGap now).pendingBytes = w.pendingBytes := by
  unfold refreshGap
  split_ifs <;> rfl

theorem Kept.refreshGap (h : Kept limit w) : Kept limit (w.refreshGap now) where
  limited := by rw [refreshGap_maxReorderFrames]; exact h.limited
  nodup := by rw [refreshGap_pending]; exact h.nodup
  bytes := by rw [refreshGap_pending, refreshGap_pendingBytes]; exact h.bytes
  bound := by rw [refreshGap_pending]; exact h.bound
  gap_le := by
    rw [refreshGap_expected]
    unfold StreamRXWindow.refreshGap
    split_ifs
    · exact Nat.le_refl _
    · exact Nat.le_refl _
    · exact h.gap_le

/-- The window with a frame more. -/
def push (w : StreamRXWindow) (frame : StreamRXFrame) : StreamRXWindow :=
  { w with
    pending := w.pending ++ [frame]
    pendingBytes := w.pendingBytes + frame.payload.length }

/-- The four ways out of `Insert` that leave the window to the loop, and the one that buffers. -/
theorem insert_eq (w : StreamRXWindow) (frame : StreamRXFrame) (now : Time) :
    (∃ e, w.insert frame now = .error e) ∨ w.insert frame now = .ok (w, .duplicate) ∨
      w.insert frame now = .ok (w, .bufferedDuplicate) ∨
      w.insert frame now = .ok ({ w with readyPending := true }, .ready) ∨
      (w.expected < frame.sequence ∧ (∀ f ∈ w.pending, f.sequence ≠ frame.sequence) ∧
        w.pending.length < w.maxReorderFrames ∧
        w.insert frame now = .ok ((push w frame).refreshGap now, .buffered)) := by
  unfold StreamRXWindow.insert
  split_ifs with hold heq hdup hfull
  · exact .inr (.inl rfl)
  · exact .inr (.inr (.inr (.inl rfl)))
  · exact .inr (.inr (.inl rfl))
  · exact .inl ⟨_, rfl⟩
  · rw [Option.not_isSome_iff_eq_none] at hdup
    exact .inr (.inr (.inr (.inr
      ⟨by omega, lookup_eq_none_iff.1 hdup, Nat.not_le.1 hfull, rfl⟩)))

theorem Kept.push (h : Kept limit w) (hnew : ∀ f ∈ w.pending, f.sequence ≠ frame.sequence)
    (hroom : w.pending.length < w.maxReorderFrames) : Kept limit (push w frame) where
  limited := h.limited
  nodup := by
    have hdisjoint : frame.sequence ∉ w.pending.map StreamRXFrame.sequence := by
      rw [mem_map]
      rintro ⟨f, hf, heq⟩
      exact hnew f hf heq
    simp only [ReceiveWindow.push, map_append, map_singleton]
    refine nodup_append.2 ⟨h.nodup, by simp, fun a ha b hb heq => ?_⟩
    rw [heq, mem_singleton.1 hb] at ha
    exact hdisjoint ha
  bytes := by
    simp only [ReceiveWindow.push, map_append, sum_append, h.bytes, map_singleton,
      sum_singleton]
  bound := by
    rw [h.limited] at hroom
    simp only [ReceiveWindow.push, length_append, length_singleton]
    omega
  gap_le := h.gap_le

theorem Settled.insert (h : Settled w) (hnow : now ≠ 0) (hlater : w.expected < frame.sequence) :
    Settled ((push w frame).refreshGap now) := by
  obtain ⟨hgap, hclosed⟩ := refreshGap_gap (w := push w frame) hnow
  refine ⟨?_, ?_, ?_, hclosed⟩
  · rw [refreshGap_readyPending]
    exact h.ready
  · rw [refreshGap_pending, refreshGap_expected]
    intro f hf
    rcases mem_append.1 hf with hf | hf
    · exact h.later f hf
    · rw [mem_singleton.1 hf]
      exact hlater
  · rw [refreshGap_expected]
    exact hgap

/-- The window with the next sequence expected. -/
def advance (w : StreamRXWindow) : StreamRXWindow :=
  { w with readyPending := false, expected := w.expected + 1 }

theorem commitReady_eq (h : w.readyPending = true) :
    w.commitReady now = if ((advance w).lookup (w.expected + 1)).isSome then advance w
      else (advance w).refreshGap now := by
  unfold commitReady
  rw [if_neg (not_not.2 h)]
  rfl

theorem commitReady_settled (hready : w.readyPending = true)
    (hlater : ∀ f ∈ w.pending, w.expected < f.sequence) (hnow : now ≠ 0)
    (hmissing : (w.commitReady now).lookup (w.expected + 1) = none) :
    Settled (w.commitReady now) := by
  have hlookup : (w.commitReady now).lookup (w.expected + 1) =
      (advance w).lookup (w.expected + 1) := by
    rw [StreamRXWindow.lookup, commitReady_pending]
    rfl
  rw [hlookup] at hmissing
  rw [commitReady_eq hready, hmissing, if_neg (by simp)]
  obtain ⟨hgap, hclosed⟩ := refreshGap_gap (w := advance w) hnow
  refine ⟨by rw [refreshGap_readyPending]; rfl, ?_, ?_, hclosed⟩
  · rw [refreshGap_pending, refreshGap_expected]
    intro f hf
    exact Nat.lt_of_le_of_ne (hlater f hf) (Ne.symm (lookup_eq_none_iff.1 hmissing f hf))
  · rw [refreshGap_expected]
    exact hgap

theorem Kept.commitReady (h : Kept limit w) (hready : w.readyPending = true) :
    Kept limit (w.commitReady now) := by
  have hadvance : Kept limit (advance w) :=
    ⟨h.limited, h.nodup, h.bytes, h.bound, Nat.le_trans h.gap_le (Nat.le_succ _)⟩
  rw [commitReady_eq hready]
  split
  · exact hadvance
  · exact hadvance.refreshGap

theorem pending_perm {f : StreamRXFrame} :
    ∀ {pending : List StreamRXFrame}, (pending.map StreamRXFrame.sequence).Nodup → f ∈ pending →
      pending.Perm (f :: pending.filter fun g => g.sequence ≠ f.sequence)
  | [], _, hf => nomatch hf
  | g :: pending, hnodup, hf => by
    obtain ⟨hnew, hnodup⟩ := nodup_cons.1 hnodup
    rcases mem_cons.1 hf with rfl | hf
    · have hall : pending.filter (fun g => g.sequence ≠ f.sequence) = pending := by
        refine filter_eq_self.2 fun g hg => decide_eq_true fun heq => hnew ?_
        rw [← heq]
        exact mem_map_of_mem hg
      rw [filter_cons_of_neg (by simp), hall]
    · have hne : g.sequence ≠ f.sequence := fun heq => hnew (heq ▸ mem_map_of_mem hf)
      rw [filter_cons_of_pos (by simpa using hne)]
      exact ((pending_perm hnodup hf).cons g).trans (List.Perm.swap f g _)

end Window

section Runs

variable {limit : Nat} {s s' : State} {a : Act}

/-- What the loop knows of the window. -/
def Phase.Knows (w : StreamRXWindow) : Phase → Prop
  | .idle | .received .. | .discarding _ false => Settled w
  | .discarding _ true | .leaving => True
  | .delivering _ | .delivered => w.readyPending = true ∧ ∀ f ∈ w.pending, w.expected < f.sequence
  | .committed => w.readyPending = false ∧ (∀ f ∈ w.pending, w.expected ≤ f.sequence) ∧
      (w.lookup w.expected = none → Settled w)
  | .draining _ | .exited => w.pending = []

structure Inv (limit : Nat) (s : State) : Prop where
  kept : Kept limit s.window
  knows : s.phase.Knows s.window
  /-- Every buffer that has come is at one place. -/
  owned : (s.phase.held ++ s.retained ++ s.released).Perm (List.range s.arrived)

theorem inv_init (limit : Nat) : Inv limit (init limit) where
  kept := ⟨rfl, nodup_nil, rfl, Nat.zero_le _, Nat.le_refl _⟩
  knows := ⟨rfl, nofun, fun hne => absurd rfl hne, fun _ => rfl⟩
  owned := List.Perm.refl _

/-- A step that leaves the window and the number of the buffers as they are. -/
theorem Inv.setPhase (h : Inv limit s) {phase : Phase} {released : List Nat}
    (hknows : phase.Knows s.window)
    (howned : (phase.held ++ s.retained ++ released).Perm
      (s.phase.held ++ s.retained ++ s.released)) :
    Inv limit { s with phase := phase, released := released } :=
  ⟨h.kept, hknows, howned.trans h.owned⟩

/-- A buffer that is put back. -/
theorem release_perm (held retained released : List Nat) (buffer : Nat) :
    (held ++ retained ++ buffer :: released).Perm (buffer :: held ++ retained ++ released) := by
  rw [cons_append, cons_append]
  exact perm_middle

theorem inv_insert (h : Inv limit s) {frame : StreamRXFrame} {buffer : Nat} {now : Time}
    (hp : s.phase = .received frame buffer) (hnow : now ≠ 0) :
    Inv limit (s.insert frame buffer now) := by
  have hsettled : Settled s.window := by
    have hknows := h.knows
    rwa [hp] at hknows
  have hheld : s.phase.held = [buffer] := by rw [hp]; rfl
  unfold State.insert
  rcases insert_eq s.window frame now with ⟨e, heq⟩ | heq | heq | heq | ⟨hlater, hnew, hroom, heq⟩
  · rw [heq]
    refine Inv.setPhase h trivial ?_
    rw [hheld]
    rfl
  · rw [heq]
    refine Inv.setPhase h hsettled ?_
    rw [hheld]
    rfl
  · rw [heq]
    refine Inv.setPhase h hsettled ?_
    rw [hheld]
    rfl
  · rw [heq]
    have howned := h.owned
    rw [hheld] at howned
    exact ⟨⟨h.kept.limited, h.kept.nodup, h.kept.bytes, h.kept.bound, h.kept.gap_le⟩,
      ⟨rfl, hsettled.later⟩, howned⟩
  · rw [heq]
    refine ⟨(h.kept.push hnew hroom).refreshGap, hsettled.insert hnow hlater, ?_⟩
    have hretained : (s.window.pending ++ [frame]).map
        (fun f => update s.buffer frame.sequence buffer f.sequence) =
          s.retained ++ [buffer] := by
      rw [map_append, map_singleton, update_self]
      refine congrArg (· ++ [buffer]) (map_congr_left fun f hf => ?_)
      exact update_of_ne (hnew f hf) ..
    have howned := h.owned
    rw [hheld] at howned
    simp only [State.retained, refreshGap_pending, Phase.held, nil_append]
    rw [show (push s.window frame).pending = s.window.pending ++ [frame] from rfl, hretained]
    exact (perm_append_singleton buffer s.retained |>.append_right s.released).trans howned

theorem inv_popContiguous (h : Inv limit s) (hp : s.phase = .committed) {w : StreamRXWindow}
    {frame : StreamRXFrame} (hpop : s.window.popContiguous = some (w, frame)) :
    Inv limit { s with window := w, phase := .delivering (s.buffer frame.sequence) } := by
  have hknows := h.knows
  rw [hp] at hknows
  obtain ⟨hready, hlater, -⟩ := hknows
  unfold StreamRXWindow.popContiguous at hpop
  rw [if_neg (by rw [hready]; simp)] at hpop
  cases hlookup : s.window.lookup s.window.expected with
  | none =>
    rw [hlookup] at hpop
    cases hpop
  | some found =>
    rw [hlookup] at hpop
    cases hpop
    obtain ⟨hm, hseq⟩ := mem_of_lookup hlookup
    have hperm := pending_perm h.kept.nodup hm
    rw [hseq] at hperm
    refine ⟨⟨h.kept.limited, ?_, ?_, ?_, h.kept.gap_le⟩, ⟨rfl, ?_⟩, ?_⟩
    · exact h.kept.nodup.sublist (filter_sublist.map _)
    · have hsum := (hperm.map fun f => (f.payload.length : Int)).sum_eq
      rw [← h.kept.bytes, map_cons, sum_cons] at hsum
      exact sub_eq_of_eq_add' hsum
    · exact Nat.le_trans (length_filter_le ..) h.kept.bound
    · intro f hf
      obtain ⟨hf, hne⟩ := mem_filter.1 hf
      exact Nat.lt_of_le_of_ne (hlater f hf) (Ne.symm (of_decide_eq_true hne))
    · have howned := h.owned
      rw [hp] at howned
      have hbuffers := hperm.map fun f => s.buffer f.sequence
      rw [map_cons] at hbuffers
      exact (hbuffers.symm.append_right s.released).trans howned

theorem inv_step (h : Inv limit s) (hs : step s a = some s') : Inv limit s' := by
  have hknows := h.knows
  have howned := h.owned
  cases a with
  | receive frame =>
    simp only [step] at hs
    split at hs
    · next hp =>
      cases hs
      rw [hp] at hknows howned
      refine ⟨h.kept, hknows, ?_⟩
      rw [range_succ]
      exact (howned.cons s.arrived).trans (perm_append_singleton s.arrived _).symm
    · cases hs
  | insert now =>
    simp only [step] at hs
    split at hs
    · next frame buffer hp =>
      split at hs
      · cases hs
      · next hnow =>
        cases hs
        exact inv_insert h hp hnow
    · cases hs
  | putBuffer =>
    simp only [step] at hs
    split at hs
    · next buffer failed hp =>
      cases hs
      rw [hp] at hknows
      refine h.setPhase ?_ ?_
      · cases failed with
        | true => trivial
        | false => exact hknows
      · rw [hp]
        cases failed <;> exact release_perm [] s.retained s.released buffer
    · next buffer buffers hp =>
      cases hs
      rw [hp] at hknows
      refine h.setPhase hknows ?_
      rw [hp]
      exact release_perm buffers s.retained s.released buffer
    · next hp =>
      cases hs
      rw [hp] at hknows
      refine h.setPhase hknows ?_
      rw [hp]
      rfl
    · cases hs
  | written ok =>
    simp only [step] at hs
    split at hs
    · next buffer hp =>
      cases hs
      rw [hp] at hknows
      refine h.setPhase ?_ ?_
      · cases ok with
        | true => exact hknows
        | false => trivial
      · rw [hp]
        cases ok <;> exact release_perm [] s.retained s.released buffer
    · cases hs
  | commitReady now =>
    simp only [step] at hs
    split at hs
    · next hp =>
      split at hs
      · cases hs
      · next hnow =>
        cases hs
        rw [hp] at hknows howned
        obtain ⟨hready, hlater⟩ := hknows
        obtain ⟨hexpected, hdone⟩ := commitReady_of_ready s.window now hready
        refine ⟨h.kept.commitReady hready, ⟨hdone, ?_, ?_⟩, ?_⟩
        · rw [commitReady_pending, hexpected]
          exact hlater
        · rw [hexpected]
          exact commitReady_settled hready hlater hnow
        · simpa only [State.retained, commitReady_pending, Phase.held] using howned
    · cases hs
  | popContiguous =>
    simp only [step] at hs
    split at hs
    · next hp =>
      split at hs
      · next w frame hpop =>
        cases hs
        exact inv_popContiguous h hp hpop
      · next hpop =>
        cases hs
        rw [hp] at hknows
        refine h.setPhase (hknows.2.2 ?_) (by rw [hp]; rfl)
        unfold StreamRXWindow.popContiguous at hpop
        rw [if_neg (by rw [hknows.1]; simp)] at hpop
        split at hpop
        · assumption
        · cases hpop
    · cases hs
  | stop =>
    simp only [step] at hs
    split at hs
    · next hp =>
      cases hs
      exact h.setPhase trivial (by rw [hp]; rfl)
    · cases hs
  | drainPending =>
    simp only [step] at hs
    split at hs
    · next hp =>
      cases hs
      rw [hp] at howned
      refine ⟨⟨h.kept.limited, nodup_nil, rfl, Nat.zero_le _, Nat.le_refl _⟩, rfl, ?_⟩
      simpa [StreamRXWindow.drainPending, State.retained, Phase.held] using howned
    · cases hs

end Runs

section Dating

variable {limit : Nat} {s s' : State} {a : Act} {e : Nat}

/-- The expected sequence is `e`, and frames behind it wait for it. -/
def Missing (w : StreamRXWindow) (e : Nat) : Prop :=
  w.expected = e ∧ w.readyPending = false ∧ w.lookup e = none ∧ w.pending ≠ []

/-- At time `t` of the run `e` became missing, and it has been missing since. -/
def MissingSince (maxReorderFrames : Nat) (acts : List Act) (e : Nat) (t : Time) : Prop :=
  ∃ as a bs s₁ s₂, acts = as ++ a :: bs ∧ runActs step (init maxReorderFrames) as = some s₁ ∧
    step s₁ a = some s₂ ∧ a.time = some t ∧ ¬Missing s₁.window e ∧
    ∀ n s₃, runActs step s₂ (bs.take n) = some s₃ → Missing s₃.window e

theorem insert_missing {frame : StreamRXFrame} {buffer : Nat} {now : Time}
    (hsettled : Settled s.window) (h : Missing (s.insert frame buffer now).window e) :
    (Missing s.window e ∧ (s.insert frame buffer now).window.gapSince = s.window.gapSince) ∨
      (¬Missing s.window e ∧ (s.insert frame buffer now).window.gapSince = now) := by
  unfold State.insert at h ⊢
  rcases insert_eq s.window frame now with ⟨err, heq⟩ | heq | heq | heq | ⟨-, -, -, heq⟩
  · rw [heq] at h ⊢
    exact .inl ⟨h, rfl⟩
  · rw [heq] at h ⊢
    exact .inl ⟨h, rfl⟩
  · rw [heq] at h ⊢
    exact .inl ⟨h, rfl⟩
  · rw [heq] at h
    cases h.2.1
  · rw [heq] at h ⊢
    obtain ⟨hexpected, hready, hlookup, -⟩ := h
    rw [refreshGap_expected] at hexpected
    have hbefore : s.window.lookup e = none := by
      rw [lookup_eq_none_iff, refreshGap_pending] at hlookup
      exact lookup_eq_none_iff.2 fun f hf => hlookup f (mem_append_left _ hf)
    unfold StreamRXWindow.refreshGap
    rw [if_neg (by simp [push])]
    by_cases hempty : s.window.pending = []
    · refine .inr ⟨fun hmissing => hmissing.2.2.2 hempty, ?_⟩
      rw [if_pos (.inr (hsettled.closed hempty))]
    · obtain ⟨hsince, hgap⟩ := hsettled.gap hempty
      refine .inl ⟨⟨hexpected, hsettled.ready, hbefore, hempty⟩, ?_⟩
      rw [if_neg (by rintro (hne | hzero); exacts [hne hgap, hsince hzero])]
      rfl

theorem commitReady_missing {w : StreamRXWindow} {now : Time} (hready : w.readyPending = true)
    (hgap : w.gapExpected ≤ w.expected) (h : Missing (w.commitReady now) e) :
    (w.commitReady now).gapSince = now := by
  obtain ⟨hexpected, -, hlookup, hpending⟩ := h
  rw [(commitReady_of_ready w now hready).1] at hexpected
  rw [commitReady_pending] at hpending
  have hnone : (advance w).lookup (w.expected + 1) = none := by
    rw [StreamRXWindow.lookup, commitReady_pending, ← hexpected] at hlookup
    exact hlookup
  rw [commitReady_eq hready, hnone, if_neg (by simp)]
  unfold StreamRXWindow.refreshGap
  rw [if_neg (show (advance w).pending ≠ [] from hpending),
    if_pos (.inl (Nat.ne_of_lt (Nat.lt_succ_of_le hgap)))]

/-- A sequence that is missing after a step was missing before, or the step has dated it. -/
theorem missing_step (h : Inv limit s) (hs : step s a = some s')
    (hmissing : Missing s'.window e) :
    (Missing s.window e ∧ s'.window.gapSince = s.window.gapSince) ∨
      (¬Missing s.window e ∧ a.time = some s'.window.gapSince) := by
  have hknows := h.knows
  cases a with
  | receive | putBuffer | written | stop =>
    simp only [step] at hs
    split at hs <;> cases hs <;> exact .inl ⟨hmissing, rfl⟩
  | insert now =>
    simp only [step] at hs
    split at hs
    · next frame buffer hp =>
      rw [hp] at hknows
      split at hs <;> cases hs
      rcases insert_missing hknows hmissing with hold | ⟨hnot, hnow⟩
      · exact .inl hold
      · exact .inr ⟨hnot, by rw [hnow]; rfl⟩
    · cases hs
  | commitReady now =>
    simp only [step] at hs
    split at hs
    · next hp =>
      rw [hp] at hknows
      split at hs <;> cases hs
      refine .inr ⟨fun hbefore => ?_, ?_⟩
      · exact absurd hknows.1 (by rw [hbefore.2.1]; simp)
      · exact (congrArg some (commitReady_missing hknows.1 h.kept.gap_le hmissing)).symm
    · cases hs
  | popContiguous =>
    simp only [step] at hs
    split at hs
    · split at hs
      · next hpop =>
        cases hs
        exact absurd (popContiguous_cases hpop).2.2.2.2.1 (by rw [hmissing.2.1]; simp)
      · cases hs
        exact .inl ⟨hmissing, rfl⟩
    · cases hs
  | drainPending =>
    simp only [step] at hs
    split at hs <;> cases hs
    exact absurd rfl hmissing.2.2.2

/-- Whatever is missing is dated by the step that made it so. -/
theorem missing_since {maxReorderFrames : Nat} {acts : List Act}
    (hrun : runActs step (init maxReorderFrames) acts = some s) (hmissing : Missing s.window e) :
    MissingSince maxReorderFrames acts e s.window.gapSince := by
  induction acts using List.reverseRecOn generalizing s with
  | nil =>
    cases hrun
    exact absurd rfl hmissing.2.2.2
  | append_singleton acts a ih =>
    obtain ⟨s₀, hbefore, hlast⟩ := runActs_append_iff.1 hrun
    obtain ⟨s₁, hs, ⟨⟩⟩ := runActs_cons_iff.1 hlast
    have hinv : Inv maxReorderFrames s₀ :=
      runActs_preserves (fun _ _ _ => inv_step) (inv_init _) hbefore
    rcases missing_step hinv hs hmissing with ⟨hold, hsame⟩ | ⟨hnot, htime⟩
    · obtain ⟨as, b, bs, s₂, s₃, rfl, has, hb, htime, hnot, hall⟩ := ih hbefore hold
      refine ⟨as, b, bs ++ [a], s₂, s₃, by simp, has, hb, hsame ▸ htime, hnot, ?_⟩
      intro n s₄ hrun₄
      by_cases hn : n ≤ bs.length
      · rw [take_append_of_le_length hn] at hrun₄
        exact hall n s₄ hrun₄
      · have htake : (bs ++ [a]).take n = bs ++ [a] :=
          take_of_length_le (by rw [length_append, length_singleton]; omega)
        have hsteps : runActs step (init maxReorderFrames) ((as ++ b :: bs) ++ [a]) = some s₄ := by
          rw [append_assoc]
          refine runActs_append_iff.2 ⟨s₂, has, ?_⟩
          rw [htake] at hrun₄
          exact runActs_cons_iff.2 ⟨s₃, hb, hrun₄⟩
        rw [hrun] at hsteps
        cases hsteps
        exact hmissing
    · refine ⟨acts, a, [], s₀, s, rfl, hbefore, hs, htime, hnot, ?_⟩
      intro n s₄ hrun₄
      rw [take_nil] at hrun₄
      cases hrun₄
      exact hmissing

end Dating

/-- Between inserts the window holds frames behind the expected one only, with their bytes, and
`gapSince` is the time from which on the expected frame is missing; at all times the window holds
at most `maxReorderFrames` frames, and every buffer that has come is with the loop, with the window
or back in the pool, and there is one of it. -/
theorem receive_window_discipline (maxReorderFrames : Nat) (acts : List Act) (s : State)
    (hrun : runActs step (init maxReorderFrames) acts = some s) :
    (s.phase = .idle →
      (∀ f ∈ s.window.pending, s.window.expected < f.sequence) ∧
      (s.window.gapSince ≠ 0 ↔ s.window.pending ≠ []) ∧
      (s.window.pending ≠ [] →
        MissingSince maxReorderFrames acts s.window.expected s.window.gapSince)) ∧
    s.window.pendingBytes = (s.window.pending.map fun f => (f.payload.length : Int)).sum ∧
    s.window.pending.length ≤ maxReorderFrames ∧
    (s.phase.held ++ s.retained ++ s.released).Perm (List.range s.arrived) ∧
    (s.phase = .exited → s.released.Perm (List.range s.arrived)) := by
  have hinv : Inv maxReorderFrames s :=
    runActs_preserves (fun _ _ _ => inv_step) (inv_init _) hrun
  refine ⟨fun hp => ?_, hinv.kept.bytes, hinv.kept.bound, hinv.owned, fun hp => ?_⟩
  · have hsettled : Settled s.window := by
      have hknows := hinv.knows
      rwa [hp] at hknows
    refine ⟨hsettled.later, ?_, fun hpending => ?_⟩
    · constructor
      · exact fun hsince hempty => hsince (hsettled.closed hempty)
      · exact fun hpending => (hsettled.gap hpending).1
    · refine missing_since hrun ⟨rfl, hsettled.ready, ?_, hpending⟩
      exact lookup_eq_none_iff.2 fun f hf => Nat.ne_of_gt (hsettled.later f hf)
  · have hempty : s.window.pending = [] := by
      have hknows := hinv.knows
      rwa [hp] at hknows
    have howned := hinv.owned
    rw [hp, State.retained, hempty] at howned
    exact howned

/-- Frame 2 comes twice, then frame 0 is delivered and frame 1 is missing. -/
def gapRun : List Act :=
  [.receive ⟨2, 0, [7]⟩, .insert 5, .receive ⟨2, 1, [7]⟩, .insert 6, .putBuffer,
    .receive ⟨0, 0, [8, 9]⟩, .insert 7, .written true, .commitReady 8, .popContiguous]

theorem receive_window_discipline_gap :
    ∃ s, runActs step (init 4) gapRun = some s ∧ s.window.expected = 1 ∧
      s.window.pendingBytes = 1 ∧ MissingSince 4 gapRun 1 8 ∧
      (s.phase.held ++ s.retained ++ s.released).Perm (List.range 3) := by
  have hrun : (runActs step (init 4) gapRun).map (fun s =>
      decide (s.phase = .idle ∧ s.window.expected = 1 ∧ s.window.pending ≠ [] ∧
        s.window.pendingBytes = 1 ∧ s.window.gapSince = 8 ∧ s.arrived = 3)) = some true := by
    decide
  obtain ⟨s, hs, hfacts⟩ := Option.map_eq_some_iff.1 hrun
  obtain ⟨hp, hexpected, hpending, hbytes, hsince, harrived⟩ := of_decide_eq_true hfacts
  obtain ⟨hidle, -, -, howned, -⟩ := receive_window_discipline 4 gapRun s hs
  have hdated := (hidle hp).2.2 hpending
  rw [hexpected, hsince] at hdated
  rw [harrived] at howned
  exact ⟨s, hs, hexpected, hbytes, hdated, howned⟩

end Smp3Multipath.Core.ReceiveWindow

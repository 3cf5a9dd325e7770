import Smp3Multipath.Core.StreamTx

/-!
# The receive reorder window

A translation of `StreamRXWindow`.  The pending map is keyed by the sequence of
the frame it holds, so it is a list of frames looked up by sequence.  `RxLoop`
is the position of the receive loop that drives the window.
-/

namespace Smp3Multipath.Core

/-- How an inserted frame was handled. -/
inductive StreamRXDisposition where
  | ready
  | buffered
  | duplicate
  | bufferedDuplicate
deriving DecidableEq

/-- The one error of `Insert`, `ErrStreamRXReorderLimit`. -/
inductive StreamRXError where
  | reorderLimit
deriving DecidableEq

/-- The text of the error. -/
def StreamRXError.message : StreamRXError → String
  | .reorderLimit => "multipath reorder buffer exceeded"

/-- One DATA frame at the receiver. -/
structure StreamRXFrame where
  sequence : Nat
  leg : LegID
  payload : List UInt8
deriving DecidableEq

/-- The reorder state machine. -/
structure StreamRXWindow where
  expected : Nat
  pending : List StreamRXFrame
  pendingBytes : Int
  gapExpected : Nat
  gapSince : Time
  maxReorderFrames : Nat
  readyPending : Bool
deriving DecidableEq

/-- Where the receive loop is. -/
inductive RxLoop where
  | idle
  /-- Inside `writeAll` with the bytes that are not written yet. -/
  | writing (frame : StreamRXFrame) (rest : List UInt8)
  /-- After the contiguous run, before `requestAck`. -/
  | acking
  | exited
deriving DecidableEq

namespace StreamRXWindow

def newStreamRXWindow (maxReorderFrames : Nat) : StreamRXWindow :=
  { expected := 0
    pending := []
    pendingBytes := 0
    gapExpected := 0
    gapSince := 0
    maxReorderFrames := maxReorderFrames
    readyPending := false }

/-- The pending map lookup. -/
def lookup (w : StreamRXWindow) (seq : Nat) : Option StreamRXFrame :=
  w.pending.find? fun f => f.sequence == seq

def refreshGap (w : StreamRXWindow) (now : Time) : StreamRXWindow :=
  if w.pending = [] then
    { w with gapExpected := w.expected, gapSince := 0 }
  else if w.gapExpected ≠ w.expected ∨ w.gapSince = 0 then
    { w with gapExpected := w.expected, gapSince := now }
  else
    w

def insert
    (w : StreamRXWindow) (frame : StreamRXFrame) (now : Time) :
    Except StreamRXError (StreamRXWindow × StreamRXDisposition) :=
  if frame.sequence < w.expected then
    .ok (w, .duplicate)
  else if frame.sequence = w.expected then
    .ok ({ w with readyPending := true }, .ready)
  else if (w.lookup frame.sequence).isSome then
    .ok (w, .bufferedDuplicate)
  else if w.maxReorderFrames ≤ w.pending.length then
    .error .reorderLimit
  else
    let w :=
      { w with
        pending := w.pending ++ [frame]
        pendingBytes := w.pendingBytes + frame.payload.length }
    .ok (w.refreshGap now, .buffered)

def commitReady (w : StreamRXWindow) (now : Time) : StreamRXWindow :=
  if ¬ w.readyPending then
    w
  else
    let w := { w with readyPending := false, expected := w.expected + 1 }
    if (w.lookup w.expected).isSome then w else w.refreshGap now

/-- `PopContiguous`; `none` when no frame is handed over. -/
def popContiguous (w : StreamRXWindow) : Option (StreamRXWindow × StreamRXFrame) :=
  if w.readyPending then
    none
  else
    match w.lookup w.expected with
    | none => none
    | some frame =>
      some ({ w with
        pending := w.pending.filter fun f => f.sequence ≠ w.expected
        pendingBytes := w.pendingBytes - frame.payload.length
        readyPending := true }, frame)

def drainPending (w : StreamRXWindow) : StreamRXWindow × List StreamRXFrame :=
  ({ w with
      pending := []
      pendingBytes := 0
      gapExpected := w.expected
      gapSince := 0
      readyPending := false }, w.pending)

section Facts

variable (w : StreamRXWindow) (now : Time)

@[simp] theorem refreshGap_expected : (w.refreshGap now).expected = w.expected := by
  unfold refreshGap
  split_ifs <;> rfl

@[simp] theorem refreshGap_pending : (w.refreshGap now).pending = w.pending := by
  unfold refreshGap
  split_ifs <;> rfl

@[simp] theorem refreshGap_readyPending : (w.refreshGap now).readyPending = w.readyPending := by
  unfold refreshGap
  split_ifs <;> rfl

@[simp] theorem refreshGap_maxReorderFrames :
    (w.refreshGap now).maxReorderFrames = w.maxReorderFrames := by
  unfold refreshGap
  split_ifs <;> rfl

@[simp] theorem commitReady_maxReorderFrames :
    (w.commitReady now).maxReorderFrames = w.maxReorderFrames := by
  unfold commitReady
  dsimp only
  split_ifs <;> simp

@[simp] theorem commitReady_pending : (w.commitReady now).pending = w.pending := by
  unfold commitReady
  dsimp only
  split_ifs <;> simp

theorem commitReady_of_ready (h : w.readyPending = true) :
    (w.commitReady now).expected = w.expected + 1 ∧
      (w.commitReady now).readyPending = false := by
  unfold commitReady
  dsimp only
  rw [if_neg (not_not.2 h)]
  split <;> simp

variable {w now}

theorem mem_of_lookup {seq : Nat} {frame : StreamRXFrame} (h : w.lookup seq = some frame) :
    frame ∈ w.pending ∧ frame.sequence = seq :=
  ⟨List.mem_of_find?_eq_some h, by simpa using List.find?_some h⟩

theorem insert_cases {w' : StreamRXWindow} {frame : StreamRXFrame}
    {disposition : StreamRXDisposition} (h : w.insert frame now = .ok (w', disposition)) :
    (disposition = .ready ∧ frame.sequence = w.expected ∧
        w' = { w with readyPending := true }) ∨
      (disposition = .buffered ∧ w'.expected = w.expected ∧
        w'.readyPending = w.readyPending ∧ w'.pending = w.pending ++ [frame]) ∨
      ((disposition = .duplicate ∨ disposition = .bufferedDuplicate) ∧ w' = w) := by
  unfold insert at h
  split_ifs at h with hold heq hdup hfull
  · cases h
    exact .inr (.inr ⟨.inl rfl, rfl⟩)
  · cases h
    exact .inl ⟨rfl, heq, rfl⟩
  · cases h
    exact .inr (.inr ⟨.inr rfl, rfl⟩)
  · cases h
    exact .inr (.inl ⟨rfl, by simp, by simp, by simp⟩)

/-- What `PopContiguous` hands over. -/
theorem popContiguous_cases {w' : StreamRXWindow} {frame : StreamRXFrame}
    (h : w.popContiguous = some (w', frame)) :
    w.readyPending = false ∧ frame ∈ w.pending ∧ frame.sequence = w.expected ∧
      w'.expected = w.expected ∧ w'.readyPending = true ∧
      ∀ f ∈ w'.pending, f ∈ w.pending := by
  unfold popContiguous at h
  split_ifs at h with hready
  cases hlookup : w.lookup w.expected with
  | none => simp [hlookup] at h
  | some found =>
    simp only [hlookup, Option.some.injEq, Prod.mk.injEq] at h
    obtain ⟨rfl, rfl⟩ := h
    obtain ⟨hm, hseq⟩ := mem_of_lookup hlookup
    refine ⟨by simpa using hready, hm, hseq, rfl, rfl, fun f hf => ?_⟩
    exact (List.mem_filter.1 hf).1

end Facts

end StreamRXWindow
end Smp3Multipath.Core

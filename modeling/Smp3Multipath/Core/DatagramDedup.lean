import Mathlib.Data.Finset.Card
import Mathlib.Order.Interval.Finset.Nat

/-!
# Duplicate suppression of received datagrams

`legReadLoop` hands every id it reads to `acceptDatagramID` and drops the datagram when that
returns `false`.  The ids are remembered in a set that is pruned only when it has grown to twice
the window, and ids arrive out of order from several legs.

The invariant says where an accepted id is: in the set, or below the floor from which a datagram
that may have a copy is refused.
-/

namespace Smp3Multipath.Core.DatagramDedup

open List

inductive DatagramMode where
  | stripe
  | duplicate
  | adaptive
deriving DecidableEq

/-- What duplicate suppression reads of `DatagramConfig`. -/
structure DatagramConfig where
  mode : DatagramMode
  dedupWindow : Nat
  adaptiveDuplicateThreshold : Int
deriving DecidableEq

/-- What a datagram engine keeps of the ids it read. -/
structure DatagramEngine where
  cfg : DatagramConfig
  seen : Finset Nat
  maxSeen : Nat
  /-- The ids of the datagrams passed on, the last one first. -/
  incoming : List Nat
  duplicateDrop : Nat

/-- `NewDatagramEngine`: a window of zero is replaced. -/
def newDatagramEngine (cfg : DatagramConfig) : DatagramEngine :=
  { cfg := if cfg.dedupWindow = 0 then { cfg with dedupWindow := 4096 } else cfg
    seen := ∅
    maxSeen := 0
    incoming := []
    duplicateDrop := 0 }

/-- The test of `shouldDuplicate` and `acceptDatagramID` on the mode and the size. -/
def DatagramConfig.mayBeReplicated (cfg : DatagramConfig) (size : Nat) : Bool :=
  cfg.mode = .duplicate ∨
    (cfg.mode = .adaptive ∧ 0 < cfg.adaptiveDuplicateThreshold ∧
      (size : Int) ≤ cfg.adaptiveDuplicateThreshold)

/-- `shouldDuplicate` with the number of legs. -/
def shouldDuplicate (cfg : DatagramConfig) (size legs : Nat) : Bool :=
  if legs < 2 then false
  else if cfg.mode = .duplicate then true
  else cfg.mode = .adaptive ∧ 0 < cfg.adaptiveDuplicateThreshold ∧
    (size : Int) ≤ cfg.adaptiveDuplicateThreshold

/-- The id is below the floor and may be that of a copy. -/
def DatagramEngine.stale (e : DatagramEngine) (id size : Nat) : Bool :=
  e.cfg.mayBeReplicated size ∧ 0 < e.seen.card ∧ e.cfg.dedupWindow < e.maxSeen ∧
    id < e.maxSeen - e.cfg.dedupWindow

/-- Entering an id: the new maximum, and the pruning of a set that has grown too large. -/
def DatagramEngine.remember (e : DatagramEngine) (id : Nat) : DatagramEngine :=
  let seen := insert id e.seen
  let maxSeen := if e.maxSeen < id ∨ seen.card = 1 then id else e.maxSeen
  if e.cfg.dedupWindow < maxSeen ∧ e.cfg.dedupWindow * 2 % 2 ^ 64 < seen.card then
    { e with
      seen := seen.filter fun seq => ¬ seq < maxSeen - e.cfg.dedupWindow
      maxSeen := maxSeen }
  else { e with seen := seen, maxSeen := maxSeen }

def acceptDatagramID (e : DatagramEngine) (id size : Nat) : DatagramEngine × Bool :=
  if e.stale id size then (e, false)
  else if id ∈ e.seen then (e, false)
  else (e.remember id, true)

/-- `legReadLoop` for one datagram. -/
def receive (e : DatagramEngine) (packet : Nat × Nat) : DatagramEngine :=
  let result := acceptDatagramID e packet.1 packet.2
  if result.2 then { result.1 with incoming := packet.1 :: result.1.incoming }
  else { result.1 with duplicateDrop := result.1.duplicateDrop + 1 }

/-- The engine after a sequence of datagrams, given as ids and sizes. -/
def receiveAll (e : DatagramEngine) (packets : List (Nat × Nat)) : DatagramEngine :=
  packets.foldl receive e

section Accept

variable {e : DatagramEngine} {id size : Nat}

@[simp] theorem remember_cfg : (e.remember id).cfg = e.cfg := by
  simp only [DatagramEngine.remember]
  split_ifs <;> rfl

@[simp] theorem remember_incoming : (e.remember id).incoming = e.incoming := by
  simp only [DatagramEngine.remember]
  split_ifs <;> rfl

/-- The mode replicates a datagram on some number of legs just when it may have a copy. -/
theorem exists_shouldDuplicate_iff {cfg : DatagramConfig} :
    (∃ legs, shouldDuplicate cfg size legs = true) ↔ cfg.mayBeReplicated size = true := by
  constructor
  · rintro ⟨legs, h⟩
    unfold shouldDuplicate at h
    split at h
    · cases h
    · split at h
      · next hmode => simp [DatagramConfig.mayBeReplicated, hmode]
      · simpa [DatagramConfig.mayBeReplicated] using .inr (of_decide_eq_true h)
  · intro h
    refine ⟨2, ?_⟩
    rcases of_decide_eq_true h with hmode | hadaptive
    · simp [shouldDuplicate, hmode]
    · simp [shouldDuplicate, hadaptive]

/-- An id is refused because it is stale or because it is remembered. -/
theorem acceptDatagramID_eq_false_iff :
    (acceptDatagramID e id size).2 = false ↔ e.stale id size = true ∨ id ∈ e.seen := by
  unfold acceptDatagramID
  split
  · next hstale => simp [hstale]
  · next hstale =>
    split
    · next hm => simp [hm]
    · next hm => simp [hstale, hm]

/-- What one datagram does: it is dropped, or its id is new and entered. -/
theorem receive_cases (e : DatagramEngine) (id size : Nat) :
    ((acceptDatagramID e id size).2 = false ∧
      receive e (id, size) = { e with duplicateDrop := e.duplicateDrop + 1 }) ∨
    (e.stale id size = false ∧ id ∉ e.seen ∧
      receive e (id, size) = { e.remember id with incoming := id :: e.incoming }) := by
  by_cases hstale : e.stale id size = true
  · left
    simp [receive, acceptDatagramID, hstale]
  · by_cases hm : id ∈ e.seen
    · left
      simp [receive, acceptDatagramID, hm]
    · right
      refine ⟨by simpa using hstale, hm, ?_⟩
      simp [receive, acceptDatagramID, hstale, hm]

end Accept

/-- The state of duplicate suppression after any sequence of datagrams. -/
structure Inv (e : DatagramEngine) : Prop where
  window_pos : 0 < e.cfg.dedupWindow
  max_mem : e.incoming ≠ [] → e.maxSeen ∈ e.seen
  seen_incoming : ∀ i ∈ e.seen, i ∈ e.incoming
  incoming_le : ∀ i ∈ e.incoming, i ≤ e.maxSeen
  /-- An accepted id that is no longer remembered lies below the floor. -/
  forgotten : ∀ i ∈ e.incoming, i ∉ e.seen → i + e.cfg.dedupWindow < e.maxSeen
  /-- Twice a larger window is no `uint64`. -/
  card_le : e.cfg.dedupWindow < 2 ^ 63 → e.seen.card ≤ 2 * e.cfg.dedupWindow

namespace Inv

variable {e : DatagramEngine} {id size : Nat}

theorem seen_eq_empty (h : Inv e) (hempty : e.incoming = []) : e.seen = ∅ := by
  refine Finset.eq_empty_of_forall_notMem fun i hi => ?_
  have hm := h.seen_incoming i hi
  simp [hempty] at hm

/-- The maximum after a new id is entered. -/
theorem max_eq (h : Inv e) (hnew : id ∉ e.seen) :
    (if e.maxSeen < id ∨ (insert id e.seen).card = 1 then id else e.maxSeen) =
      if e.incoming = [] then id else max e.maxSeen id := by
  rw [Finset.card_insert_of_notMem hnew]
  by_cases hempty : e.incoming = []
  · simp [hempty, h.seen_eq_empty hempty]
  · have hpos : e.seen.card ≠ 0 := Finset.card_ne_zero_of_mem (h.max_mem hempty)
    simp only [hempty, if_false]
    split <;> omega

/-- The ids from the floor on are too few to be pruned again. -/
theorem card_filter_le {seen : Finset Nat} {top window : Nat} (hpos : 0 < window)
    (htop : ∀ i ∈ seen, i ≤ top) : (seen.filter fun i => ¬ i < top - window).card ≤ 2 * window := by
  have hsub : (seen.filter fun i => ¬ i < top - window) ⊆ Finset.Icc (top - window) top := by
    intro i hi
    rw [Finset.mem_filter] at hi
    rw [Finset.mem_Icc]
    exact ⟨Nat.le_of_not_lt hi.2, htop i hi.1⟩
  have hcard := Finset.card_le_card hsub
  rw [Nat.card_Icc] at hcard
  omega

/-- Entering a new id keeps the invariant. -/
theorem remember (h : Inv e) (hnew : id ∉ e.seen) :
    Inv { e.remember id with incoming := id :: e.incoming } := by
  obtain ⟨hpos, hmax, hseen, hle, hforgotten, hcard⟩ := h
  set top := if e.maxSeen < id ∨ (insert id e.seen).card = 1 then id else e.maxSeen with htop
  have hmaxeq := max_eq ⟨hpos, hmax, hseen, hle, hforgotten, hcard⟩ hnew
  rw [← htop] at hmaxeq
  -- the new maximum bounds the old one as soon as an id was accepted
  have hid : id ≤ top := by
    rw [hmaxeq]
    split <;> omega
  have hold : ∀ i ∈ e.incoming, i ≤ top ∧ e.maxSeen ≤ top := by
    intro i hi
    have hbound := hle i hi
    rw [hmaxeq, if_neg (ne_nil_of_mem hi)]
    omega
  have hincoming : ∀ i ∈ insert id e.seen, i ∈ id :: e.incoming := by
    intro i hi
    rcases Finset.mem_insert.mp hi with rfl | hi
    · exact mem_cons_self
    · exact mem_cons_of_mem id (hseen i hi)
  have hbound : ∀ i ∈ id :: e.incoming, i ≤ top := by
    intro i hi
    rcases mem_cons.mp hi with rfl | hi
    · exact hid
    · exact (hold i hi).1
  have htopmem : top ∈ insert id e.seen := by
    rw [hmaxeq]
    split
    · exact Finset.mem_insert_self id e.seen
    · next hne =>
      rcases Nat.le_total e.maxSeen id with hge | hge
      · rw [max_eq_right hge]
        exact Finset.mem_insert_self id e.seen
      · rw [max_eq_left hge]
        exact Finset.mem_insert_of_mem (hmax hne)
  -- an id forgotten before is as far below the new maximum
  have hgone : ∀ i ∈ id :: e.incoming, i ∉ insert id e.seen →
      i + e.cfg.dedupWindow < top := by
    intro i hi hnot
    rw [Finset.mem_insert, not_or] at hnot
    have hi := (mem_cons.mp hi).resolve_left hnot.1
    exact Nat.lt_of_lt_of_le (hforgotten i hi hnot.2) (hold i hi).2
  unfold DatagramEngine.remember
  simp only [← htop]
  split
  · next hprune =>
    refine ⟨hpos, fun _ => ?_, ?_, hbound, ?_, fun _ => ?_⟩
    · exact Finset.mem_filter.mpr ⟨htopmem, Nat.not_lt_of_le (Nat.sub_le top _)⟩
    · exact fun i hi => hincoming i (Finset.mem_filter.mp hi).1
    · intro i hi hnot
      by_cases hkept : i ∈ insert id e.seen
      · have hfloor : i < top - e.cfg.dedupWindow := by
          by_contra hge
          exact hnot (Finset.mem_filter.mpr ⟨hkept, hge⟩)
        show i + e.cfg.dedupWindow < top
        omega
      · exact hgone i hi hkept
    · exact card_filter_le hpos fun i hi => hbound i (hincoming i hi)
  · next hkeep =>
    refine ⟨hpos, fun _ => htopmem, hincoming, hbound, hgone, fun hlt => ?_⟩
    dsimp only at hlt
    show (insert id e.seen).card ≤ 2 * e.cfg.dedupWindow
    by_cases hlow : e.cfg.dedupWindow < top
    · omega
    · -- no id exceeds the window yet
      have hsub : insert id e.seen ⊆ Finset.range (e.cfg.dedupWindow + 1) := by
        intro i hi
        have hile := hbound i (hincoming i hi)
        rw [Finset.mem_range]
        omega
      have hfew := Finset.card_le_card hsub
      rw [Finset.card_range] at hfew
      omega

theorem receive (h : Inv e) (packet : Nat × Nat) : Inv (receive e packet) := by
  obtain ⟨id, size⟩ := packet
  rcases receive_cases e id size with ⟨-, heq⟩ | ⟨-, hnew, heq⟩
  · rw [heq]
    exact { h with }
  · rw [heq]
    exact h.remember hnew

theorem receiveAll (h : Inv e) (packets : List (Nat × Nat)) : Inv (receiveAll e packets) := by
  induction packets generalizing e with
  | nil => exact h
  | cons packet packets ih => exact ih (h.receive packet)

/-- A stale id lies more than the window below an accepted one that bounds all of them. -/
theorem below_of_stale (h : Inv e) (hstale : e.stale id size = true) :
    ∃ top ∈ e.incoming, (∀ i ∈ e.incoming, i ≤ top) ∧ id + e.cfg.dedupWindow < top := by
  obtain ⟨-, hcard, hlow, hfloor⟩ := of_decide_eq_true hstale
  obtain ⟨i, hi⟩ := Finset.card_pos.mp hcard
  have hne : e.incoming ≠ [] := ne_nil_of_mem (h.seen_incoming i hi)
  exact ⟨e.maxSeen, h.seen_incoming _ (h.max_mem hne), h.incoming_le, by omega⟩

/-- Where every datagram may have a copy, an accepted id is refused from then on. -/
theorem notMem_of_accepted (h : Inv e) (hmode : e.cfg.mayBeReplicated size = true)
    (hstale : e.stale id size = false) (hnew : id ∉ e.seen) : id ∉ e.incoming := by
  intro hm
  have hbelow := h.forgotten id hm hnew
  have hcard : 0 < e.seen.card :=
    Finset.card_pos.mpr ⟨_, h.max_mem (ne_nil_of_mem hm)⟩
  have hnot := of_decide_eq_false hstale
  exact hnot ⟨hmode, hcard, by omega, by omega⟩

end Inv

/-- The window of an engine is never zero, and no larger than it was or the default. -/
theorem newDatagramEngine_window (cfg : DatagramConfig) :
    0 < (newDatagramEngine cfg).cfg.dedupWindow ∧
      (newDatagramEngine cfg).cfg.dedupWindow ≤ max cfg.dedupWindow 4096 := by
  simp only [newDatagramEngine]
  split
  · exact ⟨Nat.succ_pos 4095, Nat.le_max_right _ _⟩
  · next hne => exact ⟨Nat.pos_of_ne_zero hne, Nat.le_max_left _ _⟩

theorem inv_newDatagramEngine (cfg : DatagramConfig) : Inv (newDatagramEngine cfg) where
  window_pos := (newDatagramEngine_window cfg).1
  max_mem hne := absurd rfl hne
  seen_incoming i hi := absurd hi (Finset.notMem_empty i)
  incoming_le _ hi := absurd hi not_mem_nil
  forgotten _ hi := absurd hi not_mem_nil
  card_le _ := Nat.zero_le _

section Runs

variable {e : DatagramEngine}

theorem receive_cfg (e : DatagramEngine) (packet : Nat × Nat) : (receive e packet).cfg = e.cfg := by
  obtain ⟨id, size⟩ := packet
  rcases receive_cases e id size with ⟨-, heq⟩ | ⟨-, -, heq⟩
  · rw [heq]
  · rw [heq, remember_cfg]

theorem receiveAll_cfg (e : DatagramEngine) (packets : List (Nat × Nat)) :
    (receiveAll e packets).cfg = e.cfg := by
  induction packets generalizing e with
  | nil => rfl
  | cons packet packets ih => exact (ih (receive e packet)).trans (receive_cfg e packet)

/-- In duplicate mode no id is passed on twice. -/
theorem nodup_receiveAll (h : Inv e) (hmode : e.cfg.mode = .duplicate) (hnodup : e.incoming.Nodup)
    (packets : List (Nat × Nat)) : (receiveAll e packets).incoming.Nodup := by
  induction packets generalizing e with
  | nil => exact hnodup
  | cons packet packets ih =>
    refine ih (h.receive packet) ((congrArg (·.mode) (receive_cfg e packet)).trans hmode) ?_
    obtain ⟨id, size⟩ := packet
    rcases receive_cases e id size with ⟨-, heq⟩ | ⟨hstale, hnew, heq⟩
    · rw [heq]
      exact hnodup
    · have hcopy : e.cfg.mayBeReplicated size = true := by
        simp [DatagramConfig.mayBeReplicated, hmode]
      rw [heq]
      exact nodup_cons.mpr ⟨h.notMem_of_accepted hcopy hstale hnew, hnodup⟩

end Runs

/-- After any datagrams: in duplicate mode no id was passed on twice; an id is refused only if
it was passed on before or lies more than the window below the highest one; one whose datagram
the mode replicates on no number of legs is refused only if it is remembered; and at most twice
the window is remembered. -/
theorem acceptDatagramID_dedups (cfg : DatagramConfig) (hwindow : cfg.dedupWindow < 2 ^ 63)
    (packets : List (Nat × Nat)) : let e := receiveAll (newDatagramEngine cfg) packets
    (cfg.mode = .duplicate → e.incoming.Nodup) ∧
    (∀ id size, (acceptDatagramID e id size).2 = false →
      id ∈ e.incoming ∨
        ∃ top ∈ e.incoming, (∀ i ∈ e.incoming, i ≤ top) ∧ id + e.cfg.dedupWindow < top) ∧
    (∀ id size, (∀ legs, shouldDuplicate e.cfg size legs = false) →
      (acceptDatagramID e id size).2 = false → id ∈ e.seen) ∧
    e.seen.card ≤ 2 * e.cfg.dedupWindow := by
  intro e
  have hinit := inv_newDatagramEngine cfg
  have hinv : Inv e := hinit.receiveAll packets
  have hlt : e.cfg.dedupWindow < 2 ^ 63 := by
    rw [receiveAll_cfg]
    exact Nat.lt_of_le_of_lt (newDatagramEngine_window cfg).2 (Nat.max_lt.2 ⟨hwindow, by decide⟩)
  refine ⟨fun hmode => ?_, fun id size hfalse => ?_, fun id size hnever hfalse => ?_,
    hinv.card_le hlt⟩
  · refine nodup_receiveAll hinit ?_ nodup_nil packets
    unfold newDatagramEngine
    dsimp only
    split <;> exact hmode
  · rcases acceptDatagramID_eq_false_iff.mp hfalse with hstale | hm
    · exact .inr (hinv.below_of_stale hstale)
    · exact .inl (hinv.seen_incoming id hm)
  · rcases acceptDatagramID_eq_false_iff.mp hfalse with hstale | hm
    · -- only a datagram that may have a copy is stale
      obtain ⟨legs, hlegs⟩ := exists_shouldDuplicate_iff.mpr (of_decide_eq_true hstale).1
      rw [hnever legs] at hlegs
      cases hlegs
    · exact hm

theorem acceptDatagramID_dedups_twoLegs :
    let e := receiveAll (newDatagramEngine ⟨.duplicate, 2, 0⟩)
      [(1, 9), (7, 9), (1, 9), (6, 9), (7, 9), (5, 9)]
    e.incoming = [5, 6, 7, 1] ∧ e.incoming.Nodup ∧
      -- refused as remembered, and as too far below the highest id
      ((acceptDatagramID e 6 9).2 = false ∧ 6 ∈ e.seen) ∧
      (acceptDatagramID e 4 9).2 = false ∧
      (4 ∈ e.incoming ∨
        ∃ top ∈ e.incoming, (∀ i ∈ e.incoming, i ≤ top) ∧ 4 + e.cfg.dedupWindow < top) ∧
      e.seen.card ≤ 2 * e.cfg.dedupWindow := by
  intro e
  obtain ⟨hnodup, hrefused, _, hcard⟩ := acceptDatagramID_dedups ⟨.duplicate, 2, 0⟩ (by decide)
    [(1, 9), (7, 9), (1, 9), (6, 9), (7, 9), (5, 9)]
  have hfour : (acceptDatagramID e 4 9).2 = false := by decide
  exact ⟨by decide, hnodup rfl, by decide, hfour, hrefused 4 9 hfour, hcard⟩

section Once

variable {e : DatagramEngine} {packets : List (Nat × Nat)}

theorem mem_receive_iff (h : Inv e) {packet : Nat × Nat}
    (hbefore : ∀ i ∈ e.incoming, i ≤ packet.1 + e.cfg.dedupWindow) (i : Nat) :
    i ∈ (receive e packet).incoming ↔ i ∈ e.incoming ∨ i = packet.1 := by
  obtain ⟨id, size⟩ := packet
  rcases receive_cases e id size with ⟨hrefused, heq⟩ | ⟨-, -, heq⟩
  · have hknown : id ∈ e.incoming := by
      rcases acceptDatagramID_eq_false_iff.1 hrefused with hstale | hseen
      · obtain ⟨top, htop, -, hbelow⟩ := h.below_of_stale hstale
        exact absurd (hbefore top htop) (Nat.not_le.2 hbelow)
      · exact h.seen_incoming id hseen
    rw [heq]
    exact ⟨.inl, fun hi => hi.elim (fun hi => hi) fun hi => hi ▸ hknown⟩
  · rw [heq, mem_cons, or_comm]

/-- Among datagrams that arrive at most the window too late, no id is lost. -/
theorem mem_receiveAll_iff (h : Inv e)
    (hbefore : ∀ i ∈ e.incoming, ∀ p ∈ packets, i ≤ p.1 + e.cfg.dedupWindow)
    (horder : packets.Pairwise fun p q => p.1 ≤ q.1 + e.cfg.dedupWindow) (i : Nat) :
    i ∈ (receiveAll e packets).incoming ↔ i ∈ e.incoming ∨ i ∈ packets.map Prod.fst := by
  induction packets generalizing e with
  | nil => simp [receiveAll]
  | cons packet packets ih =>
    obtain ⟨hfirst, horder⟩ := pairwise_cons.1 horder
    obtain ⟨hpacket, hbefore⟩ := forall₂_and.1 fun i hi => forall_mem_cons.1 (hbefore i hi)
    have hm := mem_receive_iff h hpacket
    rw [← receive_cfg e packet] at horder hbefore hfirst
    refine (ih (h.receive packet) (fun j hj => ?_) horder).trans ?_
    · rcases (hm j).1 hj with hj | rfl
      · exact hbefore j hj
      · exact hfirst
    · rw [hm, map_cons, mem_cons, or_assoc]

/-- In duplicate mode, if no datagram arrives after one that is more than the window ahead of it,
every id that arrives is passed on exactly once, however often it arrives. -/
theorem datagrams_passed_once
    (cfg : DatagramConfig)
    (hmode : cfg.mode = .duplicate)
    (packets : List (Nat × Nat))
    (horder : packets.Pairwise fun p q => p.1 ≤ q.1 + (newDatagramEngine cfg).cfg.dedupWindow)
    (i : Nat) :
    (receiveAll (newDatagramEngine cfg) packets).incoming.count i =
      if i ∈ packets.map Prod.fst then 1 else 0 := by
  have hinit := inv_newDatagramEngine cfg
  have hnodup : (receiveAll (newDatagramEngine cfg) packets).incoming.Nodup := by
    refine nodup_receiveAll hinit ?_ nodup_nil packets
    unfold newDatagramEngine
    dsimp only
    split <;> exact hmode
  have hm := mem_receiveAll_iff hinit (fun i hi => absurd hi not_mem_nil) horder i
  rw [hnodup.count]
  exact if_congr (hm.trans (or_iff_right not_mem_nil)) rfl rfl

/-- Two legs, the second one late by the whole window. -/
theorem datagrams_passed_once_twoLegs :
    (receiveAll (newDatagramEngine ⟨.duplicate, 2, 0⟩)
      [(5, 9), (6, 9), (4, 9), (7, 9), (5, 9), (6, 9)]).incoming.count 5 = 1 :=
  datagrams_passed_once ⟨.duplicate, 2, 0⟩ rfl _ (by decide) 5

end Once

end Smp3Multipath.Core.DatagramDedup

import Smp3Multipath.Core.Delivery

/-!
# Safety of end-to-end delivery

The invariant of a session has four parts: what the sender's queues point to,
that every frame anywhere carries the payload added under its sequence, what
the receiving application has been given, and that no ACK value anywhere exceeds
the delivered frontier.  Each step keeps it, and with it every session refines
an `OrderedStream`.
-/

namespace Smp3Multipath.Core.Delivery

open Lib Lib.Run StreamTXLedger Function List

/-- The frame carries the payload that was added under its sequence. -/
def Genuine (l : StreamTXLedger) (frame : StreamRXFrame) : Prop :=
  frame.sequence < l.nextSequence ∧ frame.payload = (l.record frame.sequence).payload

theorem Genuine.mono {l l' : StreamTXLedger} {frame : StreamRXFrame} (h : Genuine l frame)
    (hext : Extends l l') : Genuine l' frame := by
  obtain ⟨hlt, hpayload⟩ := h
  refine ⟨Nat.lt_of_lt_of_le hlt hext.next_le, ?_⟩
  rw [hpayload, hext.payload frame.sequence hlt]

/-- The attempt is queued on the leg or about to be written by its writer. -/
def HasAttempt (s : State) (leg : LegID) (a : TxSendAttempt) : Prop :=
  a ∈ s.send leg ∨ a ∈ s.rescue leg ∨ s.writer leg = .current a

/-- Queued and current attempts point to records that were added. -/
structure SenderInv (s : State) : Prop where
  wf : s.ledger.WellFormed
  attempt_lt : ∀ leg a, HasAttempt s leg a → a.record < s.ledger.nextSequence

/-- Every frame in flight, queued or buffered is genuine. -/
structure FrameInv (s : State) : Prop where
  dataNet : ∀ f ∈ s.dataNet, Genuine s.ledger f
  incoming : ∀ f ∈ s.incoming, Genuine s.ledger f
  pending : ∀ f ∈ s.window.pending, Genuine s.ledger f

/-- The bytes of a list of frames. -/
def framesBytes (frames : List StreamRXFrame) : List UInt8 :=
  (frames.map StreamRXFrame.payload).flatten

/-- The application's bytes against the position of the receive loop. -/
def RxLoopOk (s : State) : Prop :=
  match s.rx with
  | .idle => s.window.readyPending = false ∧ s.appBytes = framesBytes s.delivered
  | .acking => s.window.readyPending = false ∧ s.appBytes = framesBytes s.delivered
  | .writing frame rest =>
    s.window.readyPending = true ∧ frame.sequence = s.window.expected ∧
      Genuine s.ledger frame ∧
      ∃ done, frame.payload = done ++ rest ∧ s.appBytes = framesBytes s.delivered ++ done
  | .exited => framesBytes s.delivered <+: s.appBytes ∧ s.appBytes <+: s.ledger.payloads.flatten

/-- What was delivered is exactly the records below the expected sequence. -/
structure ReceiverInv (s : State) : Prop where
  expected_le : s.window.expected ≤ s.ledger.nextSequence
  delivered_sequence :
    s.delivered.map StreamRXFrame.sequence = List.range s.window.expected
  delivered_payload :
    s.delivered.map StreamRXFrame.payload = s.ledger.payloads.take s.window.expected
  loop : RxLoopOk s

/-- No ACK value anywhere exceeds the delivered frontier. -/
structure AckInv (s : State) : Prop where
  ackNext : s.ackNext ≤ s.window.expected
  ackLoop : ∀ a, s.ackLoop = some a → a.value ≤ s.window.expected
  legAckPending : ∀ leg, s.legAckPending leg ≤ s.window.expected
  ackNet : ∀ p ∈ s.ackNet, p.2 ≤ s.window.expected
  ackWritten : ∀ v ∈ s.ackWritten, v ≤ s.window.expected
  ackedNext : s.ledger.ackedNext ≤ s.window.expected

structure Inv (s : State) : Prop where
  sender : SenderInv s
  frames : FrameInv s
  receiver : ReceiverInv s
  acks : AckInv s

theorem inv_init (maxLegs maxReorderFrames : Nat) : Inv (init maxLegs maxReorderFrames) where
  sender := ⟨WellFormed.new maxLegs, by simp [init, HasAttempt]⟩
  frames := ⟨by simp [init], by simp [init],
    by simp [init, StreamRXWindow.newStreamRXWindow]⟩
  receiver := ⟨Nat.le_refl 0, rfl, rfl, rfl, rfl⟩
  acks := ⟨Nat.le_refl 0, by simp [init], fun _ => Nat.le_refl 0, by simp [init],
    by simp [init], Nat.le_refl 0⟩

section Sender

variable {s s' : State}

theorem Inv.withLedger {l : StreamTXLedger} (h : Inv s) (hext : Extends s.ledger l)
    (hwf : l.WellFormed) (hacked : l.ackedNext ≤ s.window.expected) :
    Inv { s with ledger := l } where
  sender :=
    { wf := hwf
      attempt_lt := fun leg a ha =>
        Nat.lt_of_lt_of_le (h.sender.attempt_lt leg a ha) hext.next_le }
  frames :=
    { dataNet := fun f hf => (h.frames.dataNet f hf).mono hext
      incoming := fun f hf => (h.frames.incoming f hf).mono hext
      pending := fun f hf => (h.frames.pending f hf).mono hext }
  receiver :=
    { expected_le := Nat.le_trans h.receiver.expected_le hext.next_le
      delivered_sequence := h.receiver.delivered_sequence
      delivered_payload := by
        rw [h.receiver.delivered_payload]
        exact (hext.take_payloads h.receiver.expected_le).symm
      loop := by
        have hloop := h.receiver.loop
        unfold RxLoopOk at hloop ⊢
        dsimp only
        cases hrx : s.rx with
        | idle | acking =>
          rw [hrx] at hloop
          exact hloop
        | writing frame rest =>
          rw [hrx] at hloop
          obtain ⟨hready, hseq, hgen, hdone⟩ := hloop
          exact ⟨hready, hseq, hgen.mono hext, hdone⟩
        | exited =>
          rw [hrx] at hloop
          exact ⟨hloop.1, hloop.2.trans (List.IsPrefix.flatten hext.payloads_isPrefix)⟩ }
  acks := { h.acks with ackedNext := hacked }

/-- The invariant under other genuine frames and delivered ACKs in flight. -/
theorem Inv.withNet {dataNet incoming : List StreamRXFrame} {ackNet : List (LegID × Nat)}
    (h : Inv s) (hdata : ∀ f ∈ dataNet, Genuine s.ledger f)
    (hincoming : ∀ f ∈ incoming, Genuine s.ledger f)
    (hack : ∀ p ∈ ackNet, p.2 ≤ s.window.expected) :
    Inv { s with dataNet := dataNet, incoming := incoming, ackNet := ackNet } where
  sender := { h.sender with }
  frames := ⟨hdata, hincoming, h.frames.pending⟩
  receiver := { h.receiver with }
  acks := { h.acks with ackNet := hack }

theorem Inv.withQueues {send rescue : LegID → List TxSendAttempt} {writer : LegID → WriterState}
    (h : Inv s)
    (hattempt : ∀ leg a,
      HasAttempt { s with send := send, rescue := rescue, writer := writer } leg a →
        a.record < s.ledger.nextSequence) :
    Inv { s with send := send, rescue := rescue, writer := writer } where
  sender := ⟨h.sender.wf, hattempt⟩
  frames := { h.frames with }
  receiver := { h.receiver with }
  acks := { h.acks with }

/-- Everything a sender step can change. -/
structure SenderEffect (s s' : State) : Prop where
  frame : s' = { s with
    ledger := s'.ledger, send := s'.send, rescue := s'.rescue, writer := s'.writer,
    dataNet := s'.dataNet, ackNet := s'.ackNet }
  ledger : SameStream s.ledger s'.ledger ∨
    (∃ payload now isLocal, s'.ledger = (s.ledger.add payload now isLocal).1) ∨
    ∃ ack ∈ s.ackNet, ∃ now, s'.ledger = (s.ledger.applyACK ack.2 now).1
  attempt : ∀ leg a, HasAttempt s' leg a →
    HasAttempt s leg a ∨ a.record ∈ s.ledger.outstanding
  dataNet : ∀ f ∈ s'.dataNet, f ∈ s.dataNet ∨
    ∃ leg a, HasAttempt s leg a ∧ f = ⟨a.record, leg, (s.ledger.record a.record).payload⟩
  ackNet : ∀ p ∈ s'.ackNet, p ∈ s.ackNet

theorem SenderEffect.ofLedger {l : StreamTXLedger}
    (hledger : SameStream s.ledger l ∨
      ∃ payload now isLocal, l = (s.ledger.add payload now isLocal).1) :
    SenderEffect s { s with ledger := l } where
  frame := rfl
  ledger := hledger.imp_right .inl
  attempt _ _ ha := .inl ha
  dataNet _ hf := .inl hf
  ackNet _ hp := hp

theorem senderEffect_tryQueue {leg : LegID} {record : Nat} {now : Time}
    (hs : senderStep s (.tryQueue leg record now) = some s') : SenderEffect s s' := by
  simp only [senderStep, Option.bind_eq_bind, Option.bind_eq_some_iff, Option.some.injEq] at hs
  obtain ⟨l, hl, rfl⟩ := hs
  have hm := (markTransit_eq_some_iff.1 hl).1
  have hsame := markTransit_sameStream s.ledger record leg now
  rw [hl] at hsame
  refine ⟨rfl, .inl hsame, fun leg' a ha => ?_, fun _ hf => .inl hf, fun _ hp => hp⟩
  simp only [HasAttempt, update_apply] at ha ⊢
  split at ha
  · next heq =>
    subst heq
    rcases ha with ha | ha
    · rcases mem_append.1 ha with ha | ha
      · exact .inl (.inl ha)
      · rw [mem_singleton.1 ha]
        exact .inr hm
    · exact .inl (.inr ha)
  · exact .inl ha

theorem senderEffect_tryQueueRescue {leg : LegID} {record : Nat} {now : Time}
    (hs : senderStep s (.tryQueueRescue leg record now) = some s') : SenderEffect s s' := by
  simp only [senderStep, Option.bind_eq_bind, Option.bind_eq_some_iff, Option.some.injEq] at hs
  obtain ⟨l, hl, rfl⟩ := hs
  have hm := (markRescueTransitLocked_eq_some_iff.1 hl).1
  have hsame := markRescueTransit_sameStream s.ledger record leg now
  rw [hl] at hsame
  refine ⟨rfl, .inl (hsame.trans (markRescueQueued_sameStream l record leg now)),
    fun leg' a ha => ?_, fun _ hf => .inl hf, fun _ hp => hp⟩
  simp only [HasAttempt, update_apply] at ha ⊢
  split at ha
  · next heq =>
    subst heq
    rcases ha with ha | ha | ha
    · exact .inl (.inl ha)
    · rcases mem_append.1 ha with ha | ha
      · exact .inl (.inr (.inl ha))
      · rw [mem_singleton.1 ha]
        exact .inr hm
    · exact .inl (.inr (.inr ha))
  · exact .inl ha

/-- Dropping the head of one queue leaves only attempts that were queued. -/
theorem mem_of_mem_update_tail {q : LegID → List TxSendAttempt} {leg leg' : LegID}
    {attempt a : TxSendAttempt} {rest : List TxSendAttempt} (hq : q leg = attempt :: rest)
    (ha : a ∈ update q leg rest leg') : a ∈ q leg' := by
  rw [update_apply] at ha
  split at ha
  · next heq =>
    subst heq
    rw [hq]
    exact mem_cons_of_mem _ ha
  · exact ha

theorem senderEffect_pick {leg : LegID} {rescue : Bool}
    (hs : senderStep s (.pick leg rescue) = some s') : SenderEffect s s' := by
  simp only [senderStep] at hs
  split at hs
  · next attempt rest hidle hqueue =>
    cases hs
    refine ⟨rfl, .inl (SameStream.refl s.ledger), fun leg' a ha => .inl ?_,
      fun _ hf => .inl hf, fun _ hp => hp⟩
    have hhead : HasAttempt s leg attempt := by
      have hm : attempt ∈ attempt :: rest := mem_cons_self
      rw [← hqueue] at hm
      cases rescue with
      | false => exact .inl hm
      | true => exact .inr (.inl hm)
    rcases ha with ha | ha | ha
    · cases rescue with
      | false => exact .inl (mem_of_mem_update_tail hqueue ha)
      | true => exact .inl ha
    · cases rescue with
      | false => exact .inr (.inl ha)
      | true => exact .inr (.inl (mem_of_mem_update_tail hqueue ha))
    · dsimp only at ha
      split at ha
      · rw [update_apply] at ha
        split at ha
        · next heq =>
          cases ha
          rw [heq]
          exact hhead
        · exact .inr (.inr ha)
      · exact .inr (.inr ha)
  · cases hs

theorem hasAttempt_of_update_writer {leg leg' : LegID} {st : WriterState} {a : TxSendAttempt}
    (hst : ∀ b, st ≠ .current b)
    (ha : HasAttempt { s with writer := update s.writer leg st } leg' a) :
    HasAttempt s leg' a := by
  simp only [HasAttempt, update_apply] at ha ⊢
  rcases ha with ha | ha | ha
  · exact .inl ha
  · exact .inr (.inl ha)
  · split at ha
    · exact absurd ha (hst a)
    · exact .inr (.inr ha)

theorem senderStep_effect {a : SenderAct} (hs : senderStep s a = some s') :
    SenderEffect s s' := by
  cases a with
  | add payload now isLocal =>
    cases hs
    exact .ofLedger (.inr ⟨payload, now, isLocal, rfl⟩)
  | tryQueue leg record now => exact senderEffect_tryQueue hs
  | tryQueueRescue leg record now => exact senderEffect_tryQueueRescue hs
  | pick leg rescue => exact senderEffect_pick hs
  | write leg =>
    simp only [senderStep] at hs
    split at hs
    · next attempt hcurrent =>
      cases hs
      refine ⟨rfl, .inl (SameStream.refl s.ledger),
        fun leg' a ha => .inl (hasAttempt_of_update_writer (by simp) ha),
        fun f hf => ?_, fun _ hp => hp⟩
      rcases mem_append.1 hf with hf | hf
      · exact .inl hf
      · exact .inr ⟨leg, attempt, .inr (.inr hcurrent), mem_singleton.1 hf⟩
    · cases hs
  | writeError leg =>
    simp only [senderStep] at hs
    split at hs
    · next attempt _ =>
      cases hs
      exact ⟨rfl, .inl (clearAttemptAt_sameStream s.ledger attempt.record leg
          attempt.rescue attempt.started),
        fun leg' a ha => .inl (hasAttempt_of_update_writer (by simp) ha),
        fun _ hf => .inl hf, fun _ hp => hp⟩
    · cases hs
  | markAttemptSent leg now =>
    simp only [senderStep] at hs
    split at hs
    · next attempt _ =>
      cases hs
      exact ⟨rfl, .inl (markAttemptSent_sameStream s.ledger attempt.record leg
          attempt.rescue now),
        fun leg' a ha => .inl (hasAttempt_of_update_writer (by simp) ha),
        fun _ hf => .inl hf, fun _ hp => hp⟩
    · cases hs
  | legFailure leg =>
    cases hs
    refine ⟨rfl, .inl (invalidateLeg_sameStream s.ledger leg), fun leg' a ha => .inl ?_,
      fun _ hf => .inl hf, fun _ hp => hp⟩
    simp only [HasAttempt, update_apply] at ha ⊢
    split at ha
    · simp only [not_mem_nil, false_or] at ha
      exact .inr (.inr ha)
    · exact ha
  | ledgerOp op =>
    simp only [senderStep] at hs
    split at hs
    · cases hs
    · next hop =>
      cases hs
      refine .ofLedger (.inl (applyOp_sameStream s.ledger op ?_ ?_))
      · rintro payload now isLocal rfl
        exact hop rfl
      · rintro next now rfl
        exact hop rfl
  | readAck i now =>
    simp only [senderStep] at hs
    split at hs
    · next leg next hget =>
      cases hs
      exact ⟨rfl, .inr (.inr ⟨(leg, next), mem_of_getElem? hget, now, rfl⟩),
        fun _ _ ha => .inl ha, fun _ hf => .inl hf,
        fun _ hp => mem_of_mem_eraseIdx hp⟩
    · cases hs

theorem SenderEffect.extends (he : SenderEffect s s') : Extends s.ledger s'.ledger := by
  rcases he.ledger with h | ⟨payload, now, isLocal, h⟩ | ⟨ack, _, now, h⟩
  · exact h.toExtends
  · rw [h]
    exact add_extends payload now isLocal
  · rw [h]
    exact applyACK_extends ack.2 now

theorem SenderEffect.wellFormed (he : SenderEffect s s') (hwf : s.ledger.WellFormed) :
    s'.ledger.WellFormed := by
  rcases he.ledger with h | ⟨payload, now, isLocal, h⟩ | ⟨ack, _, now, h⟩
  · exact hwf.of_sameStream h
  · rw [h]
    exact hwf.add payload now isLocal
  · rw [h]
    exact hwf.applyACK ack.2 now

/-- Only a delivered ACK value moves the sender's frontier. -/
theorem SenderEffect.ackedNext (he : SenderEffect s s') :
    s'.ledger.ackedNext = s.ledger.ackedNext ∨
      (s.ledger.ackedNext < s'.ledger.ackedNext ∧
        ∃ ack ∈ s.ackNet, s'.ledger.ackedNext = ack.2) := by
  rcases he.ledger with h | ⟨payload, now, isLocal, h⟩ | ⟨ack, hm, now, h⟩
  · exact .inl h.acked
  · rw [h]
    exact .inl (by simp [StreamTXLedger.add])
  · rw [h]
    rcases applyACK_spec now s.ledger ack.2 with ⟨_, hsame⟩ | ⟨hlt, _, _, hacked, _⟩
    · exact .inl hsame.acked
    · exact .inr ⟨by omega, ack, hm, hacked⟩

theorem inv_senderStep {a : SenderAct} (h : Inv s) (hs : senderStep s a = some s') : Inv s' := by
  have he := senderStep_effect hs
  have hacked : s'.ledger.ackedNext ≤ s.window.expected := by
    rcases he.ackedNext with heq | ⟨_, ack, hm, heq⟩
    · rw [heq]
      exact h.acks.ackedNext
    · rw [heq]
      exact h.acks.ackNet ack hm
  have hinv := h.withLedger he.extends (he.wellFormed h.sender.wf) hacked
  have hdata : ∀ f ∈ s'.dataNet, Genuine s'.ledger f := by
    intro f hf
    rcases he.dataNet f hf with hf | ⟨leg, a, ha, rfl⟩
    · exact hinv.frames.dataNet f hf
    · have hgen : Genuine s.ledger ⟨a.record, leg, (s.ledger.record a.record).payload⟩ :=
        ⟨h.sender.attempt_lt leg a ha, rfl⟩
      exact hgen.mono he.extends
  have hnet : Inv { s with
      ledger := s'.ledger, dataNet := s'.dataNet, ackNet := s'.ackNet } :=
    hinv.withNet hdata hinv.frames.incoming fun p hp => h.acks.ackNet p (he.ackNet p hp)
  rw [he.frame]
  refine hnet.withQueues fun leg a ha => ?_
  rcases he.attempt leg a ha with ha | hm
  · exact Nat.lt_of_lt_of_le (h.sender.attempt_lt leg a ha) he.extends.next_le
  · exact Nat.lt_of_lt_of_le ((h.sender.wf.mem_iff _).1 hm).2 he.extends.next_le

end Sender

section Network

variable {s s' : State}

theorem inv_networkStep {a : NetworkAct} (h : Inv s) (hs : networkStep s a = some s') :
    Inv s' := by
  cases a with
  | loseData i =>
    cases hs
    exact h.withNet (fun f hf => h.frames.dataNet f (mem_of_mem_eraseIdx hf))
      h.frames.incoming h.acks.ackNet
  | duplicateData i =>
    simp only [networkStep] at hs
    split at hs
    · next frame hget =>
      cases hs
      refine h.withNet (fun f hf => ?_) h.frames.incoming h.acks.ackNet
      rcases mem_append.1 hf with hf | hf
      · exact h.frames.dataNet f hf
      · rw [mem_singleton.1 hf]
        exact h.frames.dataNet frame (mem_of_getElem? hget)
    · cases hs
  | loseAck i =>
    cases hs
    exact h.withNet h.frames.dataNet h.frames.incoming
      fun p hp => h.acks.ackNet p (mem_of_mem_eraseIdx hp)
  | duplicateAck i =>
    simp only [networkStep] at hs
    split at hs
    · next ack hget =>
      cases hs
      refine h.withNet h.frames.dataNet h.frames.incoming fun p hp => ?_
      rcases mem_append.1 hp with hp | hp
      · exact h.acks.ackNet p hp
      · rw [mem_singleton.1 hp]
        exact h.acks.ackNet ack (mem_of_getElem? hget)
    · cases hs
  | loseLeg leg =>
    cases hs
    exact h.withNet (fun f hf => h.frames.dataNet f (mem_filter.1 hf).1)
      h.frames.incoming (fun p hp => h.acks.ackNet p (mem_filter.1 hp).1)

end Network

section Receiver

variable {s s' : State}

theorem delivered_isPrefix (h : ReceiverInv s) :
    framesBytes s.delivered <+: s.ledger.payloads.flatten := by
  unfold framesBytes
  rw [h.delivered_payload]
  exact List.IsPrefix.flatten (List.take_prefix _ _)

/-- The bytes given to the application, part of a frame included, are a prefix. -/
theorem appBytes_isPrefix (h : ReceiverInv s) :
    framesBytes s.delivered <+: s.appBytes ∧ s.appBytes <+: s.ledger.payloads.flatten := by
  have hloop := h.loop
  unfold RxLoopOk at hloop
  cases hrx : s.rx with
  | idle | acking =>
    rw [hrx] at hloop
    rw [hloop.2]
    exact ⟨prefix_rfl, delivered_isPrefix h⟩
  | writing frame rest =>
    rw [hrx] at hloop
    obtain ⟨_, hseq, ⟨hlt, hpayload⟩, done, hdone, happ⟩ := hloop
    rw [happ]
    refine ⟨prefix_append _ _, ?_⟩
    -- the next frame extends the delivered ones by one payload
    have htake : s.ledger.payloads.take (s.window.expected + 1) =
        s.ledger.payloads.take s.window.expected ++ [done ++ rest] := by
      rw [take_add_one, payloads_getElem? (by omega), ← hseq, ← hpayload, hdone]
      rfl
    have hflat : framesBytes s.delivered ++ done <+:
        (s.ledger.payloads.take (s.window.expected + 1)).flatten := by
      rw [htake, framesBytes, h.delivered_payload]
      simp
    exact hflat.trans (List.IsPrefix.flatten (List.take_prefix _ _))
  | exited =>
    rw [hrx] at hloop
    exact hloop

/-- The invariant under a receive-loop step that does not move the frontier. -/
theorem Inv.withWindow {window : StreamRXWindow} {incoming : List StreamRXFrame} {rx : RxLoop}
    {appBytes : List UInt8} {ackForce : Bool} (h : Inv s)
    (hexpected : window.expected = s.window.expected)
    (hpending : ∀ f ∈ window.pending, Genuine s.ledger f)
    (hincoming : ∀ f ∈ incoming, Genuine s.ledger f)
    (hloop : RxLoopOk { s with window := window, rx := rx, appBytes := appBytes }) :
    Inv { s with
      window := window, incoming := incoming, rx := rx, appBytes := appBytes,
      ackForce := ackForce } where
  sender := { h.sender with }
  frames := ⟨h.frames.dataNet, hincoming, hpending⟩
  receiver :=
    { expected_le := by simpa [hexpected] using h.receiver.expected_le
      delivered_sequence := by simpa [hexpected] using h.receiver.delivered_sequence
      delivered_payload := by simpa [hexpected] using h.receiver.delivered_payload
      loop := hloop }
  acks :=
    { ackNext := by simpa [hexpected] using h.acks.ackNext
      ackLoop := by simpa [hexpected] using h.acks.ackLoop
      legAckPending := by simpa [hexpected] using h.acks.legAckPending
      ackNet := by simpa only [hexpected] using h.acks.ackNet
      ackWritten := by simpa [hexpected] using h.acks.ackWritten
      ackedNext := by simpa [hexpected] using h.acks.ackedNext }

theorem inv_rxTake {now : Time} (h : Inv s) (hs : receiverStep s (.rxTake now) = some s') :
    Inv s' := by
  simp only [receiverStep] at hs
  split at hs
  · next frame rest hidle hincoming =>
    have hgen : ∀ f ∈ frame :: rest, Genuine s.ledger f := by
      rw [← hincoming]
      exact h.frames.incoming
    have hrest : ∀ f ∈ rest, Genuine s.ledger f :=
      fun f hf => hgen f (mem_cons_of_mem _ hf)
    have hidleOk := h.receiver.loop
    unfold RxLoopOk at hidleOk
    rw [hidle] at hidleOk
    obtain ⟨hready, happ⟩ := hidleOk
    split at hs
    · cases hs
      have hpre := appBytes_isPrefix h.receiver
      exact h.withWindow rfl h.frames.pending hrest hpre
    · next window hinsert =>
      cases hs
      rcases StreamRXWindow.insert_cases hinsert with
        ⟨_, hseq, rfl⟩ | ⟨hd, _⟩ | ⟨hd | hd, _⟩
      · refine h.withWindow rfl h.frames.pending hrest ?_
        exact ⟨rfl, hseq, hgen frame mem_cons_self, [], by simp, by simpa using happ⟩
      all_goals cases hd
    · next window hinsert =>
      cases hs
      rcases StreamRXWindow.insert_cases hinsert with
        ⟨hd, _⟩ | ⟨hd, _⟩ | ⟨_, rfl⟩
      · cases hd
      · cases hd
      · refine h.withWindow rfl h.frames.pending hrest ?_
        unfold RxLoopOk
        rw [hidle]
        exact ⟨hready, happ⟩
    · next window disposition hnotReady hnotDuplicate hinsert =>
      cases hs
      rcases StreamRXWindow.insert_cases hinsert with
        ⟨rfl, _⟩ | ⟨_, hexpected, hflag, hpend⟩ | ⟨_, rfl⟩
      · exact absurd rfl hnotReady
      · refine h.withWindow hexpected ?_ hrest ?_
        · rw [hpend]
          intro f hf
          rcases mem_append.1 hf with hf | hf
          · exact h.frames.pending f hf
          · rw [mem_singleton.1 hf]
            exact hgen frame mem_cons_self
        · unfold RxLoopOk
          rw [hidle]
          exact ⟨hflag.trans hready, happ⟩
      · refine h.withWindow rfl h.frames.pending hrest ?_
        unfold RxLoopOk
        rw [hidle]
        exact ⟨hready, happ⟩
  · cases hs

/-- The invariant when one more frame is delivered in full. -/
theorem Inv.withCommit {window : StreamRXWindow} {frame : StreamRXFrame} {rx : RxLoop} (h : Inv s)
    (hexpected : window.expected = s.window.expected + 1)
    (hpending : ∀ f ∈ window.pending, Genuine s.ledger f)
    (hseq : frame.sequence = s.window.expected) (hgen : Genuine s.ledger frame)
    (hloop : RxLoopOk { s with window := window, delivered := s.delivered ++ [frame], rx := rx }) :
    Inv { s with window := window, delivered := s.delivered ++ [frame], rx := rx } where
  sender := { h.sender with }
  frames := ⟨h.frames.dataNet, h.frames.incoming, hpending⟩
  receiver :=
    { expected_le := by
        have := hgen.1
        simp only [hexpected]
        omega
      delivered_sequence := by
        simp [hexpected, range_succ, h.receiver.delivered_sequence, hseq]
      delivered_payload := by
        have hlt : s.window.expected < s.ledger.nextSequence := hseq ▸ hgen.1
        rw [map_append, h.receiver.delivered_payload, hexpected, take_add_one,
          payloads_getElem? hlt, ← hseq, ← hgen.2]
        rfl
      loop := hloop }
  acks :=
    { ackNext := by have := h.acks.ackNext; simp only [hexpected]; omega
      ackLoop := fun a ha => by have := h.acks.ackLoop a ha; simp only [hexpected]; omega
      legAckPending := fun leg => by
        have := h.acks.legAckPending leg; simp only [hexpected]; omega
      ackNet := fun p hp => by have := h.acks.ackNet p hp; simp only [hexpected]; omega
      ackWritten := fun v hv => by
        have := h.acks.ackWritten v hv; simp only [hexpected]; omega
      ackedNext := by have := h.acks.ackedNext; simp only [hexpected]; omega }

theorem framesBytes_append (frames : List StreamRXFrame) (frame : StreamRXFrame) :
    framesBytes (frames ++ [frame]) = framesBytes frames ++ frame.payload := by
  simp [framesBytes]

theorem inv_rxCommit {now : Time} (h : Inv s) (hs : receiverStep s (.rxCommit now) = some s') :
    Inv s' := by
  simp only [receiverStep] at hs
  split at hs
  · next frame hwriting =>
    have hloop := h.receiver.loop
    unfold RxLoopOk at hloop
    rw [hwriting] at hloop
    obtain ⟨hready, hseq, hgen, done, hdone, happ⟩ := hloop
    have hfull : s.appBytes = framesBytes (s.delivered ++ [frame]) := by
      rw [happ, framesBytes_append, hdone, append_nil]
    obtain ⟨hexpected, hcleared⟩ :=
      StreamRXWindow.commitReady_of_ready s.window now hready
    have hpending : ∀ f ∈ (s.window.commitReady now).pending, Genuine s.ledger f := by
      rw [StreamRXWindow.commitReady_pending]
      exact h.frames.pending
    split at hs
    · next window next hpop =>
      cases hs
      obtain ⟨_, hnextMem, hnextSeq, hexp, hflag, hsub⟩ :=
        StreamRXWindow.popContiguous_cases hpop
      refine h.withCommit (hexp.trans hexpected) (fun f hf => hpending f (hsub f hf))
        hseq hgen ?_
      exact ⟨hflag, hnextSeq.trans hexp.symm, hpending next hnextMem, [], by simp,
        by rw [append_nil]; exact hfull⟩
    · cases hs
      exact h.withCommit hexpected hpending hseq hgen ⟨hcleared, hfull⟩
  · cases hs

/-- The invariant under ACK state that stays at or below the delivered frontier. -/
theorem Inv.withAckState {ackNext ackLoopSent : Nat} {ackForce : Bool} {ackLoop : Option AckSend}
    {legAckPending legAckSent : LegID → Nat} {legAckForce : LegID → Bool}
    {ackNet : List (LegID × Nat)} {ackWritten : List Nat} (h : Inv s)
    (hnext : ackNext ≤ s.window.expected)
    (hloop : ∀ a, ackLoop = some a → a.value ≤ s.window.expected)
    (hpending : ∀ leg, legAckPending leg ≤ s.window.expected)
    (hnet : ∀ p ∈ ackNet, p.2 ≤ s.window.expected)
    (hwritten : ∀ v ∈ ackWritten, v ≤ s.window.expected) :
    Inv { s with
      ackNext := ackNext, ackLoopSent := ackLoopSent, ackForce := ackForce,
      ackLoop := ackLoop, legAckPending := legAckPending, legAckSent := legAckSent,
      legAckForce := legAckForce, ackNet := ackNet, ackWritten := ackWritten } where
  sender := { h.sender with }
  frames := { h.frames with }
  receiver := { h.receiver with }
  acks := ⟨hnext, hloop, hpending, hnet, hwritten, h.acks.ackedNext⟩

theorem update_le {f : LegID → Nat} {leg : LegID} {v n : Nat} (hf : ∀ l, f l ≤ n) (hv : v ≤ n) :
    ∀ l, update f leg v l ≤ n := by
  intro l
  rw [update_apply]
  split
  · exact hv
  · exact hf l

/-- ACK steps: every value that moves on was at most the delivered frontier. -/
theorem inv_ackStep {a : ReceiverAct} (h : Inv s)
    (ha : (∃ legs, a = .ackLoad legs) ∨ (∃ isOpen, a = .queueAck isOpen) ∨ a = .ackSendDone ∨
      (∃ leg, a = .writePendingAck leg) ∨ ∃ leg, a = .attachLeg leg)
    (hs : receiverStep s a = some s') : Inv s' := by
  have hk := h.acks
  rcases ha with ⟨legs, rfl⟩ | ⟨isOpen, rfl⟩ | rfl | ⟨leg, rfl⟩ | ⟨leg, rfl⟩
  · simp only [receiverStep] at hs
    split at hs
    · cases hs
    · next hnone =>
      split at hs <;> cases hs
      · exact h.withAckState hk.ackNext hk.ackLoop hk.legAckPending hk.ackNet hk.ackWritten
      · refine h.withAckState hk.ackNext (fun a ha => ?_) hk.legAckPending hk.ackNet
          hk.ackWritten
        cases ha
        exact hk.ackNext
  · simp only [receiverStep] at hs
    split at hs
    · next value force leg legs scheduled hloop =>
      have hvalue : value ≤ s.window.expected := hk.ackLoop _ hloop
      split at hs <;> cases hs
      · refine h.withAckState hk.ackNext (fun a ha => ?_)
          (update_le hk.legAckPending (Nat.max_le.2 ⟨hk.legAckPending leg, hvalue⟩))
          hk.ackNet hk.ackWritten
        cases ha
        exact hvalue
      · refine h.withAckState hk.ackNext (fun a ha => ?_) hk.legAckPending hk.ackNet
          hk.ackWritten
        cases ha
        exact hvalue
    · cases hs
  · simp only [receiverStep] at hs
    split at hs <;> cases hs
    exact h.withAckState hk.ackNext (fun _ ha => nomatch ha) hk.legAckPending hk.ackNet
      hk.ackWritten
  · simp only [receiverStep] at hs
    split at hs <;> cases hs
    · exact h.withAckState hk.ackNext hk.ackLoop hk.legAckPending hk.ackNet hk.ackWritten
    · refine h.withAckState hk.ackNext hk.ackLoop hk.legAckPending (fun p hp => ?_)
        fun v hv => ?_
      · rcases mem_append.1 hp with hp | hp
        · exact hk.ackNet p hp
        · rw [mem_singleton.1 hp]
          exact hk.legAckPending leg
      · rcases mem_append.1 hv with hv | hv
        · exact hk.ackWritten v hv
        · rw [mem_singleton.1 hv]
          exact hk.legAckPending leg
  · cases hs
    exact h.withAckState hk.ackNext hk.ackLoop
      (update_le hk.legAckPending (Nat.zero_le _)) hk.ackNet hk.ackWritten

theorem inv_receiverStep {a : ReceiverAct} (h : Inv s) (hs : receiverStep s a = some s') :
    Inv s' := by
  cases a with
  | readData i =>
    simp only [receiverStep] at hs
    split at hs
    · next frame hget =>
      cases hs
      refine h.withNet (fun f hf => h.frames.dataNet f (mem_of_mem_eraseIdx hf))
        (fun f hf => ?_) h.acks.ackNet
      rcases mem_append.1 hf with hf | hf
      · exact h.frames.incoming f hf
      · rw [mem_singleton.1 hf]
        exact h.frames.dataNet frame (mem_of_getElem? hget)
    · cases hs
  | rxTake now => exact inv_rxTake h hs
  | rxWrite n =>
    have hloop := h.receiver.loop
    unfold RxLoopOk at hloop
    simp only [receiverStep] at hs
    split at hs
    · next frame rest hwriting =>
      rw [hwriting] at hloop
      obtain ⟨hready, hseq, hgen, done, hdone, happ⟩ := hloop
      split at hs <;> cases hs
      refine h.withWindow rfl h.frames.pending h.frames.incoming
        ⟨hready, hseq, hgen, done ++ rest.take n, ?_, ?_⟩
      · rw [append_assoc, take_append_drop, hdone]
      · rw [← append_assoc, ← happ]
    · cases hs
  | rxWriteError n =>
    have hloop := h.receiver.loop
    unfold RxLoopOk at hloop
    simp only [receiverStep] at hs
    split at hs
    · next frame rest hwriting =>
      cases hs
      rw [hwriting] at hloop
      obtain ⟨hready, hseq, hgen, done, hdone, happ⟩ := hloop
      -- the bytes handed over by the failed write still extend the prefix
      have hpart : ReceiverInv { s with
          appBytes := s.appBytes ++ rest.take n, rx := .writing frame (rest.drop n) } :=
        { h.receiver with
          loop := ⟨hready, hseq, hgen, done ++ rest.take n,
            by rw [append_assoc, take_append_drop, hdone],
            by rw [← append_assoc, ← happ]⟩ }
      have hpre := appBytes_isPrefix hpart
      exact h.withWindow rfl h.frames.pending h.frames.incoming hpre
    · cases hs
  | rxCommit now => exact inv_rxCommit h hs
  | rxRequestAck =>
    have hloop := h.receiver.loop
    unfold RxLoopOk at hloop
    simp only [receiverStep] at hs
    split at hs
    · next hacking =>
      cases hs
      rw [hacking] at hloop
      have hidle : Inv { s with rx := .idle } :=
        h.withWindow rfl h.frames.pending h.frames.incoming hloop
      exact hidle.withAckState
        (Nat.max_le.2 ⟨h.acks.ackNext, Nat.le_refl _⟩) h.acks.ackLoop
        h.acks.legAckPending h.acks.ackNet h.acks.ackWritten
    · cases hs
  | rxStop =>
    simp only [receiverStep] at hs
    split at hs <;> cases hs
    have hpre := appBytes_isPrefix h.receiver
    exact h.withWindow rfl h.frames.pending h.frames.incoming hpre
  | ackLoad legs => exact inv_ackStep h (.inl ⟨legs, rfl⟩) hs
  | queueAck isOpen => exact inv_ackStep h (.inr (.inl ⟨isOpen, rfl⟩)) hs
  | ackSendDone => exact inv_ackStep h (.inr (.inr (.inl rfl))) hs
  | writePendingAck leg => exact inv_ackStep h (.inr (.inr (.inr (.inl ⟨leg, rfl⟩)))) hs
  | attachLeg leg => exact inv_ackStep h (.inr (.inr (.inr (.inr ⟨leg, rfl⟩)))) hs

end Receiver

section Refinement

variable {s s' : State}

theorem inv_step {a : Act} (h : Inv s) (hs : step s a = some s') : Inv s' := by
  cases a with
  | sender a => exact inv_senderStep h hs
  | network a => exact inv_networkStep h hs
  | receiver a => exact inv_receiverStep h hs

theorem inv_of_reachable {maxLegs maxReorderFrames : Nat}
    (h : Reachable step (init maxLegs maxReorderFrames) s) : Inv s :=
  h.invariant (inv_init maxLegs maxReorderFrames) fun _ _ _ hinv hs => inv_step hinv hs

/-- The ordered stream that a session implements. -/
def toOrderedStream (s : State) (h : Inv s) : OrderedStream (List UInt8) :=
  { sent := s.ledger.payloads
    delivered := s.window.expected
    confirmed := s.ledger.ackedNext
    confirmed_le := h.acks.ackedNext
    delivered_le := by simpa using h.receiver.expected_le }

/-- What the application got in full is the output of the ordered stream. -/
theorem delivered_eq_output (h : Inv s) :
    s.delivered.map StreamRXFrame.payload = (toOrderedStream s h).output :=
  h.receiver.delivered_payload

theorem networkStep_stream {a : NetworkAct} (hs : networkStep s a = some s') :
    s'.ledger = s.ledger ∧ s'.window = s.window := by
  cases a <;> simp only [networkStep] at hs
  case duplicateData | duplicateAck =>
    split at hs <;> cases hs
    exact ⟨rfl, rfl⟩
  all_goals
    cases hs
    exact ⟨rfl, rfl⟩

theorem receiverStep_stream {a : ReceiverAct} (h : Inv s) (hs : receiverStep s a = some s') :
    s'.ledger = s.ledger ∧
      (s'.window.expected = s.window.expected ∨
        s'.window.expected = s.window.expected + 1) := by
  cases a with
  | rxTake now =>
    simp only [receiverStep] at hs
    split at hs
    · split at hs
      · cases hs
        exact ⟨rfl, .inl rfl⟩
      all_goals
        next hinsert =>
        cases hs
        rcases StreamRXWindow.insert_cases hinsert with ⟨_, _, rfl⟩ | ⟨_, he, _⟩ | ⟨_, rfl⟩
        · exact ⟨rfl, .inl rfl⟩
        · exact ⟨rfl, .inl he⟩
        · exact ⟨rfl, .inl rfl⟩
    · cases hs
  | rxCommit now =>
    have hloop := h.receiver.loop
    unfold RxLoopOk at hloop
    simp only [receiverStep] at hs
    split at hs
    · next frame hwriting =>
      rw [hwriting] at hloop
      have hexpected := (StreamRXWindow.commitReady_of_ready s.window now hloop.1).1
      split at hs
      · next hpop =>
        cases hs
        obtain ⟨_, _, _, hexp, _⟩ := StreamRXWindow.popContiguous_cases hpop
        exact ⟨rfl, .inr (hexp.trans hexpected)⟩
      · cases hs
        exact ⟨rfl, .inr hexpected⟩
    · cases hs
  | readData i | rxWriteError n | rxRequestAck | rxStop | ackSendDone =>
    simp only [receiverStep] at hs
    split at hs <;> cases hs
    exact ⟨rfl, .inl rfl⟩
  | rxWrite n | queueAck isOpen =>
    simp only [receiverStep] at hs
    split at hs
    · split at hs <;> cases hs
      all_goals exact ⟨rfl, .inl rfl⟩
    · cases hs
  | ackLoad legs =>
    simp only [receiverStep] at hs
    split at hs
    · cases hs
    · split at hs <;>
        · cases hs
          exact ⟨rfl, .inl rfl⟩
  | writePendingAck leg =>
    simp only [receiverStep] at hs
    split at hs <;>
      · cases hs
        exact ⟨rfl, .inl rfl⟩
  | attachLeg leg =>
    cases hs
    exact ⟨rfl, .inl rfl⟩

/-- Every step of a session is a move of the ordered stream it implements. -/
theorem step_refines {a : Act} (h : Inv s) (hs : step s a = some s') :
    (toOrderedStream s h).Move (toOrderedStream s' (inv_step h hs)) := by
  cases a with
  | sender a =>
    have he := senderStep_effect hs
    have hwindow : s'.window = s.window := by rw [he.frame]
    have hdelivered : s'.window.expected = s.window.expected := by rw [hwindow]
    have hacked : s.ledger.ackedNext ≤ s'.ledger.ackedNext := by
      rcases he.ackedNext with heq | ⟨hlt, _⟩
      · exact Nat.le_of_eq heq.symm
      · exact Nat.le_of_lt hlt
    rcases he.ledger with hsame | ⟨payload, now, isLocal, hadd⟩ | ⟨ack, _, now, hack⟩
    · exact .confirm _ hsame.payloads_eq hdelivered hacked
    · refine .push _ payload ?_ hdelivered ?_
      · simp only [toOrderedStream, hadd, payloads_add]
      · simp [toOrderedStream, hadd, StreamTXLedger.add]
    · refine .confirm _ ?_ hdelivered hacked
      simp only [toOrderedStream, hack, payloads_applyACK]
  | network a =>
    obtain ⟨hledger, hwindow⟩ := networkStep_stream hs
    refine .confirm _ ?_ ?_ ?_
    · simp only [toOrderedStream, hledger]
    · simp only [toOrderedStream, hwindow]
    · simp only [toOrderedStream, hledger, Nat.le_refl]
  | receiver a =>
    obtain ⟨hledger, hexpected | hexpected⟩ := receiverStep_stream h hs
    · refine .confirm _ ?_ hexpected ?_
      · simp only [toOrderedStream, hledger]
      · simp only [toOrderedStream, hledger, Nat.le_refl]
    · refine .deliver _ ?_ hexpected ?_
      · simp only [toOrderedStream, hledger]
      · simp only [toOrderedStream, hledger]

end Refinement

section EndToEnd

variable {maxLegs maxReorderFrames : Nat} {s : State}

theorem retired_lt_expected (h : Inv s) {seq : Nat} (hadded : seq < s.ledger.nextSequence)
    (hretired : seq ∉ s.ledger.outstanding) : seq < s.window.expected := by
  have hacked := h.acks.ackedNext
  rw [h.sender.wf.mem_iff] at hretired
  omega

/-- Every record below the delivered frontier was written to the application. -/
theorem take_payloads_isPrefix_appBytes (h : Inv s) {n : Nat} (hn : n ≤ s.window.expected) :
    (s.ledger.payloads.take n).flatten <+: s.appBytes := by
  refine List.IsPrefix.trans ?_ (appBytes_isPrefix h.receiver).1
  rw [framesBytes, h.receiver.delivered_payload]
  exact List.IsPrefix.flatten (List.take_prefix_take_left hn)

theorem appBytes_eq_of_outstanding_nil (h : Inv s) (hnil : s.ledger.outstanding = []) :
    s.appBytes = s.ledger.payloads.flatten := by
  have hconfirmed : (toOrderedStream s h).confirmed = (toOrderedStream s h).sent.length := by
    simpa [toOrderedStream] using h.sender.wf.outstanding_eq_nil_iff.1 hnil
  have hall := (toOrderedStream s h).output_eq_sent_of_confirmed hconfirmed
  obtain ⟨hfull, hpre⟩ := appBytes_isPrefix h.receiver
  rw [framesBytes, delivered_eq_output h, hall] at hfull
  exact List.IsPrefix.eq_of_length_le hpre hfull.length_le

/-- **End-to-end delivery.**  In every reachable state of a session the application's
bytes are a prefix of what was added, the delivered sequences are `0, 1, 2, …`
without gap or repetition, no ACK exceeds them, and a retired record was written. -/
theorem delivery_end_to_end (h : Reachable step (init maxLegs maxReorderFrames) s) :
    (s.appBytes <+: s.ledger.payloads.flatten ∧
        framesBytes s.delivered <+: s.appBytes ∧
        s.delivered.map StreamRXFrame.sequence = List.range s.window.expected) ∧
      (∀ v ∈ s.ackWritten, v ≤ s.window.expected) ∧
      (∀ seq < s.ledger.nextSequence, seq ∉ s.ledger.outstanding →
        seq ∈ s.delivered.map StreamRXFrame.sequence ∧
          (s.ledger.payloads.take (seq + 1)).flatten <+: s.appBytes) ∧
      (s.ledger.outstanding = [] → s.appBytes = s.ledger.payloads.flatten) := by
  have hinv := inv_of_reachable h
  obtain ⟨hfull, hpre⟩ := appBytes_isPrefix hinv.receiver
  refine ⟨⟨hpre, hfull, hinv.receiver.delivered_sequence⟩, hinv.acks.ackWritten,
    fun seq hadded hretired => ?_, appBytes_eq_of_outstanding_nil hinv⟩
  have hlt := retired_lt_expected hinv hadded hretired
  refine ⟨?_, take_payloads_isPrefix_appBytes hinv hlt⟩
  rw [hinv.receiver.delivered_sequence]
  exact mem_range.2 hlt

/-- One record sent on leg 0, delivered, acknowledged and retired. -/
def oneRecordRun : List Act :=
  [.sender (.add [7, 8] 1 true), .sender (.tryQueue 0 0 2), .sender (.pick 0 false),
    .sender (.write 0), .network (.duplicateData 0), .sender (.markAttemptSent 0 3),
    .receiver (.readData 0), .receiver (.rxTake 4), .receiver (.rxWrite 1),
    .receiver (.rxWrite 1), .receiver (.rxCommit 5), .receiver .rxRequestAck,
    .receiver (.readData 0), .receiver (.rxTake 6),
    .receiver (.ackLoad [0]), .receiver (.queueAck true), .receiver .ackSendDone,
    .receiver (.writePendingAck 0), .sender (.readAck 0 7)]

theorem delivery_end_to_end_oneRecordRun :
    ∃ s, runActs step (init 2 4) oneRecordRun = some s ∧
      s.ledger.outstanding = [] ∧ s.ledger.nextSequence = 1 ∧
      s.appBytes = s.ledger.payloads.flatten := by
  refine ⟨_, rfl, by decide, by decide, ?_⟩
  exact (@delivery_end_to_end 2 4 _ ⟨oneRecordRun, rfl⟩).2.2.2 (by decide)

end EndToEnd

end Smp3Multipath.Core.Delivery

import Smp3Multipath.Core.FlowControl

/-!
# CLOSE and the delivered frontier

The closing of one direction of a session: the goroutine of
`StartGracefulClose`, the CLOSE frames it queues on the legs, their way to the
peer over any leg and in any order with respect to DATA and ACK frames, and the
peer's test of a CLOSE against its receive frontier.

A CLOSE exists only after the transmit loop stopped and the peer acknowledged
everything.  From then on the stream is sealed: its next sequence, the sender's
ACK frontier and the frontier the peer compares with are one number.
-/

namespace Smp3Multipath.Core.CloseFrontier

open Lib.Run StreamTXLedger Function List

/-- Where the goroutine of `StartGracefulClose` is. -/
inductive Closer where
  | none
  /-- Waiting for `txStopped`. -/
  | waitTx
  /-- In the poll loop of `drainOutstandingOnClose`. -/
  | draining
  /-- `drainOutstandingOnClose` returned nil. -/
  | drained
  /-- `beginFinalizing` succeeded. -/
  | finalizing
  /-- In `sendCloseFrame` with the legs that have no CLOSE queued yet. -/
  | sending (value : Nat) (legs : List LegID)
  | ended
deriving DecidableEq

/-- A session with the closing of the sender's direction. -/
structure State where
  flow : FlowControl.State
  closer : Closer
  /-- The CLOSE frames in a leg's control queue. -/
  control : LegID → List Nat
  /-- The CLOSE frames in flight. -/
  closeNet : List (LegID × Nat)
  /-- The peer took a CLOSE for the end of the stream. -/
  accepted : Bool
  /-- The peer failed a leg for a CLOSE that did not match its frontier. -/
  rejected : Bool

/-- A new session. -/
def init (cfg : FlowControl.Config) : State :=
  { flow := FlowControl.init cfg
    closer := .none
    control := fun _ => []
    closeNet := []
    accepted := false
    rejected := false }

inductive Act where
  | flow (a : FlowControl.Act)
  /-- `StartGracefulClose` starts its goroutine. -/
  | spawn
  | txStopped
  | drainPoll
  | drainStalled
  | aborted
  | beginFinalizing
  | sendCloseFrame (legs : List LegID)
  | queueControl (leg : LegID)
  | sendReturned (sent : Bool)
  | writeControl (leg : LegID)
  | loseControl (leg : LegID)
  | loseClose (i : Nat)
  | duplicateClose (i : Nat)
  | readClose (i : Nat)
deriving DecidableEq

/-- The goroutine ends and the engine is done. -/
def finish (cfg : FlowControl.Config) (s : State) : Option State :=
  (FlowControl.step cfg s.flow .fail).map fun flow =>
    { s with flow := flow, closer := .ended }

def step (cfg : FlowControl.Config) (s : State) : Act → Option State
  | .flow a => (FlowControl.step cfg s.flow a).map fun flow => { s with flow := flow }
  | .spawn => if s.flow.graceful ∧ s.closer = .none then some { s with closer := .waitTx } else none
  | .txStopped =>
    if s.closer = .waitTx ∧ s.flow.tx = .stopped then
      some { s with closer := .draining }
    else none
  | .drainPoll =>
    if s.closer = .draining ∧ s.flow.session.ledger.outstanding = [] then
      some { s with closer := .drained }
    else none
  | .drainStalled => if s.closer = .draining then finish cfg s else none
  | .aborted =>
    if (s.closer = .waitTx ∨ s.closer = .draining) ∧ s.flow.done then
      some { s with closer := .ended }
    else none
  | .beginFinalizing =>
    if s.closer = .drained then
      some { s with closer := if s.flow.done then .ended else .finalizing }
    else none
  | .sendCloseFrame legs =>
    if s.closer = .finalizing then
      some { s with closer := .sending s.flow.session.ledger.nextSequence legs }
    else none
  | .queueControl leg =>
    match s.closer with
    | .sending value legs =>
      if leg ∈ legs ∧ ¬ s.flow.done then
        some { s with
          closer := .sending value (legs.erase leg)
          control := update s.control leg (s.control leg ++ [value]) }
      else none
    | _ => none
  | .sendReturned _ =>
    -- both results end the engine, one with EOF and one with an error
    match s.closer with
    | .sending _ _ => finish cfg s
    | _ => none
  | .writeControl leg =>
    match s.control leg with
    | value :: rest =>
      some { s with
        control := update s.control leg rest
        closeNet := s.closeNet ++ [(leg, value)] }
    | [] => none
  | .loseControl leg => some { s with control := update s.control leg [] }
  | .loseClose i => some { s with closeNet := s.closeNet.eraseIdx i }
  | .duplicateClose i =>
    match s.closeNet[i]? with
    | some frame => some { s with closeNet := s.closeNet ++ [frame] }
    | none => none
  | .readClose i =>
    match s.closeNet[i]? with
    | some (_, value) =>
      if value ≠ s.flow.session.ackNext then
        some { s with closeNet := s.closeNet.eraseIdx i, rejected := true }
      else
        some { s with closeNet := s.closeNet.eraseIdx i, accepted := true }
    | none => none

section AckFrontier

variable {x x' : Delivery.State}

/-- No ACK value anywhere exceeds the frontier a CLOSE is compared with. -/
structure AckFrontier (x : Delivery.State) : Prop where
  ackLoop : ∀ a, x.ackLoop = some a → a.value ≤ x.ackNext
  legAckPending : ∀ leg, x.legAckPending leg ≤ x.ackNext
  ackNet : ∀ p ∈ x.ackNet, p.2 ≤ x.ackNext
  ackedNext : x.ledger.ackedNext ≤ x.ackNext

theorem ackFrontier_init (maxLegs maxReorderFrames : Nat) :
    AckFrontier (Delivery.init maxLegs maxReorderFrames) :=
  ⟨nofun, fun _ => Nat.le_refl 0, nofun, Nat.le_refl 0⟩

theorem ackFrontier_senderStep {a : Delivery.SenderAct} (h : AckFrontier x)
    (hs : Delivery.senderStep x a = some x') : AckFrontier x' := by
  have he := Delivery.senderStep_effect hs
  have hframe := he.frame
  have hnext : x'.ackNext = x.ackNext := by rw [hframe]
  have hloop : x'.ackLoop = x.ackLoop := by rw [hframe]
  have hpending : x'.legAckPending = x.legAckPending := by rw [hframe]
  constructor
  · rw [hnext, hloop]
    exact h.ackLoop
  · rw [hnext, hpending]
    exact h.legAckPending
  · rw [hnext]
    exact fun p hp => h.ackNet p (he.ackNet p hp)
  · rw [hnext]
    rcases he.ackedNext with heq | ⟨_, ack, hm, heq⟩
    · rw [heq]
      exact h.ackedNext
    · rw [heq]
      exact h.ackNet ack hm

theorem ackFrontier_networkStep {a : Delivery.NetworkAct} (h : AckFrontier x)
    (hs : Delivery.networkStep x a = some x') : AckFrontier x' := by
  cases a with
  | loseData i =>
    cases hs
    exact { h with }
  | duplicateData i =>
    simp only [Delivery.networkStep] at hs
    split at hs <;> cases hs
    exact { h with }
  | loseAck i =>
    cases hs
    exact { h with ackNet := fun p hp => h.ackNet p (mem_of_mem_eraseIdx hp) }
  | duplicateAck i =>
    simp only [Delivery.networkStep] at hs
    split at hs
    · next ack hget =>
      cases hs
      refine { h with ackNet := fun p hp => ?_ }
      rcases mem_append.1 hp with hp | hp
      · exact h.ackNet p hp
      · rw [mem_singleton.1 hp]
        exact h.ackNet ack (mem_of_getElem? hget)
    · cases hs
  | loseLeg leg =>
    cases hs
    exact { h with ackNet := fun p hp => h.ackNet p (mem_filter.1 hp).1 }

theorem ackFrontier_receiverStep {a : Delivery.ReceiverAct} (h : AckFrontier x)
    (hs : Delivery.receiverStep x a = some x') : AckFrontier x' := by
  cases a with
  | readData i | rxWriteError n | rxStop =>
    simp only [Delivery.receiverStep] at hs
    split at hs <;> cases hs
    exact { h with }
  | rxTake now | rxCommit now =>
    simp only [Delivery.receiverStep] at hs
    split at hs
    · split at hs <;> cases hs <;> exact { h with }
    · cases hs
  | rxWrite n =>
    simp only [Delivery.receiverStep] at hs
    split at hs
    · split at hs <;> cases hs
      exact { h with }
    · cases hs
  | rxRequestAck =>
    simp only [Delivery.receiverStep] at hs
    split at hs <;> cases hs
    have hmono : x.ackNext ≤ max x.ackNext x.window.expected := Nat.le_max_left _ _
    exact ⟨fun a ha => Nat.le_trans (h.ackLoop a ha) hmono,
      fun leg => Nat.le_trans (h.legAckPending leg) hmono,
      fun p hp => Nat.le_trans (h.ackNet p hp) hmono, Nat.le_trans h.ackedNext hmono⟩
  | ackLoad legs =>
    simp only [Delivery.receiverStep] at hs
    split at hs
    · cases hs
    · split at hs <;> cases hs
      · exact { h with }
      · refine { h with ackLoop := fun a ha => ?_ }
        cases ha
        exact Nat.le_refl _
  | queueAck isOpen =>
    simp only [Delivery.receiverStep] at hs
    split at hs
    · next value force leg legs scheduled hloop =>
      have hvalue : value ≤ x.ackNext := h.ackLoop _ hloop
      split at hs <;> cases hs
      · refine { h with
          ackLoop := fun a ha => ?_
          legAckPending := Delivery.update_le h.legAckPending
            (Nat.max_le.2 ⟨h.legAckPending leg, hvalue⟩) }
        cases ha
        exact hvalue
      · refine { h with ackLoop := fun a ha => ?_ }
        cases ha
        exact hvalue
    · cases hs
  | ackSendDone =>
    simp only [Delivery.receiverStep] at hs
    split at hs <;> cases hs
    refine { h with ackLoop := fun a ha => ?_ }
    cases ha
  | writePendingAck leg =>
    simp only [Delivery.receiverStep] at hs
    split at hs <;> cases hs
    · exact { h with }
    · refine { h with ackNet := fun p hp => ?_ }
      rcases mem_append.1 hp with hp | hp
      · exact h.ackNet p hp
      · rw [mem_singleton.1 hp]
        exact h.legAckPending leg
  | attachLeg leg =>
    cases hs
    exact { h with
      legAckPending := Delivery.update_le h.legAckPending (Nat.zero_le _) }

theorem ackFrontier_step {a : Delivery.Act} (h : AckFrontier x)
    (hs : Delivery.step x a = some x') : AckFrontier x' := by
  cases a with
  | sender a => exact ackFrontier_senderStep h hs
  | network a => exact ackFrontier_networkStep h hs
  | receiver a => exact ackFrontier_receiverStep h hs

end AckFrontier

section Sealed

variable {cfg : FlowControl.Config} {f f' : FlowControl.State}

/-- The transmit loop stopped and the peer acknowledged everything. -/
def Sealed (f : FlowControl.State) : Prop :=
  f.tx = .stopped ∧ f.session.ledger.outstanding = []

theorem txStep_stopped {a : FlowControl.TxAct} (hstopped : f.tx = .stopped) :
    FlowControl.txStep cfg f a = none := by
  cases a <;> simp [FlowControl.txStep, hstopped]

/-- After the transmit loop stopped nothing is added any more. -/
theorem stopped_step {a : FlowControl.Act} (hstopped : f.tx = .stopped)
    (hs : FlowControl.step cfg f a = some f') :
    f'.tx = .stopped ∧
      f'.session.ledger.nextSequence = f.session.ledger.nextSequence ∧
      (f.session.ledger.outstanding = [] → f'.session.ledger.outstanding = []) := by
  cases a with
  | tx a => simp [FlowControl.step, txStep_stopped hstopped] at hs
  | readAck i now =>
    simp only [FlowControl.step] at hs
    split at hs
    · next leg next hget =>
      obtain ⟨x, hx, rfl⟩ := Option.map_eq_some_iff.1 hs
      simp only [Delivery.step, Delivery.senderStep, hget, Option.some.injEq] at hx
      subst hx
      refine ⟨hstopped, ?_⟩
      dsimp only
      rcases applyACK_spec now f.session.ledger next with
        ⟨_, hsame⟩ | ⟨_, _, hnext, _, hout, _⟩
      · rw [hsame.next, hsame.outstanding]
        exact ⟨rfl, fun h => h⟩
      · refine ⟨hnext, fun hnil => ?_⟩
        rw [hout, hnil, filter_nil]
    · cases hs
  | release k =>
    simp only [FlowControl.step] at hs
    split at hs
    · split at hs <;> cases hs <;> exact ⟨hstopped, rfl, fun h => h⟩
    · cases hs
      exact ⟨hstopped, rfl, fun h => h⟩
    · cases hs
  | startGracefulClose | fail =>
    cases hs
    exact ⟨hstopped, rfl, fun h => h⟩
  | session a =>
    simp only [FlowControl.step] at hs
    split at hs
    · cases hs
    · next hown =>
      obtain ⟨x, hx, rfl⟩ := Option.map_eq_some_iff.1 hs
      have hsame := FlowControl.session_sameStream (by simpa using hown) hx
      refine ⟨hstopped, hsame.next, fun hnil => ?_⟩
      rw [hsame.outstanding, hnil]

/-- Everything a session under flow control keeps that closing relies on. -/
structure FlowInv (cfg : FlowControl.Config) (f : FlowControl.State) : Prop where
  inv : FlowControl.Inv cfg f
  frontier : AckFrontier f.session

theorem flowInv_init (cfg : FlowControl.Config) : FlowInv cfg (FlowControl.init cfg) :=
  ⟨FlowControl.inv_init cfg, ackFrontier_init cfg.maxLegs cfg.maxReorderFrames⟩

theorem flowInv_step {a : FlowControl.Act} (h : FlowInv cfg f)
    (hs : FlowControl.step cfg f a = some f') : FlowInv cfg f' :=
  ⟨FlowControl.inv_step h.inv hs,
    (FlowControl.sessionMoves_step hs).preserves
      (fun _ _ _ hx hx' => ackFrontier_step hx hx') h.frontier⟩

theorem frontiers_of_sealed (h : FlowInv cfg f) (hsealed : Sealed f) :
    f.session.ackNext = f.session.ledger.nextSequence ∧
      f.session.window.expected = f.session.ledger.nextSequence := by
  have hacked := h.inv.session.sender.wf.outstanding_eq_nil_iff.1 hsealed.2
  have hfrontier := h.frontier.ackedNext
  have hdelivered := h.inv.session.acks.ackNext
  have hsent := h.inv.session.receiver.expected_le
  constructor
  · omega
  · omega

theorem delivered_of_sealed (h : FlowInv cfg f) (hsealed : Sealed f) :
    f.session.delivered.map StreamRXFrame.payload = f.session.ledger.payloads ∧
      f.session.appBytes = f.session.ledger.payloads.flatten := by
  have hreceiver := h.inv.session.receiver
  have hall : f.session.delivered.map StreamRXFrame.payload = f.session.ledger.payloads := by
    rw [hreceiver.delivered_payload, (frontiers_of_sealed h hsealed).2]
    exact take_of_length_le (by simp)
  refine ⟨hall, ?_⟩
  obtain ⟨hlower, hupper⟩ := Delivery.appBytes_isPrefix hreceiver
  unfold Delivery.framesBytes at hlower
  rw [hall] at hlower
  exact hupper.eq_of_length_le hlower.length_le

end Sealed

section Closing

variable {cfg : FlowControl.Config} {s s' : State}

/-- A CLOSE value somewhere on its way to the peer. -/
def Carried (s : State) (value : Nat) : Prop :=
  (∃ legs, s.closer = .sending value legs) ∨ (∃ leg, value ∈ s.control leg) ∨
    ∃ leg, (leg, value) ∈ s.closeNet

/-- The goroutine is past `drainOutstandingOnClose`. -/
def PastDrain : Closer → Prop
  | .drained => True
  | .finalizing => True
  | .sending _ _ => True
  | _ => False

/-- The invariant of closing. -/
structure Inv (cfg : FlowControl.Config) (s : State) : Prop where
  flow : FlowInv cfg s.flow
  draining : s.closer = .draining → s.flow.tx = .stopped
  pastDrain : PastDrain s.closer → Sealed s.flow
  carried : ∀ value, Carried s value →
    Sealed s.flow ∧ value = s.flow.session.ledger.nextSequence
  accepted : s.accepted = true → Sealed s.flow
  rejected : s.rejected = false

theorem inv_init (cfg : FlowControl.Config) : Inv cfg (init cfg) where
  flow := flowInv_init cfg
  draining := nofun
  pastDrain h := h.elim
  carried value h := by
    rcases h with ⟨_, h⟩ | ⟨_, h⟩ | ⟨_, h⟩ <;> cases h
  accepted := nofun
  rejected := rfl

theorem Inv.withFlow {a : FlowControl.Act} {flow : FlowControl.State} (h : Inv cfg s)
    (hstep : FlowControl.step cfg s.flow a = some flow) : Inv cfg { s with flow := flow } := by
  have hsealed : Sealed s.flow →
      Sealed flow ∧ flow.session.ledger.nextSequence = s.flow.session.ledger.nextSequence := by
    intro hs
    obtain ⟨htx, hnext, hnil⟩ := stopped_step hs.1 hstep
    exact ⟨⟨htx, hnil hs.2⟩, hnext⟩
  constructor
  · exact flowInv_step h.flow hstep
  · intro hd
    exact (stopped_step (h.draining hd) hstep).1
  · intro hp
    exact (hsealed (h.pastDrain hp)).1
  · intro value hc
    obtain ⟨hs, hvalue⟩ := h.carried value hc
    obtain ⟨hs', hnext⟩ := hsealed hs
    exact ⟨hs', hvalue.trans hnext.symm⟩
  · intro ha
    exact (hsealed (h.accepted ha)).1
  · exact h.rejected

theorem Inv.withCloser {closer : Closer} (h : Inv cfg s)
    (hdraining : closer = .draining → s.flow.tx = .stopped)
    (hpast : PastDrain closer → Sealed s.flow)
    (hvalue : ∀ value legs, closer = .sending value legs →
      value = s.flow.session.ledger.nextSequence) : Inv cfg { s with closer := closer } where
  flow := h.flow
  draining := hdraining
  pastDrain := hpast
  carried value hc := by
    rcases hc with ⟨legs, hc⟩ | hc
    · refine ⟨hpast ?_, hvalue value legs hc⟩
      rw [show closer = .sending value legs from hc]
      trivial
    · exact h.carried value (.inr hc)
  accepted := h.accepted
  rejected := h.rejected

theorem Inv.withFrames {control : LegID → List Nat} {closeNet : List (LegID × Nat)}
    (h : Inv cfg s) (hcontrol : ∀ leg value, value ∈ control leg → Carried s value)
    (hnet : ∀ leg value, (leg, value) ∈ closeNet → Carried s value) :
    Inv cfg { s with control := control, closeNet := closeNet } where
  flow := h.flow
  draining := h.draining
  pastDrain := h.pastDrain
  carried value hc := by
    rcases hc with hc | ⟨leg, hc⟩ | ⟨leg, hc⟩
    · exact h.carried value (.inl hc)
    · exact h.carried value (hcontrol leg value hc)
    · exact h.carried value (hnet leg value hc)
  accepted := h.accepted
  rejected := h.rejected

theorem inv_finish (h : Inv cfg s) (hs : finish cfg s = some s') : Inv cfg s' := by
  obtain ⟨flow, hflow, rfl⟩ := Option.map_eq_some_iff.1 hs
  exact (h.withFlow hflow).withCloser nofun (fun hp => hp.elim) nofun

/-- Every CLOSE the peer can read matches its receive frontier. -/
theorem Inv.close_matches {leg : LegID} {value : Nat} (h : Inv cfg s)
    (hm : (leg, value) ∈ s.closeNet) :
    value = s.flow.session.ackNext ∧ value = s.flow.session.window.expected := by
  obtain ⟨hsealed, hvalue⟩ := h.carried value (.inr (.inr ⟨leg, hm⟩))
  obtain ⟨hack, hexpected⟩ := frontiers_of_sealed h.flow hsealed
  exact ⟨hvalue.trans hack.symm, hvalue.trans hexpected.symm⟩

theorem inv_readClose {i : Nat} (h : Inv cfg s) (hs : step cfg s (.readClose i) = some s') :
    Inv cfg s' := by
  simp only [step] at hs
  split at hs
  · next leg value hget =>
    have hm := mem_of_getElem? hget
    have hrest : Inv cfg { s with closeNet := s.closeNet.eraseIdx i } :=
      h.withFrames (fun leg value hv => .inr (.inl ⟨leg, hv⟩))
        fun leg value hv => .inr (.inr ⟨leg, mem_of_mem_eraseIdx hv⟩)
    split at hs
    · next hne =>
      exact absurd (h.close_matches hm).1 hne
    · cases hs
      have hsealed := (h.carried value (.inr (.inr ⟨leg, hm⟩))).1
      exact { hrest with accepted := fun _ => hsealed }
  · cases hs

theorem inv_queueControl {leg : LegID} (h : Inv cfg s)
    (hs : step cfg s (.queueControl leg) = some s') : Inv cfg s' := by
  simp only [step] at hs
  split at hs
  · next value legs hsending =>
    split at hs <;> cases hs
    have hcarried : Carried s value := .inl ⟨legs, hsending⟩
    obtain ⟨hsealed, hvalue⟩ := h.carried value hcarried
    have hframes : Inv cfg { s with
        control := update s.control leg (s.control leg ++ [value]) } := by
      refine h.withFrames (fun leg' v hv => ?_) fun leg' v hv => .inr (.inr ⟨leg', hv⟩)
      rw [update_apply] at hv
      split at hv
      · rcases mem_append.1 hv with hv | hv
        · exact .inr (.inl ⟨leg, hv⟩)
        · rw [mem_singleton.1 hv]
          exact hcarried
      · exact .inr (.inl ⟨leg', hv⟩)
    refine hframes.withCloser nofun (fun _ => hsealed) ?_
    intro v rest heq
    cases heq
    exact hvalue
  · cases hs

theorem inv_writeControl {leg : LegID} (h : Inv cfg s)
    (hs : step cfg s (.writeControl leg) = some s') : Inv cfg s' := by
  simp only [step] at hs
  split at hs
  · next value rest hqueue =>
    cases hs
    have hhead : Carried s value := .inr (.inl ⟨leg, by rw [hqueue]; exact mem_cons_self⟩)
    refine h.withFrames (fun leg' v hv => ?_) fun leg' v hv => ?_
    · rw [update_apply] at hv
      split at hv
      · exact .inr (.inl ⟨leg, by rw [hqueue]; exact mem_cons_of_mem _ hv⟩)
      · exact .inr (.inl ⟨leg', hv⟩)
    · rcases mem_append.1 hv with hv | hv
      · exact .inr (.inr ⟨leg', hv⟩)
      · cases mem_singleton.1 hv
        exact hhead
  · cases hs

theorem inv_step {a : Act} (h : Inv cfg s) (hs : step cfg s a = some s') : Inv cfg s' := by
  cases a with
  | flow a =>
    obtain ⟨flow, hflow, rfl⟩ := Option.map_eq_some_iff.1 hs
    exact h.withFlow hflow
  | spawn | aborted =>
    simp only [step] at hs
    split at hs <;> cases hs
    exact h.withCloser nofun (fun hp => hp.elim) nofun
  | txStopped =>
    simp only [step] at hs
    split at hs
    · next hguard =>
      cases hs
      exact h.withCloser (fun _ => hguard.2) (fun hp => hp.elim) nofun
    · cases hs
  | drainPoll =>
    simp only [step] at hs
    split at hs
    · next hguard =>
      cases hs
      exact h.withCloser nofun (fun _ => ⟨h.draining hguard.1, hguard.2⟩) nofun
    · cases hs
  | drainStalled | sendReturned sent =>
    simp only [step] at hs
    split at hs
    · exact inv_finish h hs
    · cases hs
  | beginFinalizing =>
    simp only [step] at hs
    split at hs
    · next hdrained =>
      cases hs
      have hsealed : Sealed s.flow := h.pastDrain (by rw [hdrained]; trivial)
      split
      · exact h.withCloser nofun (fun _ => hsealed) nofun
      · exact h.withCloser nofun (fun _ => hsealed) nofun
    · cases hs
  | sendCloseFrame legs =>
    simp only [step] at hs
    split at hs
    · next hfinalizing =>
      cases hs
      have hsealed : Sealed s.flow := h.pastDrain (by rw [hfinalizing]; trivial)
      refine h.withCloser nofun (fun _ => hsealed) ?_
      intro value legs heq
      cases heq
      rfl
    · cases hs
  | queueControl leg => exact inv_queueControl h hs
  | writeControl leg => exact inv_writeControl h hs
  | loseControl leg =>
    cases hs
    refine h.withFrames (fun leg' v hv => ?_) fun leg' v hv => .inr (.inr ⟨leg', hv⟩)
    rw [update_apply] at hv
    split at hv
    · cases hv
    · exact .inr (.inl ⟨leg', hv⟩)
  | loseClose i =>
    cases hs
    exact h.withFrames (fun leg v hv => .inr (.inl ⟨leg, hv⟩))
      fun leg v hv => .inr (.inr ⟨leg, mem_of_mem_eraseIdx hv⟩)
  | duplicateClose i =>
    simp only [step] at hs
    split at hs
    · next frame hget =>
      cases hs
      refine h.withFrames (fun leg v hv => .inr (.inl ⟨leg, hv⟩)) fun leg v hv => ?_
      rcases mem_append.1 hv with hv | hv
      · exact .inr (.inr ⟨leg, hv⟩)
      · rw [← mem_singleton.1 hv] at hget
        exact .inr (.inr ⟨leg, mem_of_getElem? hget⟩)
    · cases hs
  | readClose i => exact inv_readClose h hs

theorem inv_of_reachable (hreach : Reachable (step cfg) (init cfg) s) : Inv cfg s :=
  hreach.invariant (inv_init cfg) fun _ _ _ hinv hs => inv_step hinv hs

theorem Inv.queueControl_spec {leg : LegID} (h : Inv cfg s)
    (hs : step cfg s (.queueControl leg) = some s') :
    s.flow.session.ledger.outstanding = [] ∧
      s'.control leg = s.control leg ++ [s.flow.session.ledger.nextSequence] := by
  simp only [step] at hs
  split at hs
  · next value legs hsending =>
    split at hs <;> cases hs
    obtain ⟨hsealed, hvalue⟩ := h.carried value (.inl ⟨legs, hsending⟩)
    exact ⟨hsealed.2, by rw [hvalue]; exact update_self ..⟩
  · cases hs

/-- Graceful close is never early, whatever leg a CLOSE travels on. -/
theorem close_never_early (cfg : FlowControl.Config) (s : State)
    (hreach : Reachable (step cfg) (init cfg) s) :
    (∀ leg s', step cfg s (.queueControl leg) = some s' →
      s.flow.session.ledger.outstanding = [] ∧
        s'.control leg = s.control leg ++ [s.flow.session.ledger.nextSequence]) ∧
      (∀ leg value, (leg, value) ∈ s.closeNet →
        value = s.flow.session.ackNext ∧ value = s.flow.session.window.expected) ∧
      s.rejected = false ∧
      (s.accepted = true →
        s.flow.session.delivered.map StreamRXFrame.payload = s.flow.session.ledger.payloads ∧
          s.flow.session.appBytes = s.flow.session.ledger.payloads.flatten) := by
  have h := inv_of_reachable hreach
  refine ⟨fun leg s' hs => h.queueControl_spec hs,
    fun leg value hm => h.close_matches hm, h.rejected, fun haccepted => ?_⟩
  exact delivered_of_sealed h.flow (h.accepted haccepted)

/-- Two legs and room for two records. -/
def twoLegConfig : FlowControl.Config :=
  { maxLegs := 2, maxInflightFrames := 2, maxReorderFrames := 1 }

/-- One record is sent on leg 0, delivered, and acknowledged on leg 1. -/
def deliveredRun : List FlowControl.Act :=
  FlowControl.sendChunk 0 1 ++
    [.session (.receiver (.readData 0)), .session (.receiver (.rxTake 2)),
      .session (.receiver (.rxWrite 1)), .session (.receiver (.rxCommit 3)),
      .session (.receiver .rxRequestAck), .session (.receiver (.ackLoad [0, 1])),
      .session (.receiver (.queueAck false)), .session (.receiver (.queueAck true)),
      .session (.receiver (.writePendingAck 1)), .readAck 0 4, .release 0]

/-- The application closes; the CLOSE of leg 1 is duplicated and read first. -/
def closeRun : List Act :=
  deliveredRun.map .flow ++
    [.flow (.tx .acquire), .flow (.tx (.read [] true false)), .spawn, .txStopped, .drainPoll,
      .beginFinalizing, .sendCloseFrame [0, 1], .queueControl 0, .queueControl 1,
      .writeControl 1, .duplicateClose 0, .readClose 0]

theorem closeRun_accepted :
    (runActs (step twoLegConfig) (init twoLegConfig) closeRun).any (fun s =>
      s.accepted = true ∧ s.closeNet = [(1, 1)] ∧ s.control 0 = [1] ∧
        s.flow.session.ledger.payloads = [[7]]) = true := by
  decide +kernel

theorem close_never_early_closeRun :
    ∃ s, runActs (step twoLegConfig) (init twoLegConfig) closeRun = some s ∧
      s.accepted = true ∧ 1 = s.flow.session.ackNext ∧ s.flow.session.appBytes = [7] := by
  obtain ⟨s, hrun, hs⟩ := (Option.any_eq_true ..).1 closeRun_accepted
  simp only [decide_eq_true_eq] at hs
  obtain ⟨haccepted, hnet, _, hpayloads⟩ := hs
  obtain ⟨_, hmatches, _, hdelivered⟩ := close_never_early twoLegConfig s ⟨closeRun, hrun⟩
  refine ⟨s, hrun, haccepted, (hmatches 1 1 (by rw [hnet]; exact mem_cons_self)).1, ?_⟩
  rw [(hdelivered haccepted).2, hpayloads]
  rfl

end Closing

end Smp3Multipath.Core.CloseFrontier

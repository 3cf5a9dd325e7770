import Smp3Multipath.Core.DeliverySafety

/-!
# Flow control

One direction of a session together with what bounds it: the inflight tokens,
the transmit loop that takes one for each chunk, and the ACK handlers that give
them back one by one after the ledger has retired the records.

Every token is held for an outstanding record, for the chunk the transmit loop
is working on, or for a record that was retired and whose handler is not done.
So the outstanding records never exceed `MaxInflightFrames`, and the sequences
the receiver can have to buffer lie in a range of that length.
-/

namespace Smp3Multipath.Core.FlowControl

open Lib.Run StreamTXLedger List Option

/-- The limits of the two endpoints. -/
structure Config where
  maxLegs : Nat
  /-- The sender's `MaxInflightFrames`, the capacity of its token channel. -/
  maxInflightFrames : Nat
  /-- The receiver's `MaxReorderFrames`. -/
  maxReorderFrames : Nat
deriving DecidableEq

/-- Where the transmit loop is; `readErr` tells whether the `Read` failed too. -/
inductive TxLoop where
  /-- Before the non-blocking attempt of `acquireInflight`. -/
  | acquiring
  /-- In the blocking select of `acquireInflight`. -/
  | blocked
  /-- In the pipe `Read`, holding a token. -/
  | reading
  /-- In `await` of the startup gate, holding a token. -/
  | awaiting (chunk : List UInt8) (readErr : Bool)
  /-- Before `addLocal`, holding a token. -/
  | adding (chunk : List UInt8) (readErr : Bool)
  /-- In `enqueueRecord`; the token belongs to the record now. -/
  | enqueueing (record : Nat) (readErr : Bool)
  | stopped
deriving DecidableEq

/-- The tokens the transmit loop holds for a chunk that is not added yet. -/
def TxLoop.held : TxLoop → Nat
  | .reading => 1
  | .awaiting _ _ => 1
  | .adding _ _ => 1
  | _ => 0

/-- A session with the sender's tokens, transmit loop and ACK handlers. -/
structure State where
  session : Delivery.State
  /-- The number of tokens in the channel. -/
  inflight : Nat
  tx : TxLoop
  /-- For each ACK handler past `ApplyACK`, the tokens it has still to release. -/
  releasing : List Nat
  /-- `gracefulCh` is closed. -/
  graceful : Bool
  done : Bool

/-- A new session. -/
def init (cfg : Config) : State :=
  { session := Delivery.init cfg.maxLegs cfg.maxReorderFrames
    inflight := 0
    tx := .acquiring
    releasing := []
    graceful := false
    done := false }

inductive TxAct where
  | acquire
  | acquireBlocked
  | acquireAbort
  | read (chunk : List UInt8) (readErr gated : Bool)
  | awaitReleased
  | awaitRefused
  | add (now : Time)
  | enqueued
  | enqueueError
deriving DecidableEq

inductive Act where
  | tx (a : TxAct)
  /-- A leg reader runs `handleAck` up to `releaseInflight`. -/
  | readAck (i : Nat) (now : Time)
  /-- One iteration of `releaseInflight` in the `k`-th ACK handler. -/
  | release (k : Nat)
  | startGracefulClose
  | fail
  /-- Anything else either endpoint or the network does. -/
  | session (a : Delivery.Act)
deriving DecidableEq

/-- `StartGracefulClose` as far as the transmit loop sees it. -/
def startGracefulClose (s : State) : State :=
  { s with graceful := s.graceful || !s.done }

/-- The end of one pass of the transmit loop. -/
def finishPass (s : State) (readErr : Bool) : State :=
  if readErr then startGracefulClose { s with tx := .stopped }
  else { s with tx := .acquiring }

/-- The record enqueued by the transmit loop is no longer local. -/
def finishLocalEnqueue (s : State) (record : Nat) : Option State :=
  (Delivery.step s.session (.sender (.ledgerOp (.finishLocalEnqueue record)))).map
    fun session => { s with session := session }

/-- The transmit loop. -/
def txStep (cfg : Config) (s : State) : TxAct → Option State
  | .acquire =>
    if (s.tx = .acquiring ∨ s.tx = .blocked) ∧ s.inflight < cfg.maxInflightFrames then
      some { s with inflight := s.inflight + 1, tx := .reading }
    else none
  | .acquireBlocked =>
    if s.tx = .acquiring ∧ cfg.maxInflightFrames ≤ s.inflight then
      some { s with tx := .blocked }
    else none
  | .acquireAbort =>
    if s.tx = .blocked ∧ (s.graceful ∨ s.done) then some { s with tx := .stopped } else none
  | .read chunk readErr gated =>
    if s.tx = .reading then
      -- an empty read gives its token back
      if chunk = [] then some (finishPass { s with inflight := s.inflight - 1 } readErr)
      else if gated then some { s with tx := .awaiting chunk readErr }
      else some { s with tx := .adding chunk readErr }
    else none
  | .awaitReleased =>
    match s.tx with
    | .awaiting chunk readErr => some { s with tx := .adding chunk readErr }
    | _ => none
  | .awaitRefused =>
    match s.tx with
    | .awaiting _ _ =>
      if s.graceful ∨ s.done then
        some { s with inflight := s.inflight - 1, tx := .stopped }
      else none
    | _ => none
  | .add now =>
    match s.tx with
    | .adding chunk readErr =>
      (Delivery.step s.session (.sender (.add chunk now true))).map fun session =>
        { s with
          session := session
          tx := .enqueueing s.session.ledger.nextSequence readErr }
    | _ => none
  | .enqueued =>
    match s.tx with
    | .enqueueing record readErr => (finishLocalEnqueue s record).map fun s => finishPass s readErr
    | _ => none
  | .enqueueError =>
    match s.tx with
    | .enqueueing record _ =>
      (finishLocalEnqueue s record).map fun s => { s with tx := .stopped, done := true }
    | _ => none

/-- Steps of the session that have an action of their own here. -/
def isOwnAct : Delivery.Act → Bool
  | .sender (.add _ _ _) => true
  | .sender (.readAck _ _) => true
  | _ => false

def step (cfg : Config) (s : State) : Act → Option State
  | .tx a => txStep cfg s a
  | .readAck i now =>
    match s.session.ackNet[i]? with
    | some (_, next) =>
      (Delivery.step s.session (.sender (.readAck i now))).map fun session =>
        { s with
          session := session
          releasing :=
            s.releasing ++ [(s.session.ledger.applyACK next now).2.released] }
    | none => none
  | .release k =>
    match s.releasing[k]? with
    | some (n + 1) =>
      -- an empty channel ends the loop
      if s.inflight = 0 then some { s with releasing := s.releasing.eraseIdx k }
      else some { s with inflight := s.inflight - 1, releasing := s.releasing.set k n }
    | some 0 => some { s with releasing := s.releasing.eraseIdx k }
    | none => none
  | .startGracefulClose => some (startGracefulClose s)
  | .fail => some { s with done := true }
  | .session a =>
    if isOwnAct a then none
    else (Delivery.step s.session a).map fun session => { s with session := session }

section Ledger

variable {l : StreamTXLedger}

theorem length_outstanding (hwf : l.WellFormed) :
    l.outstanding.length = l.nextSequence - l.ackedNext := by
  have hperm : l.outstanding.Perm
      (List.range' l.ackedNext (l.nextSequence - l.ackedNext)) := by
    rw [perm_ext_iff_of_nodup hwf.nodup nodup_range']
    intro seq
    have := hwf.acked_le
    rw [hwf.mem_iff, mem_range'_1]
    omega
  rw [hperm.length_eq, length_range']

theorem length_applyACK_add_released (hwf : l.WellFormed) (next : Nat) (now : Time) :
    (l.applyACK next now).1.outstanding.length + (l.applyACK next now).2.released =
      l.outstanding.length := by
  rw [length_outstanding hwf, length_outstanding (hwf.applyACK next now)]
  rcases applyACK_spec now l next with ⟨hstale, hsame⟩ | ⟨hlt, hle, hnext, hacked, _⟩
  · have hzero : (l.applyACK next now).2.released = 0 := by
      unfold applyACK
      dsimp only
      rw [ensureLocked_nextSequence, ensureLocked_ackedNext]
      by_cases hfuture : l.nextSequence < next
      · rw [if_pos hfuture]
      · rw [if_neg hfuture, if_pos (by omega)]
    rw [hzero, hsame.next, hsame.acked]
    rfl
  · rw [applyACK_released hwf now hlt hle, hnext, hacked]
    omega

theorem length_outstanding_add (hwf : l.WellFormed) (payload : List UInt8) (now : Time)
    (isLocal : Bool) :
    (l.add payload now isLocal).1.outstanding.length = l.outstanding.length + 1 := by
  have hle := hwf.acked_le
  rw [length_outstanding hwf, length_outstanding (hwf.add payload now isLocal)]
  simp only [StreamTXLedger.add, ensureLocked_ackedNext, ensureLocked_nextSequence]
  omega

end Ledger

section Session

variable {x x' : Delivery.State}

theorem senderStep_sameStream {a : Delivery.SenderAct} (hown : isOwnAct (.sender a) = false)
    (hs : Delivery.senderStep x a = some x') : SameStream x.ledger x'.ledger := by
  cases a with
  | add payload now isLocal | readAck i now =>
    cases hown
  | tryQueue leg record now =>
    simp only [Delivery.senderStep, bind_eq_bind, bind_eq_some_iff,
      Option.some.injEq] at hs
    obtain ⟨l, hl, rfl⟩ := hs
    have hsame := markTransit_sameStream x.ledger record leg now
    rw [hl] at hsame
    exact hsame
  | tryQueueRescue leg record now =>
    simp only [Delivery.senderStep, bind_eq_bind, bind_eq_some_iff,
      Option.some.injEq] at hs
    obtain ⟨l, hl, rfl⟩ := hs
    have hsame := markRescueTransit_sameStream x.ledger record leg now
    rw [hl] at hsame
    exact hsame.trans (markRescueQueued_sameStream l record leg now)
  | pick leg rescue | write leg =>
    simp only [Delivery.senderStep] at hs
    split at hs <;> cases hs
    exact SameStream.refl x.ledger
  | writeError leg =>
    simp only [Delivery.senderStep] at hs
    split at hs
    · next attempt _ =>
      cases hs
      exact clearAttemptAt_sameStream x.ledger attempt.record leg attempt.rescue
        attempt.started
    · cases hs
  | markAttemptSent leg now =>
    simp only [Delivery.senderStep] at hs
    split at hs
    · next attempt _ =>
      cases hs
      exact markAttemptSent_sameStream x.ledger attempt.record leg attempt.rescue now
    · cases hs
  | legFailure leg =>
    cases hs
    exact invalidateLeg_sameStream x.ledger leg
  | ledgerOp op =>
    simp only [Delivery.senderStep] at hs
    split at hs
    · cases hs
    · next hop =>
      cases hs
      refine applyOp_sameStream x.ledger op ?_ ?_
      · rintro payload now isLocal rfl
        exact hop rfl
      · rintro next now rfl
        exact hop rfl

theorem networkStep_fields {a : Delivery.NetworkAct} (hs : Delivery.networkStep x a = some x') :
    x'.ledger = x.ledger ∧ x'.window = x.window := by
  cases a with
  | duplicateData i | duplicateAck i =>
    simp only [Delivery.networkStep] at hs
    split at hs <;> cases hs
    exact ⟨rfl, rfl⟩
  | loseData i | loseAck i | loseLeg leg =>
    cases hs
    exact ⟨rfl, rfl⟩

theorem receiverStep_fields {a : Delivery.ReceiverAct}
    (hs : Delivery.receiverStep x a = some x') :
    x'.ledger = x.ledger ∧
      (x'.window = x.window ∨
        (∃ frame now d, x.window.insert frame now = .ok (x'.window, d)) ∨
        ∃ frame now, x.rx = .writing frame [] ∧
          (((x.window.commitReady now).popContiguous = none ∧
              x'.window = x.window.commitReady now) ∨
            ∃ next, (x.window.commitReady now).popContiguous = some (x'.window, next))) := by
  cases a with
  | rxTake now =>
    simp only [Delivery.receiverStep] at hs
    split at hs
    · next frame rest _ _ =>
      split at hs
      · cases hs
        exact ⟨rfl, .inl rfl⟩
      · next hinsert =>
        cases hs
        exact ⟨rfl, .inr (.inl ⟨frame, now, _, hinsert⟩)⟩
      · next hinsert =>
        cases hs
        exact ⟨rfl, .inr (.inl ⟨frame, now, _, hinsert⟩)⟩
      · next hinsert =>
        cases hs
        exact ⟨rfl, .inr (.inl ⟨frame, now, _, hinsert⟩)⟩
    · cases hs
  | rxCommit now =>
    simp only [Delivery.receiverStep] at hs
    split at hs
    · next frame hwriting =>
      split at hs
      · next window next hpop =>
        cases hs
        exact ⟨rfl, .inr (.inr ⟨frame, now, hwriting, .inr ⟨next, hpop⟩⟩)⟩
      · next hpop =>
        cases hs
        exact ⟨rfl, .inr (.inr ⟨frame, now, hwriting, .inl ⟨hpop, rfl⟩⟩)⟩
    · cases hs
  | readData i | rxWriteError n | rxRequestAck | rxStop | ackSendDone =>
    simp only [Delivery.receiverStep] at hs
    split at hs <;> cases hs
    exact ⟨rfl, .inl rfl⟩
  | rxWrite n | queueAck isOpen =>
    simp only [Delivery.receiverStep] at hs
    split at hs
    · split at hs
      all_goals cases hs
      all_goals exact ⟨rfl, .inl rfl⟩
    · cases hs
  | ackLoad legs =>
    simp only [Delivery.receiverStep] at hs
    split at hs
    · cases hs
    · split at hs
      all_goals cases hs
      all_goals exact ⟨rfl, .inl rfl⟩
  | writePendingAck leg =>
    simp only [Delivery.receiverStep] at hs
    split at hs
    all_goals cases hs
    all_goals exact ⟨rfl, .inl rfl⟩
  | attachLeg leg =>
    cases hs
    exact ⟨rfl, .inl rfl⟩

theorem session_sameStream {a : Delivery.Act} (hown : isOwnAct a = false)
    (hs : Delivery.step x a = some x') : SameStream x.ledger x'.ledger := by
  cases a with
  | sender a => exact senderStep_sameStream hown hs
  | network a =>
    rw [(networkStep_fields hs).1]
    exact SameStream.refl x.ledger
  | receiver a =>
    rw [(receiverStep_fields hs).1]
    exact SameStream.refl x.ledger

end Session

section Tokens

variable {cfg : Config} {s s' : State}

/-- Where every token is, and how many there can be. -/
structure Tokens (cfg : Config) (s : State) : Prop where
  accounted : s.inflight =
    s.session.ledger.outstanding.length + s.tx.held + s.releasing.sum
  capacity : s.inflight ≤ cfg.maxInflightFrames

theorem tokens_init (cfg : Config) : Tokens cfg (init cfg) :=
  ⟨rfl, Nat.zero_le _⟩

theorem Tokens.withSession {a : Delivery.Act} {x : Delivery.State} (h : Tokens cfg s)
    (hown : isOwnAct a = false) (hs : Delivery.step s.session a = some x) :
    Tokens cfg { s with session := x } := by
  refine ⟨?_, h.capacity⟩
  rw [h.accounted, (session_sameStream hown hs).outstanding]

theorem Tokens.withTx {tx : TxLoop} {graceful done : Bool} (h : Tokens cfg s)
    (hheld : tx.held = s.tx.held) :
    Tokens cfg { s with tx := tx, graceful := graceful, done := done } := by
  refine ⟨?_, h.capacity⟩
  rw [h.accounted, hheld]

theorem Tokens.giveBack {tx : TxLoop} {graceful : Bool} (h : Tokens cfg s) (hheld : s.tx.held = 1)
    (hfree : tx.held = 0) :
    Tokens cfg { s with inflight := s.inflight - 1, tx := tx, graceful := graceful } := by
  obtain ⟨haccounted, hcapacity⟩ := h
  refine ⟨?_, ?_⟩
  · dsimp only
    omega
  · dsimp only
    omega

theorem tokens_finishLocalEnqueue {record : Nat} (h : Tokens cfg s)
    (hs : finishLocalEnqueue s record = some s') : Tokens cfg s' ∧ s'.tx = s.tx := by
  obtain ⟨x, hx, rfl⟩ := map_eq_some_iff.1 hs
  exact ⟨h.withSession rfl hx, rfl⟩

theorem tokens_txStep {a : TxAct} (hwf : s.session.ledger.WellFormed) (h : Tokens cfg s)
    (hs : txStep cfg s a = some s') : Tokens cfg s' := by
  cases a with
  | acquire =>
    simp only [txStep] at hs
    split at hs
    · next hguard =>
      cases hs
      obtain ⟨haccounted, hcapacity⟩ := h
      have hfree : s.tx.held = 0 := by rcases hguard.1 with htx | htx <;> rw [htx] <;> rfl
      refine ⟨?_, hguard.2⟩
      simp only [TxLoop.held]
      omega
    · cases hs
  | acquireBlocked | acquireAbort =>
    simp only [txStep] at hs
    split at hs
    · next hguard =>
      cases hs
      exact h.withTx (by rw [hguard.1]; rfl)
    · cases hs
  | read chunk readErr gated =>
    simp only [txStep] at hs
    split at hs
    · next hreading =>
      have hheld : s.tx.held = 1 := by rw [hreading]; rfl
      split at hs
      · cases hs
        unfold finishPass
        split <;> exact h.giveBack hheld rfl
      · split at hs <;> cases hs <;> exact h.withTx hheld.symm
    · cases hs
  | awaitReleased =>
    simp only [txStep] at hs
    split at hs
    · next htx =>
      cases hs
      exact h.withTx (by rw [htx]; rfl)
    · cases hs
  | awaitRefused =>
    simp only [txStep] at hs
    split at hs
    · next htx =>
      split at hs <;> cases hs
      exact h.giveBack (by rw [htx]; rfl) rfl
    · cases hs
  | add now =>
    simp only [txStep] at hs
    split at hs
    · next chunk readErr htx =>
      cases hs
      -- the token of the chunk becomes the token of the record
      obtain ⟨haccounted, hcapacity⟩ := h
      refine ⟨?_, hcapacity⟩
      simp only [htx, TxLoop.held] at haccounted
      simp only [TxLoop.held, length_outstanding_add hwf]
      omega
    · cases hs
  | enqueued =>
    simp only [txStep] at hs
    split at hs
    · next record readErr htx =>
      obtain ⟨t, ht, rfl⟩ := map_eq_some_iff.1 hs
      obtain ⟨htokens, hsame⟩ := tokens_finishLocalEnqueue h ht
      have hfree : 0 = t.tx.held := by rw [hsame, htx]; rfl
      unfold finishPass
      split <;> exact htokens.withTx hfree
    · cases hs
  | enqueueError =>
    simp only [txStep] at hs
    split at hs
    · next record readErr htx =>
      obtain ⟨t, ht, rfl⟩ := map_eq_some_iff.1 hs
      obtain ⟨htokens, hsame⟩ := tokens_finishLocalEnqueue h ht
      exact htokens.withTx (by rw [hsame, htx]; rfl)
    · cases hs

theorem tokens_release {k : Nat} (h : Tokens cfg s) (hs : step cfg s (.release k) = some s') :
    Tokens cfg s' := by
  obtain ⟨haccounted, hcapacity⟩ := h
  simp only [step] at hs
  split at hs
  · next n hget =>
    obtain ⟨hlt, hn⟩ := List.getElem?_eq_some_iff.1 hget
    have hold := (getElem_cons_eraseIdx_perm hlt).sum_nat
    have hnew := (set_perm_cons_eraseIdx hlt n).sum_nat
    rw [sum_cons, hn] at hold
    rw [sum_cons] at hnew
    split at hs
    · omega
    · cases hs
      refine ⟨?_, ?_⟩
      · dsimp only
        omega
      · dsimp only
        omega
  · next hget =>
    cases hs
    obtain ⟨hlt, hn⟩ := List.getElem?_eq_some_iff.1 hget
    have hold := (getElem_cons_eraseIdx_perm hlt).sum_nat
    rw [sum_cons, hn] at hold
    refine ⟨?_, hcapacity⟩
    dsimp only
    omega
  · cases hs

theorem tokens_readAck {i : Nat} {now : Time} (hwf : s.session.ledger.WellFormed)
    (h : Tokens cfg s) (hs : step cfg s (.readAck i now) = some s') : Tokens cfg s' := by
  obtain ⟨haccounted, hcapacity⟩ := h
  simp only [step] at hs
  split at hs
  · next leg next hget =>
    obtain ⟨x, hx, rfl⟩ := map_eq_some_iff.1 hs
    simp only [Delivery.step, Delivery.senderStep, hget, Option.some.injEq] at hx
    subst hx
    -- what leaves the outstanding map is handed to the handler
    have hmoved := length_applyACK_add_released hwf next now
    refine ⟨?_, hcapacity⟩
    simp only [sum_append, sum_singleton]
    omega
  · cases hs

theorem tokens_step {a : Act} (hwf : s.session.ledger.WellFormed) (h : Tokens cfg s)
    (hs : step cfg s a = some s') : Tokens cfg s' := by
  cases a with
  | tx a => exact tokens_txStep hwf h hs
  | readAck i now => exact tokens_readAck hwf h hs
  | release k => exact tokens_release h hs
  | startGracefulClose | fail =>
    cases hs
    exact h.withTx rfl
  | session a =>
    simp only [step] at hs
    split at hs
    · cases hs
    · next hown =>
      obtain ⟨x, hx, rfl⟩ := map_eq_some_iff.1 hs
      exact h.withSession (by simpa using hown) hx

end Tokens

section Projection

variable {cfg : Config} {s s' : State}

/-- The session takes one of its own steps or stays as it is. -/
def SessionMoves (x x' : Delivery.State) : Prop :=
  x' = x ∨ ∃ a, Delivery.step x a = some x'

theorem sessionMoves_finishPass {x : Delivery.State} {readErr : Bool}
    (h : SessionMoves x s.session) : SessionMoves x (finishPass s readErr).session := by
  unfold finishPass
  split
  · exact h
  · exact h

theorem sessionMoves_txStep {a : TxAct} (hs : txStep cfg s a = some s') :
    SessionMoves s.session s'.session := by
  cases a with
  | acquire | acquireBlocked | acquireAbort | awaitReleased =>
    simp only [txStep] at hs
    split at hs <;> cases hs
    exact .inl rfl
  | read chunk readErr gated =>
    simp only [txStep] at hs
    split at hs
    · split at hs
      · cases hs
        exact sessionMoves_finishPass (.inl rfl)
      · split at hs <;> cases hs <;> exact .inl rfl
    · cases hs
  | awaitRefused =>
    simp only [txStep] at hs
    split at hs
    · split at hs <;> cases hs
      exact .inl rfl
    · cases hs
  | add now =>
    simp only [txStep] at hs
    split at hs
    · obtain ⟨x, hx, rfl⟩ := map_eq_some_iff.1 hs
      exact .inr ⟨_, hx⟩
    · cases hs
  | enqueued =>
    simp only [txStep] at hs
    split at hs
    · obtain ⟨t, ht, rfl⟩ := map_eq_some_iff.1 hs
      obtain ⟨x, hx, rfl⟩ := map_eq_some_iff.1 ht
      exact sessionMoves_finishPass (.inr ⟨_, hx⟩)
    · cases hs
  | enqueueError =>
    simp only [txStep] at hs
    split at hs
    · obtain ⟨t, ht, rfl⟩ := map_eq_some_iff.1 hs
      obtain ⟨x, hx, rfl⟩ := map_eq_some_iff.1 ht
      exact .inr ⟨_, hx⟩
    · cases hs

/-- Flow control only restricts what a session does. -/
theorem sessionMoves_step {a : Act} (hs : step cfg s a = some s') :
    SessionMoves s.session s'.session := by
  cases a with
  | tx a => exact sessionMoves_txStep hs
  | readAck i now =>
    simp only [step] at hs
    split at hs
    · obtain ⟨x, hx, rfl⟩ := map_eq_some_iff.1 hs
      exact .inr ⟨_, hx⟩
    · cases hs
  | release k =>
    simp only [step] at hs
    split at hs
    · split at hs <;> cases hs <;> exact .inl rfl
    · cases hs
      exact .inl rfl
    · cases hs
  | startGracefulClose | fail =>
    cases hs
    exact .inl rfl
  | session a =>
    simp only [step] at hs
    split at hs
    · cases hs
    · obtain ⟨x, hx, rfl⟩ := map_eq_some_iff.1 hs
      exact .inr ⟨a, hx⟩

theorem SessionMoves.preserves {Inv : Delivery.State → Prop} {x x' : Delivery.State}
    (hinv : ∀ x a x', Inv x → Delivery.step x a = some x' → Inv x') (hmoves : SessionMoves x x')
    (h : Inv x) : Inv x' := by
  rcases hmoves with rfl | ⟨a, ha⟩
  · exact h
  · exact hinv x a x' h ha

end Projection

section Window

variable {w w' : StreamRXWindow} {limit : Nat} {now : Time}

/-- The reorder buffer holds distinct sequences above the frontier. -/
structure Buffered (limit : Nat) (w : StreamRXWindow) : Prop where
  above : ∀ f ∈ w.pending, w.expected < f.sequence
  distinct : (w.pending.map StreamRXFrame.sequence).Nodup
  limit : w.maxReorderFrames = limit

theorem not_mem_of_lookup_eq_none {seq : Nat} (h : w.lookup seq = none) :
    seq ∉ w.pending.map StreamRXFrame.sequence := by
  intro hm
  obtain ⟨f, hf, hseq⟩ := mem_map.1 hm
  have hne := find?_eq_none.1 h f hf
  simp [hseq] at hne

theorem Buffered.insert {frame : StreamRXFrame} {d : StreamRXDisposition} (h : Buffered limit w)
    (hinsert : w.insert frame now = .ok (w', d)) : Buffered limit w' := by
  unfold StreamRXWindow.insert at hinsert
  split_ifs at hinsert with hold heq hdup hfull
  · cases hinsert
    exact h
  · cases hinsert
    exact ⟨h.above, h.distinct, h.limit⟩
  · cases hinsert
    exact h
  · cases hinsert
    have hfresh := not_mem_of_lookup_eq_none (not_isSome_iff_eq_none.1 hdup)
    refine ⟨fun f hf => ?_, ?_, by simpa using h.limit⟩
    · simp only [StreamRXWindow.refreshGap_pending, StreamRXWindow.refreshGap_expected]
        at hf ⊢
      rcases mem_append.1 hf with hf | hf
      · exact h.above f hf
      · rw [mem_singleton.1 hf]
        omega
    · simp only [StreamRXWindow.refreshGap_pending, map_append, map_cons,
        map_nil]
      exact nodup_append_comm.1 (nodup_cons.2 ⟨hfresh, h.distinct⟩)

theorem Buffered.commitReady (h : Buffered limit w) (hready : w.readyPending = true) (now : Time) :
    (∀ f ∈ (w.commitReady now).pending, (w.commitReady now).expected ≤ f.sequence) ∧
      (w.commitReady now).maxReorderFrames = limit := by
  refine ⟨fun f hf => ?_, by simpa using h.limit⟩
  rw [StreamRXWindow.commitReady_pending] at hf
  rw [(StreamRXWindow.commitReady_of_ready w now hready).1]
  exact h.above f hf

theorem Buffered.commit_none (h : Buffered limit w) (hready : w.readyPending = true)
    (hpop : (w.commitReady now).popContiguous = none) : Buffered limit (w.commitReady now) := by
  obtain ⟨hle, hlimit⟩ := h.commitReady hready now
  have hcleared := (StreamRXWindow.commitReady_of_ready w now hready).2
  have hnone : (w.commitReady now).lookup (w.commitReady now).expected = none := by
    unfold StreamRXWindow.popContiguous at hpop
    rw [if_neg (by simp [hcleared])] at hpop
    split at hpop
    · next hlookup =>
      exact hlookup
    · cases hpop
  have hfresh := not_mem_of_lookup_eq_none hnone
  refine ⟨fun f hf => ?_, by simpa using h.distinct, hlimit⟩
  have hne : f.sequence ≠ (w.commitReady now).expected := by
    intro heq
    exact hfresh (heq ▸ mem_map_of_mem hf)
  have := hle f hf
  omega

theorem Buffered.commit_some {frame : StreamRXFrame} (h : Buffered limit w)
    (hready : w.readyPending = true) (hpop : (w.commitReady now).popContiguous = some (w', frame)) :
    Buffered limit w' := by
  obtain ⟨hle, hlimit⟩ := h.commitReady hready now
  unfold StreamRXWindow.popContiguous at hpop
  split at hpop
  · cases hpop
  · split at hpop
    · cases hpop
    · simp only [Option.some.injEq, Prod.mk.injEq] at hpop
      obtain ⟨rfl, _⟩ := hpop
      refine ⟨fun f hf => ?_, ?_, hlimit⟩
      · obtain ⟨hm, hne⟩ := mem_filter.1 hf
        have := hle f hm
        simp only [ne_eq, decide_eq_true_eq] at hne
        dsimp only
        omega
      · refine List.Nodup.sublist (filter_sublist.map _) ?_
        simpa using h.distinct

theorem buffered_step {x x' : Delivery.State} {a : Delivery.Act} (hinv : Delivery.Inv x)
    (h : Buffered limit x.window) (hs : Delivery.step x a = some x') :
    Buffered limit x'.window := by
  cases a with
  | sender a =>
    rw [(Delivery.senderStep_effect hs).frame]
    exact h
  | network a =>
    rw [(networkStep_fields hs).2]
    exact h
  | receiver a =>
    rcases (receiverStep_fields hs).2 with hsame | ⟨frame, now, d, hinsert⟩ |
      ⟨frame, now, hwriting, hcommit⟩
    · rw [hsame]
      exact h
    · exact h.insert hinsert
    · have hloop := hinv.receiver.loop
      unfold Delivery.RxLoopOk at hloop
      rw [hwriting] at hloop
      rcases hcommit with ⟨hpop, hw⟩ | ⟨next, hpop⟩
      · rw [hw]
        exact h.commit_none hloop.1 hpop
      · exact h.commit_some hloop.1 hpop

theorem length_le_of_between {seqs : List Nat} {lo hi : Nat} (hnodup : seqs.Nodup)
    (hbetween : ∀ seq ∈ seqs, lo < seq ∧ seq < hi) : seqs.length ≤ hi - lo - 1 := by
  have hsubset : seqs ⊆ List.range' (lo + 1) (hi - lo - 1) := by
    intro seq hseq
    have := hbetween seq hseq
    rw [mem_range'_1]
    omega
  have hle := (subperm_of_subset hnodup hsubset).length_le
  rwa [length_range'] at hle

theorem insert_fits {frame : StreamRXFrame} {next : Nat} (h : Buffered limit w)
    (hpending : ∀ f ∈ w.pending, f.sequence < next) (hframe : frame.sequence < next)
    (hroom : next ≤ w.expected + limit + 1) : w.insert frame now ≠ .error .reorderLimit := by
  intro herror
  unfold StreamRXWindow.insert at herror
  split_ifs at herror with hold heq hdup hfull
  -- the buffered frames and the new one are distinct and lie above the frontier
  have hfresh := not_mem_of_lookup_eq_none (not_isSome_iff_eq_none.1 hdup)
  have hlen := @length_le_of_between
    (frame.sequence :: w.pending.map StreamRXFrame.sequence) w.expected next
    (nodup_cons.2 ⟨hfresh, h.distinct⟩) (by
      intro seq hseq
      rcases mem_cons.1 hseq with rfl | hseq
      · exact ⟨by omega, hframe⟩
      · obtain ⟨f, hf, rfl⟩ := mem_map.1 hseq
        exact ⟨h.above f hf, hpending f hf⟩)
  rw [length_cons, length_map] at hlen
  rw [h.limit] at hfull
  omega

end Window

section Main

variable {cfg : Config} {s s' : State}

/-- The invariant of a session under flow control. -/
structure Inv (cfg : Config) (s : State) : Prop where
  session : Delivery.Inv s.session
  tokens : Tokens cfg s
  window : Buffered cfg.maxReorderFrames s.session.window

theorem inv_init (cfg : Config) : Inv cfg (init cfg) where
  session := Delivery.inv_init cfg.maxLegs cfg.maxReorderFrames
  tokens := tokens_init cfg
  window := ⟨nofun, nodup_nil, rfl⟩

theorem inv_step {a : Act} (h : Inv cfg s) (hs : step cfg s a = some s') : Inv cfg s' := by
  have hmoves := sessionMoves_step hs
  have hboth := @SessionMoves.preserves
    (fun x => Delivery.Inv x ∧ Buffered cfg.maxReorderFrames x.window) _ _
    (fun x a x' hx hx' => ⟨Delivery.inv_step hx.1 hx', buffered_step hx.1 hx.2 hx'⟩)
    hmoves ⟨h.session, h.window⟩
  exact ⟨hboth.1, tokens_step h.session.sender.wf h.tokens hs, hboth.2⟩

theorem inv_of_reachable (hreach : Reachable (step cfg) (init cfg) s) : Inv cfg s :=
  hreach.invariant (inv_init cfg) fun _ _ _ hinv hs => inv_step hinv hs

theorem Inv.outstanding_le (h : Inv cfg s) :
    s.session.ledger.outstanding.length ≤ cfg.maxInflightFrames := by
  have haccounted := h.tokens.accounted
  have hcapacity := h.tokens.capacity
  omega

/-- Tokens are accounted for in every state, and they keep `Insert` from failing. -/
theorem tokens_prevent_reorder_overflow (cfg : Config) (s : State)
    (hreach : Reachable (step cfg) (init cfg) s) :
    s.inflight = s.session.ledger.outstanding.length + s.tx.held + s.releasing.sum ∧
      s.session.ledger.outstanding.length ≤ cfg.maxInflightFrames ∧
      (cfg.maxInflightFrames ≤ cfg.maxReorderFrames + 1 →
        ∀ frame rest now, s.session.rx = .idle → s.session.incoming = frame :: rest →
          s.session.window.insert frame now ≠ .error .reorderLimit) := by
  have h := inv_of_reachable hreach
  refine ⟨h.tokens.accounted, h.outstanding_le, fun hlimits frame rest now _ hincoming => ?_⟩
  have hframe := h.session.frames.incoming frame (by rw [hincoming]; exact mem_cons_self)
  refine insert_fits h.window (fun f hf => (h.session.frames.pending f hf).1) hframe.1 ?_
  -- at most `MaxInflightFrames` sequences lie between the frontier and the next one
  have hout := h.outstanding_le
  rw [length_outstanding h.session.sender.wf] at hout
  have hacked := h.session.acks.ackedNext
  omega

/-- The tightest limits for three records. -/
def tightConfig : Config :=
  { maxLegs := 1, maxInflightFrames := 3, maxReorderFrames := 2 }

/-- One chunk goes through the transmit loop and is written on leg 0. -/
def sendChunk (seq : Nat) (now : Time) : List Act :=
  [.tx .acquire, .tx (.read [7] false false), .tx (.add now),
    .session (.sender (.tryQueue 0 seq now)), .tx .enqueued,
    .session (.sender (.pick 0 false)), .session (.sender (.write 0)),
    .session (.sender (.markAttemptSent 0 now))]

/-- Three chunks are sent and the last two arrive in reverse order. -/
def reversedRun : List Act :=
  sendChunk 0 1 ++ sendChunk 1 2 ++ sendChunk 2 3 ++
    [.tx .acquireBlocked, .session (.receiver (.readData 2)),
      .session (.receiver (.readData 1)), .session (.receiver (.rxTake 4))]

theorem reversedRun_buffers :
    (runActs (step tightConfig) (init tightConfig) reversedRun).any (fun s =>
      s.inflight = 3 ∧ s.session.rx = .idle ∧ s.session.window.pending = [⟨2, 0, [7]⟩] ∧
        s.session.incoming = [⟨1, 0, [7]⟩]) = true := by
  decide +kernel

theorem tokens_prevent_overflow_reversedRun :
    ∃ s, runActs (step tightConfig) (init tightConfig) reversedRun = some s ∧
      s.session.ledger.outstanding.length ≤ 3 ∧
      s.session.window.insert ⟨1, 0, [7]⟩ 5 ≠ .error .reorderLimit := by
  obtain ⟨s, hrun, hs⟩ := (Option.any_eq_true ..).1 reversedRun_buffers
  simp only [decide_eq_true_eq] at hs
  obtain ⟨_, hidle, _, hincoming⟩ := hs
  obtain ⟨_, hout, hfits⟩ := tokens_prevent_reorder_overflow tightConfig s ⟨reversedRun, hrun⟩
  exact ⟨s, hrun, hout, hfits (by decide) ⟨1, 0, [7]⟩ [] 5 hidle hincoming⟩

end Main

end Smp3Multipath.Core.FlowControl

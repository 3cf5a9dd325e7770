import Smp3Multipath.Core.DrainSteps

/-!
# Agreement on a drain

Why a leg is retired only by agreement: every flag of an operation and every
frame on its way is backed by something an endpoint has done and logged.  A
READY frame is backed by the sender's own `drainReady`, a Commit by the READY
frames of both endpoints, a CommitAck by the acceptance of a Commit.  The logs
only grow, so what backs a frame when it is made still backs it when it is read.
-/

namespace Smp3Multipath.Core.Drain

open Lib.Run Carrier Function List

/-- The endpoint found its side of the target settled and said so in a READY frame with
nothing outstanding. -/
def DeclaredReady (log : List Event) (key : Key) : Prop :=
  .localReady key ∈ log ∧ .readyWritten key 0 0 ∈ log

/-- The responder accepted a Commit; to an initiator the responder is the peer. -/
def Accepted (mine peer : List Event) (initiator : Bool) (key : Key) : Prop :=
  .commitAccepted key ∈ if initiator then peer else mine

/-- What backs a message of this kind by an endpoint with log `mine`. -/
structure KindOk (mine peer : List Event) (key : Key) (kind : StreamDrainMessageKind) : Prop where
  ready : kind = .ready → .localReady key ∈ mine
  commit : kind = .commit → DeclaredReady mine key ∧ DeclaredReady peer key
  commitAck : kind = .commitAck → .commitAccepted key ∈ mine

/-- What backs a message. -/
abbrev MessageOk (mine peer : List Event) (m : StreamDrainMessage) : Prop :=
  KindOk mine peer m.key m.kind

/-- What a written frame has put on record. -/
structure WrittenOk (mine : List Event) (m : StreamDrainMessage) : Prop where
  ready : m.kind = .ready → DeclaredReady mine m.key
  commitAck : m.kind = .commitAck → .commitAckWritten m.key ∈ mine

/-- A queued control frame encodes, is backed, and a good result means it was written. -/
structure TicketOk (mine peer : List Event) (x : Ticket) : Prop where
  valid : validStreamDrainMessage x.message = true
  message : MessageOk mine peer x.message
  written : x.result = some true → WrittenOk mine x.message

/-- A `sendDrainMessage` call for the operation with this key. -/
structure SendOk
    (mine peer : List Event) (tickets : List Ticket) (key : Key) (send : Send) : Prop where
  message : MessageOk mine peer send.message
  key_eq : send.message.key = key
  ticket : ∀ ref t, send.waiting = some (ref, t) →
    ∃ result, tickets[t]? = some ⟨send.message, result⟩

/-- What the continuation of a `sendDrainMessage` call relies on. -/
def AfterOk (op : StreamDrainOperation) (kind : StreamDrainMessageKind) : After → Prop
  | .ready _ => kind = .ready
  | .response kind' commit => kind = kind' ∧ (commit = true → op.commitRequested = true)
  | _ => True

/-- What the position of an operation's goroutine relies on. -/
def PositionOk
    (mine peer : List Event) (tickets : List Ticket) (op : StreamDrainOperation) :
    Position → Prop
  | .polled _ => op.localReady = true
  | .decided kind commit =>
    (kind = .ready → op.localReady = true) ∧ (kind = .commitAck → op.commitRequested = true) ∧
      kind ≠ .commit ∧ (commit = true → op.commitRequested = true)
  | .retireCheck commit => commit = true → op.commitRequested = true
  | .retiring caller =>
    op.initiator = decide (caller ≠ .responder) ∧ Accepted mine peer op.initiator op.key
  | .start kind after => KindOk mine peer op.key kind ∧ AfterOk op kind after
  | .sending send after => SendOk mine peer tickets op.key send ∧ AfterOk op send.message.kind after
  | .finishing none => Accepted mine peer op.initiator op.key
  | _ => True

/-- What backs the flags of an operation. -/
structure OpOk
    (mine peer : List Event) (tickets : List Ticket) (op : StreamDrainOperation) : Prop where
  localReady : op.localReady = true → .localReady op.key ∈ mine
  readySent : op.readySent = true → DeclaredReady mine op.key
  peerReady : op.peerReady = true → DeclaredReady peer op.key
  commitRequested : op.commitRequested = true →
    op.initiator = false ∧ .commitAccepted op.key ∈ mine
  commitAck : op.commitAck = true → op.initiator = true ∧ .commitAccepted op.key ∈ peer
  lastKind : op.lastKind = some .commitAck → .commitAckWritten op.key ∈ mine
  position : PositionOk mine peer tickets op op.position

/-- What backs an event. -/
def EventOk (mine peer : List Event) : Event → Prop
  | .commitAccepted key => DeclaredReady mine key ∧ DeclaredReady peer key
  | .retired key initiator => Accepted mine peer initiator key
  | .returnedNil key => Accepted mine peer true key
  | _ => True

/-- Everything an endpoint holds is backed by its own log and its peer's. -/
structure EndpointOk {κ : Type} (peer : List Event) (e : Endpoint κ) : Prop where
  ops : ∀ id op, e.drainOps id = some op → OpOk e.log peer e.tickets op
  tickets : ∀ x ∈ e.tickets, TicketOk e.log peer x
  sent : ∀ p ∈ e.sent, MessageOk e.log peer p.2 ∧ WrittenOk e.log p.2
  readers : ∀ ref send, e.reader ref = .refusing send →
    ∃ key, SendOk e.log peer e.tickets key send
  events : ∀ event ∈ e.log, EventOk e.log peer event

section Mono

variable {mine mine' peer peer' : List Event} {tickets tickets' : List Ticket}

theorem DeclaredReady.mono {key : Key} (h : DeclaredReady mine key) (hsub : mine ⊆ mine') :
    DeclaredReady mine' key :=
  ⟨hsub h.1, hsub h.2⟩

theorem Accepted.mono {initiator : Bool} {key : Key} (h : Accepted mine peer initiator key)
    (hmine : mine ⊆ mine') (hpeer : peer ⊆ peer') : Accepted mine' peer' initiator key := by
  cases initiator with
  | false => exact hmine h
  | true => exact hpeer h

theorem KindOk.mono {key : Key} {kind : StreamDrainMessageKind} (h : KindOk mine peer key kind)
    (hmine : mine ⊆ mine') (hpeer : peer ⊆ peer') : KindOk mine' peer' key kind where
  ready hk := hmine (h.ready hk)
  commit hk := ⟨(h.commit hk).1.mono hmine, (h.commit hk).2.mono hpeer⟩
  commitAck hk := hmine (h.commitAck hk)

theorem WrittenOk.mono {m : StreamDrainMessage} (h : WrittenOk mine m) (hmine : mine ⊆ mine') :
    WrittenOk mine' m where
  ready hk := (h.ready hk).mono hmine
  commitAck hk := hmine (h.commitAck hk)

theorem TicketOk.mono {x : Ticket} (h : TicketOk mine peer x) (hmine : mine ⊆ mine')
    (hpeer : peer ⊆ peer') : TicketOk mine' peer' x where
  valid := h.valid
  message := h.message.mono hmine hpeer
  written hr := (h.written hr).mono hmine

/-- Tickets are only added and answered. -/
def TicketsGrow (tickets tickets' : List Ticket) : Prop :=
  ∀ (t : Nat) (m : StreamDrainMessage) (result : Option Bool),
    tickets[t]? = some ⟨m, result⟩ → ∃ result', tickets'[t]? = some ⟨m, result'⟩

theorem TicketsGrow.refl (tickets : List Ticket) : TicketsGrow tickets tickets :=
  fun _ _ result h => ⟨result, h⟩

theorem SendOk.mono {key : Key} {send : Send} (h : SendOk mine peer tickets key send)
    (hmine : mine ⊆ mine') (hpeer : peer ⊆ peer') (htickets : TicketsGrow tickets tickets') :
    SendOk mine' peer' tickets' key send where
  message := h.message.mono hmine hpeer
  key_eq := h.key_eq
  ticket ref t hw := by
    obtain ⟨result, hget⟩ := h.ticket ref t hw
    exact htickets t send.message result hget

theorem PositionOk.mono {op : StreamDrainOperation} {position : Position}
    (h : PositionOk mine peer tickets op position) (hmine : mine ⊆ mine') (hpeer : peer ⊆ peer')
    (htickets : TicketsGrow tickets tickets') : PositionOk mine' peer' tickets' op position := by
  cases position with
  | sending send after => exact ⟨h.1.mono hmine hpeer htickets, h.2⟩
  | start kind after => exact ⟨h.1.mono hmine hpeer, h.2⟩
  | retiring caller => exact ⟨h.1, h.2.mono hmine hpeer⟩
  | finishing err =>
    cases err with
    | none => exact Accepted.mono h hmine hpeer
    | some err => trivial
  | polled snapshot | decided kind commit | retireCheck commit => exact h
  | top | ackFirst | checkTarget | poll | seenReady | commitCheck snapshot | ackSecond
  | select commitAck commitSent | aborting err restore | abortFinal err restore
  | recovering err => trivial

theorem OpOk.mono {op : StreamDrainOperation} (h : OpOk mine peer tickets op)
    (hmine : mine ⊆ mine') (hpeer : peer ⊆ peer') (htickets : TicketsGrow tickets tickets') :
    OpOk mine' peer' tickets' op where
  localReady hf := hmine (h.localReady hf)
  readySent hf := (h.readySent hf).mono hmine
  peerReady hf := (h.peerReady hf).mono hpeer
  commitRequested hf := ⟨(h.commitRequested hf).1, hmine (h.commitRequested hf).2⟩
  commitAck hf := ⟨(h.commitAck hf).1, hpeer (h.commitAck hf).2⟩
  lastKind hf := hmine (h.lastKind hf)
  position := h.position.mono hmine hpeer htickets

theorem EventOk.mono {event : Event} (h : EventOk mine peer event) (hmine : mine ⊆ mine')
    (hpeer : peer ⊆ peer') : EventOk mine' peer' event := by
  cases event with
  | commitAccepted key => exact ⟨h.1.mono hmine, h.2.mono hpeer⟩
  | retired key initiator | returnedNil key => exact Accepted.mono h hmine hpeer
  | localReady key | readyWritten key frames bytes | commitAckWritten key | carrierLost ref =>
    trivial

theorem OpOk.move {op : StreamDrainOperation} {position : Position}
    (h : OpOk mine peer tickets op) (hposition : PositionOk mine peer tickets op position) :
    OpOk mine peer tickets { op with position := position } :=
  { h with position := hposition }

/-- An operation that has neither sent nor seen anything. -/
theorem opOk_of_fresh {op : StreamDrainOperation} (hlocal : op.localReady = false)
    (hsent : op.readySent = false) (hpeer : op.peerReady = false)
    (hrequested : op.commitRequested = false) (hack : op.commitAck = false)
    (hlast : op.lastKind = none) (hposition : PositionOk mine peer tickets op op.position) :
    OpOk mine peer tickets op where
  localReady h := absurd h (Bool.eq_false_iff.1 hlocal)
  readySent h := absurd h (Bool.eq_false_iff.1 hsent)
  peerReady h := absurd h (Bool.eq_false_iff.1 hpeer)
  commitRequested h := absurd h (Bool.eq_false_iff.1 hrequested)
  commitAck h := absurd h (Bool.eq_false_iff.1 hack)
  lastKind h := by
    rw [hlast] at h
    cases h
  position := hposition

/-- An Intent or an Abort needs no backing. -/
theorem kindOk_of_ne {key : Key} {kind : StreamDrainMessageKind} (hready : kind ≠ .ready)
    (hcommit : kind ≠ .commit) (hack : kind ≠ .commitAck) : KindOk mine peer key kind :=
  ⟨fun h => absurd h hready, fun h => absurd h hcommit, fun h => absurd h hack⟩

theorem AfterOk.congr {kind : StreamDrainMessageKind} {op op' : StreamDrainOperation}
    {after : After} (h : AfterOk op kind after)
    (hcommit : op.commitRequested = true → op'.commitRequested = true) :
    AfterOk op' kind after := by
  cases after with
  | response kind' commit => exact ⟨h.1, fun hc => hcommit (h.2 hc)⟩
  | ready snapshot => exact h
  | intent | commit | timeout | notify err restore => trivial

theorem PositionOk.congr {op op' : StreamDrainOperation} {position : Position}
    (h : PositionOk mine peer tickets op position) (hkey : op'.key = op.key)
    (hinitiator : op'.initiator = op.initiator)
    (hready : op.localReady = true → op'.localReady = true)
    (hcommit : op.commitRequested = true → op'.commitRequested = true) :
    PositionOk mine peer tickets op' position := by
  cases position with
  | polled snapshot => exact hready h
  | decided kind commit =>
    obtain ⟨h1, h2, h3, h4⟩ := h
    exact ⟨fun hk => hready (h1 hk), fun hk => hcommit (h2 hk), h3, fun hc => hcommit (h4 hc)⟩
  | retireCheck commit => exact fun hc => hcommit (h hc)
  | sending send after =>
    obtain ⟨hsend, hafter⟩ := h
    exact ⟨by rw [hkey]; exact hsend, hafter.congr hcommit⟩
  | start kind after =>
    obtain ⟨hkind, hafter⟩ := h
    exact ⟨by rw [hkey]; exact hkind, hafter.congr hcommit⟩
  | retiring caller =>
    simp only [PositionOk] at h ⊢
    rw [hkey, hinitiator]
    exact h
  | finishing err =>
    cases err with
    | none =>
      simp only [PositionOk] at h ⊢
      rw [hkey, hinitiator]
      exact h
    | some err => trivial
  | top | ackFirst | checkTarget | poll | seenReady | commitCheck snapshot | ackSecond
  | select commitAck commitSent | aborting err restore | abortFinal err restore
  | recovering err => trivial

end Mono

section Endpoint

variable {κ : Type} {peer peer' : List Event} {e : Endpoint κ}

/-- What the peer does never takes the backing away. -/
theorem EndpointOk.mono (h : EndpointOk peer e) (hpeer : peer ⊆ peer') : EndpointOk peer' e where
  ops id op hop := (h.ops id op hop).mono (List.Subset.refl _) hpeer (TicketsGrow.refl _)
  tickets x hx := (h.tickets x hx).mono (List.Subset.refl _) hpeer
  sent p hp := ⟨(h.sent p hp).1.mono (List.Subset.refl _) hpeer, (h.sent p hp).2⟩
  readers ref send hr := by
    obtain ⟨key, hs⟩ := h.readers ref send hr
    exact ⟨key, hs.mono (List.Subset.refl _) hpeer (TicketsGrow.refl _)⟩
  events event he := (h.events event he).mono (List.Subset.refl _) hpeer

/-- Nothing that is backed changes. -/
theorem EndpointOk.of_same {e' : Endpoint κ} (h : EndpointOk peer e)
    (hops : e'.drainOps = e.drainOps) (htickets : e'.tickets = e.tickets)
    (hsent : e'.sent = e.sent) (hreader : e'.reader = e.reader) (hlog : e'.log = e.log) :
    EndpointOk peer e' := by
  obtain ⟨h₁, h₂, h₃, h₄, h₅⟩ := h
  rw [← hops, ← htickets, ← hlog] at h₁
  rw [← htickets, ← hlog] at h₂
  rw [← hsent, ← hlog] at h₃
  rw [← hreader, ← htickets, ← hlog] at h₄
  rw [← hlog] at h₅
  exact ⟨h₁, h₂, h₃, h₄, h₅⟩

theorem EndpointOk.setOp {id : LegID} {op : StreamDrainOperation} (h : EndpointOk peer e)
    (hop : OpOk e.log peer e.tickets op) : EndpointOk peer (e.setOp id op) := by
  refine { h with ops := fun id' op' hop' => ?_ }
  simp only [Endpoint.setOp, update_apply] at hop'
  split at hop'
  · cases hop'
    exact hop
  · exact h.ops id' op' hop'

theorem EndpointOk.dropOp {id : LegID} (h : EndpointOk peer e) : EndpointOk peer (e.dropOp id) := by
  refine { h with ops := fun id' op' hop' => ?_ }
  simp only [Endpoint.dropOp, update_apply] at hop'
  split at hop'
  · cases hop'
  · exact h.ops id' op' hop'

/-- Everything the log backs is backed by a longer one. -/
theorem EndpointOk.note {event : Event} (h : EndpointOk peer e)
    (hevent : EventOk e.log peer event) : EndpointOk peer (e.note event) := by
  have hsub : e.log ⊆ e.log ++ [event] := subset_append_left _ _
  have hpeer : peer ⊆ peer := List.Subset.refl _
  constructor
  · exact fun id op hop => (h.ops id op hop).mono hsub hpeer (TicketsGrow.refl _)
  · exact fun x hx => (h.tickets x hx).mono hsub hpeer
  · exact fun p hp => ⟨(h.sent p hp).1.mono hsub hpeer, (h.sent p hp).2.mono hsub⟩
  · intro ref send hr
    obtain ⟨key, hs⟩ := h.readers ref send hr
    exact ⟨key, hs.mono hsub hpeer (TicketsGrow.refl _)⟩
  · intro ev hev
    rcases mem_append.1 hev with hev | hev
    · exact (h.events ev hev).mono hsub hpeer
    · rw [mem_singleton.1 hev]
      exact hevent.mono hsub hpeer

theorem EndpointOk.setReader {ref : Ref} {reader : Reader} (h : EndpointOk peer e)
    (hreader : ∀ send, reader = .refusing send → ∃ key, SendOk e.log peer e.tickets key send) :
    EndpointOk peer { e with reader := update e.reader ref reader } := by
  refine { h with readers := fun ref' send hr => ?_ }
  simp only [update_apply] at hr
  split at hr
  · exact hreader send hr
  · exact h.readers ref' send hr

theorem EndpointOk.setTickets {tickets : List Ticket} {control : Ref → List Nat}
    (h : EndpointOk peer e) (hgrow : TicketsGrow e.tickets tickets)
    (htickets : ∀ x ∈ tickets, x ∈ e.tickets ∨ TicketOk e.log peer x) :
    EndpointOk peer { e with tickets := tickets, control := control } where
  ops id op hop :=
    (h.ops id op hop).mono (List.Subset.refl _) (List.Subset.refl _) hgrow
  tickets x hx := by
    rcases htickets x hx with hx | hx
    · exact h.tickets x hx
    · exact hx
  sent := h.sent
  readers ref send hr := by
    obtain ⟨key, hs⟩ := h.readers ref send hr
    exact ⟨key, hs.mono (List.Subset.refl _) (List.Subset.refl _) hgrow⟩
  events := h.events

theorem ticketsGrow_append (tickets : List Ticket) (x : Ticket) :
    TicketsGrow tickets (tickets ++ [x]) := by
  intro t m result hget
  obtain ⟨hlt, _⟩ := List.getElem?_eq_some_iff.1 hget
  exact ⟨result, by rw [getElem?_append_left hlt, hget]⟩

theorem ticketsGrow_set {tickets : List Ticket} {t : Nat} {x : Ticket} {result : Option Bool}
    (hget : tickets[t]? = some x) :
    TicketsGrow tickets (tickets.set t { x with result := result }) := by
  intro t' m r hget'
  rw [getElem?_set]
  by_cases heq : t = t'
  · subst heq
    rw [hget] at hget'
    cases hget'
    obtain ⟨hlt, _⟩ := List.getElem?_eq_some_iff.1 hget
    exact ⟨result, by rw [if_pos rfl, if_pos hlt]⟩
  · exact ⟨r, by rw [if_neg heq, hget']⟩

end Endpoint

section Sending

variable {κ : Type} {peer : List Event} {e e' : Endpoint κ}

/-- A message that is backed may be sent. -/
theorem sendOk_newSend {mine : List Event} {tickets : List Ticket} {cfg : Config} {role : Role}
    {target : Ref} {key : Key} {kind : StreamDrainMessageKind} (hkind : KindOk mine peer key kind) :
    SendOk mine peer tickets key (e.newSend cfg role target key kind) where
  message := hkind
  key_eq := rfl
  ticket := nofun

/-- The call goes on in the same endpoint but for new tickets, or it ends; a good end means
that its frame was written. -/
theorem sendStep_cases {send : Send} {a : SendAct} {st : SendState} {key : Key}
    (h : EndpointOk peer e) (hsend : SendOk e.log peer e.tickets key send)
    (hs : sendStep e send a = some (e', st)) :
    EndpointOk peer e' ∧ e'.log = e.log ∧ e'.drainOps = e.drainOps ∧ e'.reader = e.reader ∧
      TicketsGrow e.tickets e'.tickets ∧
      ((∃ send', st = .going send' ∧ send'.message = send.message ∧
          SendOk e'.log peer e'.tickets key send') ∨
        (st = .returned none ∧ WrittenOk e.log send.message) ∨
        ∃ err, st = .returned (some err)) := by
  have hsame : ∀ send', send'.message = send.message → send'.waiting = none →
      SendOk e.log peer e.tickets key send' := by
    intro send' hm hw
    refine ⟨hm ▸ hsend.message, by rw [hm]; exact hsend.key_eq, fun ref t ht => ?_⟩
    rw [hw] at ht
    cases ht
  cases sendStep_inv hs with
  | queues _ _ hvalid =>
    have hgrow := ticketsGrow_append e.tickets ⟨send.message, none⟩
    refine ⟨h.setTickets hgrow fun x hx => ?_, rfl, rfl, rfl, hgrow,
      .inl ⟨_, rfl, rfl, hsend.message, hsend.key_eq, fun ref t ht => ⟨none, ?_⟩⟩⟩
    · rcases mem_append.1 hx with hx | hx
      · exact .inl hx
      · rw [mem_singleton.1 hx]
        exact .inr ⟨hvalid, hsend.message, nofun⟩
    · cases ht
      exact getElem?_concat_length
  | passes hwaiting _ =>
    exact ⟨h, rfl, rfl, rfl, TicketsGrow.refl _, .inl ⟨_, rfl, rfl, hsame _ rfl hwaiting⟩⟩
  | fails _ => exact ⟨h, rfl, rfl, rfl, TicketsGrow.refl _, .inl ⟨_, rfl, rfl, hsame _ rfl rfl⟩⟩
  | written hwaiting hticket =>
    obtain ⟨result, hget⟩ := hsend.ticket _ _ hwaiting
    rw [hget] at hticket
    cases hticket
    have hwritten := (h.tickets _ (mem_of_getElem? hget)).written rfl
    exact ⟨h, rfl, rfl, rfl, TicketsGrow.refl _, .inr (.inl ⟨rfl, hwritten⟩)⟩
  | interrupted | exhausted => exact ⟨h, rfl, rfl, rfl, TicketsGrow.refl _, .inr (.inr ⟨_, rfl⟩)⟩

end Sending

section Operations

variable {κ : Type} {peer : List Event} {cfg : Config} {role : Role} {e e' : Endpoint κ}
  {id : LegID} {op : StreamDrainOperation}

/-- The endpoint stays backed and its log grows. -/
structure Follows (peer : List Event) (e e' : Endpoint κ) : Prop where
  ok : EndpointOk peer e'
  log : e.log ⊆ e'.log

theorem EndpointOk.withCarrier (h : EndpointOk peer e) (carrier : Carrier.State κ) :
    EndpointOk peer { e with carrier := carrier } :=
  { h with }

theorem Follows.move {position : Position} (h : EndpointOk peer e) (hop : e.drainOps id = some op)
    (hposition : PositionOk e.log peer e.tickets op position) :
    Follows peer e (e.setOp id { op with position := position }) :=
  ⟨h.setOp ((h.ops id op hop).move hposition), List.Subset.refl _⟩

theorem responseKind_ne_commit (ready commitRequested : Bool) :
    responseKind ready commitRequested ≠ .commit := by
  cases ready <;> cases commitRequested <;> decide

theorem responseKind_eq_ready {ready commitRequested : Bool}
    (h : responseKind ready commitRequested = .ready) : ready = true := by
  cases ready <;> cases commitRequested <;> first | rfl | cases h

theorem responseKind_eq_commitAck {ready commitRequested : Bool}
    (h : responseKind ready commitRequested = .commitAck) : commitRequested = true := by
  cases ready <;> cases commitRequested <;> first | rfl | cases h

/-- Whoever got a CommitAck is the initiator of an accepted Commit. -/
theorem OpOk.accepted {mine : List Event} {tickets : List Ticket} (h : OpOk mine peer tickets op)
    (hack : op.commitAck = true) :
    op.initiator = true ∧ Accepted mine peer op.initiator op.key := by
  obtain ⟨hinitiator, hpeer⟩ := h.commitAck hack
  rw [hinitiator]
  exact ⟨rfl, hpeer⟩

theorem Goes.positionOk {mine : List Event} {tickets : List Ticket} {position : Position}
    (h : Goes cfg role e op position) (hok : OpOk mine peer tickets op) :
    PositionOk mine peer tickets op position := by
  have hposition := hok.position
  cases position with
  | polled snapshot => exact h
  | decided kind commit =>
    obtain ⟨rfl, rfl⟩ := h
    refine ⟨responseKind_eq_ready, responseKind_eq_commitAck, responseKind_ne_commit _ _, ?_⟩
    exact fun hc => (Bool.and_eq_true_iff.1 (Bool.and_eq_true_iff.1 hc).1).1
  | start kind after =>
    rcases h with ⟨_, hpos, rfl, rfl⟩ | ⟨commit, hpos, rfl⟩ | ⟨rfl, rfl | ⟨_, _, rfl⟩⟩
    · rw [hpos] at hposition
      exact ⟨⟨fun _ => hok.localReady hposition, nofun, nofun⟩, rfl⟩
    · rw [hpos] at hposition
      obtain ⟨hr, hack, hcommit, hretire⟩ := hposition
      exact ⟨⟨fun hk => hok.localReady (hr hk), fun hk => absurd hk hcommit,
        fun hk => (hok.commitRequested (hack hk)).2⟩, rfl, hretire⟩
    · exact ⟨⟨nofun, nofun, nofun⟩, trivial⟩
    · exact ⟨⟨nofun, nofun, nofun⟩, trivial⟩
  | sending send after =>
    obtain ⟨kind, hpos, rfl⟩ := h
    rw [hpos] at hposition
    exact ⟨sendOk_newSend hposition.1, hposition.2⟩
  | retireCheck commit =>
    obtain ⟨kind, hpos, _⟩ := h
    rw [hpos] at hposition
    exact hposition.2.2.2
  | retiring caller =>
    cases caller with
    | responder =>
      change op.position = .retireCheck true at h
      rw [h] at hposition
      obtain ⟨hresponder, hmine⟩ := hok.commitRequested (hposition rfl)
      rw [PositionOk, hresponder]
      exact ⟨rfl, hmine⟩
    | ackFirst | ackSecond => exact hok.accepted h
  | finishing err =>
    cases err with
    | none => exact (hok.accepted h).2
    | some err => trivial
  | _ => trivial

theorem follows_opStep [DecidableEq κ] {a : OpAct} (h : EndpointOk peer e)
    (hop : e.drainOps id = some op) (hs : opStep cfg role e id op a = some e') :
    Follows peer e e' := by
  have hok := h.ops id op hop
  have hposition := hok.position
  cases opStep_inv hs with
  | moves hgoes => exact Follows.move h hop (hgoes.positionOk hok)
  | declares hgoes =>
    -- `localReady` is set together with its event
    have hnote : EndpointOk peer (e.note (.localReady op.key)) := h.note trivial
    have hm : .localReady op.key ∈ (e.note (.localReady op.key)).log :=
      mem_append_right _ mem_cons_self
    have hok' := hnote.ops id op hop
    have hset : OpOk (e.note (.localReady op.key)).log peer e.tickets
        { op with localReady := true } :=
      { hok' with
        localReady := fun _ => hm
        position := hok'.position.congr rfl rfl (fun _ => rfl) fun hc => hc }
    exact ⟨hnote.setOp (hset.move (hgoes.positionOk hset)),
      subset_append_left _ _⟩
  | commits hcan =>
    simp only [canCommit, Bool.and_eq_true] at hcan
    obtain ⟨⟨⟨⟨⟨_, hready⟩, _⟩, _⟩, hpeer⟩, _⟩ := hcan
    -- the Commit carries the READY of both endpoints
    have hkind : KindOk e.log peer op.key .commit :=
      ⟨nofun, fun _ => ⟨hok.readySent hready, hok.peerReady hpeer⟩, nofun⟩
    exact ⟨h.setOp { hok with position := ⟨hkind, trivial⟩ }, List.Subset.refl _⟩
  | @retires caller carrier hpos _ =>
    rw [hpos] at hposition
    obtain ⟨hinitiator, haccepted⟩ := hposition
    rw [← hinitiator]
    have hset : EndpointOk peer (Endpoint.setOp { e with carrier := carrier } id
        { op with position := .finishing none }) :=
      (h.withCarrier carrier).setOp ({ hok with position := haccepted })
    exact ⟨hset.note haccepted, subset_append_left _ _⟩
  | recovers _ => exact ⟨(h.withCarrier _).setOp (hok.move trivial), List.Subset.refl _⟩
  | drops => exact ⟨h.dropOp, List.Subset.refl _⟩
  | aborts _ _ => exact ⟨(h.withCarrier _).dropOp, List.Subset.refl _⟩
  | returns hpos hinitiator =>
    rw [hpos, PositionOk, hinitiator] at hposition
    exact ⟨h.dropOp.note hposition, subset_append_left _ _⟩

/-- What a goroutine knows when its send returned. -/
theorem opOk_resume {mine : List Event} {tickets : List Ticket} {send : Send} {after : After}
    {err : Option DrainErr} (hok : OpOk mine peer tickets op)
    (hsend : SendOk mine peer tickets op.key send) (hafter : AfterOk op send.message.kind after)
    (hwritten : err = none → WrittenOk mine send.message) :
    OpOk mine peer tickets (resume op after err) := by
  have hkey := hsend.key_eq
  cases after with
  | intent | commit | timeout | notify err' restore =>
    cases err with
    | none | some err => exact hok.move trivial
  | ready snapshot =>
    cases err with
    | none =>
      have hready := (hwritten rfl).ready hafter
      rw [hkey] at hready
      exact { hok with readySent := fun _ => hready, position := trivial }
    | some err => exact hok.move trivial
  | response kind commit =>
    obtain ⟨hkind, hcommit⟩ := hafter
    cases err with
    | none =>
      refine { hok with lastKind := fun hlast => ?_, position := hcommit }
      cases hlast
      have hack := (hwritten rfl).commitAck hkind
      rwa [hkey] at hack
    | some err => exact hok.move hcommit

end Operations

section Messages

variable {κ : Type} {peer : List Event} {cfg : Config} {role : Role} {e e' : Endpoint κ}
  {op : StreamDrainOperation} {m : StreamDrainMessage}

theorem initiator_of_acceptsCommit (h : op.acceptsCommit m = true) : op.initiator = false := by
  simp only [StreamDrainOperation.acceptsCommit, Bool.and_eq_true, Bool.not_eq_true'] at h
  exact h.1.1.2

/-- The operation takes note of the peer's state and of the message. -/
theorem opOk_receive {mine : List Event} {tickets : List Ticket} (hok : OpOk mine peer tickets op)
    (hkey : m.key = op.key) (hmessage : MessageOk peer mine m) (hwritten : WrittenOk peer m)
    (haccepts : op.acceptsCommit m = true → .commitAccepted op.key ∈ mine) :
    OpOk mine peer tickets
      (StreamDrainOperation.receive
        { op with
          peerGeneration := m.generation
          peerAckedNext := m.ackedNext
          peerOutstandingFrames := m.outstandingFrames
          peerOutstandingBytes := m.outstandingBytes } m) := by
  unfold StreamDrainOperation.receive
  split
  · exact { hok with position := hok.position.congr rfl rfl id id }
  · next hkind =>
    split
    · have hready := hwritten.ready hkind
      rw [hkey] at hready
      exact { hok with peerReady := fun _ => hready, position := hok.position.congr rfl rfl id id }
    · exact { hok with position := hok.position.congr rfl rfl id id }
  · next hkind =>
    split
    · next hc =>
      exact { hok with
        commitRequested := fun _ => ⟨initiator_of_acceptsCommit hc, haccepts hc⟩
        position := hok.position.congr rfl rfl id fun _ => rfl }
    · exact { hok with position := hok.position.congr rfl rfl id id }
  · next hkind =>
    split
    · next hguard =>
      have hack := hmessage.commitAck hkind
      rw [hkey] at hack
      exact { hok with
        commitAck := fun _ => ⟨hguard.1, hack⟩
        position := hok.position.congr rfl rfl id id }
    · exact { hok with position := hok.position.congr rfl rfl id id }
  · exact { hok with position := hok.position.congr rfl rfl id id }
  · exact { hok with position := hok.position.congr rfl rfl id id }

theorem key_of_matchesOp (h : matchesOp e op m = true) : m.key = op.key := by
  simp only [matchesOp, Bool.and_eq_true, beq_iff_eq] at h
  obtain ⟨⟨⟨⟨⟨_, hid⟩, hcounter⟩, hbinding⟩, _⟩, _⟩ := h
  simp only [StreamDrainMessage.key, StreamDrainOperation.key, hid, hcounter, hbinding]

theorem follows_handleControl (h : EndpointOk peer e) (hmessage : MessageOk peer e.log m)
    (hwritten : WrittenOk peer m) : Follows peer e (handleControl e m) := by
  unfold handleControl
  split
  · next op hop =>
    split
    · next hmatch =>
      have hkey := key_of_matchesOp hmatch.1
      dsimp only
      split
      · next hc =>
        have hkind : m.kind = .commit := by
          simp only [StreamDrainOperation.acceptsCommit, Bool.and_eq_true,
            decide_eq_true_eq] at hc
          exact hc.1.1.1.1.1
        have hdeclared := hmessage.commit hkind
        rw [hkey] at hdeclared
        have hnote : EndpointOk peer (e.note (.commitAccepted op.key)) :=
          h.note ⟨hdeclared.2, hdeclared.1⟩
        have hsub : e.log ⊆ (e.note (.commitAccepted op.key)).log :=
          subset_append_left _ _
        refine ⟨hnote.setOp (opOk_receive (hnote.ops _ op hop) hkey
          (hmessage.mono (List.Subset.refl _) hsub) hwritten fun _ => ?_), hsub⟩
        exact mem_append_right _ mem_cons_self
      · next hc =>
        exact ⟨h.setOp (opOk_receive (h.ops _ op hop) hkey hmessage hwritten
          fun hacc => absurd hacc hc), List.Subset.refl _⟩
    · exact ⟨h, List.Subset.refl _⟩
  · exact ⟨h, List.Subset.refl _⟩

theorem follows_handleDrainControlFrame {carrier : Ref} (h : EndpointOk peer e)
    (hmessage : MessageOk peer e.log m) (hwritten : WrittenOk peer m) :
    Follows peer e (handleDrainControlFrame e carrier m) := by
  unfold handleDrainControlFrame
  split
  · exact ⟨h, List.Subset.refl _⟩
  · split
    · split
      · exact ⟨h.setReader nofun, List.Subset.refl _⟩
      · exact ⟨h, List.Subset.refl _⟩
    · exact follows_handleControl h hmessage hwritten

theorem follows_acceptDrainIntent {target : Ref} :
    EndpointOk peer e →
      Follows peer e (acceptDrainIntent cfg e target m).1 ∧
        ∀ send, (acceptDrainIntent cfg e target m).2 ≠ .refusing send := by
  intro h
  unfold acceptDrainIntent
  dsimp only
  split
  · next active hop =>
    split
    · exact ⟨⟨h, List.Subset.refl _⟩, nofun⟩
    · have hok := h.ops _ active hop
      have hconflict : OpOk e.log peer e.tickets { active with terminalErr := some .conflict } :=
        { hok with position := hok.position.congr rfl rfl id id }
      have hset := @EndpointOk.setOp _ _ _ (e.carrier.legs target).id _ h hconflict
      exact ⟨⟨{ hset with }, List.Subset.refl _⟩, nofun⟩
  · split
    · exact ⟨⟨h, List.Subset.refl _⟩, nofun⟩
    · split
      · exact ⟨⟨{ h with }, List.Subset.refl _⟩, nofun⟩
      · exact ⟨⟨h, List.Subset.refl _⟩, nofun⟩

theorem follows_enterDrainIntent {target : Ref} (h : EndpointOk peer e)
    (hs : enterDrainIntent cfg e target m = some e') : Follows peer e e' := by
  simp only [enterDrainIntent] at hs
  split at hs
  · split at hs
    · cases hs
      exact ⟨h, List.Subset.refl _⟩
    · obtain ⟨carrier, _, rfl⟩ := Option.map_eq_some_iff.1 hs
      refine ⟨EndpointOk.setOp { h with } ?_, List.Subset.refl _⟩
      exact opOk_of_fresh rfl rfl rfl rfl rfl rfl trivial
  · cases hs

end Messages

section Steps

variable {κ : Type} {peer : List Event} {cfg : Config} {role : Role} {e e' : Endpoint κ}

/-- A frame of a settled kind that encodes reports nothing outstanding. -/
theorem outstanding_of_valid {m : StreamDrainMessage} (hvalid : validStreamDrainMessage m = true)
    (hsettled : m.kind.settled = true) : m.outstandingFrames = 0 ∧ m.outstandingBytes = 0 := by
  simp only [validStreamDrainMessage, hsettled, Bool.and_eq_true, Bool.not_true, Bool.false_or,
    beq_iff_eq] at hvalid
  exact hvalid.2

theorem EndpointOk.answer {t : Nat} {ticket : Ticket} {ok : Bool} {control : Ref → List Nat}
    (h : EndpointOk peer e) (hget : e.tickets[t]? = some ticket)
    (hwritten : ok = true → WrittenOk e.log ticket.message) :
    EndpointOk peer { e with
      control := control, tickets := e.tickets.set t { ticket with result := some ok } } := by
  have hticket := h.tickets ticket (mem_of_getElem? hget)
  refine h.setTickets (ticketsGrow_set hget) fun x hx => ?_
  rcases mem_or_eq_of_mem_set hx with hx | rfl
  · exact .inl hx
  · refine .inr ⟨hticket.valid, hticket.message, fun hr => hwritten ?_⟩
    simpa using hr

theorem EndpointOk.append_sent {m : StreamDrainMessage} {binding : Nat} (h : EndpointOk peer e)
    (hmessage : MessageOk e.log peer m) (hwritten : WrittenOk e.log m) :
    EndpointOk peer { e with sent := e.sent ++ [(binding, m)] } := by
  refine { h with sent := fun p hp => ?_ }
  rcases mem_append.1 hp with hp | hp
  · exact h.sent p hp
  · rw [mem_singleton.1 hp]
    exact ⟨hmessage, hwritten⟩

theorem EndpointOk.write {t : Nat} {ticket : Ticket} {control : Ref → List Nat} {binding : Nat}
    (h : EndpointOk peer e) (hget : e.tickets[t]? = some ticket)
    (hwritten : WrittenOk e.log ticket.message) :
    EndpointOk peer { e with
      control := control
      tickets := e.tickets.set t { ticket with result := some true }
      sent := e.sent ++ [(binding, ticket.message)] } :=
  (h.answer hget fun _ => hwritten).append_sent
    (h.tickets ticket (mem_of_getElem? hget)).message hwritten

theorem follows_drainStart {target : Ref} {operationID : Nat} (h : EndpointOk peer e)
    (hs : drainStart cfg role e target operationID = some e') : Follows peer e e' := by
  simp only [drainStart] at hs
  split at hs
  · obtain ⟨carrier, _, rfl⟩ := Option.map_eq_some_iff.1 hs
    refine ⟨EndpointOk.setOp { h with } ?_, List.Subset.refl _⟩
    exact opOk_of_fresh rfl rfl rfl rfl rfl rfl
      ⟨kindOk_of_ne (by decide) (by decide) (by decide), trivial⟩
  · cases hs

theorem follows_opSend {id : LegID} {op : StreamDrainOperation} {send : Send} {after : After}
    {a : SendAct} {st : SendState} (h : EndpointOk peer e) (hop : e.drainOps id = some op)
    (hpos : op.position = .sending send after) (hstep : sendStep e send a = some (e', st)) :
    (∀ send', st = .going send' →
        Follows peer e (e'.setOp id { op with position := .sending send' after })) ∧
      ∀ err, st = .returned err → Follows peer e (e'.setOp id (resume op after err)) := by
  have hok := h.ops id op hop
  have hposition := hok.position
  rw [hpos] at hposition
  obtain ⟨hsend, hafter⟩ := hposition
  obtain ⟨h', hlog, _, _, hgrow, hst⟩ := sendStep_cases h hsend hstep
  have hsub : e.log ⊆ e'.log := by rw [hlog]; exact List.Subset.refl _
  have hok' : OpOk e'.log peer e'.tickets op := hok.mono hsub (List.Subset.refl _) hgrow
  constructor
  · rintro send' rfl
    rcases hst with ⟨s, hs, hmessage, hsend'⟩ | ⟨hs, _⟩ | ⟨err, hs⟩
    · cases hs
      refine ⟨h'.setOp (hok'.move ⟨hsend', ?_⟩), hsub⟩
      rw [hmessage]
      exact hafter
    · cases hs
    · cases hs
  · rintro err rfl
    have hwritten : err = none → WrittenOk e'.log send.message := by
      rintro rfl
      rcases hst with ⟨s, hs, _⟩ | ⟨_, hw⟩ | ⟨err, hs⟩
      · cases hs
      · rw [hlog]
        exact hw
      · cases hs
    exact ⟨h'.setOp (opOk_resume hok'
      (hsend.mono hsub (List.Subset.refl _) hgrow) hafter hwritten), hsub⟩

variable [DecidableEq κ]

theorem follows_writeControl {ref : Ref} {ok : Bool} (h : EndpointOk peer e)
    (hs : writeControl cfg e ref ok = some e') : Follows peer e e' := by
  simp only [writeControl] at hs
  split at hs
  · split at hs
    · next t rest _ _ ticket hget =>
      have hticket := h.tickets ticket (mem_of_getElem? hget)
      split at hs
      · next hok =>
        subst hok
        split at hs
        · split at hs
          · next hkind =>
            cases hs
            obtain ⟨hframes, hbytes⟩ :=
              outstanding_of_valid hticket.valid (by rw [hkind]; rfl)
            rw [hframes, hbytes]
            have hnote : EndpointOk peer (e.note (.readyWritten ticket.message.key 0 0)) :=
              h.note trivial
            refine ⟨hnote.write hget ⟨fun _ => ⟨?_, ?_⟩, fun hk => ?_⟩,
              subset_append_left _ _⟩
            · exact mem_append_left _ (hticket.message.ready hkind)
            · exact mem_append_right _ mem_cons_self
            · rw [hkind] at hk
              cases hk
          · next hkind =>
            cases hs
            have hnote : EndpointOk peer (e.note (.commitAckWritten ticket.message.key)) :=
              h.note trivial
            refine ⟨hnote.write hget ⟨fun hk => ?_, fun _ => ?_⟩,
              subset_append_left _ _⟩
            · rw [hkind] at hk
              cases hk
            · exact mem_append_right _ mem_cons_self
          · next hready hack =>
            cases hs
            exact ⟨h.write hget ⟨fun hk => absurd hk hready, fun hk => absurd hk hack⟩,
              List.Subset.refl _⟩
        · cases hs
      · next hok =>
        cases hs
        have hanswer := @EndpointOk.answer _ _ _ t ticket ok
          (update e.control ref rest) h hget fun hr => absurd hr hok
        obtain ⟨carrier, hfail, _⟩ := failLeg_eq cfg { e with
          control := update e.control ref rest
          tickets := e.tickets.set t { ticket with result := some ok } } ref
        rw [hfail]
        exact ⟨hanswer.withCarrier carrier, List.Subset.refl _⟩
    · cases hs
  · cases hs

theorem follows_endRefusal {ref : Ref} {err : Option DrainErr} (h : EndpointOk peer e) :
    Follows peer e (endRefusal cfg e ref err) := by
  unfold endRefusal
  split
  · exact ⟨h.setReader nofun, List.Subset.refl _⟩
  · obtain ⟨carrier, hfail, _⟩ := failLeg_eq cfg
      { e with reader := update e.reader ref .exited } ref
    have hexited : EndpointOk peer
        { e with reader := update e.reader ref .exited } := h.setReader nofun
    rw [hfail]
    have hlost : EndpointOk peer (Endpoint.note
        { e with carrier := carrier, reader := update e.reader ref .exited }
        (.carrierLost ref)) := (hexited.withCarrier carrier).note trivial
    exact ⟨hlost, subset_append_left _ _⟩

theorem follows_endpointStep {inbox : List (Nat × StreamDrainMessage)} {a : Act κ}
    (h : EndpointOk peer e) (hinbox : ∀ p ∈ inbox, MessageOk peer e.log p.2 ∧ WrittenOk peer p.2)
    (hstep : endpointStep cfg role inbox e a = some e') : Follows peer e e' := by
  cases a with
  | call | endCall | writer | leg | attachLeg | ledger | pending | close | drainLeg | drainEnter =>
    obtain ⟨_, hops, htickets, hsent, hreader, hlog, _⟩ := endpointStep_quiet rfl hstep
    exact ⟨h.of_same hops htickets hsent hreader hlog, by rw [hlog]; exact List.Subset.refl _⟩
  | drainStart target operationID => exact follows_drainStart h hstep
  | op id a =>
    simp only [endpointStep] at hstep
    split at hstep
    · next op hop =>
      exact follows_opStep h hop hstep
    · cases hstep
  | opSend id a =>
    simp only [endpointStep] at hstep
    split at hstep
    · next op hop =>
      split at hstep
      · next send after hpos =>
        split at hstep
        · next hsend =>
          cases hstep
          exact (follows_opSend h hop hpos hsend).1 _ rfl
        · next hsend =>
          cases hstep
          exact (follows_opSend h hop hpos hsend).2 _ rfl
        · cases hstep
      · cases hstep
    · cases hstep
  | writeControl ref ok => exact follows_writeControl h hstep
  | readFrame ref i =>
    simp only [endpointStep] at hstep
    split at hstep
    · next binding m _ hget =>
      split_ifs at hstep
      cases hstep
      obtain ⟨hmessage, hwritten⟩ := hinbox _ (mem_of_getElem? hget)
      exact follows_handleDrainControlFrame h hmessage hwritten
    · cases hstep
  | accept ref =>
    simp only [endpointStep] at hstep
    split at hstep
    · next target m _ =>
      cases hstep
      obtain ⟨⟨hok, hsub⟩, hreader⟩ :=
        @follows_acceptDrainIntent _ _ cfg _ m target h
      exact ⟨hok.setReader fun s hs => absurd hs (hreader s), hsub⟩
    · cases hstep
  | enter ref =>
    simp only [endpointStep] at hstep
    split at hstep
    · obtain ⟨e₁, henter, rfl⟩ := Option.map_eq_some_iff.1 hstep
      obtain ⟨hok, hsub⟩ := follows_enterDrainIntent h henter
      refine ⟨hok.setReader fun s hs => ?_, hsub⟩
      cases hs
    · cases hstep
  | refuse ref =>
    simp only [endpointStep] at hstep
    split at hstep <;> cases hstep
    refine ⟨h.setReader fun s hs => ?_, List.Subset.refl _⟩
    cases hs
    exact ⟨_, sendOk_newSend (kindOk_of_ne (by decide) (by decide) (by decide))⟩
  | refuseSend ref a =>
    simp only [endpointStep] at hstep
    split at hstep
    · next send hreader =>
      obtain ⟨key, hsendOk⟩ := h.readers ref send hreader
      split at hstep
      · next hsend =>
        cases hstep
        obtain ⟨h', hlog, _, _, _, hst⟩ := sendStep_cases h hsendOk hsend
        rcases hst with ⟨s, hs, _, hsend'⟩ | ⟨hs, _⟩ | ⟨err, hs⟩
        · cases hs
          refine ⟨h'.setReader fun s hs => ?_, by rw [hlog]; exact List.Subset.refl _⟩
          cases hs
          exact ⟨key, hsend'⟩
        · cases hs
        · cases hs
      · next err hsend =>
        cases hstep
        obtain ⟨h', hlog, _⟩ := sendStep_cases h hsendOk hsend
        have hend := @follows_endRefusal κ _ cfg _ _ ref err h'
        exact ⟨hend.ok, by rw [← hlog]; exact hend.log⟩
      · cases hstep
    · cases hstep

end Steps

section Session

variable {κ : Type} [DecidableEq κ] {cfg : Config} {s s' : State κ}

/-- Both endpoints are backed by the two logs. -/
def Backed (s : State κ) : Prop :=
  ∀ role : Role, EndpointOk (s role.peer).log (s role)

theorem Role.peer_ne (role : Role) : role.peer ≠ role := by
  cases role <;> decide

theorem Role.peer_peer (role : Role) : role.peer.peer = role := by
  cases role <;> rfl

theorem Role.eq_or_eq_peer (role role' : Role) : role = role' ∨ role = role'.peer := by
  cases role <;> cases role' <;> decide

omit [DecidableEq κ] in
theorem backed_init (cfg : Config) : Backed (init κ cfg) := by
  intro role
  constructor
  · intro id op hop
    simp only [init, Endpoint.init, reduceCtorEq] at hop
  · intro ticket hm
    simp only [init, Endpoint.init, not_mem_nil] at hm
  · intro p hm
    simp only [init, Endpoint.init, not_mem_nil] at hm
  · intro ref send hreader
    simp only [init, Endpoint.init, reduceCtorEq] at hreader
  · intro event hm
    simp only [init, Endpoint.init, not_mem_nil] at hm

theorem backed_step {a : Role × Act κ} (h : Backed s) (hs : step cfg s a = some s') :
    Backed s' := by
  obtain ⟨e, he, rfl⟩ := Option.map_eq_some_iff.1 hs
  have hself := h a.1
  have hpeer := h a.1.peer
  rw [Role.peer_peer] at hpeer
  have hfollows := follows_endpointStep hself hpeer.sent he
  intro role
  rcases Role.eq_or_eq_peer role a.1 with rfl | rfl
  · rw [update_self, update_of_ne (Role.peer_ne _)]
    exact hfollows.ok
  · rw [Role.peer_peer, update_self, update_of_ne (Role.peer_ne _)]
    exact hpeer.mono hfollows.log

theorem backed_of_reachable (hreach : Reachable (step cfg) (init κ cfg) s) : Backed s :=
  hreach.invariant (backed_init cfg) fun _ _ _ hinv hs => backed_step hinv hs

omit [DecidableEq κ] in
/-- An accepted Commit stands on the READY of both endpoints. -/
theorem Backed.agreed (h : Backed s) {role : Role} {initiator : Bool} {key : Key}
    (haccepted : Accepted (s role).log (s role.peer).log initiator key) :
    (∀ r, DeclaredReady (s r).log key) ∧
      .commitAccepted key ∈ (s (if initiator then role.peer else role)).log := by
  have hm : .commitAccepted key ∈ (s (if initiator then role.peer else role)).log := by
    cases initiator with
    | false | true => exact haccepted
  refine ⟨fun r => ?_, hm⟩
  obtain ⟨hmine, hpeer⟩ := (h _).events _ hm
  rcases Role.eq_or_eq_peer r (if initiator then role.peer else role) with hr | hr
  · rw [hr]
    exact hmine
  · rw [hr]
    exact hpeer

end Session

end Smp3Multipath.Core.Drain

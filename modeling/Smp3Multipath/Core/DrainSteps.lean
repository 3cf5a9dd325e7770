import Smp3Multipath.Core.Drain

/-!
# What a step of an endpoint does

One inversion of `endpointStep`: a step moves the carriers and the registered
operations, or it registers an operation behind the quiesce barrier, or it ends
an abort and opens the target again.  The facts about the barrier and about the
order of CommitAck and retirement are read off this, not off the step function.
-/

namespace Smp3Multipath.Core.Drain

open Lib.Run Carrier Function Option

/-- Does the step change a `draining` flag? -/
def setsDraining : LegAct → Bool
  | .setDraining _ _ => true
  | _ => false

/-- Steps of the carriers that leave every `draining` flag as it is. -/
inductive CarrierMove {κ : Type} [DecidableEq κ] (cfg : Config) (c c' : Carrier.State κ) : Prop
  | same (h : c' = c)
  | call (k : κ) (a : CallAct) (h : callStep cfg c k a = some c')
  | endCall (k : κ) (h : c' = c.setCall k none)
  | writer (ref : Ref) (a : WriterAct) (h : writerStep cfg c ref a = some c')
  | leg (a : LegAct) (ha : setsDraining a = false) (h : legStep cfg c a = some c')
  | ledger (l : StreamTXLedger) (h : c' = { c with ledger := l })

/-- The positions a goroutine goes to from an operation, as far as a retirement depends on
them. -/
def Reaches (op : StreamDrainOperation) : Position → Prop
  | .decided kind commit => commit = true → kind = .commitAck
  | .start _ (.response kind commit) => op.position = .decided kind commit
  | .sending send (.response kind commit) =>
    op.position = .start send.message.kind (.response kind commit) ∨
      ∃ send, op.position = .sending send (.response kind commit)
  | .retireCheck commit => ∃ kind, op.position = .decided kind commit ∧ op.lastKind = some kind
  | .retiring .responder => op.position = .retireCheck true
  | _ => True

/-- How an operation changes while it stays registered. -/
inductive OpMove {κ : Type} (a : Act κ) (id : LegID) (op op' : StreamDrainOperation) : Prop
  /-- Its goroutine stays where it is. -/
  | stays (htarget : op'.target = op.target) (hlast : op'.lastKind = op.lastKind)
      (hposition : op'.position = op.position)
  | moves (htarget : op'.target = op.target) (hlast : op'.lastKind = op.lastKind)
      (hreaches : Reaches op op'.position)
  /-- Its `sendDrainMessage` call returned. -/
  | resumes (act : SendAct) (send : Send) (after : After) (err : Option DrainErr)
      (ha : a = .opSend id act) (hposition : op.position = .sending send after)
      (herr : err ≠ none → act = .timeout ∨ act = .engineDone ∨ act = .exhausted)
      (h : op' = resume op after err)

/-- What a step of an endpoint does to its carriers, its operations and its retirements as a
responder. -/
inductive Effect {κ : Type} [DecidableEq κ] (cfg : Config) (a : Act κ) (e e' : Endpoint κ) : Prop
  | moves
      (hcarrier : CarrierMove cfg e.carrier e'.carrier)
      (hops : ∀ id op', e'.drainOps id = some op' →
        ∃ op, e.drainOps id = some op ∧ OpMove a id op op')
      (hlog : ∀ key, .retired key false ∈ e'.log → .retired key false ∈ e.log ∨
        ∃ id op, e.drainOps id = some op ∧ op.key = key ∧ op.position = .retiring .responder)
  | registers (id : LegID) (op' : StreamDrainOperation)
      (hid : (e.carrier.legs op'.target).id = id)
      (hattached : e.carrier.attached id = some op'.target)
      (hreaders : e.carrier.readers op'.target = [])
      (hcarrier : legStep cfg e.carrier (.setDraining op'.target true) = some e'.carrier)
      (hops : e'.drainOps = update e.drainOps id (some op'))
      (hposition : op'.position = .top ∨ op'.position = .start .intent .intent)
      (hlog : e'.log = e.log)
  | aborts (id : LegID) (op : StreamDrainOperation)
      (ha : a = .op id .abortFinal)
      (hop : e.drainOps id = some op)
      (huncommitted : op.commitSent = false ∧ op.commitRequested = false)
      (hcarrier : legStep cfg e.carrier (.setDraining op.target false) = some e'.carrier)
      (hops : e'.drainOps = update e.drainOps id none)
      (hlog : e'.log = e.log)

/-- Where the goroutine of an operation goes, as far as a message or a retirement depends on
where it comes from. -/
def Goes {κ : Type} (cfg : Config) (role : Role) (e : Endpoint κ) (op : StreamDrainOperation) :
    Position → Prop
  | .polled _ => op.localReady = true
  | .decided kind commit =>
    kind = responseKind op.localReady op.commitRequested ∧
      commit = (op.commitRequested && op.localReady && op.peerReady)
  | .start kind after =>
    (∃ snapshot, op.position = .polled snapshot ∧ kind = .ready ∧ after = .ready snapshot) ∨
      (∃ commit, op.position = .decided kind commit ∧ after = .response kind commit) ∨
      kind = .abort ∧ (after = .timeout ∨ ∃ err restore, after = .notify err restore)
  | .sending send after =>
    ∃ kind, op.position = .start kind after ∧ send = e.newSend cfg role op.target op.key kind
  | .retireCheck commit => ∃ kind, op.position = .decided kind commit ∧ op.lastKind = some kind
  | .retiring .responder => op.position = .retireCheck true
  | .retiring _ => op.commitAck = true
  | .finishing none => op.commitAck = true
  | _ => True

/-- What a step of an operation's goroutine does. -/
inductive OpStep {κ : Type} [DecidableEq κ] (cfg : Config) (role : Role) (e : Endpoint κ)
    (id : LegID) (op : StreamDrainOperation) : OpAct → Endpoint κ → Prop
  | moves {a : OpAct} {position : Position} (h : Goes cfg role e op position) :
      OpStep cfg role e id op a (e.setOp id { op with position := position })
  | declares {a : OpAct} {position : Position}
      (h : Goes cfg role e { op with localReady := true } position) :
      OpStep cfg role e id op a
        ((e.setOp id { op with localReady := true, position := position }).note
          (.localReady op.key))
  | commits (h : canCommit op = true) :
      OpStep cfg role e id op .commit
        (e.setOp id { op with commitSent := true, position := .start .commit .commit })
  | retires {caller : Retirer} {carrier : Carrier.State κ}
      (hposition : op.position = .retiring caller)
      (hcarrier : legStep cfg e.carrier (.retireDrained op.target) = some carrier) :
      OpStep cfg role e id op .retire
        ((Endpoint.setOp { e with carrier := carrier } id { op with position := .finishing none }).note
          (.retired op.key (decide (caller ≠ .responder))))
  | recovers {err : DrainErr} {carrier : Carrier.State κ}
      (hcarrier : CarrierMove cfg e.carrier carrier) :
      OpStep cfg role e id op .recover
        (Endpoint.setOp { e with carrier := carrier } id { op with position := .finishing (some err) })
  | drops {a : OpAct} : OpStep cfg role e id op a (e.dropOp id)
  | aborts {carrier : Carrier.State κ}
      (huncommitted : op.commitSent = false ∧ op.commitRequested = false)
      (hcarrier : legStep cfg e.carrier (.setDraining op.target false) = some carrier) :
      OpStep cfg role e id op .abortFinal (Endpoint.dropOp { e with carrier := carrier } id)
  | returns (hposition : op.position = .finishing none) (hinitiator : op.initiator = true) :
      OpStep cfg role e id op .finish ((e.dropOp id).note (.returnedNil op.key))

/-- What a step of a `sendDrainMessage` call does. -/
inductive SendStep {κ : Type} (e : Endpoint κ) (send : Send) :
    SendAct → Endpoint κ → SendState → Prop
  | queues {ref : Ref} {rest : List Ref} {control : Ref → List Nat}
      (hwaiting : send.waiting = none) (hcarriers : send.carriers = ref :: rest)
      (hvalid : validStreamDrainMessage send.message = true) :
      SendStep e send .push
        { e with tickets := e.tickets ++ [⟨send.message, none⟩], control := control }
        (.going { send with
          carriers := rest, waiting := some (ref, e.tickets.length), tried := true })
  | passes {a : SendAct} {ref : Ref} {rest : List Ref}
      (hwaiting : send.waiting = none) (hcarriers : send.carriers = ref :: rest) :
      SendStep e send a e (.going { send with carriers := rest, tried := true })
  | fails {a : SendAct} {ticket : Ref × Nat} (hwaiting : send.waiting = some ticket) :
      SendStep e send a e (.going { send with waiting := none })
  | written {ref : Ref} {t : Nat} {m : StreamDrainMessage}
      (hwaiting : send.waiting = some (ref, t))
      (hticket : e.tickets[t]? = some ⟨m, some true⟩) :
      SendStep e send .result e (.returned none)
  | interrupted {a : SendAct} {ticket : Ref × Nat} {err : DrainErr}
      (ha : a = .timeout ∧ err = .deadline ∨ a = .engineDone ∧ err = .streamClosed)
      (hwaiting : send.waiting = some ticket) :
      SendStep e send a e (.returned (some err))
  | exhausted (hwaiting : send.waiting = none) (hcarriers : send.carriers = []) :
      SendStep e send .exhausted e
        (.returned (some (if send.tried then .sendFailed else .unsupported)))

section Inversion

variable {κ : Type} {cfg : Config} {role : Role} {e e' : Endpoint κ} {id : LegID}
  {op : StreamDrainOperation}

theorem sendStep_inv {send : Send} {a : SendAct} {st : SendState}
    (hs : sendStep e send a = some (e', st)) : SendStep e send a e' st := by
  cases a with
  | push =>
    simp only [sendStep] at hs
    split at hs
    · next hwaiting hcarriers =>
      split_ifs at hs with hvalid
      · cases hs
        exact .passes hwaiting hcarriers
      · cases hs
        exact .queues hwaiting hcarriers (by simpa using hvalid)
    · cases hs
  | skip =>
    simp only [sendStep] at hs
    split at hs
    · next hwaiting hcarriers =>
      cases hs
      exact .passes hwaiting hcarriers
    · cases hs
  | result =>
    simp only [sendStep] at hs
    split at hs
    · next hwaiting =>
      split at hs
      · next hticket =>
        cases hs
        exact .written hwaiting hticket
      · cases hs
        exact .fails hwaiting
      · cases hs
    · cases hs
  | carrierDone =>
    simp only [sendStep] at hs
    split at hs
    · next hwaiting =>
      split_ifs at hs
      cases hs
      exact .fails hwaiting
    · cases hs
  | timeout =>
    simp only [sendStep] at hs
    split at hs
    · next hwaiting =>
      cases hs
      exact .interrupted (.inl ⟨rfl, rfl⟩) hwaiting
    · cases hs
  | engineDone =>
    simp only [sendStep] at hs
    split at hs
    · next hwaiting =>
      split_ifs at hs
      cases hs
      exact .interrupted (.inr ⟨rfl, rfl⟩) hwaiting
    · cases hs
  | exhausted =>
    simp only [sendStep] at hs
    split at hs
    · next hwaiting hcarriers =>
      cases hs
      exact .exhausted hwaiting hcarriers
    · cases hs

variable [DecidableEq κ]

theorem failLeg_eq (cfg : Config) (e : Endpoint κ) (ref : Ref) :
    ∃ carrier, failLeg cfg e ref = { e with carrier := carrier } ∧
      CarrierMove cfg e.carrier carrier := by
  unfold failLeg
  split
  · next carrier hfail =>
    exact ⟨carrier, rfl, .leg _ rfl hfail⟩
  · exact ⟨e.carrier, rfl, .same rfl⟩

theorem opStep_inv {a : OpAct} (hs : opStep cfg role e id op a = some e') :
    OpStep cfg role e id op a e' := by
  cases a with
  | checkError =>
    simp only [opStep] at hs
    split at hs
    · split at hs <;> cases hs
      · exact .moves trivial
      · refine .moves ?_
        split <;> trivial
    · cases hs
  | poll =>
    simp only [opStep] at hs
    split at hs
    · split at hs
      · split at hs
        all_goals cases hs
        all_goals exact .moves trivial
      · split at hs <;> cases hs
        · exact .declares ⟨rfl, by rw [Bool.and_true]⟩
        · exact .moves ⟨rfl, rfl⟩
    · cases hs
  | markReady =>
    simp only [opStep] at hs
    split at hs <;> cases hs
    exact .declares rfl
  | decide elapsed =>
    simp only [opStep] at hs
    split at hs
    · next hposition =>
      split at hs <;> cases hs
      · exact .moves (.inl ⟨_, hposition, rfl, rfl⟩)
      · exact .moves trivial
    · next hposition =>
      split at hs
      · cases hs
        exact .moves (.inr (.inl ⟨_, hposition, rfl⟩))
      · next hlast =>
        cases hs
        rw [not_or, not_not] at hlast
        exact .moves ⟨_, hposition, hlast.1⟩
    · cases hs
  | commit =>
    simp only [opStep] at hs
    split at hs
    · split at hs
      · split at hs
        · next hcan =>
          cases hs
          exact .commits hcan
        · cases hs
          exact .moves trivial
      · cases hs
        exact .moves trivial
    · cases hs
  | send =>
    simp only [opStep] at hs
    split at hs
    · next hposition =>
      cases hs
      exact .moves ⟨_, hposition, rfl⟩
    · cases hs
  | tryRetire =>
    simp only [opStep] at hs
    split at hs
    · split at hs
      · split_ifs at hs with hack
        cases hs
        exact .moves hack
      · split_ifs at hs with hack
        cases hs
        exact .moves hack
      · next hposition =>
        cases hs
        exact .moves hposition
      · cases hs
    · cases hs
  | retire =>
    simp only [opStep] at hs
    split at hs
    · next hposition =>
      obtain ⟨e₁, hretired, rfl⟩ := map_eq_some_iff.1 hs
      obtain ⟨-, hretired⟩ := ite_none_right_eq_some.1 hretired
      obtain ⟨carrier, hcarrier, rfl⟩ := map_eq_some_iff.1 hretired
      exact .retires hposition hcarrier
    · cases hs
  | completeSettled =>
    obtain ⟨hguard, ⟨⟩⟩ := ite_none_right_eq_some.1 hs
    exact .moves hguard.2.1
  | timeout | abort =>
    simp only [opStep] at hs
    repeat' split at hs
    all_goals first
      | cases hs
        exact .moves trivial
      | cases hs
        exact .moves (.inr (.inr ⟨rfl, by simp⟩))
      | cases hs
  | abortFinal =>
    simp only [opStep] at hs
    split at hs
    · split at hs
      · cases hs
        exact .moves trivial
      · next huncommitted =>
        rw [not_or, Bool.not_eq_true, Bool.not_eq_true] at huncommitted
        split at hs
        · obtain ⟨carrier, hcarrier, rfl⟩ := map_eq_some_iff.1 hs
          exact .aborts huncommitted hcarrier
        · cases hs
          exact .drops
    · cases hs
  | recover =>
    simp only [opStep] at hs
    split at hs <;> cases hs
    obtain ⟨carrier, hfail, hmove⟩ := failLeg_eq cfg e op.target
    split
    · rw [hfail]
      exact .recovers hmove
    · exact .moves trivial
  | finish =>
    simp only [opStep] at hs
    split at hs
    · next hposition =>
      split at hs
      · next hnil =>
        cases hs
        rw [hnil.2] at hposition
        exact .returns hposition hnil.1
      · cases hs
        exact .drops
    · cases hs
  | checkTarget | completePending | completeFailed | noAck | retireRefused | skipRetire | wake
  | targetDone | engineDone =>
    simp only [opStep] at hs
    repeat' split at hs
    all_goals first
      | cases hs
        exact .moves trivial
      | cases hs

end Inversion

section Operations

variable {κ : Type} [DecidableEq κ] {cfg : Config} {role : Role} {e e' : Endpoint κ}
  {id : LegID} {op : StreamDrainOperation} {act : Act κ}

/-- Only one operation changes, and the responder retires nothing. -/
theorem Effect.ofOp {x : Option StreamDrainOperation} (hop : e.drainOps id = some op)
    (hcarrier : CarrierMove cfg e.carrier e'.carrier)
    (hops : e'.drainOps = update e.drainOps id x)
    (hx : ∀ op', x = some op' → OpMove act id op op')
    (hlog : ∀ key, .retired key false ∈ e'.log → .retired key false ∈ e.log ∨
      op.key = key ∧ op.position = .retiring .responder) : Effect cfg act e e' := by
  refine .moves hcarrier (fun id' op' hop' => ?_) fun key hm => ?_
  · rw [hops, update_apply] at hop'
    split at hop'
    · next heq =>
      subst heq
      exact ⟨op, hop, hx op' hop'⟩
    · exact ⟨op', hop', .stays rfl rfl rfl⟩
  · rcases hlog key hm with hm | ⟨hkey, hposition⟩
    · exact .inl hm
    · exact .inr ⟨id, op, hop, hkey, hposition⟩

theorem Effect.setOp {carrier : Carrier.State κ} {op' : StreamDrainOperation}
    (hop : e.drainOps id = some op) (hcarrier : CarrierMove cfg e.carrier carrier)
    (hmove : OpMove act id op op') :
    Effect cfg act e (Endpoint.setOp { e with carrier := carrier } id op') :=
  .ofOp hop hcarrier rfl (fun _ h => Option.some.inj h ▸ hmove) fun _ h => .inl h

omit [DecidableEq κ] in
/-- An event that is no retirement by a responder changes nothing here. -/
theorem mem_note_of_ne {event : Event} {key : Key} (hne : event ≠ .retired key false)
    (hm : .retired key false ∈ (e.note event).log) : .retired key false ∈ e.log := by
  rcases List.mem_append.1 hm with hm | hm
  · exact hm
  · exact absurd (List.mem_singleton.1 hm).symm hne

theorem responseKind_commit {ready commitRequested peerReady : Bool}
    (h : (commitRequested && ready && peerReady) = true) :
    responseKind ready commitRequested = .commitAck := by
  simp only [Bool.and_eq_true] at h
  rw [h.1.1, h.1.2]
  rfl

omit [DecidableEq κ] in
theorem Goes.reaches {position : Position} (h : Goes cfg role e op position) :
    Reaches op position := by
  cases position with
  | decided kind commit =>
    obtain ⟨rfl, rfl⟩ := h
    exact responseKind_commit
  | start kind after =>
    rcases h with ⟨_, _, _, rfl⟩ | ⟨_, hposition, rfl⟩ | ⟨_, rfl | ⟨_, _, rfl⟩⟩
    · trivial
    · exact hposition
    · trivial
    · trivial
  | sending send after =>
    obtain ⟨kind, hposition, rfl⟩ := h
    cases after with
    | response kind' commit => exact .inl hposition
    | _ => trivial
  | retireCheck commit => exact h
  | retiring caller =>
    cases caller with
    | responder => exact h
    | _ => trivial
  | _ => trivial

theorem effect_opStep {a : OpAct} (hop : e.drainOps id = some op)
    (hs : opStep cfg role e id op a = some e') : Effect cfg (.op id a) e e' := by
  cases opStep_inv hs with
  | moves h => exact .setOp hop (.same rfl) (.moves rfl rfl h.reaches)
  | declares h =>
    refine .ofOp hop (.same rfl) rfl (fun op' hop' => ?_) fun key hm => ?_
    · cases hop'
      exact .moves rfl rfl h.reaches
    · exact .inl (mem_note_of_ne (fun heq => by cases heq) hm)
  | commits _ => exact .setOp hop (.same rfl) (.moves rfl rfl trivial)
  | @retires caller _ hposition hcarrier =>
    refine .ofOp hop (.leg _ rfl hcarrier) rfl (fun op' h => ?_) fun key hm => ?_
    · cases h
      exact .moves rfl rfl trivial
    · rcases List.mem_append.1 hm with hm | hm
      · exact .inl hm
      · obtain ⟨hkey, hcaller⟩ := Event.retired.inj (List.mem_singleton.1 hm)
        rw [show caller = .responder by simpa using hcaller.symm] at hposition
        exact .inr ⟨hkey.symm, hposition⟩
  | recovers hcarrier => exact .setOp hop hcarrier (.moves rfl rfl trivial)
  | drops => exact .ofOp hop (.same rfl) rfl (fun _ h => by cases h) fun _ h => .inl h
  | aborts huncommitted hcarrier => exact .aborts id op rfl hop huncommitted hcarrier rfl rfl
  | returns _ _ =>
    refine .ofOp hop (.same rfl) rfl (fun _ h => by cases h) fun key hm => ?_
    exact .inl (mem_note_of_ne (fun heq => by cases heq) hm)

end Operations

section Endpoint

variable {κ : Type} [DecidableEq κ] {cfg : Config} {role : Role} {e e' : Endpoint κ}
  {act : Act κ}

/-- The operations and the log stay as they are. -/
theorem Effect.ofCarrier (hcarrier : CarrierMove cfg e.carrier e'.carrier)
    (hops : e'.drainOps = e.drainOps) (hlog : e'.log = e.log) : Effect cfg act e e' := by
  refine .moves hcarrier (fun id op' hop' => ?_) fun key hm => ?_
  · rw [hops] at hop'
    exact ⟨op', hop', .stays rfl rfl rfl⟩
  · rw [hlog] at hm
    exact .inl hm

omit [DecidableEq κ] in
/-- `sendDrainMessage` touches the control queues only, and fails in three ways. -/
theorem sendStep_effect {send : Send} {a : SendAct} {st : SendState}
    (hs : sendStep e send a = some (e', st)) :
    e'.carrier = e.carrier ∧ e'.drainOps = e.drainOps ∧ e'.log = e.log ∧
      ∀ err, st = .returned (some err) → a = .timeout ∨ a = .engineDone ∨ a = .exhausted := by
  cases sendStep_inv hs with
  | queues | passes | fails | written => exact ⟨rfl, rfl, rfl, fun _ h => by cases h⟩
  | interrupted ha _ => exact ⟨rfl, rfl, rfl, fun _ _ => ha.imp And.left fun h => .inl h.1⟩
  | exhausted => exact ⟨rfl, rfl, rfl, fun _ _ => .inr (.inr rfl)⟩

theorem effect_opSend {id : LegID} {op : StreamDrainOperation} {send : Send} {after : After}
    {a : SendAct} {st : SendState} (hop : e.drainOps id = some op)
    (hpos : op.position = .sending send after) (hs : sendStep e send a = some (e', st)) :
    (∀ send', st = .going send' →
        Effect cfg (.opSend id a) e (e'.setOp id { op with position := .sending send' after })) ∧
      ∀ err, st = .returned err →
        Effect cfg (.opSend id a) e (e'.setOp id (resume op after err)) := by
  obtain ⟨hcarrier, hops, hlog, herr⟩ := sendStep_effect hs
  have hset : ∀ op', OpMove (.opSend id a : Act κ) id op op' →
      Effect cfg (.opSend id a) e (e'.setOp id op') := by
    intro op' hmove
    have hupdate : (e'.setOp id op').drainOps = update e.drainOps id (some op') := by
      rw [Endpoint.setOp, hops]
    refine .ofOp hop (.same hcarrier) hupdate (fun x h => ?_) fun key hm => ?_
    · cases h
      exact hmove
    · rw [Endpoint.setOp, hlog] at hm
      exact .inl hm
  constructor
  · intro send' _
    refine hset _ (.moves rfl rfl ?_)
    cases after with
    | response kind commit => exact .inr ⟨send, hpos⟩
    | intent | ready snapshot | commit | timeout | notify err restore => trivial
  · rintro err rfl
    refine hset _ (.resumes a send after err rfl hpos (fun hne => ?_) rfl)
    obtain ⟨x, rfl⟩ := ne_none_iff_exists'.1 hne
    exact herr x rfl

theorem effect_drainStart {target : Ref} {operationID : Nat}
    (hs : drainStart cfg role e target operationID = some e') : Effect cfg act e e' := by
  simp only [drainStart] at hs
  split at hs
  · next hguard =>
    obtain ⟨carrier, hcarrier, rfl⟩ := map_eq_some_iff.1 hs
    obtain ⟨_, _, _, hcurrent, hreaders⟩ := hguard
    refine .registers _ _ ?_ ?_ ?_ ?_ rfl ?_ rfl
    · rfl
    · exact of_decide_eq_true hcurrent
    · exact hreaders
    · exact hcarrier
    · exact .inr rfl
  · cases hs

omit [DecidableEq κ] in
theorem receive_fields (op : StreamDrainOperation) (m : StreamDrainMessage) :
    (op.receive m).target = op.target ∧ (op.receive m).lastKind = op.lastKind ∧
      (op.receive m).position = op.position := by
  unfold StreamDrainOperation.receive
  repeat' split
  all_goals exact ⟨rfl, rfl, rfl⟩

theorem effect_handleDrainControlFrame {carrier : Ref} {m : StreamDrainMessage} :
    Effect cfg act e (handleDrainControlFrame e carrier m) := by
  unfold handleDrainControlFrame
  split
  · exact .ofCarrier (.same rfl) rfl rfl
  · split
    · split
      all_goals exact .ofCarrier (.same rfl) rfl rfl
    · unfold handleControl
      split
      · next op hop =>
        split
        · obtain ⟨htarget, hlast, hposition⟩ := receive_fields
            { op with
              peerGeneration := m.generation
              peerAckedNext := m.ackedNext
              peerOutstandingFrames := m.outstandingFrames
              peerOutstandingBytes := m.outstandingBytes } m
          dsimp only
          split
          · refine .ofOp hop (.same rfl) rfl (fun x h => ?_) fun key hm => ?_
            · cases h
              exact .stays htarget hlast hposition
            · exact .inl (mem_note_of_ne (fun h => by cases h) hm)
          · exact .setOp hop (.same rfl) (.stays htarget hlast hposition)
        · exact .ofCarrier (.same rfl) rfl rfl
      · exact .ofCarrier (.same rfl) rfl rfl

theorem effect_acceptDrainIntent {target : Ref} {m : StreamDrainMessage} :
    Effect cfg act e (acceptDrainIntent cfg e target m).1 := by
  unfold acceptDrainIntent
  dsimp only
  split
  · next active hop =>
    split
    · exact .ofCarrier (.same rfl) rfl rfl
    · refine .ofOp hop (.same rfl) rfl (fun x h => ?_) fun _ h => .inl h
      cases h
      exact .stays rfl rfl rfl
  · split
    · exact .ofCarrier (.same rfl) rfl rfl
    · split
      all_goals exact .ofCarrier (.same rfl) rfl rfl

theorem effect_enterDrainIntent {target : Ref} {m : StreamDrainMessage}
    (hs : enterDrainIntent cfg e target m = some e') : Effect cfg act e e' := by
  simp only [enterDrainIntent] at hs
  split at hs
  · next hguard =>
    split at hs
    · cases hs
      exact .ofCarrier (.same rfl) rfl rfl
    · next hopen =>
      obtain ⟨carrier, hcarrier, rfl⟩ := map_eq_some_iff.1 hs
      rw [not_or, not_not] at hopen
      refine .registers _ _ ?_ ?_ ?_ ?_ rfl ?_ rfl
      · rfl
      · exact of_decide_eq_true hopen.2
      · exact hguard.2
      · exact hcarrier
      · exact .inl rfl
  · cases hs

theorem Effect.setReader {reader : Ref → Reader} (h : Effect cfg act e e') :
    Effect cfg act e { e' with reader := reader } := by
  cases h with
  | moves hcarrier hops hlog => exact .moves hcarrier hops hlog
  | registers id op' hid hattached hreaders hcarrier hops hposition hlog =>
    exact .registers id op' hid hattached hreaders hcarrier hops hposition hlog
  | aborts id op ha hop huncommitted hcarrier hops hlog =>
    exact .aborts id op ha hop huncommitted hcarrier hops hlog

/-- An effect starts from the carriers, the operations and the log alone. -/
theorem Effect.from_same {e₀ : Endpoint κ} (h : Effect cfg act e e')
    (hcarrier : e.carrier = e₀.carrier) (hops : e.drainOps = e₀.drainOps) (hlog : e.log = e₀.log) :
    Effect cfg act e₀ e' := by
  cases h with
  | moves hmove hkept hretired =>
    rw [hcarrier] at hmove
    rw [hops] at hkept hretired
    rw [hlog] at hretired
    exact .moves hmove hkept hretired
  | registers id op' hid hattached hreaders hset hadded hposition hsame =>
    rw [hcarrier] at hid hattached hreaders hset
    rw [hops] at hadded
    rw [hlog] at hsame
    exact .registers id op' hid hattached hreaders hset hadded hposition hsame
  | aborts id op ha hop huncommitted hset hremoved hsame =>
    rw [hcarrier] at hset
    rw [hops] at hop hremoved
    rw [hlog] at hsame
    exact .aborts id op ha hop huncommitted hset hremoved hsame

theorem effect_endRefusal {ref : Ref} {err : Option DrainErr} :
    Effect cfg act e (endRefusal cfg e ref err) := by
  unfold endRefusal
  split
  · exact .ofCarrier (.same rfl) rfl rfl
  · obtain ⟨carrier, hfail, hmove⟩ := failLeg_eq cfg
      { e with reader := update e.reader ref .exited } ref
    rw [hfail]
    refine .moves hmove (fun id op' hop' => ⟨op', hop', .stays rfl rfl rfl⟩) fun key hm => ?_
    exact .inl (mem_note_of_ne (fun h => by cases h) hm)

theorem effect_writeControl {ref : Ref} {ok : Bool} (hs : writeControl cfg e ref ok = some e') :
    Effect cfg act e e' := by
  simp only [writeControl] at hs
  split at hs
  · split at hs
    · split at hs
      · split at hs
        · split at hs <;> cases hs
          · refine .moves (.same rfl) (fun id op' hop' => ⟨op', hop', .stays rfl rfl rfl⟩)
              fun key hm => ?_
            exact .inl (mem_note_of_ne (fun h => by cases h) hm)
          · refine .moves (.same rfl) (fun id op' hop' => ⟨op', hop', .stays rfl rfl rfl⟩)
              fun key hm => ?_
            exact .inl (mem_note_of_ne (fun h => by cases h) hm)
          · exact .ofCarrier (.same rfl) rfl rfl
        · cases hs
      · cases hs
        obtain ⟨carrier, hfail, hmove⟩ := @failLeg_eq κ _ cfg _ ref
        rw [hfail]
        exact .ofCarrier hmove rfl rfl
    · cases hs
  · cases hs

/-- Steps outside of the coordinated drain, and the tests before a drain starts. -/
def Act.quiet : Act κ → Bool
  | .call _ _ | .endCall _ | .writer _ _ | .leg _ | .attachLeg _ _ _ | .ledger _ | .pending _ _ _
  | .close | .drainLeg _ | .drainEnter _ => true
  | _ => false

theorem endpointStep_quiet {inbox : List (Nat × StreamDrainMessage)} {a : Act κ}
    (ha : a.quiet = true) (hs : endpointStep cfg role inbox e a = some e') :
    CarrierMove cfg e.carrier e'.carrier ∧ e'.drainOps = e.drainOps ∧ e'.tickets = e.tickets ∧
      e'.sent = e.sent ∧ e'.reader = e.reader ∧ e'.log = e.log ∧
      e'.drainRemoteHighWater = e.drainRemoteHighWater := by
  cases a with
  | call k a =>
    obtain ⟨carrier, hcarrier, rfl⟩ := map_eq_some_iff.1 hs
    exact ⟨.call k a hcarrier, rfl, rfl, rfl, rfl, rfl, rfl⟩
  | endCall k =>
    simp only [endpointStep] at hs
    split at hs
    · split_ifs at hs
      cases hs
      exact ⟨.endCall k rfl, rfl, rfl, rfl, rfl, rfl, rfl⟩
    · cases hs
  | writer ref a =>
    obtain ⟨_, hs⟩ := ite_none_right_eq_some.1 hs
    obtain ⟨carrier, hcarrier, rfl⟩ := map_eq_some_iff.1 hs
    exact ⟨.writer ref a hcarrier, rfl, rfl, rfl, rfl, rfl, rfl⟩
  | leg a =>
    obtain ⟨hdrain, hs⟩ := (ite_none_left_eq_some ..).1 hs
    obtain ⟨carrier, hcarrier, rfl⟩ := map_eq_some_iff.1 hs
    refine ⟨.leg a ?_ hcarrier, rfl, rfl, rfl, rfl, rfl, rfl⟩
    cases a <;> first | rfl | exact absurd rfl hdrain
  | attachLeg id drainEnabled drainBinding =>
    obtain ⟨carrier, hcarrier, rfl⟩ := map_eq_some_iff.1 hs
    exact ⟨.leg _ rfl hcarrier, rfl, rfl, rfl, rfl, rfl, rfl⟩
  | ledger op =>
    cases hs
    exact ⟨.ledger _ rfl, rfl, rfl, rfl, rfl, rfl, rfl⟩
  | pending id depth held | close =>
    cases hs
    exact ⟨.same rfl, rfl, rfl, rfl, rfl, rfl, rfl⟩
  | drainLeg id =>
    simp only [endpointStep, drainLeg] at hs
    split at hs
    · split_ifs at hs
      cases hs
      exact ⟨.same rfl, rfl, rfl, rfl, rfl, rfl, rfl⟩
    · cases hs
  | drainEnter target =>
    obtain ⟨_, ⟨⟩⟩ := ite_none_right_eq_some.1 hs
    exact ⟨.same rfl, rfl, rfl, rfl, rfl, rfl, rfl⟩
  | _ =>
    cases ha

theorem effect_endpointStep {inbox : List (Nat × StreamDrainMessage)} {a : Act κ}
    (hs : endpointStep cfg role inbox e a = some e') : Effect cfg a e e' := by
  cases a with
  | call | endCall | writer | leg | attachLeg | ledger | pending | close | drainLeg | drainEnter =>
    obtain ⟨hcarrier, hops, _, _, _, hlog, _⟩ := endpointStep_quiet rfl hs
    exact .ofCarrier hcarrier hops hlog
  | drainStart target operationID => exact effect_drainStart hs
  | op id a =>
    simp only [endpointStep] at hs
    split at hs
    · next op hop =>
      exact effect_opStep hop hs
    · cases hs
  | opSend id a =>
    simp only [endpointStep] at hs
    split at hs
    · next op hop =>
      split at hs
      · next send after hpos =>
        split at hs
        · next hsend =>
          cases hs
          exact (effect_opSend hop hpos hsend).1 _ rfl
        · next hsend =>
          cases hs
          exact (effect_opSend hop hpos hsend).2 _ rfl
        · cases hs
      · cases hs
    · cases hs
  | writeControl ref ok => exact effect_writeControl hs
  | readFrame ref i =>
    simp only [endpointStep] at hs
    split at hs
    · split_ifs at hs
      cases hs
      exact effect_handleDrainControlFrame
    · cases hs
  | accept ref =>
    simp only [endpointStep] at hs
    split at hs <;> cases hs
    exact effect_acceptDrainIntent.setReader
  | enter ref =>
    simp only [endpointStep] at hs
    split at hs
    · obtain ⟨e₁, henter, rfl⟩ := map_eq_some_iff.1 hs
      exact (effect_enterDrainIntent henter).setReader
    · cases hs
  | refuse ref =>
    simp only [endpointStep] at hs
    split at hs <;> cases hs
    exact .ofCarrier (.same rfl) rfl rfl
  | refuseSend ref a =>
    simp only [endpointStep] at hs
    split at hs
    · split at hs
      · next hsend =>
        cases hs
        obtain ⟨hcarrier, hops, hlog, _⟩ := sendStep_effect hsend
        exact .ofCarrier (.same hcarrier) hops hlog
      · next e₁ err hsend =>
        cases hs
        obtain ⟨hcarrier, hops, hlog, _⟩ := sendStep_effect hsend
        exact effect_endRefusal.from_same hcarrier hops hlog
      · cases hs
    · cases hs

end Endpoint

end Smp3Multipath.Core.Drain

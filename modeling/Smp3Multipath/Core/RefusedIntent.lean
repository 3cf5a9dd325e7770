import Smp3Multipath.Core.DrainBarrier

/-!
# Refused Intents

`acceptDrainIntent` answers an Intent that it refuses with an Abort and returns
the error of that send; `legReadLoop` tears the carrier down that brought the
Intent when there is one.  The Abort needs another carrier than the target that
is open, negotiated and not draining itself.  When two drains on the two legs of
a session cross there is none: each endpoint refuses the Intent of the other and
takes the carrier down on which it came, so that no leg is left.

The handling of an Intent is one function here, with what each carrier does with
the Abort as an argument; `Sends.exists_outcome` relates it to the steps of
`sendDrainMessage` among the steps of the rest of the system.
-/

namespace Smp3Multipath.Core.Drain

open Lib.Run Carrier Function List

/-- What becomes of a frame that `sendDrainMessage` offers to a carrier. -/
inductive Outcome where
  /-- The carrier ended, or its control queue is full. -/
  | unavailable
  | written
  /-- The write failed, or the carrier ended under it. -/
  | failed
  | deadline
  | engineDone
deriving DecidableEq

/-- Is the next carrier tried? -/
def Outcome.passes : Outcome → Bool
  | .unavailable | .failed => true
  | _ => false

/-- The loop of `sendDrainMessage` over its carriers; `tried` says that some carrier failed. -/
def tryCarriers (message : StreamDrainMessage) (outcome : Ref → Outcome) :
    Bool → List Ref → Option DrainErr
  | tried, [] => some (if tried then .sendFailed else .unsupported)
  | _, ref :: rest =>
    if validStreamDrainMessage message = false then
      -- the frame does not encode
      tryCarriers message outcome true rest
    else
      match outcome ref with
      | .unavailable | .failed => tryCarriers message outcome true rest
      | .written => none
      | .deadline => some .deadline
      | .engineDone => some .streamClosed

section Handling

variable {κ : Type}

def sendDrainMessage
    (cfg : Config) (role : Role) (e : Endpoint κ) (target : Ref) (key : Key)
    (kind : StreamDrainMessageKind) (outcome : Ref → Outcome) : Option DrainErr :=
  let send := e.newSend cfg role target key kind
  tryCarriers send.message outcome false send.carriers

/-- `handleDrainControlFrame` for an Intent: the error it returns. -/
def handleIntent
    (cfg : Config) (role : Role) (e : Endpoint κ) (carrier : Ref) (m : StreamDrainMessage)
    (outcome : Ref → Outcome) : Option DrainErr :=
  if (e.info carrier).drainEnabled = false then some .negotiation
  else if m.senderRole ≠ role.peer ∨ validStreamDrainMessage m = false then some .message
  else if m.targetLeg = (e.carrier.legs carrier).id then none
  else
    match intentTarget e m with
    | some target =>
      match acceptDrainIntent cfg e target m with
      | (e, .refused target m) => sendDrainMessage cfg role e target m.key .abort outcome
      | _ => none
    | none => none

/-- The frame is authentic and well formed on a negotiated carrier. -/
structure Authentic (role : Role) (e : Endpoint κ) (carrier : Ref) (m : StreamDrainMessage) :
    Prop where
  drainEnabled : (e.info carrier).drainEnabled = true
  senderRole : m.senderRole = role.peer
  valid : validStreamDrainMessage m = true

/-- Another operation is active on the target, or no leg would be left. -/
def Conflicts (cfg : Config) (e : Endpoint κ) (m : StreamDrainMessage) : Prop :=
  match e.drainOps m.targetLeg with
  | some active => active.key ≠ m.key
  | none => e.drainRemoteHighWater m.targetLeg < m.counter ∧
      (∀ target, e.carrier.attached m.targetLeg = some target →
        e.closed target = true ∨ e.legCount cfg ≤ e.drainOpCount cfg + 1)

/-- The endpoint refuses the Intent. -/
def Refuses (cfg : Config) (e : Endpoint κ) (carrier : Ref) (m : StreamDrainMessage) : Prop :=
  m.targetLeg ≠ (e.carrier.legs carrier).id ∧ (intentTarget e m).isSome ∧ Conflicts cfg e m

/-- Some carrier writes the frame, and those before it only fail. -/
def Delivers (carriers : List Ref) (outcome : Ref → Outcome) : Prop :=
  ∃ before ref after, carriers = before ++ ref :: after ∧ outcome ref = .written ∧
    ∀ r ∈ before, (outcome r).passes = true

end Handling

section Carriers

variable {message : StreamDrainMessage} {outcome outcome' : Ref → Outcome}

theorem delivers_cons_iff {ref : Ref} {rest : List Ref} :
    Delivers (ref :: rest) outcome ↔
      outcome ref = .written ∨ (outcome ref).passes = true ∧ Delivers rest outcome := by
  constructor
  · rintro ⟨before, r, after, hsplit, hwritten, hpasses⟩
    cases before with
    | nil =>
      cases hsplit
      exact .inl hwritten
    | cons b before =>
      cases hsplit
      refine .inr ⟨hpasses ref mem_cons_self, before, r, after, rfl, hwritten, ?_⟩
      exact fun x hx => hpasses x (mem_cons_of_mem _ hx)
  · rintro (hwritten | ⟨hpass, before, r, after, rfl, hwritten, hpasses⟩)
    · exact ⟨[], ref, rest, rfl, hwritten, nofun⟩
    · refine ⟨ref :: before, r, after, rfl, hwritten, fun x hx => ?_⟩
      rcases mem_cons.1 hx with rfl | hx
      · exact hpass
      · exact hpasses x hx

/-- A frame that encodes is sent if and only if some carrier writes it in time. -/
theorem tryCarriers_eq_none_iff {tried : Bool} {carriers : List Ref}
    (hvalid : validStreamDrainMessage message = true) :
    tryCarriers message outcome tried carriers = none ↔ Delivers carriers outcome := by
  induction carriers generalizing tried with
  | nil =>
    constructor
    · intro h
      cases h
    · rintro ⟨before, ref, after, hsplit, _⟩
      cases before <;> cases hsplit
  | cons ref rest ih =>
    rw [delivers_cons_iff, tryCarriers, if_neg (by rw [hvalid]; exact Bool.noConfusion)]
    cases houtcome : outcome ref with
    | unavailable | failed => simp only [ih, reduceCtorEq, Outcome.passes, true_and, false_or]
    | written => simp only [true_or]
    | deadline | engineDone =>
      simp only [reduceCtorEq, Outcome.passes, Bool.false_eq_true, false_and, or_self]

theorem tryCarriers_congr {tried : Bool} {carriers : List Ref}
    (h : ∀ ref ∈ carriers, outcome ref = outcome' ref) :
    tryCarriers message outcome tried carriers = tryCarriers message outcome' tried carriers := by
  induction carriers generalizing tried with
  | nil => rfl
  | cons ref rest ih =>
    have hrest : ∀ tried, tryCarriers message outcome tried rest =
        tryCarriers message outcome' tried rest :=
      fun _ => ih fun r hr => h r (mem_cons_of_mem _ hr)
    simp only [tryCarriers, h ref mem_cons_self, hrest]

end Carriers

section Steps

variable {κ : Type}

/-- The steps of one `sendDrainMessage` call, whatever happens to the endpoint in between, up
to the error it returns. -/
inductive Sends (κ : Type) : Send → Option DrainErr → Prop
  | returns {e e' : Endpoint κ} {send : Send} {a : SendAct} {err : Option DrainErr}
      (h : sendStep e send a = some (e', .returned err)) : Sends κ send err
  | goes {e e' : Endpoint κ} {send send' : Send} {a : SendAct} {err : Option DrainErr}
      (h : sendStep e send a = some (e', .going send')) (rest : Sends κ send' err) :
      Sends κ send err

/-- The results of a call from where it is: with a frame in a carrier's hands, that carrier
decides or the next ones do. -/
def Results (send : Send) (err : Option DrainErr) : Prop :=
  match send.waiting with
  | none => ∃ outcome, tryCarriers send.message outcome send.tried send.carriers = err
  | some _ => err = none ∨ err = some .deadline ∨ err = some .streamClosed ∨
      ∃ outcome, tryCarriers send.message outcome send.tried send.carriers = err

theorem Results.of_push {send : Send} {ref : Ref} {rest : List Ref} {t : Nat}
    {err : Option DrainErr} (hwaiting : send.waiting = none)
    (hcarriers : send.carriers = ref :: rest) (hnodup : send.carriers.Nodup)
    (hvalid : validStreamDrainMessage send.message = true)
    (h : Results { send with carriers := rest, waiting := some (ref, t), tried := true } err) :
    Results send err := by
  have hencodes : ¬ validStreamDrainMessage send.message = false := by
    rw [hvalid]
    exact Bool.noConfusion
  rw [hcarriers] at hnodup
  unfold Results
  rw [hwaiting, hcarriers]
  rcases h with rfl | rfl | rfl | ⟨outcome, rfl⟩
  · exact ⟨fun _ => .written, by rw [tryCarriers, if_neg hencodes]⟩
  · exact ⟨fun _ => .deadline, by rw [tryCarriers, if_neg hencodes]⟩
  · exact ⟨fun _ => .engineDone, by rw [tryCarriers, if_neg hencodes]⟩
  · refine ⟨update outcome ref .failed, ?_⟩
    rw [tryCarriers, if_neg hencodes, update_self]
    refine tryCarriers_congr fun r hr => update_of_ne ?_ ..
    rintro rfl
    exact (nodup_cons.1 hnodup).1 hr

theorem Results.of_skip {send : Send} {ref : Ref} {rest : List Ref} {err : Option DrainErr}
    (hwaiting : send.waiting = none) (hcarriers : send.carriers = ref :: rest)
    (hnodup : send.carriers.Nodup) (h : Results { send with carriers := rest, tried := true } err) :
    Results send err := by
  rw [hcarriers] at hnodup
  unfold Results at h ⊢
  simp only [hwaiting] at h ⊢
  obtain ⟨outcome, rfl⟩ := h
  refine ⟨update outcome ref .unavailable, ?_⟩
  rw [hcarriers, tryCarriers, update_self]
  have hsame : tryCarriers send.message (update outcome ref .unavailable) true rest =
      tryCarriers send.message outcome true rest := by
    refine tryCarriers_congr fun r hr => update_of_ne ?_ ..
    rintro rfl
    exact (nodup_cons.1 hnodup).1 hr
  split
  · exact hsame
  · exact hsame

theorem Results.of_next {send : Send} {ticket : Ref × Nat} {err : Option DrainErr}
    (hwaiting : send.waiting = some ticket) (h : Results { send with waiting := none } err) :
    Results send err := by
  unfold Results
  rw [hwaiting]
  exact .inr (.inr (.inr h))

theorem results_of_returned {e e' : Endpoint κ} {send : Send} {a : SendAct}
    {err : Option DrainErr} (h : sendStep e send a = some (e', .returned err)) :
    Results send err := by
  cases sendStep_inv h with
  | written hwaiting _ =>
    rw [Results, hwaiting]
    exact .inl rfl
  | interrupted ha hwaiting =>
    rw [Results, hwaiting]
    rcases ha with ⟨_, rfl⟩ | ⟨_, rfl⟩
    · exact .inr (.inl rfl)
    · exact .inr (.inr (.inl rfl))
  | exhausted hwaiting hcarriers =>
    rw [Results, hwaiting, hcarriers]
    exact ⟨fun _ => .failed, rfl⟩

theorem Results.of_going {e e' : Endpoint κ} {send send' : Send} {a : SendAct}
    {err : Option DrainErr} (hnodup : send.carriers.Nodup)
    (hs : sendStep e send a = some (e', .going send')) (h : Results send' err) :
    Results send err := by
  cases sendStep_inv hs with
  | queues hwaiting hcarriers hvalid => exact .of_push hwaiting hcarriers hnodup hvalid h
  | passes hwaiting hcarriers => exact .of_skip hwaiting hcarriers hnodup h
  | fails hwaiting => exact .of_next hwaiting h

theorem sendStep_carriers {e e' : Endpoint κ} {send send' : Send} {a : SendAct}
    (hs : sendStep e send a = some (e', .going send')) :
    send'.carriers.Sublist send.carriers := by
  cases sendStep_inv hs with
  | queues _ hcarriers _ | passes _ hcarriers =>
    rw [hcarriers]
    exact sublist_cons_self ..
  | fails _ => exact List.Sublist.refl _

/-- What a `sendDrainMessage` call returns in the steps of the system is what the loop returns
for some behaviour of the carriers. -/
theorem Sends.results {send : Send} {err : Option DrainErr} (h : Sends κ send err)
    (hnodup : send.carriers.Nodup) : Results send err := by
  induction h with
  | returns h => exact results_of_returned h
  | goes hs _ ih => exact .of_going hnodup hs (ih (hnodup.sublist (sendStep_carriers hs)))

end Steps

section Session

variable {κ : Type} {cfg : Config} {role : Role} {e : Endpoint κ} {carrier : Ref}
  {m : StreamDrainMessage} {outcome : Ref → Outcome}

theorem controlCarriers_nodup (hfence : Fence e) (excluding : LegID) :
    (e.controlCarriers cfg excluding).Nodup := by
  unfold Endpoint.controlCarriers
  refine List.Nodup.filterMap (fun id id' ref hid hid' => ?_) nodup_range
  have hattached : ∀ id, ref ∈ (match e.carrier.attached id with
      | some ref => if id ≠ excluding ∧ e.carriesDrain ref then some ref else none
      | none => none) → (e.carrier.legs ref).id = id := by
    intro id h
    split at h
    · next ref' hat =>
      split_ifs at h
      · cases h
        exact (hfence.calls.attached id _ hat).2
      · cases h
    · cases h
  rw [← hattached id hid, ← hattached id' hid']

/-- The Abort of a refused Intent ends as the loop does for some behaviour of the carriers. -/
theorem Sends.exists_outcome {target : Ref} {err : Option DrainErr} (hfence : Fence e)
    (h : Sends κ (refusal cfg role e target m) err) :
    ∃ outcome, sendDrainMessage cfg role e target m.key .abort outcome = err :=
  h.results (controlCarriers_nodup hfence _)

theorem valid_abort {target : Ref} (hvalid : validStreamDrainMessage m = true) :
    validStreamDrainMessage (e.makeDrainMessage role target m.key .abort) = true := by
  have hgeneration := (e.info target).generation_pos
  simp only [validStreamDrainMessage, Bool.and_eq_true, bne_iff_ne, ne_eq] at hvalid ⊢
  obtain ⟨⟨⟨⟨_, hcounter⟩, hbinding⟩, hoperation⟩, _⟩ := hvalid
  refine ⟨⟨⟨⟨?_, hcounter⟩, hbinding⟩, hoperation⟩, rfl⟩
  exact Nat.ne_of_gt hgeneration

theorem intentTarget_eq_some {target : Ref} (hfence : Fence e)
    (h : intentTarget e m = some target) :
    e.carrier.attached m.targetLeg = some target ∧ (e.carrier.legs target).id = m.targetLeg := by
  unfold intentTarget at h
  split at h
  · next target' hat =>
    split_ifs at h
    cases h
    exact ⟨hat, (hfence.calls.attached _ _ hat).2⟩
  · cases h

/-- `acceptDrainIntent` refuses the Intent just when it conflicts, and leaves the carriers. -/
theorem acceptDrainIntent_spec {target : Ref}
    (hattached : e.carrier.attached m.targetLeg = some target)
    (hid : (e.carrier.legs target).id = m.targetLeg) :
    (acceptDrainIntent cfg e target m).1.carrier = e.carrier ∧
      (acceptDrainIntent cfg e target m).1.info = e.info ∧
      (((acceptDrainIntent cfg e target m).2 = .refused target m ∧ Conflicts cfg e m) ∨
        ((∀ target' m', (acceptDrainIntent cfg e target m).2 ≠ .refused target' m') ∧
          ¬ Conflicts cfg e m)) := by
  have hcurrent : e.current target = true := by
    rw [Endpoint.current, hid, hattached]
    exact decide_eq_true rfl
  unfold acceptDrainIntent Conflicts
  simp only [hid, hcurrent]
  cases hop : e.drainOps m.targetLeg with
  | some active =>
    dsimp only
    split
    · next hkey =>
      exact ⟨rfl, rfl, .inr ⟨by rintro _ _ ⟨⟩, fun hne => hne hkey⟩⟩
    · next hkey =>
      exact ⟨rfl, rfl, .inl ⟨rfl, hkey⟩⟩
  | none =>
    dsimp only
    split
    · next hseen =>
      refine ⟨rfl, rfl, .inr ⟨by rintro _ _ ⟨⟩, fun hconflict => ?_⟩⟩
      exact absurd hconflict.1 (Nat.not_lt.2 hseen)
    · next hseen =>
      split
      · next hrefused =>
        refine ⟨rfl, rfl, .inl ⟨rfl, Nat.lt_of_not_le hseen, fun target' hat => ?_⟩⟩
        cases hattached.symm.trans hat
        rcases hrefused with hclosed | hcurrent | hlast
        · exact .inl hclosed
        · exact absurd trivial hcurrent
        · exact .inr hlast
      · next hrefused =>
        refine ⟨rfl, rfl, .inr ⟨by rintro _ _ ⟨⟩, fun hconflict => hrefused ?_⟩⟩
        rcases hconflict.2 target hattached with hclosed | hlast
        · exact .inl hclosed
        · exact .inr (.inr hlast)

theorem sendAbort_eq_none_iff {e' : Endpoint κ} {target : Ref}
    (hvalid : validStreamDrainMessage m = true) (hcarrier : e'.carrier = e.carrier)
    (hinfo : e'.info = e.info) (hid : (e.carrier.legs target).id = m.targetLeg) :
    sendDrainMessage cfg role e' target m.key .abort outcome = none ↔
      Delivers (e.controlCarriers cfg m.targetLeg) outcome := by
  have hcarriers : e'.controlCarriers cfg m.targetLeg = e.controlCarriers cfg m.targetLeg := by
    unfold Endpoint.controlCarriers Endpoint.carriesDrain Endpoint.closed
    rw [hcarrier, hinfo]
  rw [← hcarriers, ← hid, ← hcarrier]
  exact tryCarriers_eq_none_iff (valid_abort hvalid)

theorem handleIntent_eq_none_iff (hfence : Fence e) (hauthentic : Authentic role e carrier m) :
    handleIntent cfg role e carrier m outcome = none ↔
      ¬ Refuses cfg e carrier m ∨ Delivers (e.controlCarriers cfg m.targetLeg) outcome := by
  obtain ⟨henabled, hrole, hvalid⟩ := hauthentic
  have hdecodes : ¬ (m.senderRole ≠ role.peer ∨ validStreamDrainMessage m = false) := by
    rw [hrole, hvalid]
    simp only [ne_eq, not_true_eq_false, Bool.true_eq_false, or_self, not_false_eq_true]
  rw [handleIntent, if_neg (by rw [henabled]; exact Bool.noConfusion), if_neg hdecodes]
  unfold Refuses
  by_cases hself : m.targetLeg = (e.carrier.legs carrier).id
  · rw [if_pos hself]
    exact iff_of_true rfl (.inl fun h => h.1 hself)
  rw [if_neg hself]
  cases htarget : intentTarget e m with
  | none => exact iff_of_true rfl (.inl fun h => by cases h.2.1)
  | some target =>
    obtain ⟨hattached, hid⟩ := intentTarget_eq_some hfence htarget
    obtain ⟨hcarrier, hinfo, hcases⟩ := @acceptDrainIntent_spec _ cfg _ _ target hattached hid
    dsimp only
    split
    · next e' target' m' heq =>
      rw [heq] at hcarrier hinfo hcases
      rcases hcases with ⟨hrefused, hconflict⟩ | ⟨haccepted, _⟩
      · cases hrefused
        rw [sendAbort_eq_none_iff hvalid hcarrier hinfo hid]
        exact ⟨.inr, fun h => h.resolve_left fun hno => hno ⟨hself, rfl, hconflict⟩⟩
      · exact absurd rfl (haccepted target' m')
    · next hother =>
      refine iff_of_true rfl (.inl fun h => ?_)
      rcases hcases with ⟨hrefused, _⟩ | ⟨_, hconflict⟩
      · exact hother _ target m (Prod.ext rfl hrefused)
      · exact hconflict h.2.2

variable [DecidableEq κ] {s : State κ}

/-- Handling an authentic Intent returns no error, in every state of the engine, just when the
Intent is not refused or some other leg that is open, negotiated and not draining writes the
Abort, those before it failing without running into the timeout or the end of the engine. -/
theorem intent_keeps_carrier_iff (hreach : Reachable (step cfg) (init κ cfg) s)
    (hauthentic : Authentic role (s role) carrier m) :
    handleIntent cfg role (s role) carrier m outcome = none ↔
      ¬ Refuses cfg (s role) carrier m ∨
        Delivers ((s role).controlCarriers cfg m.targetLeg) outcome :=
  handleIntent_eq_none_iff (fence_of_reachable hreach role) hauthentic

end Session

section Crossing

/-- The client starts to drain leg 0 and the server leg 1; both Intents are written. -/
def crossRun : List (Role × Act Unit) :=
  attachBoth ++
    [(.client, .drainLeg 0), (.client, .drainEnter 0), (.client, .drainStart 0 5),
      (.server, .drainLeg 1), (.server, .drainEnter 1), (.server, .drainStart 1 6)] ++
    sendOn .client 0 1 ++ sendOn .server 1 0

/-- The Intent of the client. -/
def clientIntent : StreamDrainMessage :=
  { kind := .intent
    senderRole := .client
    targetLeg := 0
    generation := 1
    targetBinding := 10
    operationID := 5
    counter := 1
    ackedNext := 0
    outstandingFrames := 0
    outstandingBytes := 0 }

/-- An endpoint refuses the Intent it reads on a leg, finds no carrier for the Abort and takes
the leg down. -/
def loseCarrier (role : Role) (ref : Ref) : List (Role × Act Unit) :=
  [(role, .readFrame ref 0), (role, .accept ref), (role, .refuse ref),
    (role, .refuseSend ref .exhausted), (role, .leg (.closeConn ref)), (role, .leg (.remove ref))]

/-- The other endpoint of a leg that was taken down reads the end of its connection. -/
def seeEnd (role : Role) (ref : Ref) : List (Role × Act Unit) :=
  [(role, .leg (.fail ref)), (role, .leg (.closeConn ref)), (role, .leg (.remove ref))]

theorem crossRun_refuses :
    (runActs (step drainConfig) (init Unit drainConfig) crossRun).any (fun s =>
      decide ((11, clientIntent) ∈ (s .client).sent ∧
        ((s .server).info 1).drainEnabled = true ∧ ((s .server).info 1).drainBinding = 11 ∧
        handleIntent drainConfig .server (s .server) 1 clientIntent (fun _ => .written) =
          some .unsupported)) = true := by
  decide +kernel

theorem crossRun_loses :
    (runActs (step drainConfig) (init Unit drainConfig)
      (crossRun ++ loseCarrier .server 1 ++ loseCarrier .client 0 ++
        seeEnd .client 1 ++ seeEnd .server 0)).any (fun s =>
      decide (.carrierLost 1 ∈ (s .server).log ∧ .carrierLost 0 ∈ (s .client).log ∧
        ((s .client).carrier.attached 0 = none ∧ (s .client).carrier.attached 1 = none) ∧
        (s .server).carrier.attached 0 = none ∧ (s .server).carrier.attached 1 = none)) =
      true := by
  decide +kernel

/-- Two drains that cross: the Intent of the client costs the server the carrier that brought
it, whatever the carriers do, and a run ends with both legs removed at both endpoints because of
the two refused Intents. -/
theorem crossed_drains_lose_legs :
    (¬ ∀ s, Reachable (step drainConfig) (init Unit drainConfig) s →
      ∀ role carrier m outcome, m.kind = .intent → Authentic role (s role) carrier m →
        handleIntent drainConfig role (s role) carrier m outcome = none) ∧
    ∃ s, Reachable (step drainConfig) (init Unit drainConfig) s ∧
      .carrierLost 1 ∈ (s .server).log ∧ .carrierLost 0 ∈ (s .client).log ∧
      ((s .client).carrier.attached 0 = none ∧ (s .client).carrier.attached 1 = none) ∧
      (s .server).carrier.attached 0 = none ∧ (s .server).carrier.attached 1 = none := by
  constructor
  · intro hall
    obtain ⟨s, hrun, h⟩ := (Option.any_eq_true ..).1 crossRun_refuses
    simp only [decide_eq_true_eq] at h
    obtain ⟨_, henabled, _, herror⟩ := h
    have hnone := hall s ⟨_, hrun⟩ .server 1 clientIntent (fun _ => .written) rfl
      ⟨henabled, rfl, by decide⟩
    rw [hnone] at herror
    cases herror
  · obtain ⟨s, hrun, h⟩ := (Option.any_eq_true ..).1 crossRun_loses
    simp only [decide_eq_true_eq] at h
    exact ⟨s, ⟨_, hrun⟩, h⟩

theorem attachBoth_accepts :
    (runActs (step drainConfig) (init Unit drainConfig) attachBoth).any (fun s =>
      decide (((s .server).info 1).drainEnabled = true ∧
        (s .server).drainOps 0 = none ∧ (s .server).carrier.attached 0 = some 0 ∧
        (s .server).closed 0 = false ∧
        (s .server).drainOpCount drainConfig + 1 < (s .server).legCount drainConfig)) = true := by
  decide +kernel

/-- With two idle legs the server does not refuse the Intent of the client. -/
theorem intent_keeps_carrier_attachBoth :
    ∃ s, Reachable (step drainConfig) (init Unit drainConfig) s ∧
      ∀ outcome, handleIntent drainConfig .server (s .server) 1 clientIntent outcome = none := by
  obtain ⟨s, hrun, h⟩ := (Option.any_eq_true ..).1 attachBoth_accepts
  simp only [decide_eq_true_eq] at h
  obtain ⟨henabled, hops, hattached, hopen, hlegs⟩ := h
  refine ⟨s, ⟨_, hrun⟩, fun outcome => ?_⟩
  refine (intent_keeps_carrier_iff ⟨_, hrun⟩ ⟨henabled, rfl, by decide⟩).2 (.inl ?_)
  rintro ⟨_, _, hconflict⟩
  simp only [Conflicts, show clientIntent.targetLeg = 0 from rfl, hops] at hconflict
  rcases hconflict.2 0 hattached with hclosed | hlast
  · rw [hopen] at hclosed
    cases hclosed
  · exact absurd hlegs (Nat.not_lt.2 hlast)

/-- The server gives its Abort to the second leg and meets the deadline. -/
theorem exists_outcome_deadline :
    ∃ s, runActs (step drainConfig) (init Unit drainConfig) attachBoth = some s ∧
      ∃ outcome, sendDrainMessage drainConfig .server (s .server) 0 clientIntent.key .abort
        outcome = some .deadline := by
  obtain ⟨s, e, send, place, hrun, hpush, hwaiting⟩ : ∃ s e send place,
      runActs (step drainConfig) (init Unit drainConfig) attachBoth = some s ∧
        sendStep (s .server) (refusal drainConfig .server (s .server) 0 clientIntent) .push =
          some (e, .going send) ∧ send.waiting = some place := ⟨_, _, _, _, rfl, rfl, rfl⟩
  have htimeout : sendStep e send .timeout = some (e, .returned (some .deadline)) := by
    rw [sendStep, hwaiting]
  exact ⟨s, hrun, Sends.exists_outcome (fence_of_reachable ⟨_, hrun⟩ .server)
    (.goes hpush (.returns htimeout))⟩

end Crossing

end Smp3Multipath.Core.Drain

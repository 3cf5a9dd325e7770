import Smp3Multipath.Core.StreamTx
import Smp3Multipath.Lib.Run

/-!
# Leg indexes of the Mihomo adapter

`NewSMP3` accepts one leg or more, with and without a fallback for leg 1, in every scheduler,
capacity and startup mode and UDP setting.  Two functions take a second leg for granted:
`capacityProvider` clears the key of leg 1 when there is a fallback, and the datagram side looks
up leg 1 before it reads its configuration.  Every other index is behind a check of the length.

An index is an operation that can fault, and a fault ends the run.  What the children, the carriers
and the engine answer is left open, and so is when a callback or a repair comes.  The functions of
the Go library that the options go through are a parameter.
-/

namespace Smp3Multipath.Mihomo.LegIndexes

open Lib.Run List
open Smp3Multipath.Core (maxStreamLegIDCount)

section Options

/-- `strings.TrimSpace`, `strings.ToLower` and `time.ParseDuration`, in nanoseconds. -/
structure Library where
  trimSpace : String → String
  toLower : String → String
  parseDuration : String → Option Int

/-- The fields of `SMP3Option` that `NewSMP3` checks or the sessions read. -/
structure SMP3Option where
  name : String
  server : String
  port : Int
  password : String
  legs : List String
  maxActiveLegs : Int
  leg1Fallback : String
  schedulerMode : String
  capacityMode : String
  activationMode : String
  holMode : String
  startupPolicy : String
  startupPreferredLeg : UInt8
  startupGrace : String
  activationWindow : String
  ackInterval : String
  retransmitTimeout : String
  recoveryTimeout : String
  redialInterval : String
  udpEnabled : Bool
deriving DecidableEq

inductive SchedulerMode where
  | adaptive
  | static
  | aggregation
deriving DecidableEq

inductive CapacityMode where
  | fixed
  | dynamic
deriving DecidableEq

inductive StartupPolicy where
  | firstReady
  | preferred
deriving DecidableEq

/-- The fields of `StreamConfig` that the sessions read. -/
structure StreamConfig where
  schedulerMode : SchedulerMode
  capacityMode : CapacityMode
  startupPolicy : StartupPolicy
deriving DecidableEq

inductive OptionError where
  | missingName
  | invalidServerOrPort
  | missingPassword
  | legCount
  | udpLegCount
  | legNameRequired
  | legNamesNotUnique
  | recursiveChild
  | fallbackNotSeparate
  | maxActiveLegs
  | startupPreferredLeg
  | activationWindow
  | ackInterval
  | retransmitTimeout
  | recoveryTimeout
  | startupPolicy
  | startupGrace
  | schedulerMode
  | capacityMode
  | activationMode
  | holMode
  | redialInterval
deriving DecidableEq

def defaultMaxActiveStreamLegs : Int := 16
def millisecond : Int := 1000000
def second : Int := 1000 * millisecond
def maxStreamStartupGrace : Int := 10 * second

variable (lib : Library)

def parseSMP3Duration (value : String) (fallback : Int) : Option Int :=
  if lib.trimSpace value = "" then some fallback
  else (lib.parseDuration value).filter fun d => 0 < d

def parseSMP3StartupGrace (value : String) : Option Int :=
  if lib.trimSpace value = "" then some 0
  else (lib.parseDuration value).filter fun d => 0 ≤ d ∧ d ≤ maxStreamStartupGrace

def maxActive (option : SMP3Option) : Int :=
  if option.maxActiveLegs = 0 then defaultMaxActiveStreamLegs else option.maxActiveLegs

/-- A mode that only the aggregating scheduler has, by its texts. -/
def aggregationMode (text : String) (plain : List String) (special : String)
    (mode : SchedulerMode) (e : OptionError) : Except OptionError Bool :=
  let text := lib.toLower (lib.trimSpace text)
  if text ∈ plain then .ok false
  else if text = special then (if mode ≠ .aggregation then .error e else .ok true)
  else .error e

def makeStreamConfig (option : SMP3Option) : Except OptionError StreamConfig := do
  let duration (value : String) (e : OptionError) : Except OptionError Unit :=
    if (parseSMP3Duration lib value second).isNone then .error e else .ok ()
  duration option.activationWindow .activationWindow
  duration option.ackInterval .ackInterval
  duration option.retransmitTimeout .retransmitTimeout
  duration option.recoveryTimeout .recoveryTimeout
  let policy := lib.toLower (lib.trimSpace option.startupPolicy)
  let startupPolicy ←
    if policy = "" ∨ policy = "first-ready" then .ok StartupPolicy.firstReady
    else if policy = "preferred" then .ok StartupPolicy.preferred
    else .error .startupPolicy
  if maxActive option < 1 ∨ maxActive option > maxStreamLegIDCount then .error .maxActiveLegs
  if (option.startupPreferredLeg.toNat : Int) ≥ maxActive option then .error .startupPreferredLeg
  if (parseSMP3StartupGrace lib option.startupGrace).isNone then .error .startupGrace
  let mode ←
    if option.schedulerMode = "" ∨ option.schedulerMode = "adaptive" then
      .ok SchedulerMode.adaptive
    else if option.schedulerMode = "static" then .ok SchedulerMode.static
    else if option.schedulerMode = "aggregation" then .ok SchedulerMode.aggregation
    else .error .schedulerMode
  let capacity ←
    aggregationMode lib option.capacityMode ["", "fixed"] "dynamic" mode .capacityMode
  let _ ← aggregationMode lib option.activationMode ["", "legacy"] "dynamic" mode .activationMode
  let _ ←
    aggregationMode lib option.holMode ["", "legacy", "disabled"] "completion" mode .holMode
  return {
    schedulerMode := mode
    capacityMode := if capacity then .dynamic else .fixed
    startupPolicy := startupPolicy }

/-- The loop over the legs, with the names seen before. -/
def legsError (option : SMP3Option) : List String → List String → Option OptionError
  | _, [] => none
  | seen, leg :: legs =>
    if lib.trimSpace leg = "" then some .legNameRequired
    else if leg ∈ seen then some .legNamesNotUnique
    else if leg = option.name then some .recursiveChild
    else legsError option (leg :: seen) legs

/-- The checks of `NewSMP3` before the stream configuration is made. -/
def optionError (option : SMP3Option) : Option OptionError :=
  if option.name = "" then some .missingName
  else if option.server = "" ∨ option.port ≤ 0 ∨ option.port > 65535 then
    some .invalidServerOrPort
  else if option.password = "" then some .missingPassword
  else if option.legs.length < 1 ∨ option.legs.length > maxStreamLegIDCount then some .legCount
  else if option.udpEnabled = true ∧ option.legs.length > 2 then some .udpLegCount
  else if let some e := legsError lib option [] option.legs then some e
  else if option.leg1Fallback = option.name ∨
      (option.leg1Fallback ≠ "" ∧ option.leg1Fallback ∈ option.legs) then
    some .fallbackNotSeparate
  else if maxActive option < 1 ∨ maxActive option > maxStreamLegIDCount ∨
      (option.legs.length : Int) > maxActive option then
    some .maxActiveLegs
  else if option.startupPreferredLeg.toNat ≥ option.legs.length then some .startupPreferredLeg
  else none

/-- `SMP3`. -/
structure Adapter where
  option : SMP3Option
  streamConfig : StreamConfig
deriving DecidableEq

def newSMP3 (option : SMP3Option) : Except OptionError Adapter :=
  match optionError lib option with
  | some e => .error e
  | none =>
    match makeStreamConfig lib option with
    | .error e => .error e
    | .ok streamConfig =>
      match parseSMP3Duration lib option.redialInterval second with
      | none => .error .redialInterval
      | some interval =>
        if interval < 100 * millisecond ∨ interval > 30 * second then .error .redialInterval
        else .ok { option := option, streamConfig := streamConfig }

end Options

section Sessions

/-- An index out of range. -/
structure Fault where
  index : Nat
  length : Nat
deriving DecidableEq

def index {α : Type} (xs : List α) (i : Nat) : Except Fault α :=
  match xs[i]? with
  | some x => .ok x
  | none => .error ⟨i, xs.length⟩

def assign {α : Type} (xs : List α) (i : Nat) (x : α) : Except Fault (List α) :=
  if i < xs.length then .ok (xs.set i x) else .error ⟨i, xs.length⟩

/-- `smp3Session`; `repairs` are the goroutines of `ensureLeg`. -/
structure Stream where
  joining : List Bool
  v6Accepted : List Bool
  repairs : List Nat
deriving DecidableEq

/-- `smp3UDPDualSession` with the arrays of its bootstrap. -/
structure Datagram where
  starts : List Bool
  done : List Bool
  repairing : List Bool
deriving DecidableEq

structure State where
  stream : Option Stream
  datagram : Option Datagram
  fault : Option Fault
deriving DecidableEq

def init : State :=
  { stream := none, datagram := none, fault := none }

variable (a : Adapter)

/-- `capacityProvider`: the keys it hands to the registry, if any. -/
def capacityProvider : Except Fault (Option (List String)) :=
  if a.streamConfig.capacityMode ≠ .dynamic ∨ a.streamConfig.schedulerMode ≠ .aggregation then
    .ok none
  else
    let keys := a.option.legs.map fun leg => "mihomo|outbound|" ++ a.option.name ++ "|" ++ leg
    if a.option.leg1Fallback ≠ "" then (assign keys 1 "").map some
    else .ok (some keys)

def ensureLegState (s : Stream) : Stream :=
  let count := a.option.legs.length
  { s with
    joining := s.joining ++ List.replicate (count - s.joining.length) false
    v6Accepted := s.v6Accepted ++ List.replicate (count - s.v6Accepted.length) false }

def markV6Accepted (s : Stream) (id : Nat) : Except Fault Stream :=
  let s := ensureLegState a s
  if id < s.v6Accepted.length then
    (assign s.v6Accepted id true).map fun v6Accepted => { s with v6Accepted := v6Accepted }
  else .ok s

/-- `dialCarrier`, with whether the peer accepts version 6. -/
def dialCarrier (s : Stream) (id : Nat) (accepted : Bool) : Except Fault Stream := do
  if id ≥ a.option.legs.length then return s
  let _ ← index a.option.legs id
  if accepted then markV6Accepted a s id else return s

/-- `DialContext` up to its session; `dialed` is whether leg 0 comes up. -/
def dialContext (dialed accepted : Bool) : Except Fault (Option Stream) := do
  let count := a.option.legs.length
  let s : Stream :=
    { joining := List.replicate count false, v6Accepted := List.replicate count false
      repairs := [] }
  if a.streamConfig.startupPolicy = .preferred then
    let _ ← capacityProvider a
    return some { s with joining := s.joining.map fun _ => true }
  let s ← dialCarrier a s 0 accepted
  if dialed = false then return none
  let _ ← capacityProvider a
  return some s

def finishJoining (s : Stream) (id : Nat) : Except Fault Stream :=
  if id < s.joining.length then
    (assign s.joining id false).map fun joining => { s with joining := joining }
  else .ok s

/-- `ensureLeg` up to its goroutine. -/
def ensureLeg (s : Stream) (id : Nat) (hasLeg : Bool) : Except Fault Stream := do
  if id ≥ a.option.legs.length then return s
  let s := ensureLegState a s
  let busy ← index s.joining id
  if hasLeg || busy then return s
  let joining ← assign s.joining id true
  return { s with joining := joining, repairs := id :: s.repairs }

/-- The end of a goroutine of `ensureLeg`. -/
def repairEnd (s : Stream) (id : Nat) : Except Fault Stream :=
  (assign s.joining id false).map fun joining =>
    { s with joining := joining, repairs := s.repairs.erase id }

/-- `newDualLegUDPPacketConn` up to its session.  The answers are whether the destination is
valid, whether the child of each leg is found, and whether the rest of the checks pass. -/
def newDualLegUDPPacketConn (valid child0 child1 rest : Bool) : Except Fault (Option Datagram) := do
  if valid = false then return none
  let _ ← index a.option.legs 0
  if child0 = false then return none
  let _ ← index a.option.legs 1
  if child1 = false ∨ rest = false ∨ a.option.udpEnabled = false then return none
  let starts ← assign [false, false] 0 true
  return some { starts := starts, done := [false, false], repairing := [false, false] }

def dialUDPLeg (id : Nat) : Except Fault Unit := do
  if id > 1 then return ()
  let _ ← index a.option.legs id

/-- `start(1)`, by the timer or after a failure of leg 0. -/
def startLeg1 (d : Datagram) : Except Fault Datagram :=
  (assign d.starts 1 true).map fun starts => { d with starts := starts }

/-- A result of the bootstrap of leg 0 or leg 1. -/
def bootstrapResult (d : Datagram) (second : Bool) : Except Fault Datagram := do
  let id := if second then 1 else 0
  let done ← assign d.done id true
  let _ ← index done (1 - id)
  return { d with done := done }

/-- `scheduleRepairForEngine` up to its goroutine. -/
def scheduleRepair (d : Datagram) (id : Nat) : Except Fault Datagram := do
  if id > 1 then return d
  let busy ← index d.repairing id
  if busy then return d
  let repairing ← assign d.repairing id true
  return { d with repairing := repairing }

/-- The end of a goroutine that repairs leg 0 or leg 1. -/
def udpRepairEnd (d : Datagram) (second : Bool) : Except Fault Datagram :=
  (assign d.repairing (if second then 1 else 0) false).map fun repairing =>
    { d with repairing := repairing }

end Sessions

section System

inductive Act where
  | dialContext (dialed accepted : Bool)
  /-- A dial of the preferred bootstrap or of a repair. -/
  | dialCarrier (id : Nat) (accepted : Bool)
  | finishJoining (id : Nat)
  /-- From `OnActivate`, or from `OnLegDown` after the redial interval. -/
  | ensureLeg (id : Nat) (hasLeg : Bool)
  | repairEnd (id : Nat)
  | listenPacket (valid child0 child1 rest : Bool)
  | dialUDPLeg (id : Nat)
  | startLeg1
  | bootstrapResult (second : Bool)
  | scheduleRepair (id : Nat)
  | udpRepairEnd (second : Bool)
deriving DecidableEq

def State.after (s : State) (outcome : Except Fault State) : State :=
  match outcome with
  | .ok s' => s'
  | .error fault => { s with fault := some fault }

def State.onStream (s : State) (f : Stream → Except Fault Stream) : Option State :=
  s.stream.map fun stream => s.after ((f stream).map fun stream => { s with stream := stream })

def State.onDatagram (s : State) (f : Datagram → Except Fault Datagram) : Option State :=
  s.datagram.map fun d => s.after ((f d).map fun d => { s with datagram := d })

def step (a : Adapter) (s : State) (act : Act) : Option State :=
  if s.fault ≠ none then none
  else
    match act with
    | .dialContext dialed accepted =>
      if s.stream ≠ none then none
      else some (s.after ((dialContext a dialed accepted).map fun stream =>
        { s with stream := stream }))
    | .dialCarrier id accepted => s.onStream fun stream => dialCarrier a stream id accepted
    | .finishJoining id => s.onStream fun stream => finishJoining stream id
    | .ensureLeg id hasLeg => s.onStream fun stream => ensureLeg a stream id hasLeg
    | .repairEnd id =>
      if (s.stream.any fun stream => id ∈ stream.repairs) then
        s.onStream fun stream => repairEnd stream id
      else none
    | .listenPacket valid child0 child1 rest =>
      if s.datagram ≠ none then none
      else some (s.after ((newDualLegUDPPacketConn a valid child0 child1 rest).map fun d =>
        { s with datagram := d }))
    | .dialUDPLeg id => s.onDatagram fun d => (dialUDPLeg a id).map fun _ => d
    | .startLeg1 => s.onDatagram startLeg1
    | .bootstrapResult second => s.onDatagram fun d => bootstrapResult d second
    | .scheduleRepair id => s.onDatagram fun d => scheduleRepair d id
    | .udpRepairEnd second => s.onDatagram fun d => udpRepairEnd d second

end System

section Specification

variable (a : Adapter)

/-- No run of the adapter faults. -/
def NeverFaults : Prop :=
  ∀ acts s, runActs (step a) init acts = some s → s.fault = none

def Act.isListen : Act → Bool
  | .listenPacket .. => true
  | _ => false

/-- No run without a datagram session faults. -/
def StreamNeverFaults : Prop :=
  ∀ acts s, (∀ act ∈ acts, act.isListen = false) → runActs (step a) init acts = some s →
    s.fault = none

/-- `capacityProvider` finds the key that it clears. -/
def KeysFit : Prop :=
  2 ≤ a.option.legs.length ∨ a.option.leg1Fallback = "" ∨
    a.streamConfig.capacityMode ≠ .dynamic ∨ a.streamConfig.schedulerMode ≠ .aggregation
deriving Decidable

end Specification

section Indexes

variable {α : Type} {xs : List α} {i : Nat} {a : Adapter} {s : Stream}

theorem index_ok (h : i < xs.length) : ∃ x, index xs i = .ok x := by
  rw [index, getElem?_eq_getElem h]
  exact ⟨_, rfl⟩

theorem assign_ok (x : α) (h : i < xs.length) : assign xs i x = .ok (xs.set i x) :=
  if_pos h

theorem capacityProvider_ok (h : KeysFit a) : ∃ keys, capacityProvider a = .ok keys := by
  unfold capacityProvider
  split
  · exact ⟨_, rfl⟩
  next hmodes =>
    dsimp only
    split
    next hfallback =>
      have hlegs : 2 ≤ a.option.legs.length := by
        rcases h with h | h | h
        · exact h
        · exact absurd h hfallback
        · exact absurd h hmodes
      rw [assign_ok _ (by rw [length_map]; omega)]
      exact ⟨_, rfl⟩
    · exact ⟨_, rfl⟩

/-- The slices of a session have an element for each leg, and repairs are of legs. -/
structure StreamOk (a : Adapter) (s : Stream) : Prop where
  joining : s.joining.length = a.option.legs.length
  v6Accepted : s.v6Accepted.length = a.option.legs.length
  repairs : ∀ id ∈ s.repairs, id < a.option.legs.length

theorem ensureLegState_eq (hok : StreamOk a s) : ensureLegState a s = s := by
  simp [ensureLegState, hok.joining, hok.v6Accepted]

theorem dialCarrier_ok (hok : StreamOk a s) (accepted : Bool) :
    ∃ s', dialCarrier a s i accepted = .ok s' ∧ StreamOk a s' := by
  unfold dialCarrier
  by_cases hi : i ≥ a.option.legs.length
  · exact ⟨s, by rw [if_pos hi]; rfl, hok⟩
  · obtain ⟨leg, hleg⟩ := index_ok (Nat.lt_of_not_le hi)
    have hlt : i < s.v6Accepted.length := by
      rw [hok.v6Accepted]
      omega
    rw [if_neg hi, hleg]
    cases accepted with
    | false => exact ⟨s, rfl, hok⟩
    | true =>
      refine ⟨{ s with v6Accepted := s.v6Accepted.set i true }, ?_,
        hok.joining, by simpa using hok.v6Accepted, hok.repairs⟩
      change markV6Accepted a s i = _
      simp [markV6Accepted, ensureLegState_eq hok, hlt, assign_ok _ hlt, Except.map]

theorem dialContext_ok (hkeys : KeysFit a) (dialed accepted : Bool) :
    ∃ stream, dialContext a dialed accepted = .ok stream ∧ ∀ s ∈ stream, StreamOk a s := by
  obtain ⟨keys, hprovider⟩ := capacityProvider_ok hkeys
  have hnew (joining : Bool) : StreamOk a
      { joining := List.replicate a.option.legs.length joining
        v6Accepted := List.replicate a.option.legs.length false, repairs := [] } :=
    ⟨by simp, by simp, by simp⟩
  unfold dialContext
  dsimp only
  split
  · rw [hprovider]
    refine ⟨_, rfl, ?_⟩
    simpa using hnew true
  · obtain ⟨s, hs, hok⟩ := @dialCarrier_ok 0 a _ (hnew false) accepted
    rw [hs]
    cases dialed with
    | false => exact ⟨none, rfl, by simp⟩
    | true =>
      change ∃ stream, (capacityProvider a >>= fun _ => pure (some s)) = .ok stream ∧ _
      rw [hprovider]
      exact ⟨some s, rfl, by simpa using hok⟩

theorem StreamOk.assignJoining (hok : StreamOk a s) (hi : i < a.option.legs.length) (b : Bool) :
    assign s.joining i b = .ok (s.joining.set i b) ∧
      (s.joining.set i b).length = a.option.legs.length :=
  ⟨assign_ok b (by rw [hok.joining]; exact hi), by rw [length_set, hok.joining]⟩

theorem finishJoining_ok (hok : StreamOk a s) :
    ∃ s', finishJoining s i = .ok s' ∧ StreamOk a s' := by
  unfold finishJoining
  split
  next hi =>
    obtain ⟨hassign, hlen⟩ := hok.assignJoining (hok.joining ▸ hi) false
    rw [hassign]
    exact ⟨_, rfl, hlen, hok.v6Accepted, hok.repairs⟩
  · exact ⟨s, rfl, hok⟩

theorem ensureLeg_ok (hok : StreamOk a s) (hasLeg : Bool) :
    ∃ s', ensureLeg a s i hasLeg = .ok s' ∧ StreamOk a s' := by
  unfold ensureLeg
  by_cases hi : i ≥ a.option.legs.length
  · exact ⟨s, by rw [if_pos hi]; rfl, hok⟩
  · have hlt : i < a.option.legs.length := Nat.lt_of_not_le hi
    obtain ⟨busy, hbusy⟩ : ∃ b, index s.joining i = .ok b := index_ok (by rw [hok.joining]; exact hlt)
    obtain ⟨hassign, hlen⟩ := hok.assignJoining hlt true
    rw [if_neg hi, ensureLegState_eq hok]
    dsimp only
    rw [hbusy]
    cases hgo : hasLeg || busy with
    | true => exact ⟨s, by simp [bind, Except.bind, hgo, pure, Except.pure], hok⟩
    | false =>
      refine ⟨{ s with joining := s.joining.set i true, repairs := i :: s.repairs }, ?_,
        hlen, hok.v6Accepted, ?_⟩
      · simp [bind, Except.bind, hgo, hassign, pure, Except.pure]
      · intro id hid
        rcases mem_cons.1 hid with rfl | hid
        · exact hlt
        · exact hok.repairs id hid

theorem repairEnd_ok (hok : StreamOk a s) (hi : i ∈ s.repairs) :
    ∃ s', repairEnd s i = .ok s' ∧ StreamOk a s' := by
  obtain ⟨hassign, hlen⟩ := hok.assignJoining (hok.repairs i hi) false
  rw [repairEnd, hassign]
  exact ⟨_, rfl, hlen, hok.v6Accepted, fun id hid => hok.repairs id (mem_of_mem_erase hid)⟩

end Indexes

section Arrays

variable {a : Adapter} {d : Datagram} {i : Nat}

/-- The arrays of a datagram session have two elements, and the adapter two legs. -/
structure DatagramOk (a : Adapter) (d : Datagram) : Prop where
  legs : 2 ≤ a.option.legs.length
  starts : d.starts.length = 2
  done : d.done.length = 2
  repairing : d.repairing.length = 2

theorem newDualLegUDPPacketConn_ok (hlegs : 2 ≤ a.option.legs.length)
    (valid child0 child1 rest : Bool) :
    ∃ session, newDualLegUDPPacketConn a valid child0 child1 rest = .ok session ∧
      ∀ d ∈ session, DatagramOk a d := by
  obtain ⟨leg0, h0⟩ : ∃ x, index a.option.legs 0 = .ok x := index_ok (by omega)
  obtain ⟨leg1, h1⟩ : ∃ x, index a.option.legs 1 = .ok x := index_ok (by omega)
  unfold newDualLegUDPPacketConn
  rw [h0, h1]
  cases valid with
  | false => exact ⟨none, rfl, by simp⟩
  | true =>
    cases child0 with
    | false => exact ⟨none, rfl, by simp⟩
    | true =>
      by_cases hrest : child1 = false ∨ rest = false ∨ a.option.udpEnabled = false
      · exact ⟨none, by simp [bind, Except.bind, pure, Except.pure, hrest], by simp⟩
      · refine ⟨some ⟨[true, false], [false, false], [false, false]⟩, ?_, ?_⟩
        · simp [bind, Except.bind, pure, Except.pure, hrest, assign]
        · rintro d ⟨⟩
          exact ⟨hlegs, rfl, rfl, rfl⟩

theorem dialUDPLeg_ok (hok : DatagramOk a d) : dialUDPLeg a i = .ok () := by
  unfold dialUDPLeg
  by_cases hi : i > 1
  · rw [if_pos hi]
    rfl
  · have hlegs := hok.legs
    obtain ⟨leg, hleg⟩ : ∃ x, index a.option.legs i = .ok x := index_ok (by omega)
    rw [if_neg hi, hleg]
    rfl

theorem startLeg1_ok (hok : DatagramOk a d) : ∃ d', startLeg1 d = .ok d' ∧ DatagramOk a d' := by
  rw [startLeg1, assign_ok true (by rw [hok.starts]; omega)]
  exact ⟨_, rfl, hok.legs, by simpa using hok.starts, hok.done, hok.repairing⟩

theorem bootstrapResult_ok (hok : DatagramOk a d) (second : Bool) :
    ∃ d', bootstrapResult d second = .ok d' ∧ DatagramOk a d' := by
  have hid : (if second then 1 else 0) < 2 := by split <;> omega
  unfold bootstrapResult
  generalize (if second then 1 else 0) = id at hid
  dsimp only
  have hset : (d.done.set id true).length = 2 := by simpa using hok.done
  obtain ⟨other, hother⟩ : ∃ x, index (d.done.set id true) (1 - id) = .ok x := index_ok (by omega)
  rw [assign_ok true (by rw [hok.done]; exact hid)]
  refine ⟨{ d with done := d.done.set id true }, ?_, hok.legs, hok.starts, hset, hok.repairing⟩
  simp [bind, Except.bind, pure, Except.pure, hother]

theorem scheduleRepair_ok (hok : DatagramOk a d) :
    ∃ d', scheduleRepair d i = .ok d' ∧ DatagramOk a d' := by
  unfold scheduleRepair
  by_cases hi : i > 1
  · exact ⟨d, by rw [if_pos hi]; rfl, hok⟩
  · have hlt : i < d.repairing.length := by
      rw [hok.repairing]
      omega
    obtain ⟨busy, hbusy⟩ := index_ok hlt
    rw [if_neg hi, hbusy, assign_ok true hlt]
    cases busy with
    | true => exact ⟨d, rfl, hok⟩
    | false => exact ⟨_, rfl, hok.legs, hok.starts, hok.done, by simpa using hok.repairing⟩

theorem udpRepairEnd_ok (hok : DatagramOk a d) (second : Bool) :
    ∃ d', udpRepairEnd d second = .ok d' ∧ DatagramOk a d' := by
  have hid : (if second then 1 else 0) < d.repairing.length := by
    rw [hok.repairing]
    split <;> omega
  rw [udpRepairEnd, assign_ok false hid]
  exact ⟨_, rfl, hok.legs, hok.starts, hok.done, by simpa using hok.repairing⟩

end Arrays

section Runs

variable {a : Adapter} {s s' : State} {act : Act} {acts : List Act}

structure Inv (a : Adapter) (s : State) : Prop where
  fault : s.fault = none
  stream : ∀ stream ∈ s.stream, StreamOk a stream
  datagram : ∀ d ∈ s.datagram, DatagramOk a d

theorem inv_init : Inv a init :=
  ⟨rfl, by simp [init], by simp [init]⟩

theorem Inv.onStream (hinv : Inv a s) {f : Stream → Except Fault Stream}
    (hf : ∀ stream ∈ s.stream, StreamOk a stream → ∃ t, f stream = .ok t ∧ StreamOk a t)
    (hs : s.onStream f = some s') : Inv a s' := by
  obtain ⟨stream, hstream, hs'⟩ := Option.map_eq_some_iff.1 hs
  obtain ⟨t, ht, hok⟩ := hf stream hstream (hinv.stream stream hstream)
  rw [← hs', ht]
  refine ⟨hinv.fault, ?_, hinv.datagram⟩
  rintro t' ⟨⟩
  exact hok

theorem Inv.onDatagram (hinv : Inv a s) {f : Datagram → Except Fault Datagram}
    (hf : ∀ d, DatagramOk a d → ∃ d', f d = .ok d' ∧ DatagramOk a d')
    (hs : s.onDatagram f = some s') : Inv a s' := by
  obtain ⟨d, hd, hs'⟩ := Option.map_eq_some_iff.1 hs
  obtain ⟨d', hd', hok⟩ := hf d (hinv.datagram d hd)
  rw [← hs', hd']
  refine ⟨hinv.fault, hinv.stream, ?_⟩
  rintro t ⟨⟩
  exact hok

theorem inv_step (hkeys : KeysFit a) (hinv : Inv a s)
    (hlisten : act.isListen = true → 2 ≤ a.option.legs.length) (hs : step a s act = some s') :
    Inv a s' := by
  rw [step.eq_def, if_neg (by simp [hinv.fault])] at hs
  cases act with
  | dialContext dialed accepted =>
    obtain ⟨-, hs'⟩ := (Option.ite_none_left_eq_some ..).1 hs
    obtain ⟨stream, hdial, hok⟩ := dialContext_ok hkeys dialed accepted
    cases hs'
    rw [hdial]
    exact ⟨hinv.fault, hok, hinv.datagram⟩
  | dialCarrier id accepted => exact hinv.onStream (fun _ _ hok => dialCarrier_ok hok accepted) hs
  | finishJoining id => exact hinv.onStream (fun _ _ hok => finishJoining_ok hok) hs
  | ensureLeg id hasLeg => exact hinv.onStream (fun _ _ hok => ensureLeg_ok hok hasLeg) hs
  | repairEnd id =>
    obtain ⟨hany, hs'⟩ := Option.ite_none_right_eq_some.1 hs
    refine hinv.onStream (fun stream hstream hok => repairEnd_ok hok ?_) hs'
    have hsome : s.stream = some stream := hstream
    simpa [hsome] using hany
  | listenPacket valid child0 child1 rest =>
    obtain ⟨-, hs'⟩ := (Option.ite_none_left_eq_some ..).1 hs
    obtain ⟨d, hlisten, hok⟩ := newDualLegUDPPacketConn_ok (hlisten rfl) valid child0 child1 rest
    cases hs'
    rw [hlisten]
    exact ⟨hinv.fault, hinv.stream, hok⟩
  | dialUDPLeg id =>
    refine hinv.onDatagram (fun d hok => ⟨d, ?_, hok⟩) hs
    rw [dialUDPLeg_ok hok]
    rfl
  | startLeg1 => exact hinv.onDatagram (fun _ hok => startLeg1_ok hok) hs
  | bootstrapResult second => exact hinv.onDatagram (fun _ hok => bootstrapResult_ok hok second) hs
  | scheduleRepair id => exact hinv.onDatagram (fun _ hok => scheduleRepair_ok hok) hs
  | udpRepairEnd second => exact hinv.onDatagram (fun _ hok => udpRepairEnd_ok hok second) hs

theorem fault_eq_none (hkeys : KeysFit a)
    (hlisten : ∀ act ∈ acts, act.isListen = true → 2 ≤ a.option.legs.length)
    (hrun : runActs (step a) init acts = some s) : s.fault = none := by
  have hcond : EachStep (step a) (fun _ act => act.isListen = true → 2 ≤ a.option.legs.length) init
      acts :=
    eachStep_of_forall fun act hact _ => hlisten act hact
  exact (invariant_of_eachStep (fun _ _ _ hinv hcond hs => inv_step hkeys hinv hcond hs)
    inv_init hcond hrun).fault

/-- With one leg the lookup of the second one faults. -/
theorem listenPacket_faults (hlegs : a.option.legs.length = 1) :
    runActs (step a) init [.listenPacket true true true true] =
      some { init with fault := some ⟨1, 1⟩ } := by
  obtain ⟨leg0, h0⟩ : ∃ x, index a.option.legs 0 = .ok x := index_ok (by omega)
  have h1 : index a.option.legs 1 = .error ⟨1, 1⟩ := by
    rw [index, getElem?_eq_none (by omega), hlegs]
  have hlisten : newDualLegUDPPacketConn a true true true true = .error ⟨1, 1⟩ := by
    rw [newDualLegUDPPacketConn, h0, h1]
    rfl
  refine runActs_cons_iff.2 ⟨_, ?_, rfl⟩
  simp [step, init, hlisten, Except.map, State.after]

/-- With one leg and a fallback the key of the second one is out of range. -/
theorem dialContext_faults (hlegs : a.option.legs.length = 1) (hkeys : ¬ KeysFit a) :
    runActs (step a) init [.dialContext true false] =
      some { init with fault := some ⟨1, 1⟩ } := by
  simp only [KeysFit, not_or, Decidable.not_not] at hkeys
  obtain ⟨-, hfallback, hcapacity, hscheduler⟩ := hkeys
  have hprovider : capacityProvider a = .error ⟨1, 1⟩ := by
    simp [capacityProvider, hcapacity, hscheduler, hfallback, assign, hlegs, Except.map]
  obtain ⟨leg0, h0⟩ : ∃ x, index a.option.legs 0 = .ok x := index_ok (by omega)
  have hdial : dialContext a true false = .error ⟨1, 1⟩ := by
    simp [dialContext, dialCarrier, hprovider, hlegs, h0, bind, Except.bind, pure, Except.pure]
  refine runActs_cons_iff.2 ⟨_, ?_, rfl⟩
  simp [step, init, hdial, Except.map, State.after]

/-- An accepted option is kept, and has a leg. -/
theorem newSMP3_ok {lib : Library} {option : SMP3Option} (h : newSMP3 lib option = .ok a) :
    a.option = option ∧ 1 ≤ option.legs.length := by
  unfold newSMP3 at h
  split at h
  · cases h
  next herror =>
    have hlegs : 1 ≤ option.legs.length := by
      by_contra hnone
      have hcount : option.legs.length < 1 ∨ option.legs.length > maxStreamLegIDCount :=
        .inl (by omega)
      unfold optionError at herror
      split at herror
      · cases herror
      split at herror
      · cases herror
      split at herror
      · cases herror
      -- the check of the count fails under the assumption
      cases herror
    split at h
    · cases h
    split at h
    · cases h
    split at h <;> cases h
    exact ⟨rfl, hlegs⟩

/-- An adapter that `NewSMP3` accepts never indexes out of range exactly if it has two legs; its
stream side alone exactly if it has two legs, no fallback, or no shared capacity keys. -/
theorem accepted_never_faults {lib : Library} {option : SMP3Option}
    (haccepted : newSMP3 lib option = .ok a) :
    (NeverFaults a ↔ 2 ≤ option.legs.length) ∧ (StreamNeverFaults a ↔ KeysFit a) := by
  obtain ⟨rfl, hleg⟩ := newSMP3_ok haccepted
  constructor
  · constructor
    · intro hnever
      by_contra htwo
      have hfault := hnever _ _ (listenPacket_faults (by omega))
      cases hfault
    · intro htwo acts s hrun
      exact fault_eq_none (.inl htwo) (fun _ _ _ => htwo) hrun
  · constructor
    · intro hnever
      by_contra hkeys
      have hone : a.option.legs.length = 1 := by
        have htwo : ¬ 2 ≤ a.option.legs.length := fun h => hkeys (.inl h)
        omega
      have hfault := hnever _ _ (by simp [Act.isListen]) (dialContext_faults hone hkeys)
      cases hfault
    · intro hkeys acts s hstream hrun
      refine fault_eq_none hkeys (fun act hact hlisten => ?_) hrun
      simp [hstream act hact] at hlisten

end Runs

section Examples

/-- The library on texts without blanks, capitals and durations. -/
def plainLibrary : Library :=
  { trimSpace := id, toLower := id, parseDuration := fun _ => none }

/-- An option with these legs, the defaults elsewhere. -/
def plainOption (legs : List String) (leg1Fallback : String) : SMP3Option :=
  { name := "smp3", server := "server", port := 443, password := "password", legs := legs
    maxActiveLegs := 0, leg1Fallback := leg1Fallback, schedulerMode := "aggregation"
    capacityMode := "dynamic", activationMode := "", holMode := "", startupPolicy := ""
    startupPreferredLeg := 0, startupGrace := "", activationWindow := "", ackInterval := ""
    retransmitTimeout := "", recoveryTimeout := "", redialInterval := "", udpEnabled := true }

def plainAdapter (legs : List String) (leg1Fallback : String) : Adapter :=
  { option := plainOption legs leg1Fallback
    streamConfig :=
      { schedulerMode := .aggregation, capacityMode := .dynamic, startupPolicy := .firstReady } }

theorem twoLegs_never_fault :
    newSMP3 plainLibrary (plainOption ["a", "b"] "c") = .ok (plainAdapter ["a", "b"] "c") ∧
      NeverFaults (plainAdapter ["a", "b"] "c") := by
  have haccepted : newSMP3 plainLibrary (plainOption ["a", "b"] "c") =
      .ok (plainAdapter ["a", "b"] "c") := by
    rfl
  exact ⟨haccepted, (accepted_never_faults haccepted).1.2 (by decide)⟩

/-- One leg, and one leg with a fallback under dynamic capacity, are accepted and fault. -/
theorem oneLeg_faults :
    newSMP3 plainLibrary (plainOption ["a"] "") = .ok (plainAdapter ["a"] "") ∧
      runActs (step (plainAdapter ["a"] "")) init [.listenPacket true true true true] =
        some { init with fault := some ⟨1, 1⟩ } ∧
    newSMP3 plainLibrary (plainOption ["a"] "c") = .ok (plainAdapter ["a"] "c") ∧
      runActs (step (plainAdapter ["a"] "c")) init [.dialContext true false] =
        some { init with fault := some ⟨1, 1⟩ } ∧
    ¬ NeverFaults (plainAdapter ["a"] "") ∧ ¬ NeverFaults (plainAdapter ["a"] "c") := by
  have hlisten := @listenPacket_faults (plainAdapter ["a"] "") rfl
  have hdial := @dialContext_faults (plainAdapter ["a"] "c") rfl (by decide)
  refine ⟨rfl, hlisten, rfl, hdial, fun hnever => ?_, fun hnever => ?_⟩
  · cases hnever _ _ hlisten
  · cases hnever _ _ hdial

end Examples

end Smp3Multipath.Mihomo.LegIndexes

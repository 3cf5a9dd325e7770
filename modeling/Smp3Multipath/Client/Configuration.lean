import Smp3Multipath.Client.DialLeg

/-!
# The client configuration

`NormalizeAndValidate` fills in defaults and checks every field in turn, and
`effectiveUpstream` selects the carrier proxy of a leg.  An error is the format of its
text with the arguments.  What the checks call in the standard library is a parameter.

A leg without an entry in the list of overrides takes the legacy override `leg1` if it
is leg 1, and `leg0` otherwise: also a leg that is neither of the two.  The handles of a
host bridge are indexed by the routes, and only an absent list is made as long as those.
-/

namespace Smp3Multipath.Client.Configuration

open List

open Smp3Multipath.Core (maxStreamLegIDCount)
open DialLeg (Routes RouteLeg)

section Upstreams

/-- `UpstreamSocksOverride`; a duration is a number of nanoseconds. -/
structure Override where
  address : String
  username : String := ""
  password : String := ""
  connectTimeout : Int := 0
deriving DecidableEq

/-- `UpstreamSocksOptions`. -/
structure Upstream where
  address : String
  username : String := ""
  password : String := ""
  connectTimeout : Int := 0
  leg0 : Option Override := none
  leg1 : Option Override := none
  legs : List Override := []
deriving DecidableEq

def Override.options (o : Override) : Upstream :=
  { address := o.address, username := o.username, password := o.password
    connectTimeout := o.connectTimeout }

/-- What `dialUpstream` reads of the options. -/
def Upstream.carrier (u : Upstream) : String × String × String × Int :=
  (u.address, u.username, u.password, u.connectTimeout)

def effectiveUpstream (u : Upstream) (leg : Nat) : Upstream :=
  match u.legs[leg]? with
  | some o => o.options
  | none =>
    match if leg = 1 then u.leg1 else u.leg0 with
    | none => u
    | some o => o.options

/-- The override that is given for a leg, in the list or in its legacy field. -/
def ownOverride (u : Upstream) (leg : Nat) : Option Override :=
  u.legs[leg]?.or (if leg = 0 then u.leg0 else if leg = 1 then u.leg1 else none)

/-- The two differ at most in the override of leg `j`. -/
structure DifferAt (j : Nat) (u v : Upstream) : Prop where
  carrier : u.carrier = v.carrier
  legs : ∀ k, k ≠ j → u.legs[k]? = v.legs[k]?
  leg0 : j ≠ 0 → u.leg0 = v.leg0
  leg1 : j ≠ 1 → u.leg1 = v.leg1

/-- The leg is 0 or 1, or has an entry in the list. -/
def Listed (u : Upstream) (leg : Nat) : Prop := leg < 2 ∨ leg < u.legs.length

instance (u : Upstream) (leg : Nat) : Decidable (Listed u leg) :=
  inferInstanceAs (Decidable (_ ∨ _))

/-- What a leg beyond the list dials: the legacy override of leg 0, or the global upstream. -/
def leg0Carrier (u : Upstream) : String × String × String × Int :=
  ((u.leg0.map Override.options).getD u).carrier

variable {u v : Upstream} {i j : Nat}

theorem effectiveUpstream_listed (h : Listed u i) :
    effectiveUpstream u i = ((ownOverride u i).map Override.options).getD u := by
  unfold effectiveUpstream ownOverride
  cases hentry : u.legs[i]? with
  | some o => rfl
  | none =>
    have hlen : u.legs.length ≤ i := List.getElem?_eq_none_iff.1 hentry
    have hi : i = 0 ∨ i = 1 := by rcases h with h | h <;> omega
    rcases hi with rfl | rfl
    · cases u.leg0 <;> rfl
    · cases u.leg1 <;> rfl

theorem effectiveUpstream_unlisted (h : ¬ Listed u i) :
    ownOverride u i = none ∧ (effectiveUpstream u i).carrier = leg0Carrier u := by
  obtain ⟨htwo, hlen⟩ := not_or.1 h
  have hzero : i ≠ 0 := by omega
  have hone : i ≠ 1 := by omega
  have hentry : u.legs[i]? = none := List.getElem?_eq_none_iff.2 (Nat.not_lt.1 hlen)
  unfold effectiveUpstream ownOverride leg0Carrier
  rw [hentry, if_neg hzero, if_neg hone, if_neg hone]
  exact ⟨rfl, by cases u.leg0 <;> rfl⟩

theorem ownOverride_congr (h : DifferAt j u v) (hne : i ≠ j) :
    ownOverride u i = ownOverride v i := by
  unfold ownOverride
  rw [h.legs i hne]
  congr 1
  split
  · next hzero => exact h.leg0 fun hj => hne (hzero.trans hj.symm)
  · split
    · next hone => exact h.leg1 fun hj => hne (hone.trans hj.symm)
    · rfl

/-- The lists have an entry for the same legs other than `j`. -/
theorem DifferAt.listed_iff (h : DifferAt j u v) (hne : i ≠ j) : Listed u i ↔ Listed v i := by
  have hlen : i < u.legs.length ↔ i < v.legs.length := by
    rw [← Nat.not_le, ← Nat.not_le, ← List.getElem?_eq_none_iff, ← List.getElem?_eq_none_iff,
      h.legs i hne]
  exact or_congr_right hlen

end Upstreams

/-- A leg without an override of its own has the global upstream exactly if it is 0 or 1, is in the
list, or the override of leg 0 names the global upstream.  The override of leg `j` changes the
carrier of another leg exactly if `j` is 0, the leg is neither 0 or 1 nor in the list, and the two
overrides of leg 0 name different carriers. -/
theorem upstream_isolated
    (u : Upstream)
    (i : Nat) :
    ((ownOverride u i = none → (effectiveUpstream u i).carrier = u.carrier) ↔
      Listed u i ∨ leg0Carrier u = u.carrier) ∧
    ∀ j v, i ≠ j → DifferAt j u v →
      ((effectiveUpstream u i).carrier = (effectiveUpstream v i).carrier ↔
        j ≠ 0 ∨ Listed u i ∨ leg0Carrier u = leg0Carrier v) := by
  constructor
  · by_cases hu : Listed u i
    · refine iff_of_true (fun hnone => ?_) (.inl hu)
      rw [effectiveUpstream_listed hu, hnone]
      rfl
    · obtain ⟨hnone, hcarrier⟩ := effectiveUpstream_unlisted hu
      rw [hcarrier]
      simp [hnone, hu]
  · intro j v hne hdiffer
    by_cases hu : Listed u i
    · refine iff_of_true ?_ (.inr (.inl hu))
      rw [effectiveUpstream_listed hu, effectiveUpstream_listed ((hdiffer.listed_iff hne).1 hu),
        ownOverride_congr hdiffer hne]
      cases ownOverride v i with
      | none => exact hdiffer.carrier
      | some o => rfl
    · have hv := mt (hdiffer.listed_iff hne).2 hu
      rw [(effectiveUpstream_unlisted hu).2, (effectiveUpstream_unlisted hv).2]
      refine ⟨fun h => .inr (.inr h), ?_⟩
      rintro (hj | hlisted | hsame)
      · rw [leg0Carrier, leg0Carrier, hdiffer.leg0 hj]
        cases v.leg0 with
        | none => exact hdiffer.carrier
        | some o => rfl
      · exact absurd hlisted hu
      · exact hsame

def globalUpstream : Upstream := { address := "127.0.0.1:7898" }

def leg0Upstream : Upstream := { globalUpstream with leg0 := some { address := "127.0.0.1:1080" } }

theorem upstream_isolated_leg1 :
    (effectiveUpstream globalUpstream 1).carrier = (effectiveUpstream leg0Upstream 1).carrier :=
  ((upstream_isolated globalUpstream 1).2 0 leg0Upstream (by decide)
    ⟨rfl, fun _ _ => rfl, fun h => absurd rfl h, fun _ => rfl⟩).2 (by decide)

/-- Leg 2 has no override, and takes that of leg 0. -/
theorem leg2_takes_leg0 :
    ownOverride leg0Upstream 2 = none ∧
      (effectiveUpstream leg0Upstream 2).carrier ≠ leg0Upstream.carrier ∧
      (effectiveUpstream leg0Upstream 2).carrier ≠
        (effectiveUpstream globalUpstream 2).carrier := by
  decide

section Options

/-- `CarrierTLSOptions`. -/
structure CarrierTLS where
  enabled : Bool := false
  serverName : String := ""
  rootCAFile : String := ""

/-- `HostCarrierOptions`. -/
structure HostCarrier where
  controlAddress : String := ""
  carrierHandle : String := ""
  leg0Handle : String := ""
  leg1Handle : String := ""
  legHandles : List String := []
  targetHandle : String := ""
  connectTimeout : Int := 0

/-- `StreamOptions`, the fields that are checked. -/
structure StreamOptions where
  schedulerMode : String := "adaptive"
  capacityMode : String := "fixed"
  activationMode : String := ""
  holMode : String := ""
  startupPolicy : String := ""
  startupPreferredLeg : Nat := 0
  startupGrace : Int := 0
  activationThresholdMbps : Nat := 80
  activationWindow : Int := 1000000000
  chunkSize : Int := 65536
  queueFrames : Int := 256
  bandwidthMbps : List Nat := [128, 500]
  maxActiveLegs : Int := 16
  maxReorderFrames : Int := 4096
  maxInflightFrames : Int := 1024
  ackInterval : Int := 20000000
  retransmitTimeout : Int := 1500000000
  recoveryTimeout : Int := 15000000000
  redialInterval : Int := 1000000000

structure UDPOptions where
  enabled : Bool := false
  mode : String := "adaptive"
  queueFrames : Int := 256
  maxDatagramSize : Int := 16384
  dedupWindow : Nat := 4096
  idleTimeout : Int := 120000000000
  adaptiveQueueDelay : Int := 120000000
  adaptiveDuplicateThreshold : Int := 0

structure SMP3Options where
  password : String := ""
  carrierMode : String := ""
  carrierTLS : CarrierTLS := {}
  hostCarrier : HostCarrier := {}
  routes : Routes
  carrierReadyTimeout : Int := 5000000000
  stream : StreamOptions := {}
  udp : UDPOptions := {}

/-- `Config`; the values left out are those of `DefaultConfig`. -/
structure Config where
  listen : String := "127.0.0.1:18080"
  logLevel : String := ""
  upstreamSocks : Upstream := { address := "127.0.0.1:7898", connectTimeout := 10000000000 }
  smp3 : SMP3Options

/-- The functions of the standard library that the checks call. -/
structure Library where
  /-- `net.SplitHostPort`, which finds no port in the empty text. -/
  splitHostPort : String → Option (String × String)
  splitHostPort_empty : splitHostPort "" = none
  /-- `strconv.Atoi`. -/
  atoi : String → Option Int
  toLower : String → String
  trimSpace : String → String

/-- The format of an error's text, and its arguments. -/
structure ConfigError where
  format : String
  args : List String

/-- How a call ends without a configuration. -/
inductive Failure where
  | error (e : ConfigError)
  /-- An index is out of range. -/
  | panicked

/-- What follows an error that is returned. -/
def returned {α : Type} (r : Except ConfigError α) : Except Failure α :=
  r.mapError .error

end Options

section Validation

variable (lib : Library)

/-- An error if the check fails. -/
def require (ok : Bool) (format : String) (args : List String) : Except ConfigError Unit :=
  if ok then .ok () else .error ⟨format, args⟩

def second : Int := 1000000000

/-- The value, or its default if it is not positive. -/
def positiveOr (value default : Int) : Int := if value ≤ 0 then default else value

def nonzeroOr (value default : Int) : Int := if value = 0 then default else value

def nonemptyOr (value default : String) : String := if value = "" then default else value

def validateLoopbackListen (address : String) : Except ConfigError Unit :=
  if address = "" then .error ⟨"invalid listen: address is empty", []⟩
  else
    match lib.splitHostPort address with
    | none => .error ⟨"invalid listen %q: only 127.0.0.1 and ::1 are allowed", [address]⟩
    | some (host, portText) =>
      if host ≠ "127.0.0.1" ∧ host ≠ "::1" then
        .error ⟨"invalid listen %q: only 127.0.0.1 and ::1 are allowed", [address]⟩
      else
        require ((lib.atoi portText).any fun port => decide (0 ≤ port ∧ port ≤ 65535))
          "invalid listen port %q" [portText]

def validateEndpoint (address field : String) (allowZero : Bool) : Except ConfigError Unit :=
  match lib.splitHostPort address with
  | none => .error ⟨"invalid %s %q: expected host:port", [field, address]⟩
  | some (host, portText) =>
    if host = "" then .error ⟨"invalid %s %q: expected host:port", [field, address]⟩
    else
      require ((lib.atoi portText).any fun port =>
          decide (0 ≤ port ∧ port ≤ 65535 ∧ (allowZero = true ∨ port ≠ 0)))
        "invalid %s port %q" [field, portText]

def validateUpstreamOverride (o : Override) (field : String) : Except ConfigError Override := do
  validateEndpoint lib o.address (field ++ ".address") false
  let timeout := positiveOr o.connectTimeout (10 * second)
  require (timeout ≤ 60 * second) "invalid %s.connect_timeout: must be at most 1m" [field]
  pure { o with connectTimeout := timeout }

/-- `validateUpstreamOverride` on a pointer. -/
def validateOverrideOf (o : Option Override) (field : String) :
    Except ConfigError (Option Override) :=
  match o with
  | none => .ok none
  | some o => (validateUpstreamOverride lib o field).map some

def sameUpstreamCarrier (left right : Upstream) : Bool :=
  left.address == right.address && left.username == right.username &&
    left.password == right.password

/-- The targets seen so far, each with the upstreams that dial it. -/
abbrev Seen := String → List Upstream

/-- The check and the entry of one target. -/
def addTarget (seen : Seen) (upstream : Upstream) (target format : String) :
    Except ConfigError Seen := do
  require ((seen target).all fun prior => !sameUpstreamCarrier prior upstream) format [target]
  pure (Function.update seen target (seen target ++ [upstream]))

/-- The loop over the list of routes, the next one being number `index`. -/
def validateRouteLegs (upstreamForLeg : Nat → Upstream) :
    Nat → List RouteLeg → Seen → Except ConfigError Unit
  | _, [], _ => .ok ()
  | index, leg :: legs, seen => do
    require (leg.id == index)
      "smp3.routes.legs[%d].id must equal its contiguous protocol leg ID %d"
      [toString index, toString index]
    let field := "smp3.routes.legs[" ++ toString index ++ "]"
    validateEndpoint lib leg.address (field ++ ".address") false
    let upstream := upstreamForLeg index
    let seen ← addTarget seen upstream leg.address
      "duplicate SMP3 route target %q on the same upstream carrier"
    if leg.fallback = "" then validateRouteLegs upstreamForLeg (index + 1) legs seen
    else
      validateEndpoint lib leg.fallback (field ++ ".fallback") false
      let seen ← addTarget seen upstream leg.fallback
        "duplicate SMP3 fallback target %q on the same upstream carrier"
      validateRouteLegs upstreamForLeg (index + 1) legs seen

def validateRoutesWithUpstreams (routes : Routes) (upstreamForLeg : Nat → Upstream) :
    Except ConfigError Unit :=
  if 0 < routes.legs.length then do
    require (routes.leg0 == "" && routes.leg1 == "" && routes.leg1Fallback == "")
      "smp3.routes must use either legacy leg0/leg1 fields or legs, not both" []
    require (routes.legs.length ≤ maxStreamLegIDCount)
      "smp3.routes.legs exceeds protocol maximum %d" [toString maxStreamLegIDCount]
    validateRouteLegs lib upstreamForLeg 0 routes.legs fun _ => []
  else do
    require (routes.leg0 != "" && routes.leg1 != "")
      "smp3.routes.leg0 and smp3.routes.leg1 are required" []
    validateEndpoint lib routes.leg0 "smp3.routes.leg0" false
    validateEndpoint lib routes.leg1 "smp3.routes.leg1" false
    if routes.leg1Fallback = "" then .ok ()
    else
      validateEndpoint lib routes.leg1Fallback "smp3.routes.leg1_fallback" false
      require (routes.leg1Fallback != routes.leg0 && routes.leg1Fallback != routes.leg1)
        "duplicate route target %q in smp3.routes.leg1_fallback and leg route"
        [routes.leg1Fallback]

/-- A field with a default, and the values it may have. -/
def oneOf (value default : String) (values : List String) (format : String) :
    Except ConfigError String := do
  let value := nonemptyOr value default
  require (values.contains value) format [value]
  pure value

/-- A mode that only the aggregation scheduler has. -/
def requireAggregation (mode special scheduler text : String) : Except ConfigError Unit :=
  require (mode != special || scheduler == "aggregation") text []

/-- A number with a default in place of zero, and its bounds. -/
def inRange (value default low high : Int) (text : String) : Except ConfigError Int := do
  let value := nonzeroOr value default
  require (low ≤ value && value ≤ high) text []
  pure value

def defaultMaxActiveStreamLegs : Int := 16
def maxStreamStartupGrace : Int := 10 * second

def validateStream (c : StreamOptions) : Except ConfigError StreamOptions := do
  let maxActiveLegs := nonzeroOr c.maxActiveLegs defaultMaxActiveStreamLegs
  require (1 ≤ maxActiveLegs && maxActiveLegs ≤ maxStreamLegIDCount)
    "invalid smp3.stream.max_active_legs: must be between 1 and %d" [toString maxStreamLegIDCount]
  let schedulerMode ← oneOf c.schedulerMode "adaptive" ["adaptive", "static", "aggregation"]
    "invalid smp3.scheduler_mode %q"
  let capacityMode ← oneOf c.capacityMode "fixed" ["fixed", "dynamic"]
    "invalid smp3.stream.capacity_mode %q"
  requireAggregation capacityMode "dynamic" schedulerMode
    "smp3.stream.capacity_mode dynamic requires scheduler_mode aggregation"
  let activationMode ← oneOf c.activationMode "legacy" ["legacy", "dynamic"]
    "invalid smp3.activation_mode %q"
  requireAggregation activationMode "dynamic" schedulerMode
    "smp3.stream.activation_mode dynamic requires scheduler_mode aggregation"
  let holMode ← oneOf c.holMode "legacy" ["legacy", "disabled", "completion"]
    "invalid smp3.stream.hol_mode %q"
  requireAggregation holMode "completion" schedulerMode
    "smp3.stream.hol_mode completion requires scheduler_mode aggregation"
  let startupPolicy ← oneOf c.startupPolicy "first-ready" ["first-ready", "preferred"]
    "invalid smp3.startup_policy %q"
  require ((c.startupPreferredLeg : Int) < maxActiveLegs)
    "invalid smp3.startup_preferred_leg: must be less than max_active_legs (%d)"
    [toString maxActiveLegs]
  require (0 ≤ c.startupGrace && c.startupGrace ≤ maxStreamStartupGrace)
    "invalid smp3.startup_grace: must be between 0 and %s" [toString maxStreamStartupGrace]
  let chunkSize ← inRange c.chunkSize 65536 1024 1048576 "invalid smp3.chunk_size"
  let queueFrames ← inRange c.queueFrames 256 8 4096 "invalid smp3.queue_frames"
  require ((c.bandwidthMbps.length : Int) ≤ maxActiveLegs)
    "invalid smp3.bandwidth_mbps: cannot exceed max_active_legs (%d)" [toString maxActiveLegs]
  require (c.bandwidthMbps.all (· != 0))
    "invalid smp3.bandwidth_mbps: entries must be positive" []
  let maxReorderFrames ← inRange c.maxReorderFrames 4096 1 1048576 "invalid smp3.max_reorder_frames"
  let maxInflightFrames ←
    inRange c.maxInflightFrames 1024 1 1048576 "invalid smp3.max_inflight_frames"
  pure
    { c with
      schedulerMode, capacityMode, activationMode, holMode, startupPolicy, maxActiveLegs
      chunkSize, queueFrames, maxReorderFrames, maxInflightFrames
      activationThresholdMbps :=
        if c.activationThresholdMbps = 0 then 80 else c.activationThresholdMbps
      activationWindow := positiveOr c.activationWindow second
      ackInterval := positiveOr c.ackInterval 20000000
      retransmitTimeout := positiveOr c.retransmitTimeout 1500000000
      recoveryTimeout := positiveOr c.recoveryTimeout (15 * second)
      redialInterval := positiveOr c.redialInterval second }

def maxDatagramPayload : Int := 16384

def validateUDP (c : UDPOptions) : Except ConfigError UDPOptions := do
  let mode ← oneOf c.mode "adaptive" ["adaptive", "stripe", "duplicate"] "invalid smp3.udp.mode %q"
  let queueFrames ← inRange c.queueFrames 256 8 4096 "invalid smp3.udp.queue_frames"
  let maxDatagramSize ← inRange c.maxDatagramSize 16384 512 maxDatagramPayload
    "invalid smp3.udp.max_datagram_size"
  let dedupWindow ← inRange c.dedupWindow 4096 64 1048576 "invalid smp3.udp.dedup_window"
  require (0 ≤ c.adaptiveDuplicateThreshold && c.adaptiveDuplicateThreshold ≤ maxDatagramSize)
    "invalid smp3.udp.adaptive_duplicate_threshold" []
  pure
    { c with
      mode, queueFrames, maxDatagramSize, dedupWindow := dedupWindow.toNat
      idleTimeout := positiveOr c.idleTimeout (120 * second)
      adaptiveQueueDelay := positiveOr c.adaptiveQueueDelay 120000000 }

/-- The checks of the global upstream and of the legacy overrides. -/
def validateUpstream (u : Upstream) : Except ConfigError Upstream := do
  let address := nonemptyOr u.address "127.0.0.1:7898"
  validateEndpoint lib address "upstream_socks.address" false
  let connectTimeout := positiveOr u.connectTimeout (10 * second)
  require (connectTimeout ≤ 60 * second)
    "invalid upstream_socks.connect_timeout: must be at most 1m" []
  let leg0 ← validateOverrideOf lib u.leg0 "upstream_socks.leg0"
  let leg1 ← validateOverrideOf lib u.leg1 "upstream_socks.leg1"
  pure { u with address, connectTimeout, leg0, leg1 }

/-- The checks of the password, the carrier mode and the carrier TLS; it gives the mode. -/
def validateCarrier (c : SMP3Options) : Except ConfigError String := do
  require (c.password != "") "empty smp3.password" []
  let mode ← oneOf c.carrierMode "legacy_socks" ["legacy_socks", "host_bridge"]
    "invalid smp3.carrier_mode %q"
  require (!c.carrierTLS.enabled || mode == "legacy_socks")
    "smp3.carrier_tls is only supported with legacy_socks; host_bridge owns its transport security"
    []
  require (!c.carrierTLS.enabled || lib.trimSpace c.carrierTLS.serverName != "")
    "smp3.carrier_tls.server_name is required when carrier TLS is enabled" []
  require (c.carrierTLS.enabled || c.carrierTLS.serverName == "" && c.carrierTLS.rootCAFile == "")
    "smp3.carrier_tls server_name/root_ca_file require enabled=true" []
  pure mode

/-- The handle that a leg has if the list has none. -/
def defaultHandle (host : HostCarrier) : Nat → String
  | 0 => host.leg0Handle
  | 1 => host.leg1Handle
  | _ => host.carrierHandle

/-- The body of the loop over the routes. -/
def fillHandle (host : HostCarrier) (handles : List String) (id : Nat) :
    Except Failure (List String) :=
  match handles[id]? with
  | none => .error .panicked
  | some handle =>
    if handle ≠ "" then .ok handles
    else if defaultHandle host id = "" then
      .error (.error ⟨"smp3.host_carrier.leg_handles[%d] is required", [toString id]⟩)
    else .ok (handles.set id (defaultHandle host id))

/-- The handles of legs 0 and 1, which have the common one as their default. -/
def withHandles (host : HostCarrier) : HostCarrier :=
  { host with
    leg0Handle := nonemptyOr host.leg0Handle host.carrierHandle
    leg1Handle := nonemptyOr host.leg1Handle host.carrierHandle }

/-- The part of `NormalizeAndValidate` for a host bridge. -/
def normalizeHostBridge (host : HostCarrier) (routeCount : Nat) : Except Failure HostCarrier := do
  returned <| (validateLoopbackListen lib host.controlAddress).mapError fun e =>
    ⟨"invalid smp3.host_carrier.control_address: %w", e.format :: e.args⟩
  returned <| require (host.legHandles.length ≤ routeCount)
    "smp3.host_carrier.leg_handles cannot exceed configured route count" []
  let host := withHandles host
  let handles := if host.legHandles = [] then List.replicate routeCount "" else host.legHandles
  let legHandles ← (List.range routeCount).foldlM (fillHandle host) handles
  returned <| require (host.targetHandle != "") "smp3.host_carrier.target_handle is required" []
  pure { host with legHandles, connectTimeout := positiveOr host.connectTimeout (5 * second) }

def normalizeHostCarrier (mode : String) (host : HostCarrier) (routeCount : Nat) :
    Except Failure HostCarrier :=
  if mode = "host_bridge" then normalizeHostBridge lib host routeCount else .ok host

/-- The loop over the list of overrides. -/
def validateOverrides : Nat → List Override → Except ConfigError (List Override)
  | _, [] => .ok []
  | id, o :: os => do
    let o ← validateUpstreamOverride lib o ("upstream_socks.legs[" ++ toString id ++ "]")
    let os ← validateOverrides (id + 1) os
    pure (o :: os)

/-- What the checks after the host bridge set. -/
structure Rest where
  legs : List Override
  carrierReadyTimeout : Int
  stream : StreamOptions
  udp : UDPOptions

/-- The checks after the host bridge: of the routes, the overrides, the stream and the datagrams. -/
def validateRest (upstream : Upstream) (c : SMP3Options) : Except ConfigError Rest := do
  let carrierReadyTimeout := positiveOr c.carrierReadyTimeout (5 * second)
  require (carrierReadyTimeout ≤ 60 * second)
    "invalid smp3.carrier_ready_timeout: must be at most 1m" []
  validateRoutesWithUpstreams lib c.routes (effectiveUpstream upstream)
  let routeCount := c.routes.entries.length
  require (upstream.legs.length ≤ routeCount)
    "upstream_socks.legs cannot exceed configured smp3.routes.legs" []
  let legs ← validateOverrides lib 0 upstream.legs
  let stream ← validateStream c.stream
  require ((routeCount : Int) ≤ stream.maxActiveLegs)
    "smp3.routes.legs has %d entries, exceeding stream.max_active_legs %d"
    [toString routeCount, toString stream.maxActiveLegs]
  require (stream.startupPreferredLeg < routeCount)
    "invalid smp3.stream.startup_preferred_leg: must reference a configured leg in [0,%d)"
    [toString routeCount]
  require (!c.udp.enabled || routeCount ≤ 2)
    "smp3.udp currently supports at most two configured legs; disable UDP or configure at most two legs"
    []
  let udp ← validateUDP c.udp
  pure { legs, carrierReadyTimeout, stream, udp }

def normalizeAndValidate (c : Config) : Except Failure Config := do
  let logLevel := lib.toLower (nonemptyOr c.logLevel "info")
  returned <| require (["debug", "info", "warn", "error"].contains logLevel)
    "invalid log_level %q" [logLevel]
  returned <| validateLoopbackListen lib c.listen
  let upstream ← returned (validateUpstream lib c.upstreamSocks)
  let carrierMode ← returned (validateCarrier lib c.smp3)
  let hostCarrier ←
    normalizeHostCarrier lib carrierMode c.smp3.hostCarrier c.smp3.routes.entries.length
  let rest ← returned (validateRest lib upstream c.smp3)
  pure
    { c with
      logLevel
      upstreamSocks := { upstream with legs := rest.legs }
      smp3 :=
        { c.smp3 with
          carrierMode, hostCarrier, carrierReadyTimeout := rest.carrierReadyTimeout
          stream := rest.stream, udp := rest.udp } }

end Validation

section Safety

variable {lib : Library} {α β : Type} {host host' : HostCarrier} {handles handles' : List String}
  {id n : Nat}

theorem ok_of_bind {ε : Type} {x : Except ε α} {f : α → Except ε β} {b : β}
    (h : (x >>= f) = .ok b) : ∃ a, x = .ok a ∧ f a = .ok b := by
  cases x with
  | error e => cases h
  | ok a => exact ⟨a, rfl, h⟩

theorem bind_panicked_iff {x : Except Failure α} {f : α → Except Failure β} :
    (x >>= f) = .error .panicked ↔
      x = .error .panicked ∨ ∃ a, x = .ok a ∧ f a = .error .panicked := by
  cases x with
  | error e =>
    constructor
    · intro h
      cases h
      exact .inl rfl
    · rintro (h | ⟨_, h, _⟩)
      · cases h
        rfl
      · cases h
  | ok a =>
    refine ⟨fun h => .inr ⟨a, rfl, h⟩, ?_⟩
    rintro (h | ⟨_, h, hf⟩)
    · cases h
    · cases h
      exact hf

@[simp] theorem returned_panicked_iff (r : Except ConfigError α) :
    returned r = .error .panicked ↔ False := by
  cases r <;> exact iff_of_false nofun id

@[simp] theorem returned_ok_iff {r : Except ConfigError α} {a : α} :
    returned r = .ok a ↔ r = .ok a := by
  cases r <;> simp [returned, Except.mapError]

theorem fillHandle_ok (h : fillHandle host handles id = .ok handles') :
    handles'.length = handles.length ∧ (∃ x, handles'[id]? = some x ∧ x ≠ "") ∧
      ∀ k, k ≠ id → handles'[k]? = handles[k]? := by
  unfold fillHandle at h
  split at h
  · cases h
  · next handle hentry =>
    split_ifs at h with hgiven hdefault
    · cases h
      exact ⟨rfl, ⟨handle, hentry, hgiven⟩, fun _ _ => rfl⟩
    · cases h
      have hlt : id < handles.length := (List.getElem?_eq_some_iff.1 hentry).1
      refine ⟨length_set, ⟨_, getElem?_set_self hlt, hdefault⟩, fun k hk => ?_⟩
      exact getElem?_set_ne (Ne.symm hk)

/-- The first handles are given or have a default. -/
def Given (host : HostCarrier) (handles : List String) (count : Nat) : Prop :=
  ∀ k < count, ∃ x, handles[k]? = some x ∧ (x ≠ "" ∨ defaultHandle host k ≠ "")

theorem fillHandle_isOk_iff :
    (∃ handles', fillHandle host handles id = .ok handles') ↔
      ∃ x, handles[id]? = some x ∧ (x ≠ "" ∨ defaultHandle host id ≠ "") := by
  unfold fillHandle
  cases handles[id]? with
  | none => simp
  | some x => by_cases hx : x = "" <;> by_cases hd : defaultHandle host id = "" <;> simp [hx, hd]

theorem fillHandle_panicked_iff :
    fillHandle host handles id = .error .panicked ↔ handles.length ≤ id := by
  rw [← List.getElem?_eq_none_iff]
  unfold fillHandle
  cases handles[id]? with
  | none => simp
  | some x => by_cases hx : x = "" <;> by_cases hd : defaultHandle host id = "" <;> simp [hx, hd]

theorem fillHandles_ok (h : (List.range n).foldlM (fillHandle host) handles = .ok handles') :
    handles'.length = handles.length ∧ ∀ k < n, ∃ x, handles'[k]? = some x ∧ x ≠ "" := by
  induction n generalizing handles' with
  | zero =>
    cases h
    exact ⟨rfl, fun k hk => absurd hk (Nat.not_lt_zero k)⟩
  | succ n ih =>
    rw [range_succ, foldlM_append] at h
    obtain ⟨filled, hfilled, h⟩ := ok_of_bind h
    rw [foldlM_cons] at h
    obtain ⟨last, hlast, ⟨⟩⟩ := ok_of_bind h
    obtain ⟨hlen, hbefore⟩ := ih hfilled
    obtain ⟨hlen', hself, hother⟩ := fillHandle_ok hlast
    refine ⟨hlen'.trans hlen, fun k hk => ?_⟩
    by_cases hkn : k = n
    · exact hkn ▸ hself
    · rw [hother k hkn]
      exact hbefore k (by omega)

theorem fillHandles_succ : (List.range (n + 1)).foldlM (fillHandle host) handles =
    (List.range n).foldlM (fillHandle host) handles >>= fun filled => fillHandle host filled n := by
  rw [range_succ, foldlM_append]
  congr 1
  funext filled
  rw [foldlM_cons]
  cases fillHandle host filled n <;> rfl

/-- The loop does not reach the entry of a leg before its turn. -/
theorem fillHandles_getElem (h : (List.range n).foldlM (fillHandle host) handles = .ok handles')
    {k : Nat} (hk : n ≤ k) : handles'[k]? = handles[k]? := by
  induction n generalizing handles' with
  | zero =>
    cases h
    rfl
  | succ n ih =>
    rw [fillHandles_succ] at h
    obtain ⟨filled, hfilled, hlast⟩ := ok_of_bind h
    rw [(fillHandle_ok hlast).2.2 k (by omega)]
    exact ih hfilled (by omega)

theorem fillHandles_isOk_iff :
    (∃ handles', (List.range n).foldlM (fillHandle host) handles = .ok handles') ↔
      Given host handles n := by
  induction n with
  | zero => exact iff_of_true ⟨handles, rfl⟩ fun k hk => absurd hk (Nat.not_lt_zero k)
  | succ n ih =>
    rw [fillHandles_succ]
    constructor
    · rintro ⟨handles', h⟩
      obtain ⟨filled, hfilled, hlast⟩ := ok_of_bind h
      intro k hk
      by_cases hkn : k = n
      · subst hkn
        rw [← fillHandles_getElem hfilled (Nat.le_refl k)]
        exact fillHandle_isOk_iff.1 ⟨handles', hlast⟩
      · exact ih.1 ⟨filled, hfilled⟩ k (by omega)
    · intro h
      obtain ⟨filled, hfilled⟩ := ih.2 fun k hk => h k (Nat.lt_succ_of_lt hk)
      have hnext := h n (Nat.lt_succ_self n)
      rw [← fillHandles_getElem hfilled (Nat.le_refl n)] at hnext
      obtain ⟨handles', hlast⟩ := fillHandle_isOk_iff.2 hnext
      exact ⟨handles', by rw [hfilled]; exact hlast⟩

/-- The loop runs out of handles: there are fewer than routes, and none of them stops it before. -/
theorem fillHandles_panicked_iff :
    (List.range n).foldlM (fillHandle host) handles = .error .panicked ↔
      handles.length < n ∧ Given host handles handles.length := by
  induction n with
  | zero => exact iff_of_false nofun fun h => absurd h.1 (Nat.not_lt_zero _)
  | succ n ih =>
    rw [fillHandles_succ, bind_panicked_iff, ih]
    constructor
    · rintro (⟨hlt, hgiven⟩ | ⟨filled, hfilled, hlast⟩)
      · exact ⟨Nat.lt_succ_of_lt hlt, hgiven⟩
      · have hgiven := fillHandles_isOk_iff.1 ⟨filled, hfilled⟩
        have hlen := fillHandle_panicked_iff.1 hlast
        rw [(fillHandles_ok hfilled).1] at hlen
        exact ⟨Nat.lt_succ_of_le hlen, fun k hk => hgiven k (Nat.lt_of_lt_of_le hk hlen)⟩
    · rintro ⟨hlt, hgiven⟩
      by_cases hn : handles.length < n
      · exact .inl ⟨hn, hgiven⟩
      · have hn : handles.length = n := by omega
        obtain ⟨filled, hfilled⟩ := fillHandles_isOk_iff.2 (hn ▸ hgiven)
        refine .inr ⟨filled, hfilled, fillHandle_panicked_iff.2 ?_⟩
        rw [(fillHandles_ok hfilled).1, hn]

/-- Every route has a handle, and there are no others. -/
def OneHandleEach (handles : List String) (routeCount : Nat) : Prop :=
  handles.length = routeCount ∧ ∀ x ∈ handles, x ≠ ""

theorem normalizeHostBridge_ok (h : normalizeHostBridge lib host n = .ok host') :
    OneHandleEach host'.legHandles n := by
  unfold normalizeHostBridge at h
  obtain ⟨_, _, h⟩ := ok_of_bind h
  obtain ⟨_, hle, h⟩ := ok_of_bind h
  obtain ⟨filled, hfilled, h⟩ := ok_of_bind h
  obtain ⟨_, _, ⟨⟩⟩ := ok_of_bind h
  obtain ⟨hlen, hall⟩ := fillHandles_ok hfilled
  have hle : host.legHandles.length ≤ n := by
    by_contra hgt
    simp [require, hgt, returned, Except.mapError] at hle
  have hgiven : filled.length ≤ n := by
    rw [hlen]
    split
    · simp
    · exact hle
  have hlen : filled.length = n := by
    refine Nat.le_antisymm hgiven (Nat.le_of_not_lt fun hlt => ?_)
    obtain ⟨x, hx, _⟩ := hall _ hlt
    simp at hx
  refine ⟨hlen, fun x hx => ?_⟩
  obtain ⟨k, hk, rfl⟩ := mem_iff_getElem.1 hx
  obtain ⟨y, hy, hne⟩ := hall k (hlen ▸ hk)
  rw [getElem?_eq_getElem hk] at hy
  cases hy
  exact hne

/-- There are handles, but fewer than routes, and each of them is nonempty or has a default. -/
structure ShortHandles (host : HostCarrier) (routeCount : Nat) : Prop where
  some : host.legHandles ≠ []
  short : host.legHandles.length < routeCount
  given : Given (withHandles host) host.legHandles host.legHandles.length

/-- The host bridge panics exactly if its address is valid and its handles are too few. -/
theorem normalizeHostBridge_panicked_iff :
    normalizeHostBridge lib host n = .error .panicked ↔
      validateLoopbackListen lib host.controlAddress = .ok () ∧ ShortHandles host n := by
  unfold normalizeHostBridge
  have hlisten : ∀ f : ConfigError → ConfigError,
      (validateLoopbackListen lib host.controlAddress).mapError f = .ok () ↔
        validateLoopbackListen lib host.controlAddress = .ok () := by
    intro f
    cases validateLoopbackListen lib host.controlAddress <;> simp [Except.mapError]
  simp only [bind_panicked_iff, returned_panicked_iff, returned_ok_iff, false_or, hlisten,
    fillHandles_panicked_iff]
  constructor
  · rintro ⟨_, hok, _, _, ⟨hlt, hgiven⟩ | ⟨_, _, _, _, h⟩⟩
    · refine ⟨hok, ?_⟩
      by_cases hnil : host.legHandles = []
      · simp [withHandles, hnil] at hlt
      · rw [show (withHandles host).legHandles = host.legHandles from rfl, if_neg hnil] at hlt hgiven
        exact ⟨hnil, hlt, hgiven⟩
    · cases h
  · rintro ⟨hok, hshort⟩
    refine ⟨(), hok, (), if_pos (decide_eq_true (Nat.le_of_lt hshort.short)), .inl ?_⟩
    rw [show (withHandles host).legHandles = host.legHandles from rfl, if_neg hshort.some]
    exact ⟨hshort.short, hshort.given⟩

/-- The checks before the host bridge pass, and the bridge is selected. -/
structure ReachesBridge (lib : Library) (c : Config) : Prop where
  logLevel : ["debug", "info", "warn", "error"].contains
    (lib.toLower (nonemptyOr c.logLevel "info")) = true
  listen : validateLoopbackListen lib c.listen = .ok ()
  upstream : ∃ u, validateUpstream lib c.upstreamSocks = .ok u
  carrier : validateCarrier lib c.smp3 = .ok "host_bridge"
  control : validateLoopbackListen lib c.smp3.hostCarrier.controlAddress = .ok ()

end Safety

/-- The validation panics exactly if it reaches the loop over the handles of a host bridge and there
are some, too few, and none that stops it before; a host bridge that it accepts has one nonempty
handle for each route. -/
theorem normalize_safe
    (lib : Library)
    (c : Config) :
    (normalizeAndValidate lib c = .error .panicked ↔
      ReachesBridge lib c ∧ ShortHandles c.smp3.hostCarrier c.smp3.routes.entries.length) ∧
    ∀ c', normalizeAndValidate lib c = .ok c' → c'.smp3.carrierMode = "host_bridge" →
      OneHandleEach c'.smp3.hostCarrier.legHandles c'.smp3.routes.entries.length := by
  unfold normalizeAndValidate
  refine ⟨⟨fun h => ?_, fun ⟨hreaches, hshort⟩ => ?_⟩, fun c' h hmode => ?_⟩
  · simp only [bind_panicked_iff, returned_panicked_iff, returned_ok_iff, false_or] at h
    obtain ⟨_, hlevel, _, hlisten, u, hu, mode, hmode, hhost | ⟨_, _, _, _, h⟩⟩ := h
    · unfold normalizeHostCarrier at hhost
      split at hhost
      · next hbridge =>
        subst hbridge
        obtain ⟨hcontrol, hshort⟩ := normalizeHostBridge_panicked_iff.1 hhost
        have hlevel : ["debug", "info", "warn", "error"].contains
            (lib.toLower (nonemptyOr c.logLevel "info")) = true := by
          by_contra hbad
          rw [require, if_neg hbad] at hlevel
          cases hlevel
        exact ⟨⟨hlevel, hlisten, ⟨u, hu⟩, hmode, hcontrol⟩, hshort⟩
      · cases hhost
    · cases h
  · obtain ⟨u, hu⟩ := hreaches.upstream
    simp only [bind_panicked_iff, returned_panicked_iff, returned_ok_iff, false_or]
    refine ⟨(), if_pos hreaches.logLevel, (), hreaches.listen, u, hu, _, hreaches.carrier, .inl ?_⟩
    rw [normalizeHostCarrier, if_pos rfl]
    exact normalizeHostBridge_panicked_iff.2 ⟨hreaches.control, hshort⟩
  · obtain ⟨_, _, h⟩ := ok_of_bind h
    obtain ⟨_, _, h⟩ := ok_of_bind h
    obtain ⟨_, _, h⟩ := ok_of_bind h
    obtain ⟨mode, _, h⟩ := ok_of_bind h
    obtain ⟨host, hhost, h⟩ := ok_of_bind h
    obtain ⟨rest, _, ⟨⟩⟩ := ok_of_bind h
    rw [normalizeHostCarrier, if_pos hmode] at hhost
    exact normalizeHostBridge_ok hhost

/-- A library that knows the addresses of the examples. -/
def sampleLibrary : Library :=
  { splitHostPort := fun a => if a = "" then none else some ("127.0.0.1", "80")
    splitHostPort_empty := rfl
    atoi := fun _ => some 80
    toLower := fun t => t
    trimSpace := fun t => t }

/-- A host bridge with the given handles and two routes. -/
def bridgeConfig (legHandles : List String) : Config :=
  { smp3 :=
      { password := "secret", carrierMode := "host_bridge"
        hostCarrier :=
          { controlAddress := "127.0.0.1:80", carrierHandle := "carrier", targetHandle := "target"
            legHandles := legHandles }
        routes :=
          { legs := [], leg0 := "127.0.0.1:80", leg1 := "127.0.0.1:80", leg1Fallback := "" } } }

theorem normalize_safe_bridge :
    ∃ c', normalizeAndValidate sampleLibrary (bridgeConfig []) = .ok c' ∧
      OneHandleEach c'.smp3.hostCarrier.legHandles c'.smp3.routes.entries.length :=
  ⟨_, rfl, (normalize_safe sampleLibrary (bridgeConfig [])).2 _ rfl rfl⟩

/-- One handle for two routes. -/
theorem short_handles_panic :
    normalizeAndValidate sampleLibrary (bridgeConfig ["carrier"]) = .error .panicked := by
  rfl

end Smp3Multipath.Client.Configuration

import Smp3Multipath.Core.AttachLeg

/-!
# Dialing a stream leg

`dialLegWithRuntime` tries the endpoints of a route in turn.  On each it opens a carrier,
secures it with TLS and negotiates a protocol version, and an older version is negotiated
on a carrier that is opened afresh.  The closure `openFresh` opens and secures.

The outcome of every dial, TLS set-up and negotiation is an input.  Each endpoint opens at
most three carriers, so an attempt is named by its endpoint and its stage, and so is the
connection it opens.  A connection is open from its dial until it is closed.

`secureCarrierWithRuntime` closes the connection that it cannot secure and returns nil, and
`openFresh` then calls `Close` on that nil.  The function returns what it should exactly
when that does not happen (`dialLeg_handles_iff`).
-/

namespace Smp3Multipath.Client.DialLeg

open Smp3Multipath.Core Smp3Multipath.Core.Registry

section Model

/-- Which carrier of an endpoint: the first one, the one for the legacy versions, or the one for
version 4. -/
inductive Stage where
  | first
  | legacy
  | v4
deriving DecidableEq

abbrev Conn := Nat × Stage

/-- Where `secureCarrierWithRuntime` fails. -/
inductive TLSError where
  | setDeadline
  | handshake
  | clearDeadline
  | alpnMismatch
deriving DecidableEq

/-- The error of a version 7 negotiation, by what the caller asks of it. -/
inductive V7Error where
  | capabilityUnavailable
  | transport
  | other
deriving DecidableEq

/-- The error of an older negotiation; `transport` is `isStreamV6TransportFailure`. -/
inductive LegacyError where
  | transport
  | other
deriving DecidableEq

/-- What happens to one carrier, and what the session says when it is asked about it. -/
structure Attempt where
  /-- `dialUpstream` or the host's `Open` succeeds. -/
  dial : Bool
  secure : Option TLSError
  v7 : Except V7Error StreamPathAuth
  v7WasAccepted : Bool
  legacy : Except LegacyError (Option StreamPathAuth)
  v6WasAccepted : Bool
  /-- The session's context has ended. -/
  cancelled : Bool

abbrev Env := Nat → Stage → Attempt

/-- A `RouteLegOptions`. -/
structure RouteLeg where
  id : LegID
  address : String
  fallback : String
deriving DecidableEq

/-- `RouteOptions`. -/
structure Routes where
  legs : List RouteLeg
  leg0 : String
  leg1 : String
  leg1Fallback : String
deriving DecidableEq

def Routes.entries (r : Routes) : List RouteLeg :=
  if 0 < r.legs.length then r.legs
  else [{ id := 0, address := r.leg0, fallback := "" },
    { id := 1, address := r.leg1, fallback := r.leg1Fallback }]

def Routes.leg (r : Routes) (id : LegID) : Option RouteLeg :=
  match r.entries[id]? with
  | some route => if route.id ≠ id then none else some route
  | none => none

/-- The parts of `clientRuntimeConfig` that the dial reads. -/
structure Runtime where
  hostCarrier : Bool
  carrierTLS : Bool
  experimentalPathAware : Bool
  allowV7LegacyFallback : Bool
  allowPathRTTV4Fallback : Bool
  allowPathRTTV4FallbackOnTransportError : Bool
  routes : Routes
deriving DecidableEq

inductive OpenError where
  | dial
  | tls (e : TLSError)
deriving DecidableEq

inductive NegotiationError where
  | v7 (e : V7Error)
  /-- "open fresh carrier for legacy compatibility" -/
  | reopenLegacy (e : OpenError)
  | legacy (e : LegacyError)
  /-- "open fresh V4 compatibility carrier" -/
  | reopenV4 (e : OpenError)
deriving DecidableEq

/-- Why an endpoint was given up. -/
inductive Cause where
  | opening (endpoint : String) (e : OpenError)
  /-- "stream handshake" -/
  | handshake (endpoint : String) (e : NegotiationError)
deriving DecidableEq

inductive DialError where
  /-- "client runtime config unavailable" -/
  | runtimeUnavailable
  /-- "invalid stream leg" -/
  | invalidLeg
  /-- "host carrier OPEN leg" -/
  | hostCarrierOpen (id : LegID) (e : OpenError)
  /-- "host carrier handshake leg" -/
  | hostCarrierHandshake (id : LegID) (e : NegotiationError)
  /-- "no route configured for stream leg" -/
  | noRoute (id : LegID)
  | contextEnded
  | joined (causes : List Cause)
deriving DecidableEq

/-- The calls of `openFresh` and the connections that are open. -/
structure World where
  made : List (Nat × Stage)
  opened : List Conn
deriving DecidableEq

/-- A call returns or panics. -/
inductive Outcome (α : Type) where
  | returned (a : α)
  | panicked

/-- `Close` on a connection variable; on nil it panics. -/
def closeConn : Option Conn → World → Option World
  | none, _ => none
  | some conn, w => some { w with opened := w.opened.erase conn }

/-- `secureCarrierWithRuntime`, which closes what it cannot secure. -/
def secureCarrierWithRuntime (rt : Runtime) (attempt : Attempt) (conn : Conn) (w : World) :
    Except TLSError Conn × World :=
  if rt.carrierTLS = false then (.ok conn, w)
  else
    match attempt.secure with
    | none => (.ok conn, w)
    | some e => (.error e, { w with opened := w.opened.erase conn })

/-- `openFresh` on endpoint `e`. -/
def openFresh (rt : Runtime) (env : Env) (e : Nat) (stage : Stage) (w : World) :
    Outcome (Except OpenError Conn) × World :=
  let w := { w with made := (e, stage) :: w.made }
  if (env e stage).dial = false then (.returned (.error .dial), w)
  else
    let w := { w with opened := (e, stage) :: w.opened }
    match secureCarrierWithRuntime rt (env e stage) (e, stage) w with
    | (.ok conn, w) => (.returned (.ok conn), w)
    | (.error err, w) =>
      -- the call has assigned nil to `carrier`
      match closeConn none w with
      | some w => (.returned (.error (.tls err)), w)
      | none => (.panicked, w)

/-- What `negotiateCarrierWithCompatibilityFallback` returns. -/
structure Negotiated where
  conn : Option Conn
  result : Except NegotiationError (Option StreamPathAuth)

/-- After this error of version 7 an older version is tried. -/
def retriesLegacy (rt : Runtime) (attempt : Attempt) (e : V7Error) : Bool :=
  !attempt.v7WasAccepted &&
    match e with
    | .capabilityUnavailable => true
    | .transport => rt.allowV7LegacyFallback
    | .other => false

/-- After this error of version 6 version 4 is tried. -/
def retriesV4 (rt : Runtime) (attempt : Attempt) (e : LegacyError) : Bool :=
  rt.experimentalPathAware && rt.allowPathRTTV4Fallback &&
    rt.allowPathRTTV4FallbackOnTransportError && !attempt.v6WasAccepted &&
    decide (e = .transport)

/-- The version 4 part of `negotiateCarrierWithCompatibilityFallback`. -/
def negotiateV4 (rt : Runtime) (env : Env) (e : Nat) (w : World) : Outcome Negotiated × World :=
  match openFresh rt env e .v4 w with
  | (.panicked, w) => (.panicked, w)
  | (.returned (.error err), w) => (.returned { conn := none, result := .error (.reopenV4 err) }, w)
  | (.returned (.ok conn), w) =>
    match (env e .v4).legacy with
    | .error err => (.returned { conn := some conn, result := .error (.legacy err) }, w)
    | .ok _ => (.returned { conn := some conn, result := .ok none }, w)

/-- The part of `negotiateCarrierWithCompatibilityFallback` for the versions before 7. -/
def negotiateLegacy (rt : Runtime) (env : Env) (e : Nat) (w : World) :
    Outcome Negotiated × World :=
  match openFresh rt env e .legacy w with
  | (.panicked, w) => (.panicked, w)
  | (.returned (.error err), w) =>
    (.returned { conn := none, result := .error (.reopenLegacy err) }, w)
  | (.returned (.ok conn), w) =>
    match (env e .legacy).legacy with
    | .ok auth =>
      -- without path awareness version 4 is negotiated, which gives no authentication
      let auth := if rt.experimentalPathAware then auth else none
      (.returned { conn := some conn, result := .ok auth }, w)
    | .error err =>
      if retriesV4 rt (env e .legacy) err = false then
        (.returned { conn := some conn, result := .error (.legacy err) }, w)
      else
        match closeConn (some conn) w with
        | none => (.panicked, w)
        | some w => negotiateV4 rt env e w

/-- `negotiateCarrierWithCompatibilityFallback` on the first carrier of endpoint `e`. -/
def negotiate (rt : Runtime) (env : Env) (e : Nat) (conn : Conn) (w : World) :
    Outcome Negotiated × World :=
  match (env e .first).v7 with
  | .ok auth => (.returned { conn := some conn, result := .ok (some auth) }, w)
  | .error err =>
    if retriesLegacy rt (env e .first) err = false then
      (.returned { conn := some conn, result := .error (.v7 err) }, w)
    else
      match closeConn (some conn) w with
      | none => (.panicked, w)
      | some w => negotiateLegacy rt env e w

/-- `if conn != nil { conn.Close() }`. -/
def closeIfOpen (conn : Option Conn) (w : World) : World :=
  match conn with
  | none => w
  | some conn => { w with opened := w.opened.erase conn }

/-- How the loop leaves an endpoint. -/
inductive Tried where
  | contextEnded
  | gaveUp (cause : Cause)
  | connected (conn : Option Conn) (auth : Option StreamPathAuth)

/-- The body of the loop over the endpoints. -/
def tryEndpoint (rt : Runtime) (env : Env) (e : Nat) (endpoint : String) (w : World) :
    Outcome Tried × World :=
  match openFresh rt env e .first w with
  | (.panicked, w) => (.panicked, w)
  | (.returned (.error err), w) =>
    if (env e .first).cancelled then (.returned .contextEnded, w)
    else (.returned (.gaveUp (.opening endpoint err)), w)
  | (.returned (.ok conn), w) =>
    match negotiate rt env e conn w with
    | (.panicked, w) => (.panicked, w)
    | (.returned n, w) =>
      match n.result with
      | .error err => (.returned (.gaveUp (.handshake endpoint err)), closeIfOpen n.conn w)
      | .ok auth =>
        if (env e .first).cancelled then
          match closeConn n.conn w with
          | none => (.panicked, w)
          | some w => (.returned .contextEnded, w)
        else (.returned (.connected n.conn auth), w)

/-- What `dialLegWithRuntime` returns. -/
structure Result where
  conn : Option Conn
  auth : Option StreamPathAuth
  err : Option DialError

def failWith (err : DialError) : Result := { conn := none, auth := none, err := some err }

/-- `errors.Join`, which is nil for no causes. -/
def joinCauses (causes : List Cause) : Option DialError :=
  if causes = [] then none else some (.joined causes)

/-- The loop over the endpoints, the next one being number `e`. -/
def dialEndpoints (rt : Runtime) (env : Env) :
    Nat → List String → List Cause → World → Outcome Result × World
  | _, [], causes, w => (.returned { conn := none, auth := none, err := joinCauses causes }, w)
  | e, endpoint :: rest, causes, w =>
    match tryEndpoint rt env e endpoint w with
    | (.panicked, w) => (.panicked, w)
    | (.returned .contextEnded, w) => (.returned (failWith .contextEnded), w)
    | (.returned (.gaveUp cause), w) => dialEndpoints rt env (e + 1) rest (causes ++ [cause]) w
    | (.returned (.connected conn auth), w) =>
      (.returned { conn := conn, auth := auth, err := none }, w)

/-- The branch of `dialLegWithRuntime` for a host carrier. -/
def dialHostCarrier (rt : Runtime) (env : Env) (id : LegID) (w : World) :
    Outcome Result × World :=
  match openFresh rt env 0 .first w with
  | (.panicked, w) => (.panicked, w)
  | (.returned (.error err), w) => (.returned (failWith (.hostCarrierOpen id err)), w)
  | (.returned (.ok conn), w) =>
    match negotiate rt env 0 conn w with
    | (.panicked, w) => (.panicked, w)
    | (.returned n, w) =>
      match n.result with
      | .error err => (.returned (failWith (.hostCarrierHandshake id err)), closeIfOpen n.conn w)
      | .ok auth => (.returned { conn := n.conn, auth := auth, err := none }, w)

/-- The endpoints of a route. -/
def RouteLeg.names (route : RouteLeg) : List String :=
  if route.fallback ≠ "" then [route.address, route.fallback] else [route.address]

/-- `dialLegWithRuntime`; `legCount` is `configuredLegCount`. -/
def dialLegWithRuntime (legCount : Nat) (runtime : Option Runtime) (env : Env) (id : LegID) :
    Outcome Result × World :=
  let w : World := { made := [], opened := [] }
  match runtime with
  | none => (.returned (failWith .runtimeUnavailable), w)
  | some rt =>
    if legCount ≤ id ∧ rt.routes.entries.length ≤ id then (.returned (failWith .invalidLeg), w)
    else if rt.hostCarrier then dialHostCarrier rt env id w
    else
      match rt.routes.leg id with
      | none => (.returned (failWith (.noRoute id)), w)
      | some route => dialEndpoints rt env 0 route.names [] w

end Model

section Condition

/-- The carrier is dialed and cannot be secured. -/
def Attempt.tlsFails (rt : Runtime) (attempt : Attempt) : Bool :=
  attempt.dial && rt.carrierTLS && attempt.secure.isSome

/-- The carrier is dialed and secured. -/
def Attempt.opens (rt : Runtime) (attempt : Attempt) : Bool :=
  attempt.dial && (!rt.carrierTLS || attempt.secure.isNone)

/-- The carriers of the older versions on endpoint `e` are secured if they are dialed. -/
def LegacySecure (rt : Runtime) (env : Env) (e : Nat) : Prop :=
  (env e .legacy).tlsFails rt = false ∧
    ((env e .legacy).opens rt = true →
      ∀ err, (env e .legacy).legacy = .error err → retriesV4 rt (env e .legacy) err = true →
        (env e .v4).tlsFails rt = false)

def NegotiationSecure (rt : Runtime) (env : Env) (e : Nat) : Prop :=
  ∀ err, (env e .first).v7 = .error err → retriesLegacy rt (env e .first) err = true →
    LegacySecure rt env e

/-- Every carrier that endpoint `e` gets to dial is secured. -/
def EndpointSecure (rt : Runtime) (env : Env) (e : Nat) : Prop :=
  (env e .first).tlsFails rt = false ∧
    ((env e .first).opens rt = true → NegotiationSecure rt env e)

/-- Version 4 gives no connection. -/
def v4Fails (rt : Runtime) (env : Env) (e : Nat) : Bool :=
  !(env e .v4).opens rt ||
    match (env e .v4).legacy with
    | .ok _ => false
    | .error _ => true

/-- The versions before 7 give no connection. -/
def legacyFails (rt : Runtime) (env : Env) (e : Nat) : Bool :=
  !(env e .legacy).opens rt ||
    match (env e .legacy).legacy with
    | .ok _ => false
    | .error err => !retriesV4 rt (env e .legacy) err || v4Fails rt env e

/-- The negotiation on the first carrier gives no connection. -/
def negotiationFails (rt : Runtime) (env : Env) (e : Nat) : Bool :=
  match (env e .first).v7 with
  | .ok _ => false
  | .error err => !retriesLegacy rt (env e .first) err || legacyFails rt env e

/-- The endpoint gives no connection and the session goes on to the next. -/
def passesOn (rt : Runtime) (env : Env) (e : Nat) : Bool :=
  if (env e .first).opens rt then negotiationFails rt env e else !(env e .first).cancelled

/-- Every carrier that is dialed on the `n` endpoints from number `e` on is secured. -/
def CarriersSecured (rt : Runtime) (env : Env) : Nat → Nat → Prop
  | _, 0 => True
  | e, n + 1 =>
    EndpointSecure rt env e ∧ (passesOn rt env e = true → CarriersSecured rt env (e + 1) n)

/-- The number of endpoints that a dial has. -/
def endpointCount (legCount : Nat) (runtime : Option Runtime) (id : LegID) : Nat :=
  match runtime with
  | none => 0
  | some rt =>
    if legCount ≤ id ∧ rt.routes.entries.length ≤ id then 0
    else if rt.hostCarrier then 1
    else
      match rt.routes.leg id with
      | none => 0
      | some route => route.names.length

/-- The dial returned one open connection or an error, and every other connection is closed. -/
def Settles (outcome : Outcome Result × World) : Prop :=
  ∃ r, outcome.1 = .returned r ∧
    ((∃ conn, r.conn = some conn ∧ r.err = none ∧ outcome.2.opened = [conn]) ∨
      (r.conn = none ∧ r.err.isSome = true ∧ outcome.2.opened = []))

/-- A TLS failure on the first endpoint is followed by a try of the next one, if there is one and
the session is open. -/
def FallsBack (runtime : Option Runtime) (env : Env) (endpoints : Nat) (w : World) : Prop :=
  ∀ rt, runtime = some rt → 1 < endpoints → (env 0 .first).cancelled = false →
    ∀ stage, (0, stage) ∈ w.made → (env 0 stage).tlsFails rt = true →
      ∃ stage', (1, stage') ∈ w.made

end Condition

section Cases

variable {rt : Runtime} {env : Env} {e : Nat} {stage : Stage} {w : World}

/-- The open connections, and no call of `openFresh` so far failed in TLS. -/
structure Clean (rt : Runtime) (env : Env) (w : World) (conns : List Conn) : Prop where
  opened : w.opened = conns
  secured : ∀ p ∈ w.made, (env p.1 p.2).tlsFails rt = false

theorem Clean.close {conn : Conn} (h : Clean rt env w [conn]) :
    Clean rt env { w with opened := w.opened.erase conn } [] := by
  refine ⟨?_, h.secured⟩
  rw [h.opened, List.erase_cons_head]

theorem Clean.closeIfOpen {conn : Option Conn} (h : Clean rt env w conn.toList) :
    Clean rt env (closeIfOpen conn w) [] := by
  cases conn with
  | none => exact h
  | some conn => exact h.close

theorem Clean.fallsBack {conns : List Conn} (h : Clean rt env w conns) (endpoints : Nat) :
    FallsBack (some rt) env endpoints w := by
  intro rt' hrt' _ _ stage hmade hfails
  cases hrt'
  rw [h.secured _ hmade] at hfails
  cases hfails

/-- What a call of `openFresh` does when no connection is open. -/
inductive OpenCase (rt : Runtime) (env : Env) (e : Nat) (stage : Stage) :
    Outcome (Except OpenError Conn) × World → Prop
  | panicked (w : World)
      (htls : (env e stage).tlsFails rt = true) :
      OpenCase rt env e stage (.panicked, w)
  | refused (w : World)
      (htls : (env e stage).tlsFails rt = false)
      (hopens : (env e stage).opens rt = false)
      (hclean : Clean rt env w []) :
      OpenCase rt env e stage (.returned (.error .dial), w)
  | opened (w : World)
      (htls : (env e stage).tlsFails rt = false)
      (hopens : (env e stage).opens rt = true)
      (hclean : Clean rt env w [(e, stage)]) :
      OpenCase rt env e stage (.returned (.ok (e, stage)), w)

theorem openFresh_case (h : Clean rt env w []) :
    OpenCase rt env e stage (openFresh rt env e stage w) := by
  have hmade : (env e stage).tlsFails rt = false →
      ∀ p ∈ (e, stage) :: w.made, (env p.1 p.2).tlsFails rt = false := by
    rintro htls p (_ | ⟨_, hp⟩)
    · exact htls
    · exact h.secured p hp
  cases hdial : (env e stage).dial with
  | false =>
    have htls : (env e stage).tlsFails rt = false := by
      simp only [Attempt.tlsFails, hdial, Bool.false_and]
    simp only [openFresh, hdial, if_true]
    refine .refused _ htls ?_ ⟨h.opened, hmade htls⟩
    simp only [Attempt.opens, hdial, Bool.false_and]
  | true =>
    have hopened : (e, stage) :: w.opened = [(e, stage)] := by rw [h.opened]
    simp only [openFresh, hdial, Bool.true_eq_false, if_false, secureCarrierWithRuntime]
    cases hcarrier : rt.carrierTLS with
    | false =>
      have htls : (env e stage).tlsFails rt = false := by
        simp only [Attempt.tlsFails, hcarrier, Bool.and_false, Bool.false_and]
      simp only [if_true]
      refine .opened _ htls ?_ ⟨hopened, hmade htls⟩
      simp only [Attempt.opens, hdial, hcarrier, Bool.not_false, Bool.true_or, Bool.and_true]
    | true =>
      simp only [Bool.true_eq_false, if_false]
      cases hsecure : (env e stage).secure with
      | none =>
        have htls : (env e stage).tlsFails rt = false := by
          simp only [Attempt.tlsFails, hsecure, Option.isSome_none, Bool.and_false]
        refine .opened _ htls ?_ ⟨hopened, hmade htls⟩
        simp only [Attempt.opens, hdial, hsecure, Option.isNone_none, Bool.or_true,
          Bool.and_true]
      | some err =>
        refine .panicked _ ?_
        simp only [Attempt.tlsFails, hdial, hcarrier, hsecure, Option.isSome_some,
          Bool.and_true]

/-- What a negotiation does; `secure` says that its carriers are secured, `fails` that it gives no
connection. -/
inductive NegotiationCase (rt : Runtime) (env : Env) (secure : Prop) (fails : Bool) :
    Outcome Negotiated × World → Prop
  | panicked (w : World)
      (hsecure : ¬ secure) :
      NegotiationCase rt env secure fails (.panicked, w)
  | failed (w : World) (conn : Option Conn) (err : NegotiationError)
      (hsecure : secure)
      (hfails : fails = true)
      (hclean : Clean rt env w conn.toList) :
      NegotiationCase rt env secure fails (.returned { conn := conn, result := .error err }, w)
  | agreed (w : World) (conn : Conn) (auth : Option StreamPathAuth)
      (hsecure : secure)
      (hfails : fails = false)
      (hclean : Clean rt env w [conn]) :
      NegotiationCase rt env secure fails
        (.returned { conn := some conn, result := .ok auth }, w)

theorem negotiateV4_case (h : Clean rt env w []) :
    NegotiationCase rt env ((env e .v4).tlsFails rt = false) (v4Fails rt env e)
      (negotiateV4 rt env e w) := by
  unfold negotiateV4
  generalize hopen : openFresh rt env e .v4 w = out
  cases hopen ▸ openFresh_case h with
  | panicked w htls => exact .panicked w (by rw [htls]; exact Bool.noConfusion)
  | refused w htls hopens hclean =>
    exact .failed w none _ htls (by rw [v4Fails, hopens]; rfl) hclean
  | opened w htls hopens hclean =>
    dsimp only
    cases hlegacy : (env e .v4).legacy with
    | error err =>
      refine .failed w _ _ htls ?_ hclean
      simp only [v4Fails, hlegacy, Bool.or_true]
    | ok auth =>
      refine .agreed w _ _ htls ?_ hclean
      simp only [v4Fails, hopens, hlegacy, Bool.not_true, Bool.or_self]

theorem NegotiationCase.congr {secure secure' : Prop} {fails fails' : Bool}
    {out : Outcome Negotiated × World} (h : NegotiationCase rt env secure fails out)
    (hsecure : secure ↔ secure') (hfails : fails = fails') :
    NegotiationCase rt env secure' fails' out := by
  rwa [← propext hsecure, ← hfails]

theorem negotiateLegacy_case (h : Clean rt env w []) :
    NegotiationCase rt env (LegacySecure rt env e) (legacyFails rt env e)
      (negotiateLegacy rt env e w) := by
  unfold negotiateLegacy
  generalize hopen : openFresh rt env e .legacy w = out
  cases hopen ▸ openFresh_case h with
  | panicked w htls =>
    refine .panicked w fun hsecure => ?_
    rw [hsecure.1] at htls
    cases htls
  | refused w htls hopens hclean =>
    refine .failed w none _ ⟨htls, fun hopens' => ?_⟩ (by rw [legacyFails, hopens]; rfl) hclean
    rw [hopens] at hopens'
    cases hopens'
  | opened w htls hopens hclean =>
    dsimp only
    cases hlegacy : (env e .legacy).legacy with
    | ok auth =>
      refine .agreed w _ _ ⟨htls, fun _ err herr => ?_⟩ ?_ hclean
      · rw [hlegacy] at herr
        cases herr
      · simp only [legacyFails, hopens, hlegacy, Bool.not_true, Bool.or_self]
    | error err =>
      dsimp only
      cases hretry : retriesV4 rt (env e .legacy) err with
      | false =>
        rw [if_pos rfl]
        refine .failed w _ _ ⟨htls, fun _ err' herr' hretry' => ?_⟩ ?_ hclean
        · rw [hlegacy] at herr'
          cases herr'
          rw [hretry] at hretry'
          cases hretry'
        · simp only [legacyFails, hlegacy, hretry, Bool.not_false, Bool.true_or, Bool.or_true]
      | true =>
        rw [if_neg Bool.noConfusion]
        refine (negotiateV4_case hclean.close).congr ?_ ?_
        · constructor
          · exact fun hv4 => ⟨htls, fun _ _ _ _ => hv4⟩
          · exact fun hsecure => hsecure.2 hopens err hlegacy hretry
        · simp only [legacyFails, hopens, hlegacy, hretry, Bool.not_true, Bool.false_or]

theorem negotiate_case {conn : Conn} (h : Clean rt env w [conn]) :
    NegotiationCase rt env (NegotiationSecure rt env e) (negotiationFails rt env e)
      (negotiate rt env e conn w) := by
  unfold negotiate
  cases hv7 : (env e .first).v7 with
  | ok auth =>
    refine .agreed w _ _ (fun err herr => ?_) (by simp only [negotiationFails, hv7]) h
    rw [hv7] at herr
    cases herr
  | error err =>
    dsimp only
    cases hretry : retriesLegacy rt (env e .first) err with
    | false =>
      rw [if_pos rfl]
      refine .failed w _ _ (fun err' herr' hretry' => ?_) ?_ h
      · rw [hv7] at herr'
        cases herr'
        rw [hretry] at hretry'
        cases hretry'
      · simp only [negotiationFails, hv7, hretry, Bool.not_false, Bool.true_or]
    | true =>
      rw [if_neg Bool.noConfusion]
      refine (negotiateLegacy_case h.close).congr ?_ ?_
      · constructor
        · exact fun hlegacy _ _ _ => hlegacy
        · exact fun hsecure => hsecure err hv7 hretry
      · simp only [negotiationFails, hv7, hretry, Bool.not_true, Bool.false_or]

/-- What the body of the loop does on an endpoint. -/
inductive TriedCase (rt : Runtime) (env : Env) (e : Nat) : Outcome Tried × World → Prop
  | panicked (w : World)
      (hsecure : ¬ EndpointSecure rt env e) :
      TriedCase rt env e (.panicked, w)
  | contextEnded (w : World)
      (hsecure : EndpointSecure rt env e)
      (hpasses : passesOn rt env e = false)
      (hclean : Clean rt env w []) :
      TriedCase rt env e (.returned .contextEnded, w)
  | gaveUp (w : World) (cause : Cause)
      (hsecure : EndpointSecure rt env e)
      (hpasses : passesOn rt env e = true)
      (hclean : Clean rt env w []) :
      TriedCase rt env e (.returned (.gaveUp cause), w)
  | connected (w : World) (conn : Conn) (auth : Option StreamPathAuth)
      (hsecure : EndpointSecure rt env e)
      (hpasses : passesOn rt env e = false)
      (hclean : Clean rt env w [conn]) :
      TriedCase rt env e (.returned (.connected (some conn) auth), w)

theorem endpointSecure_of_refused (htls : (env e .first).tlsFails rt = false)
    (hopens : (env e .first).opens rt = false) : EndpointSecure rt env e := by
  refine ⟨htls, fun hopens' => ?_⟩
  rw [hopens] at hopens'
  cases hopens'

theorem tryEndpoint_case (endpoint : String) (h : Clean rt env w []) :
    TriedCase rt env e (tryEndpoint rt env e endpoint w) := by
  unfold tryEndpoint
  generalize hopen : openFresh rt env e .first w = out
  cases hopen ▸ openFresh_case h with
  | panicked w htls =>
    refine .panicked w fun hsecure => ?_
    rw [hsecure.1] at htls
    cases htls
  | refused w htls hopens hclean =>
    have hsecure := endpointSecure_of_refused htls hopens
    dsimp only
    cases hcancelled : (env e .first).cancelled with
    | true => exact .contextEnded w hsecure (by simp [passesOn, hopens, hcancelled]) hclean
    | false => exact .gaveUp w _ hsecure (by simp [passesOn, hopens, hcancelled]) hclean
  | opened w htls hopens hclean =>
    have hpasses : passesOn rt env e = negotiationFails rt env e := by rw [passesOn, if_pos hopens]
    dsimp only
    generalize hnegotiate : negotiate rt env e (e, .first) w = out
    cases hnegotiate ▸ negotiate_case hclean with
    | panicked w hsecure => exact .panicked w fun hall => hsecure (hall.2 hopens)
    | failed w conn err hsecure hfails hclean =>
      exact .gaveUp _ _ ⟨htls, fun _ => hsecure⟩ (hpasses.trans hfails) hclean.closeIfOpen
    | agreed w conn auth hsecure hfails hclean =>
      dsimp only
      split
      · exact .contextEnded _ ⟨htls, fun _ => hsecure⟩ (hpasses.trans hfails) hclean.close
      · exact .connected w conn auth ⟨htls, fun _ => hsecure⟩ (hpasses.trans hfails) hclean

/-- What a dial does; `secure` says that its carriers are secured. -/
inductive DialCase (rt : Runtime) (env : Env) (secure : Prop) : Outcome Result × World → Prop
  | panicked (w : World)
      (hsecure : ¬ secure) :
      DialCase rt env secure (.panicked, w)
  | failed (w : World) (r : Result)
      (hsecure : secure)
      (hconn : r.conn = none)
      (herr : r.err.isSome = true)
      (hclean : Clean rt env w []) :
      DialCase rt env secure (.returned r, w)
  | connected (w : World) (conn : Conn) (auth : Option StreamPathAuth)
      (hsecure : secure)
      (hclean : Clean rt env w [conn]) :
      DialCase rt env secure (.returned { conn := some conn, auth := auth, err := none }, w)

theorem DialCase.congr {secure secure' : Prop} {out : Outcome Result × World}
    (h : DialCase rt env secure out) (hsecure : secure ↔ secure') :
    DialCase rt env secure' out := by
  rwa [← propext hsecure]

theorem dialEndpoints_case {names : List String} {causes : List Cause}
    (hcauses : causes ≠ [] ∨ names ≠ []) (h : Clean rt env w []) :
    DialCase rt env (CarriersSecured rt env e names.length)
      (dialEndpoints rt env e names causes w) := by
  induction names generalizing e causes w with
  | nil =>
    have hne : causes ≠ [] := hcauses.resolve_right fun hnil => hnil rfl
    exact .failed w _ trivial rfl (by simp [joinCauses, hne]) h
  | cons endpoint rest ih =>
    rw [dialEndpoints, List.length_cons]
    generalize htry : tryEndpoint rt env e endpoint w = out
    cases htry ▸ tryEndpoint_case endpoint h with
    | panicked w hsecure => exact .panicked w fun hall => hsecure hall.1
    | contextEnded w hsecure hpasses hclean =>
      refine .failed w _ ⟨hsecure, fun hpasses' => ?_⟩ rfl rfl hclean
      rw [hpasses] at hpasses'
      cases hpasses'
    | gaveUp w cause hsecure hpasses hclean =>
      have hrest : DialCase rt env (CarriersSecured rt env (e + 1) rest.length)
          (dialEndpoints rt env (e + 1) rest (causes ++ [cause]) w) :=
        ih (.inl (by simp)) hclean
      refine hrest.congr ⟨fun hsecured => ⟨hsecure, fun _ => hsecured⟩, fun hall => ?_⟩
      exact hall.2 hpasses
    | connected w conn auth hsecure hpasses hclean =>
      refine .connected w conn auth ⟨hsecure, fun hpasses' => ?_⟩ hclean
      rw [hpasses] at hpasses'
      cases hpasses'

theorem dialHostCarrier_case (id : LegID) (h : Clean rt env w []) :
    DialCase rt env (EndpointSecure rt env 0) (dialHostCarrier rt env id w) := by
  unfold dialHostCarrier
  generalize hopen : openFresh rt env 0 .first w = out
  cases hopen ▸ openFresh_case h with
  | panicked w htls =>
    refine .panicked w fun hsecure => ?_
    rw [hsecure.1] at htls
    cases htls
  | refused w htls hopens hclean =>
    exact .failed w _ (endpointSecure_of_refused htls hopens) rfl rfl hclean
  | opened w htls hopens hclean =>
    dsimp only
    generalize hnegotiate : negotiate rt env 0 (0, .first) w = out
    cases hnegotiate ▸ negotiate_case hclean with
    | panicked w hsecure => exact .panicked w fun hall => hsecure (hall.2 hopens)
    | failed w conn err hsecure hfails hclean =>
      exact .failed _ _ ⟨htls, fun _ => hsecure⟩ rfl rfl hclean.closeIfOpen
    | agreed w conn auth hsecure hfails hclean =>
      exact .connected w conn auth ⟨htls, fun _ => hsecure⟩ hclean

theorem RouteLeg.names_ne_nil (route : RouteLeg) : route.names ≠ [] := by
  unfold RouteLeg.names
  split <;> nofun

theorem dialLegWithRuntime_case (legCount : Nat) (rt : Runtime) (env : Env) (id : LegID) :
    DialCase rt env (CarriersSecured rt env 0 (endpointCount legCount (some rt) id))
      (dialLegWithRuntime legCount (some rt) env id) := by
  have hclean : Clean rt env { made := [], opened := [] } [] := ⟨rfl, nofun⟩
  simp only [dialLegWithRuntime, endpointCount]
  split
  · exact .failed _ _ trivial rfl rfl hclean
  split
  · refine (dialHostCarrier_case id hclean).congr ?_
    exact ⟨fun hsecure => ⟨hsecure, fun _ => trivial⟩, And.left⟩
  split
  · exact .failed _ _ trivial rfl rfl hclean
  · rename_i route _
    exact dialEndpoints_case (.inr route.names_ne_nil) hclean

end Cases

section Results

/-- A dial returns one open connection or an error with all others closed, and falls back after a
TLS failure, exactly if every carrier that it gets to dial is secured. -/
theorem dialLeg_handles_iff (legCount : Nat) (runtime : Option Runtime) (env : Env) (id : LegID) :
    Settles (dialLegWithRuntime legCount runtime env id) ∧
        FallsBack runtime env (endpointCount legCount runtime id)
          (dialLegWithRuntime legCount runtime env id).2 ↔
      ∀ rt, runtime = some rt →
        CarriersSecured rt env 0 (endpointCount legCount runtime id) := by
  cases runtime with
  | none => exact ⟨fun _ => nofun, fun _ => ⟨⟨_, rfl, .inr ⟨rfl, rfl, rfl⟩⟩, nofun⟩⟩
  | some rt =>
    have hcase := dialLegWithRuntime_case legCount rt env id
    generalize dialLegWithRuntime legCount (some rt) env id = out at hcase ⊢
    constructor
    · rintro ⟨⟨r, hreturned, -⟩, -⟩ rt' hrt'
      cases hrt'
      cases hcase with
      | panicked w hsecure =>
        cases hreturned
      | failed w r hsecure hconn herr hclean | connected w conn auth hsecure hclean => exact hsecure
    · intro hsecured
      cases hcase with
      | panicked w hsecure => exact absurd (hsecured rt rfl) hsecure
      | failed w r hsecure hconn herr hclean =>
        exact ⟨⟨r, rfl, .inr ⟨hconn, herr, hclean.opened⟩⟩, hclean.fallsBack _⟩
      | connected w conn auth hsecure hclean =>
        exact ⟨⟨_, rfl, .inl ⟨conn, rfl, rfl, hclean.opened⟩⟩, hclean.fallsBack _⟩

/-- A leg with a fallback endpoint, over TLS. -/
def securedRuntime : Runtime :=
  { hostCarrier := false, carrierTLS := true, experimentalPathAware := false
    allowV7LegacyFallback := false, allowPathRTTV4Fallback := false
    allowPathRTTV4FallbackOnTransportError := false
    routes := { legs := [], leg0 := "a:1", leg1 := "b:1", leg1Fallback := "c:1" } }

/-- The handshake with the first endpoint fails; the second one would be secured and agree on a
legacy version. -/
def handshakeFails : Env := fun e _ =>
  { dial := true
    secure := if e = 0 then some .handshake else none
    v7 := .error .capabilityUnavailable
    v7WasAccepted := false
    legacy := .ok none
    v6WasAccepted := false
    cancelled := false }

/-- The dial panics, and the fallback is not tried. -/
theorem tls_failure_panics :
    (dialLegWithRuntime 2 (some securedRuntime) handshakeFails 1).1 = .panicked ∧
      (dialLegWithRuntime 2 (some securedRuntime) handshakeFails 1).2.made = [(0, .first)] ∧
      ¬ Settles (dialLegWithRuntime 2 (some securedRuntime) handshakeFails 1) ∧
      ¬ FallsBack (some securedRuntime) handshakeFails (endpointCount 2 (some securedRuntime) 1)
          (dialLegWithRuntime 2 (some securedRuntime) handshakeFails 1).2 := by
  have hrun : dialLegWithRuntime 2 (some securedRuntime) handshakeFails 1 =
      (.panicked, { made := [(0, .first)], opened := [] }) := rfl
  rw [hrun]
  refine ⟨rfl, rfl, ?_, fun hfalls => ?_⟩
  · rintro ⟨r, hreturned, -⟩
    cases hreturned
  · obtain ⟨stage, hm⟩ := hfalls securedRuntime rfl (by decide) rfl .first (by decide) rfl
    cases stage <;> exact absurd hm (by decide)

end Results

end Smp3Multipath.Client.DialLeg

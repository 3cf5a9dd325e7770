import Smp3Multipath.Client.Configuration

/-!
# The routes of a datagram leg

The datagram association has a dialer of its own.  It reads the legacy fields of the routes, where
the stream session asks for the entry of the leg, and it hands the connection on as it is, where
the stream session secures it.  For an accepted configuration the two agree exactly in the legacy
form without carrier TLS and without a host bridge (`datagram_routes_agree`).
-/

namespace Smp3Multipath.Client.DatagramRoutes

open Client.Configuration List
open DialLeg (Routes RouteLeg Runtime)

section Model

/-- What a leg dials, in order, and whether the carriers are wrapped in carrier TLS. -/
structure Plan where
  endpoints : List String
  secured : Bool
deriving DecidableEq

/-- The endpoints of the datagram association; leg 0 and leg 1 only. -/
def datagramPlan (c : SMP3Options) (id : Nat) : Option Plan :=
  if 1 < id then none
  else
    let route := if id = 1 then c.routes.leg1 else c.routes.leg0
    let endpoints :=
      if id = 1 ∧ c.routes.leg1Fallback ≠ "" then [route, c.routes.leg1Fallback] else [route]
    some { endpoints := endpoints, secured := false }

/-- The outcome of the steps of one attempt. -/
structure Attempt where
  dial : Bool
  hello : Bool
  ready : Bool
  /-- The context of the association has ended. -/
  cancelled : Bool

inductive DialError where
  /-- "invalid datagram leg" -/
  | invalidLeg
  | contextEnded
  /-- The endpoints, each with what failed on it. -/
  | joined (causes : List String)
deriving DecidableEq

/-- The loop of `dialLeg`: the endpoint that is connected, and the endpoints that were dialed. -/
def dialEndpoints (env : String → Attempt) :
    List String → List String → Except DialError String × List String
  | [], causes => (.error (.joined causes), [])
  | endpoint :: rest, causes =>
    let next (what : String) :=
      let r := dialEndpoints env rest (causes ++ [endpoint ++ what])
      (r.1, endpoint :: r.2)
    let attempt := env endpoint
    if attempt.dial = false then
      if attempt.cancelled then (.error .contextEnded, [endpoint]) else next ""
    else if attempt.hello = false then next " HELLO"
    else if attempt.ready = false then next " READY"
    else if attempt.cancelled then (.error .contextEnded, [endpoint])
    else (.ok endpoint, [endpoint])

/-- `dialLeg` of the datagram association. -/
def dialLeg (c : SMP3Options) (env : String → Attempt) (id : Nat) :
    Except DialError String × List String :=
  match datagramPlan c id with
  | none => (.error .invalidLeg, [])
  | some plan => dialEndpoints env plan.endpoints []

/-- What the stream session dials; a host bridge opens its carriers itself. -/
def streamPlan (c : SMP3Options) (id : Nat) : Option Plan :=
  if c.carrierMode = "host_bridge" then none
  else
    (c.routes.leg id).map fun route =>
      { endpoints := route.names, secured := c.carrierTLS.enabled }

/-- The runtime is one of the configuration. -/
structure RunsWith (rt : Runtime) (c : SMP3Options) : Prop where
  hostCarrier : rt.hostCarrier = decide (c.carrierMode = "host_bridge")
  carrierTLS : rt.carrierTLS = c.carrierTLS.enabled
  routes : rt.routes = c.routes

end Model

section Dialed

variable {c : SMP3Options} {id : Nat} {plan : Plan}

theorem dialEndpoints_all {env : String → Attempt} {endpoints causes : List String}
    (hfail : ∀ e ∈ endpoints, (env e).dial = false ∧ (env e).cancelled = false) :
    (dialEndpoints env endpoints causes).2 = endpoints := by
  induction endpoints generalizing causes with
  | nil => rfl
  | cons endpoint rest ih =>
    obtain ⟨hdial, hopen⟩ := hfail endpoint mem_cons_self
    simp only [dialEndpoints, hdial, hopen, if_true, Bool.false_eq_true, if_false]
    rw [ih fun e he => hfail e (mem_cons_of_mem _ he)]

/-- The stream session tries the endpoints of its plan. -/
theorem dialLegWithRuntime_eq {rt : Runtime} (h : RunsWith rt c)
    (hplan : streamPlan c id = some plan) (legCount : Nat) (env : DialLeg.Env) :
    DialLeg.dialLegWithRuntime legCount (some rt) env id =
      DialLeg.dialEndpoints rt env 0 plan.endpoints [] { made := [], opened := [] } := by
  unfold streamPlan at hplan
  split_ifs at hplan with hmode
  obtain ⟨route, hroute, rfl⟩ := Option.map_eq_some_iff.1 hplan
  have hlt : id < c.routes.entries.length := by
    unfold Routes.leg at hroute
    split at hroute
    · next hentry => exact (List.getElem?_eq_some_iff.1 hentry).1
    · cases hroute
  simp [DialLeg.dialLegWithRuntime, h.hostCarrier, hmode, h.routes, hroute, Nat.not_le.2 hlt]

theorem entries_legacy (h : c.routes.legs = []) : c.routes.entries =
    [⟨0, c.routes.leg0, ""⟩, ⟨1, c.routes.leg1, c.routes.leg1Fallback⟩] := by
  simp [Routes.entries, h]

theorem plans_eq (hid : id < c.routes.entries.length) (hlegacy : c.routes.legs = [])
    (hmode : c.carrierMode ≠ "host_bridge") (htls : c.carrierTLS.enabled = false) :
    (datagramPlan c id).isSome = true ∧ datagramPlan c id = streamPlan c id := by
  have hentries := entries_legacy hlegacy
  have hid : id = 0 ∨ id = 1 := by
    rw [hentries, length_cons, length_singleton] at hid
    omega
  unfold datagramPlan streamPlan Routes.leg
  rw [if_neg hmode, hentries, htls]
  rcases hid with rfl | rfl
  · exact ⟨rfl, rfl⟩
  · refine ⟨rfl, ?_⟩
    by_cases hfallback : c.routes.leg1Fallback = "" <;> simp [RouteLeg.names, hfallback]

end Dialed

section Accepted

variable {lib : Library} {c₀ c : Config}

theorem ok_of_require {ok : Bool} {format : String} {args : List String}
    (h : require ok format args = .ok ()) : ok = true := by
  cases ok with
  | false => cases h
  | true => rfl

theorem validateEndpoint_ne_empty {address field : String} {allowZero : Bool}
    (h : validateEndpoint lib address field allowZero = .ok ()) : address ≠ "" := by
  rintro rfl
  rw [validateEndpoint, lib.splitHostPort_empty] at h
  cases h

theorem validateRouteLegs_ne_empty {upstreamForLeg : Nat → Upstream} {index : Nat}
    {legs : List RouteLeg} {seen : Seen}
    (h : validateRouteLegs lib upstreamForLeg index legs seen = .ok ()) :
    ∀ leg ∈ legs, leg.address ≠ "" := by
  induction legs generalizing index seen with
  | nil => exact fun leg hleg => absurd hleg not_mem_nil
  | cons route legs ih =>
    rw [validateRouteLegs] at h
    obtain ⟨_, _, h⟩ := ok_of_bind h
    obtain ⟨_, haddress, h⟩ := ok_of_bind h
    obtain ⟨_, _, h⟩ := ok_of_bind h
    have hrest : ∀ leg ∈ legs, leg.address ≠ "" := by
      split at h
      · exact ih h
      · obtain ⟨_, _, h⟩ := ok_of_bind h
        obtain ⟨_, _, h⟩ := ok_of_bind h
        exact ih h
    exact forall_mem_cons.2 ⟨validateEndpoint_ne_empty haddress, hrest⟩

/-- An accepted list has an address for each leg, and the legacy fields are empty beside it. -/
theorem validateRoutes_list {routes : Routes} {upstreamForLeg : Nat → Upstream}
    (h : validateRoutesWithUpstreams lib routes upstreamForLeg = .ok ()) (hlist : routes.legs ≠ []) :
    routes.leg0 = "" ∧ routes.leg1 = "" ∧ routes.leg1Fallback = "" ∧
      ∀ leg ∈ routes.legs, leg.address ≠ "" := by
  rw [validateRoutesWithUpstreams, if_pos (length_pos_of_ne_nil hlist)] at h
  obtain ⟨_, hlegacy, h⟩ := ok_of_bind h
  obtain ⟨_, _, h⟩ := ok_of_bind h
  have hempty := ok_of_require hlegacy
  simp only [Bool.and_eq_true, beq_iff_eq] at hempty
  exact ⟨hempty.1.1, hempty.1.2, hempty.2, validateRouteLegs_ne_empty h⟩

/-- What the validation has checked of the routes and the datagrams. -/
theorem routes_of_accepted (h : normalizeAndValidate lib c₀ = .ok c) :
    (∃ upstreamForLeg, validateRoutesWithUpstreams lib c.smp3.routes upstreamForLeg = .ok ()) ∧
      (c.smp3.udp.enabled = true → c.smp3.routes.entries.length ≤ 2) := by
  unfold normalizeAndValidate at h
  obtain ⟨_, _, h⟩ := ok_of_bind h
  obtain ⟨_, _, h⟩ := ok_of_bind h
  obtain ⟨u, _, h⟩ := ok_of_bind h
  obtain ⟨_, _, h⟩ := ok_of_bind h
  obtain ⟨_, _, h⟩ := ok_of_bind h
  obtain ⟨rest, hrest, ⟨⟩⟩ := ok_of_bind h
  rw [returned_ok_iff, validateRest] at hrest
  obtain ⟨_, _, hrest⟩ := ok_of_bind hrest
  obtain ⟨_, hroutes, hrest⟩ := ok_of_bind hrest
  refine ⟨⟨_, hroutes⟩, fun henabled => ?_⟩
  obtain ⟨_, _, hrest⟩ := ok_of_bind hrest
  obtain ⟨_, _, hrest⟩ := ok_of_bind hrest
  obtain ⟨_, _, hrest⟩ := ok_of_bind hrest
  obtain ⟨_, _, hrest⟩ := ok_of_bind hrest
  obtain ⟨_, _, hrest⟩ := ok_of_bind hrest
  obtain ⟨_, htwo, hrest⟩ := ok_of_bind hrest
  obtain ⟨udp, hudp, ⟨⟩⟩ := ok_of_bind hrest
  -- the check of the datagrams leaves `enabled` as it is
  have hsame : udp.enabled = c₀.smp3.udp.enabled := by
    unfold validateUDP at hudp
    obtain ⟨_, _, hudp⟩ := ok_of_bind hudp
    obtain ⟨_, _, hudp⟩ := ok_of_bind hudp
    obtain ⟨_, _, hudp⟩ := ok_of_bind hudp
    obtain ⟨_, _, hudp⟩ := ok_of_bind hudp
    obtain ⟨_, _, ⟨⟩⟩ := ok_of_bind hudp
    rfl
  have hchecked := ok_of_require htwo
  rw [← hsame, show udp.enabled = true from henabled] at hchecked
  simpa using hchecked

theorem legacy_of_plans_eq {s : SMP3Options} {id : Nat} {upstreamForLeg : Nat → Upstream}
    (hroutes : validateRoutesWithUpstreams lib s.routes upstreamForLeg = .ok ()) (hid : id ≤ 1)
    (h : datagramPlan s id = streamPlan s id) :
    s.routes.legs = [] ∧ s.carrierMode ≠ "host_bridge" ∧ s.carrierTLS.enabled = false := by
  rw [datagramPlan, if_neg (Nat.not_lt.2 hid), streamPlan] at h
  have hmode : s.carrierMode ≠ "host_bridge" := fun hmode => by
    rw [if_pos hmode] at h
    cases h
  rw [if_neg hmode] at h
  obtain ⟨route, hroute, hplan⟩ := Option.map_eq_some_iff.1 h.symm
  obtain ⟨hnames, htls⟩ := Plan.mk.inj hplan
  refine ⟨?_, hmode, htls⟩
  by_contra hlist
  obtain ⟨h0, h1, hfallback, haddress⟩ := validateRoutes_list hroutes hlist
  have hm : route ∈ s.routes.legs := by
    unfold Routes.leg Routes.entries at hroute
    rw [if_pos (length_pos_of_ne_nil hlist)] at hroute
    split at hroute
    · next entry hentry =>
      split_ifs at hroute
      cases hroute
      exact mem_of_getElem? hentry
    · cases hroute
  -- the datagram association dials the empty address, and the list has none
  have hdialed : "" ∈ route.names := by
    rw [hnames, h0, h1, hfallback]
    split_ifs <;> exact mem_cons_self
  refine haddress route hm ?_
  unfold RouteLeg.names at hdialed
  split at hdialed
  · next hne =>
    rcases mem_pair.1 hdialed with heq | heq
    · exact heq.symm
    · exact absurd heq.symm hne
  · exact (mem_singleton.1 hdialed).symm

end Accepted

/-- For an accepted configuration with datagrams, the two plans of a leg are the same exactly in the
legacy form without carrier TLS and a host bridge.  The endpoints of its plan are what the datagram
association dials until one is connected, and those of the other what the stream session tries. -/
theorem datagram_routes_agree
    (lib : Library)
    (c₀ c : Config)
    (id : Nat)
    (haccepted : normalizeAndValidate lib c₀ = .ok c)
    (hudp : c.smp3.udp.enabled = true)
    (hid : id < c.smp3.routes.entries.length) :
    (datagramPlan c.smp3 id = streamPlan c.smp3 id ↔
      c.smp3.routes.legs = [] ∧ c.smp3.carrierMode ≠ "host_bridge" ∧
        c.smp3.carrierTLS.enabled = false) ∧
    (∃ plan, datagramPlan c.smp3 id = some plan ∧
      ∀ env, (∀ e ∈ plan.endpoints, (env e).dial = false ∧ (env e).cancelled = false) →
        (dialLeg c.smp3 env id).2 = plan.endpoints) ∧
    ∀ plan, streamPlan c.smp3 id = some plan → ∀ rt, RunsWith rt c.smp3 →
      rt.carrierTLS = plan.secured ∧ ∀ legCount env,
        DialLeg.dialLegWithRuntime legCount (some rt) env id =
          DialLeg.dialEndpoints rt env 0 plan.endpoints [] { made := [], opened := [] } := by
  obtain ⟨⟨_, hroutes⟩, htwo⟩ := routes_of_accepted haccepted
  have hone : id ≤ 1 := Nat.le_of_lt_succ (Nat.lt_of_lt_of_le hid (htwo hudp))
  refine ⟨⟨legacy_of_plans_eq hroutes hone, fun ⟨hlegacy, hmode, htls⟩ => ?_⟩, ?_, ?_⟩
  · exact (plans_eq hid hlegacy hmode htls).2
  · refine ⟨_, if_neg (Nat.not_lt.2 hone), fun env hfail => ?_⟩
    rw [dialLeg, datagramPlan, if_neg (Nat.not_lt.2 hone)]
    exact dialEndpoints_all hfail
  · intro plan hplan rt hrt
    refine ⟨?_, fun legCount env => dialLegWithRuntime_eq hrt hplan legCount env⟩
    unfold streamPlan at hplan
    split_ifs at hplan
    obtain ⟨_, _, rfl⟩ := Option.map_eq_some_iff.1 hplan
    exact hrt.carrierTLS

/-- Datagrams with the given routes. -/
def udpConfig (routes : Routes) : Config :=
  { smp3 := { password := "secret", routes := routes, udp := { enabled := true } } }

def legacyRoutes : Routes :=
  { legs := [], leg0 := "127.0.0.1:80", leg1 := "127.0.0.1:81", leg1Fallback := "127.0.0.1:82" }

def listRoutes : Routes :=
  { legs := [⟨0, "127.0.0.1:80", ""⟩, ⟨1, "127.0.0.1:81", "127.0.0.1:82"⟩]
    leg0 := "", leg1 := "", leg1Fallback := "" }

theorem datagram_routes_agree_legacy :
    ∃ c, normalizeAndValidate sampleLibrary (udpConfig legacyRoutes) = .ok c ∧
      datagramPlan c.smp3 1 = streamPlan c.smp3 1 := by
  refine ⟨_, rfl, ?_⟩
  exact (datagram_routes_agree sampleLibrary (udpConfig legacyRoutes) _ 1 rfl rfl (by decide)).1.2
    ⟨rfl, by decide, rfl⟩

/-- The same routes as a list: the datagram association dials an empty address. -/
theorem list_routes_not_dialed :
    ∃ c, normalizeAndValidate sampleLibrary (udpConfig listRoutes) = .ok c ∧
      c.smp3.udp.enabled = true ∧ datagramPlan c.smp3 0 = some ⟨[""], false⟩ ∧
      datagramPlan c.smp3 0 ≠ streamPlan c.smp3 0 := by
  exact ⟨_, rfl, rfl, rfl, by decide⟩

end Smp3Multipath.Client.DatagramRoutes

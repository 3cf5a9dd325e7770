import Smp3Multipath.Core.StreamTx

/-!
# Attaching a carrier

`attachLeg` with every check it makes, in the order in which it makes them, and
`bindLeg` of the RTT probe cache, which it calls halfway.  The whole body runs
under `lifecycleMu` and `legsMu`, so one pass is one transition.  A pass that
finds an old generation of the id still retiring waits and starts over.

The path half of the authentication is checked and bound before the drain half
is looked at.  `failed_attach_harmless_iff` says exactly which refused calls leave
a trace behind.

Left out are what no check reads: the leg's queues and callbacks, the bandwidth
prior, the feeder, and of the cache its samples, pending probes and replay tokens.
-/

namespace Smp3Multipath.Core.Registry

open Function

section Authentication

/-- `SessionID`, sixteen bytes. -/
abbrev SessionID := BitVec 128

def streamCapabilityPathRTT : BitVec 32 := 1#32

def streamCapabilityCoordinatedDrain : BitVec 32 := 2#32

def knownStreamCapabilities : BitVec 32 :=
  streamCapabilityPathRTT ||| streamCapabilityCoordinatedDrain

inductive StreamPathRole where
  | unset
  | client
  | server
deriving DecidableEq

structure StreamPathBinding where
  sessionID : SessionID := 0#128
  legID : LegID := 0
  carrierID : String := ""
  generation : Nat := 0
deriving DecidableEq

/-- `StreamPathAuth`, what attaching reads of it. -/
structure StreamPathAuth where
  sessionID : SessionID
  legID : LegID
  capabilities : BitVec 32
  probeKey : BitVec 256
  drainBinding : BitVec 128
  authenticated : Bool
deriving DecidableEq

namespace StreamPathAuth

def coordinatedDrainEnabled (a : StreamPathAuth) : Bool :=
  a.authenticated && decide (a.capabilities &&& streamCapabilityCoordinatedDrain ≠ 0#32)

def pathRTTEnabled (a : StreamPathAuth) : Bool :=
  a.authenticated && decide (a.capabilities &&& streamCapabilityPathRTT ≠ 0#32)

def validFor (a : StreamPathAuth) (binding : StreamPathBinding) : Bool :=
  a.authenticated && decide (a.sessionID = binding.sessionID) &&
    decide (a.legID = binding.legID) &&
    decide (a.capabilities &&& streamCapabilityPathRTT ≠ 0#32) &&
    decide (a.capabilities &&& ~~~knownStreamCapabilities = 0#32)

end StreamPathAuth

/-- The errors of `attachLeg`. -/
inductive AttachError where
  | configError (text : String)
  | errInvalidLeg
  | errStreamClosed
  | duplicateLeg
  | errStreamPathNegotiation
  | errStreamPathRole
  | errStreamPathMessage
  | errStreamRTTCacheClosed
  | errStreamRTTStaleGeneration
  | errStreamRTTGenerationReuse
  | errStreamDrainMessage
deriving DecidableEq

end Authentication

section Cache

/-- `streamRTTProbeCache`, its bindings. -/
structure StreamRTTProbeCache where
  maxLegs : Nat
  closed : Bool
  highWater : LegID → Nat
  active : LegID → Bool
  binding : LegID → StreamPathBinding
  probeKey : LegID → BitVec 256

def newStreamRTTProbeCacheForLegs (maxLegs : Nat) : StreamRTTProbeCache :=
  { maxLegs := if maxLegs < 1 ∨ maxStreamLegIDCount < maxLegs then 2 else maxLegs
    closed := false
    highWater := fun _ => 0
    active := fun _ => false
    binding := fun _ => {}
    probeKey := fun _ => 0#256 }

namespace StreamRTTProbeCache

def clearLegLocked (c : StreamRTTProbeCache) (id : LegID) : StreamRTTProbeCache :=
  { c with
    active := update c.active id false
    binding := update c.binding id {}
    probeKey := update c.probeKey id 0#256 }

def bindLeg (c : StreamRTTProbeCache) (binding : StreamPathBinding) (auth : StreamPathAuth) :
    Except AttachError StreamRTTProbeCache :=
  let id := binding.legID
  if binding.carrierID = "" ∨ binding.generation = 0 then .error .errStreamPathMessage
  else if c.maxLegs ≤ id then .error .errStreamPathMessage
  else if auth.validFor binding = false then .error .errStreamPathNegotiation
  else if c.closed then .error .errStreamRTTCacheClosed
  else if binding.generation < c.highWater id then .error .errStreamRTTStaleGeneration
  else if binding.generation = c.highWater id then
    -- the same generation may only be bound again to the same carrier
    if c.active id ∧ c.binding id = binding ∧ c.probeKey id = auth.probeKey then .ok c
    else .error .errStreamRTTGenerationReuse
  else
    let c := c.clearLegLocked id
    .ok { c with
      highWater := update c.highWater id binding.generation
      binding := update c.binding id binding
      probeKey := update c.probeKey id auth.probeKey
      active := update c.active id true }

/-- `invalidateLeg`; the high-water mark stays. -/
def invalidateLeg (c : StreamRTTProbeCache) (binding : StreamPathBinding) : StreamRTTProbeCache :=
  if c.maxLegs ≤ binding.legID ∨ c.closed ∨ c.active binding.legID = false ∨
      c.binding binding.legID ≠ binding then c
  else c.clearLegLocked binding.legID

def close (c : StreamRTTProbeCache) : StreamRTTProbeCache :=
  if c.closed then c
  else
    { c with
      closed := true
      active := fun _ => false, binding := fun _ => {}, probeKey := fun _ => 0#256 }

end StreamRTTProbeCache

end Cache

section Attach

/-- What attaching reads of the configuration. -/
structure Config where
  configError : String
  maxActiveLegs : Nat
  experimentalPathAware : Bool
  pathRole : StreamPathRole

/-- A leg pointer: its place in the order of the attaches. -/
abbrev Ref := Nat

/-- `streamLeg`, with its three workers. -/
structure StreamLeg where
  id : LegID
  generation : Nat
  pathBinding : StreamPathBinding
  pathRTTEnabled : Bool
  drainEnabled : Bool
  drainBinding : BitVec 128
  closed : Bool := false
  /-- `legWriteLoop` has not returned. -/
  writer : Bool := true
  /-- `legReadLoop` has not returned. -/
  reader : Bool := true
  /-- `pathRTTProbeLoop` has not returned. -/
  prober : Bool
deriving DecidableEq

/-- The registry, the session identities and the cache, with the goroutines that clean up. -/
structure State where
  finalizing : Bool
  done : Bool
  legs : LegID → Option Ref
  retiring : LegID → Option Ref
  legGeneration : LegID → Nat
  pathSessionID : SessionID
  pathSessionSet : Bool
  drainSessionID : SessionID
  drainSessionSet : Bool
  pathRTTCache : Option StreamRTTProbeCache
  /-- Every leg that was ever attached. -/
  objects : List StreamLeg
  /-- The legs that `failWithAppClose` has still to close. -/
  closing : List Ref
  /-- The legs that `retireDrainedLeg` has removed and has still to close. -/
  retired : List Ref
  /-- The legs whose `workers.Wait` goroutine runs. -/
  waiters : List Ref

/-- `NewStreamEngine`. -/
def init (cfg : Config) : State :=
  { finalizing := false, done := false
    legs := fun _ => none, retiring := fun _ => none, legGeneration := fun _ => 0
    pathSessionID := 0#128, pathSessionSet := false
    drainSessionID := 0#128, drainSessionSet := false
    pathRTTCache :=
      if cfg.experimentalPathAware ∧ cfg.pathRole ≠ .unset then
        some (newStreamRTTProbeCacheForLegs cfg.maxActiveLegs)
      else none
    objects := [], closing := [], retired := [], waiters := [] }

/-- What a pass of `attachLeg` ends with. -/
inductive AttachResult where
  | attached
  /-- An old generation of the id retires; the call waits for it. -/
  | waits (ref : Ref)
  | error (e : AttachError)
deriving DecidableEq

/-- The largest generation, `^uint64(0)`. -/
def maxGeneration : Nat := 2 ^ 64 - 1

/-- The sixteen bytes in `%x`. -/
def sessionHex (sessionID : SessionID) : String :=
  String.ofList ((List.range 32).map fun i =>
    Nat.digitChar (sessionID.toNat / 16 ^ (31 - i) % 16))

/-- The `CarrierID` of a generation, `%x/%d/%d`. -/
def carrierIDOf (sessionID : SessionID) (id : LegID) (generation : Nat) : String :=
  sessionHex sessionID ++ "/" ++ toString id ++ "/" ++ toString generation

/-- The binding that a generation of leg `id` gets. -/
def pathBindingOf (auth : StreamPathAuth) (id : LegID) (generation : Nat) : StreamPathBinding :=
  { sessionID := auth.sessionID, legID := id
    carrierID := carrierIDOf auth.sessionID id generation, generation := generation }

variable (cfg : Config)

/-- The path half of `attachLeg`: the checks, `bindLeg` and the session identity. -/
def attachPath (s : State) (id : LegID) (generation : Nat) (auth : StreamPathAuth) :
    Except AttachError (State × StreamPathBinding) :=
  if auth.pathRTTEnabled = false then .ok (s, {})
  else
  match s.pathRTTCache with
  | none => .error .errStreamPathNegotiation
  | some cache =>
    if cfg.experimentalPathAware = false then .error .errStreamPathNegotiation
    else if cfg.pathRole = .unset then .error .errStreamPathRole
    else if s.pathSessionSet ∧ s.pathSessionID ≠ auth.sessionID then .error .errStreamPathMessage
    else
      let binding := pathBindingOf auth id generation
      if auth.validFor binding = false then .error .errStreamPathMessage
      else
        match cache.bindLeg binding auth with
        | .error e => .error e
        | .ok cache =>
          .ok ({ s with
            pathRTTCache := some cache
            pathSessionID := auth.sessionID, pathSessionSet := true }, binding)

/-- The drain half refuses the authentication. -/
def drainRefuses (s : State) (auth : StreamPathAuth) : Bool :=
  (s.drainSessionSet && decide (s.drainSessionID ≠ auth.sessionID)) ||
    decide (auth.drainBinding = 0#128)

/-- The drain half of `attachLeg`. -/
def attachDrain (s : State) (auth : StreamPathAuth) : Except AttachError State :=
  if auth.coordinatedDrainEnabled = false then .ok s
  else if drainRefuses s auth then .error .errStreamDrainMessage
  else .ok { s with drainSessionID := auth.sessionID, drainSessionSet := true }

/-- Publish the new leg. -/
def install (s : State) (leg : StreamLeg) : State :=
  { s with
    legs := update s.legs leg.id (some s.objects.length)
    legGeneration := update s.legGeneration leg.id leg.generation
    objects := s.objects ++ [leg] }

/-- The checks of a pass before it looks at the authentication. -/
def attachGate (s : State) (id : LegID) : Option AttachResult :=
  if cfg.configError ≠ "" then some (.error (.configError cfg.configError))
  else if cfg.maxActiveLegs ≤ id then some (.error .errInvalidLeg)
  else if s.finalizing ∨ s.done then some (.error .errStreamClosed)
  else if (s.legs id).isSome then some (.error .duplicateLeg)
  else
    match s.retiring id with
    | some ref => some (.waits ref)
    | none =>
      if s.legGeneration id = maxGeneration then some (.error .errStreamRTTGenerationReuse)
      else none

/-- The leg of an unauthenticated attach. -/
def plainLeg (id : LegID) (generation : Nat) : StreamLeg :=
  { id := id, generation := generation, pathBinding := {}, pathRTTEnabled := false
    drainEnabled := false, drainBinding := 0#128, prober := false }

/-- The part of a pass that follows the gate. -/
def attachAuth (s : State) (id : LegID) (auth : Option StreamPathAuth) : State × AttachResult :=
  let generation := s.legGeneration id + 1
  match auth with
  | none => (install s (plainLeg id generation), .attached)
  | some a =>
    if a.pathRTTEnabled = false ∧ a.coordinatedDrainEnabled = false then
      (s, .error .errStreamPathNegotiation)
    else
      match attachPath cfg s id generation a with
      | .error e => (s, .error e)
      | .ok (s, binding) =>
        -- an error from here on finds the path half in place
        match attachDrain s a with
        | .error e => (s, .error e)
        | .ok s =>
          (install s
            { id := id, generation := generation, pathBinding := binding
              pathRTTEnabled := a.pathRTTEnabled, drainEnabled := a.coordinatedDrainEnabled
              drainBinding := a.drainBinding, prober := a.pathRTTEnabled }, .attached)

/-- One pass of `attachLeg`. -/
def attachLeg (s : State) (id : LegID) (auth : Option StreamPathAuth) : State × AttachResult :=
  match attachGate cfg s id with
  | some r => (s, r)
  | none => attachAuth cfg s id auth

end Attach

section FailedAttach

variable {cfg : Config} {s : State} {id : LegID} {a : StreamPathAuth}

/-- A call that returns an error leaves the engine as it was, and every retry for the leg ends as
it would have ended without the call. -/
def FailedAttachHarmless (cfg : Config) (s : State) (id : LegID) (auth : Option StreamPathAuth) :
    Prop :=
  ∀ e, (attachLeg cfg s id auth).2 = .error e →
    (attachLeg cfg s id auth).1 = s ∧
      ∀ auth', (attachLeg cfg (attachLeg cfg s id auth).1 id auth').2 =
        (attachLeg cfg s id auth').2

/-- The cache has the generation of leg `id` bound to just this carrier and key. -/
def Rebinds (cache : StreamRTTProbeCache) (id : LegID) (generation : Nat) (a : StreamPathAuth) :
    Prop :=
  cache.highWater id = generation ∧ cache.active id = true ∧
    cache.binding id = pathBindingOf a id generation ∧ cache.probeKey id = a.probeKey

/-- The path half of the authentication passes and the drain half does not. -/
structure LateRefusal (cfg : Config) (s : State) (id : LegID) (a : StreamPathAuth)
    (cache : StreamRTTProbeCache) : Prop where
  gate : attachGate cfg s id = none
  pathRTT : a.pathRTTEnabled = true
  drain : a.coordinatedDrainEnabled = true
  refused : drainRefuses s a = true
  aware : cfg.experimentalPathAware = true
  role : cfg.pathRole ≠ .unset
  session : s.pathSessionSet = true → s.pathSessionID = a.sessionID
  valid : a.validFor (pathBindingOf a id (s.legGeneration id + 1)) = true
  cached : s.pathRTTCache = some cache
  cacheOpen : cache.closed = false
  inRange : id < cache.maxLegs
  /-- The generation is new to the cache, or it is bound but the session is not yet. -/
  fresh : cache.highWater id < s.legGeneration id + 1 ∨
    Rebinds cache id (s.legGeneration id + 1) a ∧ s.pathSessionSet = false

theorem carrierIDOf_ne_empty (sessionID : SessionID) (generation : Nat) :
    carrierIDOf sessionID id generation ≠ "" := by
  intro h
  have hlength := congrArg String.length h
  simp [carrierIDOf, String.length_append] at hlength

/-- What the cache holds after a new generation was bound. -/
def bound (cache : StreamRTTProbeCache) (id : LegID) (generation : Nat) (a : StreamPathAuth) :
    StreamRTTProbeCache :=
  let c := cache.clearLegLocked id
  { c with
    highWater := update c.highWater id generation
    binding := update c.binding id (pathBindingOf a id generation)
    probeKey := update c.probeKey id a.probeKey
    active := update c.active id true }

theorem bindLeg_eq_ok_iff {cache cache' : StreamRTTProbeCache} {generation : Nat}
    (hgeneration : generation ≠ 0) (hvalid : a.validFor (pathBindingOf a id generation) = true) :
    cache.bindLeg (pathBindingOf a id generation) a = .ok cache' ↔
      cache.closed = false ∧ id < cache.maxLegs ∧
        (cache.highWater id < generation ∧ cache' = bound cache id generation a ∨
          Rebinds cache id generation a ∧ cache' = cache) := by
  have hcarrier : ¬ ((pathBindingOf a id generation).carrierID = "" ∨
      (pathBindingOf a id generation).generation = 0) :=
    not_or.2 ⟨carrierIDOf_ne_empty a.sessionID generation, hgeneration⟩
  unfold StreamRTTProbeCache.bindLeg
  dsimp only
  rw [if_neg hcarrier, hvalid]
  simp only [Bool.true_eq_false, if_false]
  show (if cache.maxLegs ≤ id then _ else if cache.closed = true then _
    else if generation < cache.highWater id then _ else if generation = cache.highWater id then
      (if cache.active id = true ∧ cache.binding id = pathBindingOf a id generation ∧
        cache.probeKey id = a.probeKey then _ else _)
    else Except.ok (bound cache id generation a)) = _ ↔ _
  split_ifs with hrange hclosed hstale hequal hsame
  · exact ⟨fun h => (nomatch h), fun h => absurd hrange (Nat.not_le.2 h.2.1)⟩
  · refine ⟨fun h => (nomatch h), fun h => ?_⟩
    rw [hclosed] at h
    cases h.1
  · refine ⟨fun h => (nomatch h), ?_⟩
    rintro ⟨_, _, ⟨hlt, _⟩ | ⟨hrebinds, _⟩⟩
    · omega
    · have := hrebinds.1
      omega
  · rw [Except.ok.injEq]
    constructor
    · rintro rfl
      exact ⟨by simpa using hclosed, Nat.not_le.1 hrange, .inr ⟨⟨hequal.symm, hsame⟩, rfl⟩⟩
    · rintro ⟨_, _, ⟨hlt, _⟩ | ⟨_, heq⟩⟩
      · omega
      · exact heq.symm
  · refine ⟨fun h => (nomatch h), ?_⟩
    rintro ⟨_, _, ⟨hlt, _⟩ | ⟨hrebinds, _⟩⟩
    · omega
    · exact absurd hrebinds.2 hsame
  · rw [Except.ok.injEq]
    constructor
    · rintro rfl
      exact ⟨by simpa using hclosed, Nat.not_le.1 hrange, .inl ⟨by omega, rfl⟩⟩
    · rintro ⟨_, _, ⟨_, heq⟩ | ⟨hrebinds, _⟩⟩
      · exact heq.symm
      · exact absurd hrebinds.1.symm hequal

theorem attachPath_eq_ok_iff {generation : Nat} {out : State × StreamPathBinding}
    (hpath : a.pathRTTEnabled = true) :
    attachPath cfg s id generation a = .ok out ↔
      cfg.experimentalPathAware = true ∧ cfg.pathRole ≠ .unset ∧
        (s.pathSessionSet = true → s.pathSessionID = a.sessionID) ∧
        a.validFor (pathBindingOf a id generation) = true ∧
        ∃ cache cache', s.pathRTTCache = some cache ∧
          cache.bindLeg (pathBindingOf a id generation) a = .ok cache' ∧
          out = ({ s with
            pathRTTCache := some cache'
            pathSessionID := a.sessionID, pathSessionSet := true },
            pathBindingOf a id generation) := by
  unfold attachPath
  rw [hpath]
  simp only [Bool.true_eq_false, if_false]
  cases hcache : s.pathRTTCache with
  | none =>
    refine ⟨fun h => (nomatch h), ?_⟩
    rintro ⟨_, _, _, _, cache, _, hsome, _⟩
    cases hsome
  | some cache =>
    dsimp only
    split_ifs with haware hrole hsession hvalid
    · refine ⟨fun h => (nomatch h), fun h => ?_⟩
      exact Bool.false_ne_true (haware.symm.trans h.1)
    · exact ⟨fun h => (nomatch h), fun h => absurd hrole h.2.1⟩
    · exact ⟨fun h => (nomatch h), fun h => absurd (h.2.2.1 hsession.1) hsession.2⟩
    · refine ⟨fun h => (nomatch h), fun h => ?_⟩
      exact Bool.false_ne_true (hvalid.symm.trans h.2.2.2.1)
    · have hsame : s.pathSessionSet = true → s.pathSessionID = a.sessionID := by
        intro hset
        by_contra hne
        exact hsession ⟨hset, hne⟩
      cases hbind : cache.bindLeg (pathBindingOf a id generation) a with
      | error e =>
        refine ⟨fun h => (nomatch h), ?_⟩
        rintro ⟨_, _, _, _, cache', _, hsome, hok, _⟩
        cases hsome
        rw [hbind] at hok
        cases hok
      | ok cache' =>
        rw [Except.ok.injEq]
        constructor
        · rintro rfl
          rw [Bool.not_eq_false] at haware hvalid
          exact ⟨haware, hrole, hsame, hvalid, cache, cache', rfl, hbind, rfl⟩
        · rintro ⟨_, _, _, _, cache₁, cache₂, hsome, hok, rfl⟩
          cases hsome
          rw [hbind] at hok
          cases hok
          rfl

/-- The drain half looks at fields that the path half leaves alone. -/
theorem drainRefuses_of_attachPath {generation : Nat} {s' : State} {binding : StreamPathBinding}
    (h : attachPath cfg s id generation a = .ok (s', binding)) :
    drainRefuses s' a = drainRefuses s a := by
  cases hpath : a.pathRTTEnabled with
  | false =>
    unfold attachPath at h
    rw [if_pos hpath] at h
    cases h
    rfl
  | true =>
    obtain ⟨_, _, _, _, cache, cache', _, _, ⟨⟩⟩ := (attachPath_eq_ok_iff hpath).1 h
    rfl

theorem attachDrain_eq_error {e : AttachError} (h : attachDrain s a = .error e) :
    a.coordinatedDrainEnabled = true ∧ drainRefuses s a = true := by
  unfold attachDrain at h
  split_ifs at h with hdrain hrefuses
  exact ⟨by simpa using hdrain, hrefuses⟩

/-- A refused call leaves the engine alone or stops between the two halves. -/
theorem attachLeg_error_cases {auth : Option StreamPathAuth} {e : AttachError}
    (h : (attachLeg cfg s id auth).2 = .error e) :
    (attachLeg cfg s id auth).1 = s ∨
      ∃ a s' binding, auth = some a ∧ attachGate cfg s id = none ∧ a.pathRTTEnabled = true ∧
        a.coordinatedDrainEnabled = true ∧ drainRefuses s a = true ∧
        attachPath cfg s id (s.legGeneration id + 1) a = .ok (s', binding) ∧
        (attachLeg cfg s id auth).1 = s' := by
  unfold attachLeg at h ⊢
  cases hgate : attachGate cfg s id with
  | some r => exact .inl rfl
  | none =>
    rw [hgate] at h
    dsimp only at h ⊢
    unfold attachAuth at h ⊢
    cases auth with
    | none =>
      cases h
    | some a =>
      dsimp only at h ⊢
      split_ifs at h ⊢ with hneither
      · exact .inl rfl
      · cases hpath : attachPath cfg s id (s.legGeneration id + 1) a with
        | error e => exact .inl rfl
        | ok out =>
          obtain ⟨s', binding⟩ := out
          rw [hpath] at h
          dsimp only at h ⊢
          cases hdrain : attachDrain s' a with
          | ok s'' =>
            rw [hdrain] at h
            cases h
          | error e =>
            obtain ⟨henabled, hrefuses⟩ := attachDrain_eq_error hdrain
            rw [drainRefuses_of_attachPath hpath] at hrefuses
            cases hrtt : a.pathRTTEnabled with
            | false =>
              unfold attachPath at hpath
              rw [if_pos hrtt] at hpath
              cases hpath
              exact .inl rfl
            | true => exact .inr ⟨a, s', binding, rfl, rfl, hrtt, henabled, hrefuses, hpath, rfl⟩

/-- The state between the two halves. -/
def afterPath (s : State) (cache : StreamRTTProbeCache) (a : StreamPathAuth) : State :=
  { s with
    pathRTTCache := some cache
    pathSessionID := a.sessionID, pathSessionSet := true }

theorem afterPath_eq_self {cache : StreamRTTProbeCache} (hcache : s.pathRTTCache = some cache)
    (hset : s.pathSessionSet = true) (hsession : s.pathSessionID = a.sessionID) :
    afterPath s cache a = s := by
  obtain ⟨_, _, _, _, _, _, _, _, _, _, _, _, _, _⟩ := s
  dsimp only at hcache hset hsession
  subst hcache hset hsession
  rfl

/-- A late refusal leaves the path half in place. -/
theorem LateRefusal.attachLeg_eq {cache : StreamRTTProbeCache} (h : LateRefusal cfg s id a cache) :
    ∃ cache', cache.bindLeg (pathBindingOf a id (s.legGeneration id + 1)) a = .ok cache' ∧
      attachLeg cfg s id (some a) = (afterPath s cache' a, .error .errStreamDrainMessage) := by
  obtain ⟨cache', hbind⟩ :
      ∃ cache', cache.bindLeg (pathBindingOf a id (s.legGeneration id + 1)) a = .ok cache' := by
    simp only [bindLeg_eq_ok_iff (Nat.succ_ne_zero _) h.valid]
    rcases h.fresh with hlt | ⟨hrebinds, _⟩
    · exact ⟨_, h.cacheOpen, h.inRange, .inl ⟨hlt, rfl⟩⟩
    · exact ⟨_, h.cacheOpen, h.inRange, .inr ⟨hrebinds, rfl⟩⟩
  have hpath : attachPath cfg s id (s.legGeneration id + 1) a =
      .ok (afterPath s cache' a, pathBindingOf a id (s.legGeneration id + 1)) :=
    (attachPath_eq_ok_iff h.pathRTT).2
      ⟨h.aware, h.role, h.session, h.valid, cache, cache', h.cached, hbind, rfl⟩
  have hdrain : attachDrain (afterPath s cache' a) a = .error .errStreamDrainMessage := by
    unfold attachDrain
    rw [h.drain, drainRefuses_of_attachPath hpath, h.refused]
    rfl
  refine ⟨cache', hbind, ?_⟩
  unfold attachLeg
  rw [h.gate]
  dsimp only
  unfold attachAuth
  dsimp only
  rw [if_neg (by rw [h.pathRTT]; exact fun hboth => (nomatch hboth.1)), hpath]
  dsimp only
  rw [hdrain]

/-- **A refused attach leaves no trace, exactly unless the drain half refuses an authentication
whose path half was just bound.** -/
theorem failed_attach_harmless_iff (cfg : Config) (s : State) (id : LegID)
    (auth : Option StreamPathAuth) :
    FailedAttachHarmless cfg s id auth ↔
      ¬ ∃ a cache, auth = some a ∧ LateRefusal cfg s id a cache := by
  constructor
  · rintro hharmless ⟨a, cache, rfl, hlate⟩
    obtain ⟨cache', hbind, hcall⟩ := hlate.attachLeg_eq
    have hsame := (hharmless .errStreamDrainMessage (by rw [hcall])).1
    rw [hcall] at hsame
    have hset : s.pathSessionSet = true := (congrArg State.pathSessionSet hsame).symm
    have hcache : cache' = cache :=
      Option.some.inj ((congrArg State.pathRTTCache hsame).trans hlate.cached)
    rcases hlate.fresh with hlt | ⟨_, hunset⟩
    · rcases ((bindLeg_eq_ok_iff (Nat.succ_ne_zero _) hlate.valid).1 hbind).2.2 with
        ⟨_, hbound⟩ | ⟨hrebinds, _⟩
      · have hwater : cache'.highWater id = s.legGeneration id + 1 := by
          rw [hbound]
          exact update_self ..
        rw [hcache] at hwater
        omega
      · have := hrebinds.1
        omega
    · exact Bool.false_ne_true (hunset.symm.trans hset)
  · intro hnot e herror
    have hsame : (attachLeg cfg s id auth).1 = s := by
      rcases attachLeg_error_cases herror with hsame |
        ⟨a, s', binding, rfl, hgate, hrtt, hdrain, hrefuses, hpath, hs'⟩
      · exact hsame
      obtain ⟨haware, hrole, hsession, hvalid, cache, cache', hcache, hbind, heq⟩ :=
        (attachPath_eq_ok_iff hrtt).1 hpath
      cases heq
      obtain ⟨hopen, hrange, hcases⟩ := (bindLeg_eq_ok_iff (Nat.succ_ne_zero _) hvalid).1 hbind
      have hlate : ∀ hfresh, LateRefusal cfg s id a cache := fun hfresh =>
        ⟨hgate, hrtt, hdrain, hrefuses, haware, hrole, hsession, hvalid, hcache, hopen, hrange,
          hfresh⟩
      rcases hcases with ⟨hlt, _⟩ | ⟨hrebinds, rfl⟩
      · exact absurd ⟨a, cache, rfl, hlate (.inl hlt)⟩ hnot
      · cases hset : s.pathSessionSet with
        | false => exact absurd ⟨a, _, rfl, hlate (.inr ⟨hrebinds, hset⟩)⟩ hnot
        | true =>
          rw [hs']
          exact afterPath_eq_self hcache hset (hsession hset)
    refine ⟨hsame, fun auth' => ?_⟩
    rw [hsame]

/-- A path-aware client with two legs. -/
def pathConfig : Config :=
  { configError := "", maxActiveLegs := 2, experimentalPathAware := true, pathRole := .client }

/-- An authenticated carrier of leg `id` in a session. -/
def authFor (sessionID : SessionID) (id : LegID) (capabilities : BitVec 32) : StreamPathAuth :=
  { sessionID := sessionID, legID := id, capabilities := capabilities
    probeKey := 1#256, drainBinding := 1#128, authenticated := true }

/-- Leg 0 is attached in session 1, with coordinated drain and without path RTT. -/
def drainSession : State :=
  (attachLeg pathConfig (init pathConfig) 0
    (some (authFor 1#128 0 streamCapabilityCoordinatedDrain))).1

/-- A carrier of session 2 for leg 1, with both capabilities. -/
def foreignAuth : StreamPathAuth := authFor 2#128 1 knownStreamCapabilities

/-- A carrier of session 1 for leg 1, with both capabilities. -/
def ownAuth : StreamPathAuth := authFor 1#128 1 knownStreamCapabilities

theorem foreign_attach_blocks_leg :
    (attachLeg pathConfig drainSession 1 (some foreignAuth)).2 = .error .errStreamDrainMessage ∧
      (attachLeg pathConfig drainSession 1 (some foreignAuth)).1.pathSessionID = 2#128 ∧
      (attachLeg pathConfig drainSession 1 (some ownAuth)).2 = .attached ∧
      (attachLeg pathConfig (attachLeg pathConfig drainSession 1 (some foreignAuth)).1 1
        (some ownAuth)).2 = .error .errStreamPathMessage := by
  decide +kernel

/-- The refused carrier of session 2 keeps the carrier of session 1 out, which would have attached
without it. -/
theorem failed_attach_not_harmless :
    ¬ FailedAttachHarmless pathConfig drainSession 1 (some foreignAuth) := by
  obtain ⟨herror, _, hattaches, hblocked⟩ := foreign_attach_blocks_leg
  intro hharmless
  have hretry := (hharmless _ herror).2 (some ownAuth)
  rw [hattaches, hblocked] at hretry
  cases hretry

end FailedAttach

end Smp3Multipath.Core.Registry

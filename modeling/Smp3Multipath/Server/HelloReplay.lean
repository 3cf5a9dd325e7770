import Smp3Multipath.Core.HelloCodec
import Smp3Multipath.Lib.ExpiringSet
import Smp3Multipath.Lib.Run

/-!
# Replayed hellos

`handleCarrier` reads the clock before it reads the hello, and `ReadHelloAt` judges
the timestamp by that reading.  `acceptNonce` reads the clock again and keeps a nonce
for `helloReplayTTL`, which is exactly the width of the window of timestamps that are
fresh at one time.  Between the two readings the hello arrives, and between the second
reading and the lock of the nonces other handlers run.

The model has any number of connections, each in its own place in `handleCarrier`, and
a clock that only moves forward.  The nonces remember a hello from the earliest time at
which it can be fresh up to the latest one (`Covers`), so a replay is refused when its
nonce is checked before the hello itself has become stale; a hello that arrives slowly
can be checked later than that.
-/

namespace Smp3Multipath.Server.HelloReplay

open Lib.Run Lib.ByteStream Lib.ExpiringSet Lib.Bytes List
open Smp3Multipath.Core Smp3Multipath.Core.Wire Smp3Multipath.Core.Registry

section Model

/-- The options that the start of `handleCarrier` reads; durations in nanoseconds. -/
structure Config where
  password : List UInt8
  helloReadTimeout : Int
  idleTimeout : Int
deriving DecidableEq

/-- `HelloReadTimeout` after the defaults. -/
def Config.readTimeout (cfg : Config) : Int :=
  if cfg.helloReadTimeout ≤ 0 then 10 * 1000000000 else cfg.helloReadTimeout

/-- `helloReplayTTL`, in nanoseconds. -/
def helloReplayTTL : Int := 180 * 1000000000

/-- When the hello was sent, by its own timestamp, in nanoseconds. -/
def sent (hello : Hello) : Int := hello.timestamp.toInt * 1000000000

/-- Where a connection is in `handleCarrier`. -/
inductive Phase where
  /-- The read deadline is set. -/
  | accepted (deadline : Int)
  /-- In `ReadHelloAt`, called with `now`, with what its reads returned so far. -/
  | reading (deadline now : Int) (received : Source)
  /-- `ReadHelloAt` returned the hello and took the bytes `wire` for it. -/
  | read (hello : Hello) (wire : List UInt8)
  /-- In `acceptNonce`, which has read the clock and not yet the lock. -/
  | checking (hello : Hello) (wire : List UInt8) (now : Int)
  | passed
  | rejected
deriving DecidableEq

/-- A hello that passed the freshness check and `acceptNonce`, with its bytes. -/
structure Pass where
  hello : Hello
  wire : List UInt8
deriving DecidableEq

structure State where
  clock : Int
  conns : List Phase
  nonces : List (BitVec 128 × Int)
  passes : List Pass
deriving DecidableEq

def init (clock : Int) : State :=
  { clock := clock
    conns := []
    nonces := []
    passes := [] }

def State.setPhase (s : State) (i : Nat) (phase : Phase) : State :=
  { s with conns := s.conns.set i phase }

/-- The bytes that a reader took from its source. -/
def taken (source rest : Source) : List UInt8 :=
  source.flatten.take (source.flatten.length - rest.flatten.length)

/-- What `handleCarrier` makes of the end of `ReadHelloAt`. -/
def afterRead (source : Source) : Except HelloError Hello × Source → Phase
  | (.ok hello, rest) => .read hello (taken source rest)
  | (.error _, _) => .rejected

/-- `acceptNonce` under its lock, on the clock reading `now`. -/
def acceptNonce (s : State) (now : Int) (nonce : BitVec 128) : Bool × List (BitVec 128 × Int) :=
  enter helloReplayTTL now s.nonces nonce

inductive Act where
  | tick (d : Nat)
  /-- A connection is accepted and its read deadline is set. -/
  | accept
  /-- `ReadHelloAt` is called. -/
  | startRead (i : Nat)
  /-- `activityTimeoutConn.Read` moves the deadline. -/
  | moveDeadline (i : Nat)
  /-- A read returns a segment. -/
  | receive (i : Nat) (segment : List UInt8)
  /-- `ReadHelloAt` returns. -/
  | endRead (i : Nat)
  /-- `acceptNonce` reads the clock. -/
  | readClock (i : Nat)
  /-- `acceptNonce` under its lock. -/
  | checkNonce (i : Nat)
deriving DecidableEq

def step (hmac : Mac) (cfg : Config) (s : State) : Act → Option State
  | .tick d => some { s with clock := s.clock + d }
  | .accept => some { s with conns := s.conns ++ [.accepted (s.clock + cfg.readTimeout)] }
  | .startRead i =>
    match s.conns[i]? with
    | some (.accepted deadline) => some (s.setPhase i (.reading deadline s.clock []))
    | _ => none
  | .moveDeadline i =>
    match s.conns[i]? with
    | some (.reading _ now received) =>
      if 0 < cfg.idleTimeout then
        some (s.setPhase i (.reading (s.clock + cfg.idleTimeout) now received))
      else none
    | _ => none
  | .receive i segment =>
    match s.conns[i]? with
    | some (.reading deadline now received) =>
      if s.clock ≤ deadline then
        some (s.setPhase i (.reading deadline now (received ++ [segment])))
      else none
    | _ => none
  | .endRead i =>
    match s.conns[i]? with
    | some (.reading _ now received) =>
      some (s.setPhase i (afterRead received (readHelloAt hmac received cfg.password now)))
    | _ => none
  | .readClock i =>
    match s.conns[i]? with
    | some (.read hello wire) => some (s.setPhase i (.checking hello wire s.clock))
    | _ => none
  | .checkNonce i =>
    match s.conns[i]? with
    | some (.checking hello wire now) =>
      let (fresh, nonces) := acceptNonce s now hello.nonce
      if fresh then
        some { s.setPhase i .passed with
          nonces := nonces, passes := ⟨hello, wire⟩ :: s.passes }
      else some { s.setPhase i .rejected with nonces := nonces }
    | _ => none

/-- No two hellos that passed are the same bytes. -/
def NoReplay (s : State) : Prop := (s.passes.map Pass.wire).Nodup

/-- A nonce is checked while its hello is still fresh. -/
def InTime (s : State) : Act → Prop
  | .checkNonce i => ∀ hello wire now, s.conns[i]? = some (.checking hello wire now) →
      s.clock ≤ sent hello + helloSkew
  | _ => True

end Model

section Wire

variable {hmac : Mac} {password : List UInt8}

/-- The bytes are those that the reader takes for the hello, at some time. -/
def Authentic (hmac : Mac) (password : List UInt8) (hello : Hello) (wire : List UInt8) : Prop :=
  ∃ source rest now, readHelloAt hmac source password now = (.ok hello, rest) ∧
    wire = taken source rest

theorem taken_of_flatten {source rest : Source} {bytes : List UInt8}
    (h : source.flatten = bytes ++ rest.flatten) : taken source rest = bytes := by
  rw [taken, h, length_append, Nat.add_sub_cancel, take_left]

theorem Authentic.exists_parts {hello : Hello} {wire : List UInt8}
    (h : Authentic hmac password hello wire) :
    ∃ now header fields destination, ReadOutcome hmac password now header fields destination ∧
      hello = helloOf header fields destination ∧
      wire = header ++ (destination ++ putBits 32 (hmac password (header ++ destination))) := by
  obtain ⟨source, rest, now, hread, hwire⟩ := h
  obtain ⟨header, fields, destination, houtcome, hhello, hflat⟩ := readHelloAt_ok hread
  refine ⟨now, header, fields, destination, houtcome, hhello, ?_⟩
  rw [hwire]
  refine taken_of_flatten ?_
  rw [hflat, append_assoc, append_assoc]

theorem Authentic.hello_eq {hello hello' : Hello} {wire : List UInt8}
    (h : Authentic hmac password hello wire) (h' : Authentic hmac password hello' wire) :
    hello = hello' := by
  obtain ⟨now, header, fields, destination, hread, rfl, hwire⟩ := h.exists_parts
  obtain ⟨now', header', fields', destination', hread', rfl, hwire'⟩ := h'.exists_parts
  rw [hwire] at hwire'
  have hsix := six_le_headerSize hread.size
  have hsix' := six_le_headerSize hread'.size
  -- the fifth byte is the version, which fixes the length of the header
  have hversion : byteAt header 4 = byteAt header' 4 := by
    rw [← byteAt_append_of_lt (show 4 < header.length by omega), hwire',
      byteAt_append_of_lt (show 4 < header'.length by omega)]
  have hlength : header.length = header'.length := by
    have hsize := hread.size
    rw [hversion, hread'.size] at hsize
    exact (Option.some.inj hsize).symm
  obtain ⟨rfl, hbody⟩ := append_inj hwire' hlength
  have hfields : fields = fields' := by
    have hdecoded := hread.decoded
    rw [hread'.decoded] at hdecoded
    exact (Except.ok.inj hdecoded).symm
  subst hfields
  have hdestination : destination.length = destination'.length := by
    rw [hread.destination_length, hread'.destination_length]
  rw [(append_inj hbody hdestination).1]

theorem sent_le_of_read {source rest : Source} {now : Int} {hello : Hello}
    (h : readHelloAt hmac source password now = (.ok hello, rest)) :
    sent hello - helloSkew ≤ now := by
  obtain ⟨header, fields, destination, houtcome, rfl, -⟩ := readHelloAt_ok h
  have hfresh := houtcome.fresh
  simp only [stale, Bool.or_eq_false_iff, decide_eq_false_iff_not, Int.not_lt] at hfresh
  have hsent : sent (helloOf header fields destination) = fields.timestamp.toInt * 1000000000 :=
    rfl
  omega

end Wire

section Steps

variable {hmac : Mac} {cfg : Config} {s s' : State} {a : Act}

/-- What a connection in a place knows: its readings are not ahead of the clock, and a hello that
was read is authentic and was sent at most the skew ahead of a reading. -/
def PhaseOk (hmac : Mac) (password : List UInt8) (clock : Int) : Phase → Prop
  | .reading _ now _ => now ≤ clock
  | .read hello wire => Authentic hmac password hello wire ∧ sent hello - helloSkew ≤ clock
  | .checking hello wire now =>
    Authentic hmac password hello wire ∧ sent hello - helloSkew ≤ now ∧ now ≤ clock
  | _ => True

theorem PhaseOk.mono {password : List UInt8} {clock clock' : Int} {phase : Phase}
    (h : PhaseOk hmac password clock phase) (hclock : clock ≤ clock') :
    PhaseOk hmac password clock' phase := by
  cases phase with
  | accepted | passed | rejected => trivial
  | reading deadline now received => exact Int.le_trans h hclock
  | read hello wire => exact ⟨h.1, Int.le_trans h.2 hclock⟩
  | checking hello wire now => exact ⟨h.1, h.2.1, Int.le_trans h.2.2 hclock⟩

theorem phaseOk_afterRead {clock now : Int} {received : Source} (hnow : now ≤ clock) :
    PhaseOk hmac cfg.password clock
      (afterRead received (readHelloAt hmac received cfg.password now)) := by
  rcases hread : readHelloAt hmac received cfg.password now with ⟨result, rest⟩
  cases result with
  | error e => trivial
  | ok hello => exact ⟨⟨received, rest, now, hread, rfl⟩, Int.le_trans (sent_le_of_read hread) hnow⟩

/-- What a step does. -/
inductive Effect (hmac : Mac) (cfg : Config) (s : State) : Act → State → Prop
  | tick (d : Nat) : Effect hmac cfg s (.tick d) { s with clock := s.clock + d }
  | accept : Effect hmac cfg s .accept
      { s with conns := s.conns ++ [.accepted (s.clock + cfg.readTimeout)] }
  /-- A connection moves on, other than in `acceptNonce`. -/
  | move (a : Act) (i : Nat) (phase phase' : Phase) (hp : s.conns[i]? = some phase)
      (hok : PhaseOk hmac cfg.password s.clock phase → PhaseOk hmac cfg.password s.clock phase') :
      Effect hmac cfg s a (s.setPhase i phase')
  | pass (i : Nat) (hello : Hello) (wire : List UInt8) (now : Int)
      (hp : s.conns[i]? = some (.checking hello wire now))
      (hnew : (acceptNonce s now hello.nonce).1 = true) :
      Effect hmac cfg s (.checkNonce i)
        { s.setPhase i .passed with
          nonces := (acceptNonce s now hello.nonce).2, passes := ⟨hello, wire⟩ :: s.passes }
  | refuse (i : Nat) (hello : Hello) (wire : List UInt8) (now : Int)
      (hp : s.conns[i]? = some (.checking hello wire now)) :
      Effect hmac cfg s (.checkNonce i)
        { s.setPhase i .rejected with nonces := (acceptNonce s now hello.nonce).2 }

theorem step_effect (h : step hmac cfg s a = some s') : Effect hmac cfg s a s' := by
  cases a with
  | tick d =>
    cases h
    exact .tick d
  | accept =>
    cases h
    exact .accept
  | startRead i =>
    simp only [step] at h
    split at h
    · rename_i deadline hp
      cases h
      exact .move _ i _ _ hp fun _ => Int.le_refl _
    · cases h
  | moveDeadline i | receive i segment =>
    simp only [step] at h
    split at h
    · rename_i deadline now received hp
      split at h <;> cases h
      exact .move _ i _ _ hp id
    · cases h
  | endRead i =>
    simp only [step] at h
    split at h
    · rename_i deadline now received hp
      cases h
      exact .move _ i _ _ hp phaseOk_afterRead
    · cases h
  | readClock i =>
    simp only [step] at h
    split at h
    · rename_i hello wire hp
      cases h
      exact .move _ i _ _ hp fun hok => ⟨hok.1, hok.2, Int.le_refl _⟩
    · cases h
  | checkNonce i =>
    simp only [step] at h
    split at h
    · rename_i hello wire now hp
      split at h
      · rename_i hnew
        cases h
        exact .pass i hello wire now hp hnew
      · cases h
        exact .refuse i hello wire now hp
    · cases h

end Steps

section Invariant

variable {hmac : Mac} {cfg : Config} {s s' : State} {a : Act}

/-- The nonce of a hello is remembered as long as the hello can be fresh. -/
def Remembers (s : State) (hello : Hello) : Prop :=
  Covers helloReplayTTL (sent hello - helloSkew) s.clock s.nonces hello.nonce

/-- What holds in every state of a run in which the nonces are checked in time. -/
structure Inv (hmac : Mac) (password : List UInt8) (s : State) : Prop where
  conns : ∀ phase ∈ s.conns, PhaseOk hmac password s.clock phase
  authentic : ∀ p ∈ s.passes, Authentic hmac password p.hello p.wire
  remembers : ∀ p ∈ s.passes, Remembers s p.hello
  noReplay : NoReplay s

theorem inv_init (password : List UInt8) (clock : Int) : Inv hmac password (init clock) :=
  ⟨nofun, nofun, nofun, nodup_nil⟩

theorem forall_mem_setPhase {P : Phase → Prop} {i : Nat} {phase : Phase} (h : ∀ p ∈ s.conns, P p)
    (hphase : P phase) : ∀ p ∈ (s.setPhase i phase).conns, P p := by
  intro p hp
  rcases mem_or_eq_of_mem_set hp with hp | rfl
  · exact h p hp
  · exact hphase

/-- A hello whose nonce passes in time is none of those that passed before. -/
theorem Inv.not_mem_wires {hello : Hello} {wire : List UInt8} {now : Int}
    (hinv : Inv hmac cfg.password s) (hauthentic : Authentic hmac cfg.password hello wire)
    (hnow : now ≤ s.clock) (hnew : (acceptNonce s now hello.nonce).1 = true)
    (htime : s.clock ≤ sent hello + helloSkew) : wire ∉ s.passes.map Pass.wire := by
  intro hm
  obtain ⟨p, hp, rfl⟩ := mem_map.1 hm
  have hsame : p.hello = hello := (hinv.authentic p hp).hello_eq hauthentic
  have hcovers := hinv.remembers p hp
  rw [hsame] at hcovers
  -- the time to live is twice the skew
  have hwithin : s.clock ≤ sent hello - helloSkew + helloReplayTTL := by
    have hwidth : helloReplayTTL = helloSkew + helloSkew := rfl
    omega
  have hrefused := hcovers.refused hnow hwithin
  rw [acceptNonce, hrefused] at hnew
  cases hnew

theorem inv_step (hinv : Inv hmac cfg.password s) (hcond : InTime s a)
    (hs : step hmac cfg s a = some s') : Inv hmac cfg.password s' := by
  cases step_effect hs with
  | tick d =>
    have hclock : s.clock ≤ s.clock + d := by omega
    exact ⟨fun phase hm => (hinv.conns phase hm).mono hclock, hinv.authentic,
      fun p hp => (hinv.remembers p hp).mono hclock, hinv.noReplay⟩
  | accept =>
    refine ⟨fun phase hm => ?_, hinv.authentic, hinv.remembers, hinv.noReplay⟩
    rcases mem_append.1 hm with hm | hm
    · exact hinv.conns phase hm
    · cases mem_singleton.1 hm
      trivial
  | move _ i phase phase' hphase hok =>
    have hold := hinv.conns phase (mem_of_getElem? hphase)
    exact ⟨forall_mem_setPhase hinv.conns (hok hold), hinv.authentic, hinv.remembers,
      hinv.noReplay⟩
  | pass i hello wire now hphase hnew =>
    obtain ⟨hauthentic, hsent, hnow⟩ := hinv.conns _ (mem_of_getElem? hphase)
    refine ⟨forall_mem_setPhase hinv.conns trivial, ?_, ?_, ?_⟩
    · rintro p (_ | ⟨_, hp⟩)
      · exact hauthentic
      · exact hinv.authentic p hp
    · rintro p (_ | ⟨_, hp⟩)
      · exact covers_of_enter hnew hsent
      · exact (hinv.remembers p hp).enter hnow
    · refine nodup_cons.2 ⟨?_, hinv.noReplay⟩
      exact hinv.not_mem_wires hauthentic hnow hnew (hcond hello wire now hphase)
  | refuse i hello wire now hphase =>
    obtain ⟨-, -, hnow⟩ := hinv.conns _ (mem_of_getElem? hphase)
    exact ⟨forall_mem_setPhase hinv.conns trivial, hinv.authentic,
      fun p hp => (hinv.remembers p hp).enter hnow, hinv.noReplay⟩

end Invariant

section Runs

variable {hmac : Mac} {cfg : Config} {s : State}

/-- In every run in which the nonces are checked while their hellos are fresh, no hello passes
twice. -/
theorem hello_passes_once {clock : Int} {acts : List Act}
    (hcond : EachStep (step hmac cfg) InTime (init clock) acts)
    (hrun : runActs (step hmac cfg) (init clock) acts = some s) : NoReplay s :=
  (invariant_of_eachStep (fun _ _ _ hinv hcond hs => inv_step hinv hcond hs)
    (inv_init cfg.password clock) hcond hrun).noReplay

/-- The bytes of a hello. -/
def helloWire (hmac : Mac) (password : List UInt8) (hello : Hello) : List UInt8 :=
  encodeHeader hello ++ (hello.destination ++
    putBits 32 (hmac password (encodeHeader hello ++ hello.destination)))

/-- The connection `i` from its acceptance to the lock of the nonces; the bytes come `delay`
after the call of `ReadHelloAt`. -/
def arrival (i : Nat) (wire : List UInt8) (delay : Nat) : List Act :=
  [.accept, .startRead i, .tick delay, .receive i wire, .endRead i, .readClock i]

theorem afterRead_helloWire {hello : Hello} {now : Int} (hvalid : ValidHello hello)
    (hpassword : cfg.password ≠ []) (hfresh : stale hello.timestamp now = false) :
    afterRead [helloWire hmac cfg.password hello]
        (readHelloAt hmac [helloWire hmac cfg.password hello] cfg.password now) =
      .read hello (helloWire hmac cfg.password hello) := by
  have hflat : [helloWire hmac cfg.password hello].flatten =
      encodeHeader hello ++ (hello.destination ++
        (putBits 32 (hmac cfg.password (encodeHeader hello ++ hello.destination)) ++ [])) := by
    simp only [flatten_cons, flatten_nil, append_nil, helloWire]
  obtain ⟨rest, hread, hrest⟩ := readHelloAt_of_flatten hvalid hpassword hfresh hflat
  rw [hread, afterRead, taken_of_flatten]
  rw [hrest, flatten_cons, flatten_nil]

theorem run_arrival {wire : List UInt8} {delay : Nat} {hello : Hello}
    (hdelay : delay ≤ cfg.readTimeout)
    (hread : afterRead [wire] (readHelloAt hmac [wire] cfg.password s.clock) = .read hello wire) :
    runActs (step hmac cfg) s (arrival s.conns.length wire delay) =
      some
        { s with
          clock := s.clock + delay
          conns := s.conns ++ [.checking hello wire (s.clock + delay)] } := by
  have hclock : s.clock + delay ≤ s.clock + cfg.readTimeout := by omega
  simp [arrival, runActs, step, State.setPhase, hclock, hread]

theorem inTime_arrival (i : Nat) (wire : List UInt8) (delay : Nat) :
    ∀ a ∈ arrival i wire delay, ∀ s, InTime s a := by
  simp [arrival, InTime]

section Examples

/-- The default timeouts. -/
def defaultConfig : Config :=
  { password := [1]
    helloReadTimeout := 10 * 1000000000
    idleTimeout := 0 }

/-- A hello of second 1000. -/
def hello1000 : Hello :=
  { version := version7, sessionID := 5#128, legID := 1, mode := modeStream
    timestamp := 1000#64, nonce := 9#128, capabilities := knownStreamCapabilities
    destination := [104, 58, 49] }

theorem valid_hello1000 : ValidHello hello1000 := by
  refine ⟨.inr (.inr (.inr rfl)), ?_, ?_, ?_, ?_, ?_, ?_⟩ <;> decide

def wire1000 (hmac : Mac) : List UInt8 := helloWire hmac defaultConfig.password hello1000

theorem arrival1000 (hmac : Mac) {s : State} {delay : Nat}
    (hdelay : delay ≤ defaultConfig.readTimeout)
    (hfresh : stale hello1000.timestamp s.clock = false) :
    runActs (step hmac defaultConfig) s (arrival s.conns.length (wire1000 hmac) delay) =
      some
        { s with
          clock := s.clock + delay
          conns := s.conns ++ [.checking hello1000 (wire1000 hmac) (s.clock + delay)] } :=
  run_arrival hdelay (afterRead_helloWire valid_hello1000 (by decide) hfresh)

theorem inTime_handshake1000 (hmac : Mac) {s : State} {delay : Nat}
    (hdelay : delay ≤ defaultConfig.readTimeout)
    (hfresh : stale hello1000.timestamp s.clock = false)
    (htime : s.clock + delay ≤ sent hello1000 + helloSkew) :
    EachStep (step hmac defaultConfig) InTime s
      (arrival s.conns.length (wire1000 hmac) delay ++ [.checkNonce s.conns.length]) := by
  refine eachStep_append (eachStep_of_forall (inTime_arrival _ _ _)) ?_
  intro s' hs'
  cases hs'.symm.trans (arrival1000 hmac hdelay hfresh)
  refine ⟨?_, fun _ _ => trivial⟩
  intro hello wire now hp
  rw [getElem?_concat_length] at hp
  cases hp
  exact htime

/-- The hello passes in second 910, when it is just fresh. -/
def passedAt910 (hmac : Mac) : State :=
  { clock := 910 * 1000000000
    conns := [.passed]
    nonces := [(9#128, 910 * 1000000000)]
    passes := [⟨hello1000, wire1000 hmac⟩] }

theorem run_passedAt910 (hmac : Mac) :
    runActs (step hmac defaultConfig) (init (910 * 1000000000))
        (arrival 0 (wire1000 hmac) 0 ++ [.checkNonce 0]) = some (passedAt910 hmac) := by
  refine runActs_append_of (arrival1000 hmac (by decide) (by decide)) ?_
  rfl

/-- The second connection of a slow replay: accepted in second 1090, when the hello is still fresh,
its bytes arrive one second later, when the nonce is forgotten. -/
theorem run_slow_replay (hmac : Mac) :
    runActs (step hmac defaultConfig) (passedAt910 hmac)
        ([.tick (180 * 1000000000)] ++
          (arrival 1 (wire1000 hmac) 1000000000 ++ [.checkNonce 1])) =
      some
        { clock := 1091 * 1000000000
          conns := [.passed, .passed]
          nonces := [(9#128, 1091 * 1000000000)]
          passes := [⟨hello1000, wire1000 hmac⟩, ⟨hello1000, wire1000 hmac⟩] } := by
  have hfresh : stale hello1000.timestamp (1090 * 1000000000) = false := by decide
  refine runActs_append_of rfl ?_
  refine runActs_append_of (arrival1000 hmac (by decide) hfresh) ?_
  rfl

/-- A keyed hash. -/
def lengthMac : Mac := fun _ message => BitVec.ofNat 256 message.length

/-- The same bytes pass twice. -/
theorem slow_replay_passes :
    ∃ s, runActs (step lengthMac defaultConfig) (init (910 * 1000000000))
        (arrival 0 (wire1000 lengthMac) 0 ++ [.checkNonce 0] ++ ([.tick (180 * 1000000000)] ++
          (arrival 1 (wire1000 lengthMac) 1000000000 ++ [.checkNonce 1]))) = some s ∧
      s.passes = [⟨hello1000, wire1000 lengthMac⟩, ⟨hello1000, wire1000 lengthMac⟩] ∧
      ¬ NoReplay s := by
  refine ⟨_, runActs_append_of (run_passedAt910 lengthMac) (run_slow_replay lengthMac), rfl, ?_⟩
  intro hnodup
  exact (nodup_cons.1 hnodup).1 mem_cons_self

/-- The same bytes on a second connection, five seconds slow and still in time: refused. -/
theorem hello_passes_once_replay :
    ∃ s, runActs (step lengthMac defaultConfig) (init (910 * 1000000000))
        (arrival 0 (wire1000 lengthMac) 0 ++ [.checkNonce 0] ++ ([.tick (170 * 1000000000)] ++
          (arrival 1 (wire1000 lengthMac) 5000000000 ++ [.checkNonce 1]))) = some s ∧
      s.conns = [.passed, .rejected] ∧ NoReplay s := by
  have hfresh : stale hello1000.timestamp (1080 * 1000000000) = false := by decide
  have hrun : runActs (step lengthMac defaultConfig) (passedAt910 lengthMac)
      ([.tick (170 * 1000000000)] ++
        (arrival 1 (wire1000 lengthMac) 5000000000 ++ [.checkNonce 1])) =
      some
        { passedAt910 lengthMac with
          clock := 1085 * 1000000000
          conns := [.passed, .rejected] } := by
    refine runActs_append_of rfl ?_
    refine runActs_append_of (arrival1000 lengthMac (by decide) hfresh) ?_
    rfl
  have hcond : EachStep (step lengthMac defaultConfig) InTime (init (910 * 1000000000))
      (arrival 0 (wire1000 lengthMac) 0 ++ [.checkNonce 0] ++ ([.tick (170 * 1000000000)] ++
        (arrival 1 (wire1000 lengthMac) 5000000000 ++ [.checkNonce 1]))) := by
    refine eachStep_append (inTime_handshake1000 lengthMac (by decide) (by decide) (by decide)) ?_
    intro s hs
    cases hs.symm.trans (run_passedAt910 lengthMac)
    refine ⟨trivial, ?_⟩
    intro s' hs'
    cases hs'
    exact inTime_handshake1000 lengthMac (by decide) hfresh (by decide)
  have hall := runActs_append_of (run_passedAt910 lengthMac) hrun
  exact ⟨_, hall, rfl, hello_passes_once hcond hall⟩

end Examples

end Runs

section Passed

variable {hmac : Mac} {cfg : Config} {s : State}

theorem Authentic.wire_eq {password wire : List UInt8} {hello : Hello}
    (h : Authentic hmac password hello wire) :
    password ≠ [] ∧ ValidHello hello ∧ wire = helloWire hmac password hello := by
  obtain ⟨now, header, fields, destination, hread, rfl, hwire⟩ := h.exists_parts
  obtain ⟨hvalid, hheader⟩ := hread.valid
  refine ⟨hread.password_ne, hvalid, ?_⟩
  rw [hwire, helloWire, hheader]
  rfl

/-- In every run the hellos that pass are valid ones signed with the password, and their nonces
are remembered for as long as they can be fresh. -/
theorem passed_hellos_signed {clock : Int} (h : Reachable (step hmac cfg) (init clock) s) :
    ∀ p ∈ s.passes, cfg.password ≠ [] ∧ ValidHello p.hello ∧
      p.wire = helloWire hmac cfg.password p.hello ∧ Remembers s p.hello := by
  -- without the condition on the times all but the absence of replays is kept
  suffices hinv : (∀ phase ∈ s.conns, PhaseOk hmac cfg.password s.clock phase) ∧
      ∀ p ∈ s.passes, Authentic hmac cfg.password p.hello p.wire ∧ Remembers s p.hello by
    intro p hp
    obtain ⟨hauthentic, hremembers⟩ := hinv.2 p hp
    obtain ⟨hpassword, hvalid, hwire⟩ := hauthentic.wire_eq
    exact ⟨hpassword, hvalid, hwire, hremembers⟩
  refine @Reachable.invariant _ _ _ _ _ (fun s =>
    (∀ phase ∈ s.conns, PhaseOk hmac cfg.password s.clock phase) ∧
      ∀ p ∈ s.passes, Authentic hmac cfg.password p.hello p.wire ∧ Remembers s p.hello) h
    ⟨by simp [init], by simp [init]⟩ ?_
  rintro s a s' ⟨hconns, hpasses⟩ hs
  cases step_effect hs with
  | tick d =>
    have hclock : s.clock ≤ s.clock + d := by omega
    exact ⟨fun phase hm => (hconns phase hm).mono hclock,
      fun p hp => ⟨(hpasses p hp).1, (hpasses p hp).2.mono hclock⟩⟩
  | accept =>
    refine ⟨forall_mem_append.2 ⟨hconns, ?_⟩, hpasses⟩
    simp [PhaseOk]
  | move _ i phase phase' hphase hok =>
    exact ⟨forall_mem_setPhase hconns (hok (hconns phase (mem_of_getElem? hphase))), hpasses⟩
  | pass i hello wire now hphase hnew =>
    obtain ⟨hauthentic, hsent, hnow⟩ := hconns _ (mem_of_getElem? hphase)
    refine ⟨forall_mem_setPhase hconns trivial, forall_mem_cons.2 ⟨?_, fun p hp => ?_⟩⟩
    · exact ⟨hauthentic, covers_of_enter hnew hsent⟩
    · exact ⟨(hpasses p hp).1, (hpasses p hp).2.enter hnow⟩
  | refuse i hello wire now hphase =>
    obtain ⟨-, -, hnow⟩ := hconns _ (mem_of_getElem? hphase)
    exact ⟨forall_mem_setPhase hconns trivial,
      fun p hp => ⟨(hpasses p hp).1, (hpasses p hp).2.enter hnow⟩⟩

theorem passed_hellos_signed_first :
    defaultConfig.password ≠ [] ∧ ValidHello hello1000 ∧
      wire1000 lengthMac = helloWire lengthMac defaultConfig.password hello1000 ∧
      Remembers (passedAt910 lengthMac) hello1000 :=
  passed_hellos_signed ⟨_, run_passedAt910 lengthMac⟩ ⟨hello1000, wire1000 lengthMac⟩
    mem_cons_self

end Passed

end Smp3Multipath.Server.HelloReplay

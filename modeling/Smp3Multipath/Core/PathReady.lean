import Smp3Multipath.Core.HelloCodec

/-!
# The READY handshake

The server answers a path hello, version 6 or 7, with a READY that names the
capabilities it selects.  Both sides then derive a path authentication from the hello,
the READY and the password: the server from what it wrote, the client from what it
read.  The keyed hash is a parameter.

The two derivations agree (`ready_handshake_agreement`), the server's cannot fail once
READY is out, and the client takes a READY only if it is the one made for its own
hello and password.
-/

namespace Smp3Multipath.Core.Wire

open Lib.Bytes Lib.ByteStream Registry

section Capabilities

variable {w : Nat} {a b c : BitVec w}

/-- `a &^ b == 0` says that `b` has the bits of `a`. -/
theorem and_eq_left_of_and_not (h : a &&& ~~~b = 0#w) : a &&& b = a := by
  apply BitVec.eq_of_getLsbD_eq
  intro i hi
  have hbit := congrArg (fun v => v.getLsbD i) h
  simp only [BitVec.getLsbD_and, BitVec.getLsbD_not, hi, decide_true, Bool.true_and,
    BitVec.getLsbD_zero] at hbit
  rw [BitVec.getLsbD_and]
  cases ha : a.getLsbD i with
  | false => rfl
  | true =>
    rw [ha] at hbit
    simpa using hbit

theorem and_not_trans (hab : a &&& ~~~b = 0#w) (hbc : b &&& ~~~c = 0#w) : a &&& ~~~c = 0#w := by
  rw [← and_eq_left_of_and_not hab, BitVec.and_assoc, hbc, BitVec.and_zero]

theorem and_ne_zero_of_and_not (hab : a &&& ~~~b = 0#w) (hac : a &&& c ≠ 0#w) : b &&& c ≠ 0#w := by
  intro hbc
  apply hac
  rw [← and_eq_left_of_and_not hab, BitVec.and_assoc, hbc, BitVec.and_zero]

end Capabilities

section Types

/-- The errors of the path protocol. -/
inductive PathError where
  | emptyPassword
  | invalidCapabilities
  | invalidAuthentication
  | pathNegotiation
  | pathMessage
  | drainNegotiation
  | drainMessage
  | read (e : ReadError)
  | write (e : WriteError)
deriving DecidableEq

structure StreamReadyV2 where
  sessionID : SessionID
  legID : UInt8
  mode : UInt8
  capabilities : BitVec 32
  serverNonce : BitVec 128
deriving DecidableEq

/-- `StreamPathAuth`; times are nanoseconds since the zero time. -/
structure StreamPathAuth where
  sessionID : SessionID := 0#128
  legID : UInt8 := 0
  capabilities : BitVec 32 := 0#32
  probeKey : BitVec 256 := 0#256
  drainKey : BitVec 256 := 0#256
  drainBinding : BitVec 128 := 0#128
  authenticated : Bool := false
  handshakeRTT : Int := 0
  handshakeAt : Int := 0
deriving DecidableEq

/-- The bytes of a text without characters beyond ASCII. -/
def ascii (text : String) : List UInt8 :=
  text.toList.map fun c => UInt8.ofNat c.toNat

def streamReadyV2Magic : List UInt8 := ascii "SMP3RDY2"
def streamReadyV3Magic : List UInt8 := ascii "SMP3RDY3"

end Types

section Validation

def validateStreamV6Hello (hello : Hello) : Option PathError :=
  if hello.version ≠ version6 ∨ hello.mode ≠ modeStream then some .pathMessage
  else if hello.capabilities &&& ~~~streamCapabilityPathRTT ≠ 0#32 ∨
      hello.capabilities &&& streamCapabilityPathRTT = 0#32 then some .invalidCapabilities
  else none

def validateStreamPathHello (hello : Hello) : Option PathError :=
  if hello.mode ≠ modeStream ∨ (hello.version ≠ version6 ∧ hello.version ≠ version7) ∨
      hello.capabilities &&& streamCapabilityPathRTT = 0#32 then some .pathMessage
  else if (hello.version = version6 ∧
        hello.capabilities &&& ~~~streamCapabilityPathRTT ≠ 0#32) ∨
      (hello.version = version7 ∧
        hello.capabilities &&& ~~~knownStreamCapabilities ≠ 0#32) then some .invalidCapabilities
  else none

def validateStreamReadyHello (hello : Hello) : Option PathError :=
  if hello.version = version6 then validateStreamV6Hello hello
  else if hello.version ≠ version7 ∨ hello.mode ≠ modeStream ∨
      hello.capabilities &&& ~~~knownStreamCapabilities ≠ 0#32 ∨
      hello.capabilities &&& streamCapabilityCoordinatedDrain = 0#32 then some .pathMessage
  else none

def validSelectedStreamCapabilities (hello : Hello) (selected : BitVec 32) : Bool :=
  if selected &&& ~~~hello.capabilities ≠ 0#32 ∨ selected &&& ~~~knownStreamCapabilities ≠ 0#32 then
    false
  else if hello.version = version6 then decide (selected &&& ~~~streamCapabilityPathRTT = 0#32)
  else decide (hello.version = version7 ∧ hello.mode = modeStream)

end Validation

section Derivation

variable (hmac : Mac)

def readyMagic (version : UInt8) : List UInt8 :=
  if version = version7 then streamReadyV3Magic else streamReadyV2Magic

def streamReadyV2MAC (hello : Hello) (start password : List UInt8) : BitVec 256 :=
  hmac password (ascii "SMP3-SIDECAR-READY-V2" ++ putBits 16 hello.nonce ++ start)

def streamReadyMAC (hello : Hello) (start password : List UInt8) : BitVec 256 :=
  if hello.version = version6 then streamReadyV2MAC hmac hello start password
  else
    hmac password
      (ascii "SMP3-SIDECAR-READY-V3" ++ [hello.version] ++ putBits 16 hello.nonce ++ start)

def deriveStreamPathProbeKey (hello : Hello) (ready : StreamReadyV2) (password : List UInt8) :
    Except PathError (BitVec 256) :=
  match validateStreamPathHello hello with
  | some e => .error e
  | none =>
    if password = [] then .error .emptyPassword
    else if ready.sessionID ≠ hello.sessionID ∨ ready.legID ≠ hello.legID ∨
        ready.mode ≠ modeStream ∨
        validSelectedStreamCapabilities hello ready.capabilities = false then
      .error .pathMessage
    else if ready.capabilities &&& streamCapabilityPathRTT = 0#32 then .error .pathNegotiation
    else
      .ok (hmac password
        (ascii "SMP3-STREAM-PATH-KEY-V6" ++ putBits 16 hello.sessionID ++
          [hello.legID, hello.mode] ++ putBits 4 ready.capabilities ++ putBits 16 hello.nonce ++
          putBits 16 ready.serverNonce))

def deriveStreamDrainControlKey (hello : Hello) (ready : StreamReadyV2) (password : List UInt8) :
    BitVec 256 :=
  hmac password
    (ascii "SMP3-STREAM-DRAIN-CONTROL-KEY-V1" ++ [hello.version, hello.mode, hello.legID] ++
      putBits 16 hello.sessionID ++ putBits 4 ready.capabilities ++ putBits 16 hello.nonce ++
      putBits 16 ready.serverNonce)

/-- The carrier binding of `makeStreamPathAuth`: half of a MAC under the drain key. -/
def drainCarrierBinding (hello : Hello) (drainKey : BitVec 256) : BitVec 128 :=
  getBits 128 ((putBits 32 (hmac (putBits 32 drainKey)
    (ascii "SMP3-DRAIN-CARRIER-BINDING-V1" ++ putBits 16 hello.sessionID ++ [hello.legID]))).take 16)

/-- The drain half of `makeStreamPathAuth`: key and carrier binding, if selected. -/
def makeDrainHalf (hello : Hello) (ready : StreamReadyV2) (password : List UInt8) :
    Except PathError (BitVec 256 × BitVec 128) :=
  if ready.capabilities &&& streamCapabilityCoordinatedDrain ≠ 0#32 then
    if hello.version ≠ version7 ∨ password = [] then .error .invalidCapabilities
    else
      let drainKey := deriveStreamDrainControlKey hmac hello ready password
      .ok (drainKey, drainCarrierBinding hmac hello drainKey)
  else .ok (0#256, 0#128)

/-- The path half of `makeStreamPathAuth`: the probe key, if selected. -/
def makePathHalf (hello : Hello) (ready : StreamReadyV2) (password : List UInt8) :
    Except PathError (BitVec 256) :=
  if ready.capabilities &&& streamCapabilityPathRTT ≠ 0#32 then
    deriveStreamPathProbeKey hmac hello ready password
  else .ok 0#256

def makeStreamPathAuth (hello : Hello) (ready : StreamReadyV2) (password : List UInt8) :
    Except PathError StreamPathAuth :=
  if ready.sessionID ≠ hello.sessionID ∨ ready.legID ≠ hello.legID ∨ ready.mode ≠ modeStream ∨
      validSelectedStreamCapabilities hello ready.capabilities = false then .error .pathMessage
  else if ready.capabilities = 0#32 then .ok {}
  else
    match makePathHalf hmac hello ready password with
    | .error e => .error e
    | .ok pathKey =>
      match makeDrainHalf hmac hello ready password with
      | .error e => .error e
      | .ok (drainKey, drainBinding) =>
        .ok
          { sessionID := hello.sessionID
            legID := hello.legID
            capabilities := ready.capabilities
            probeKey := pathKey
            drainKey := drainKey
            drainBinding := drainBinding
            authenticated := true }

end Derivation

section Ready

variable (hmac : Mac)

/-- The first 46 bytes of a READY. -/
def readyStart (hello : Hello) (selected : BitVec 32) (serverNonce : BitVec 128) : List UInt8 :=
  readyMagic hello.version ++ putBits 16 hello.sessionID ++ [hello.legID, hello.mode] ++
    putBits 4 selected ++ putBits 16 serverNonce

def encodeStreamReadyV2 (hello : Hello) (selected : BitVec 32) (serverNonce : BitVec 128)
    (password : List UInt8) : Except PathError (List UInt8) :=
  match validateStreamReadyHello hello with
  | some e => .error e
  | none =>
    if password = [] then .error .emptyPassword
    else if validSelectedStreamCapabilities hello selected = false then
      .error .invalidCapabilities
    else
      let start := readyStart hello selected serverNonce
      .ok (start ++ putBits 32 (streamReadyMAC hmac hello start password))

/-- The READY of a hello, a selection and a server nonce. -/
def readyOf (hello : Hello) (selected : BitVec 32) (serverNonce : BitVec 128) : StreamReadyV2 :=
  { sessionID := hello.sessionID
    legID := hello.legID
    mode := hello.mode
    capabilities := selected
    serverNonce := serverNonce }

/-- `ReadStreamReadyV2` once the 78 bytes are read. -/
def checkStreamReady (wire : List UInt8) (expected : Hello) (password : List UInt8) :
    Except PathError (StreamReadyV2 × StreamPathAuth) :=
  if slice wire 46 78 ≠ putBits 32 (streamReadyMAC hmac expected (slice wire 0 46) password) then
    .error .invalidAuthentication
  else if slice wire 0 8 ≠ readyMagic expected.version ∨
      slice wire 8 24 ≠ putBits 16 expected.sessionID ∨ byteAt wire 24 ≠ expected.legID ∨
      byteAt wire 25 ≠ expected.mode then .error .pathMessage
  else
    let selected := getBits 32 (slice wire 26 30)
    if validSelectedStreamCapabilities expected selected = false then .error .invalidCapabilities
    else
      let ready := readyOf expected selected (getBits 128 (slice wire 30 46))
      match makeStreamPathAuth hmac expected ready password with
      | .error e => .error e
      | .ok auth => .ok (ready, auth)

def readStreamReadyV2 (source : Source) (expected : Hello) (password : List UInt8) :
    Except PathError (StreamReadyV2 × StreamPathAuth) × Source :=
  match validateStreamReadyHello expected with
  | some e => (.error e, source)
  | none =>
    if password = [] then (.error .emptyPassword, source)
    else
      match readFull source 78 with
      | (.error e, source) => (.error (.read e), source)
      | (.ok wire, source) => (checkStreamReady hmac wire expected password, source)

/-- `writeStreamReadyV2WithNonce`; its loop is `writeProtocolFull`. -/
def writeStreamReadyV2WithNonce (sink : Sink) (hello : Hello) (selected : BitVec 32)
    (serverNonce : BitVec 128) (password : List UInt8) : Except PathError StreamPathAuth × Sink :=
  match encodeStreamReadyV2 hmac hello selected serverNonce password with
  | .error e => (.error e, sink)
  | .ok wire =>
    match writeFull .shortWrite sink wire with
    | (.error e, sink) => (.error (.write e), sink)
    | (.ok (), sink) =>
      (makeStreamPathAuth hmac hello (readyOf hello selected serverNonce) password, sink)

end Ready

section Deriving

variable {hello : Hello} {selected : BitVec 32} {password : List UInt8}

/-- The hellos that READY answers. -/
structure ReadyHello (hello : Hello) : Prop where
  mode : hello.mode = modeStream
  version : hello.version = version6 ∨ hello.version = version7
  known : hello.capabilities &&& ~~~knownStreamCapabilities = 0#32
  pathOnly : hello.version = version6 → hello.capabilities &&& ~~~streamCapabilityPathRTT = 0#32

theorem readyHello_of_validate (h : validateStreamReadyHello hello = none) : ReadyHello hello := by
  unfold validateStreamReadyHello at h
  split at h
  · rename_i hversion
    unfold validateStreamV6Hello at h
    split at h
    · cases h
    rename_i hmode
    split at h
    · cases h
    rename_i hcaps
    rw [not_or, Decidable.not_not] at hmode hcaps
    have hknown : streamCapabilityPathRTT &&& ~~~knownStreamCapabilities = 0#32 := by decide
    exact ⟨Decidable.not_not.1 hmode.2, Or.inl hversion, and_not_trans hcaps.1 hknown,
      fun _ => hcaps.1⟩
  · rename_i hversion
    split at h
    · cases h
    rename_i hchecks
    simp only [not_or, ne_eq, Decidable.not_not] at hchecks
    exact ⟨hchecks.2.1, Or.inr hchecks.1, hchecks.2.2.1, fun h6 => absurd h6 hversion⟩

theorem validateStreamReadyHello_of_valid (hvalid : ValidHello hello)
    (hversion : hello.version = version6 ∨ hello.version = version7) :
    validateStreamReadyHello hello = none := by
  have hoffered := hvalid.offered
  have hmode : hello.mode = modeStream :=
    hvalid.stream (by rcases hversion with hv | hv <;> rw [hv] <;> decide)
  rcases hversion with hv | hv
  · simpa [validateStreamReadyHello, validateStreamV6Hello, offeredCapabilitiesOk, hv, hmode,
      version6, version7] using hoffered
  · simpa [validateStreamReadyHello, offeredCapabilitiesOk, hv, hmode, version6, version7]
      using hoffered

theorem validSelected_subset (h : validSelectedStreamCapabilities hello selected = true) :
    selected &&& ~~~hello.capabilities = 0#32 := by
  unfold validSelectedStreamCapabilities at h
  split at h
  · cases h
  · rename_i hsubset
    rw [not_or, Decidable.not_not] at hsubset
    exact hsubset.1

theorem validSelected_of_subset (hready : ReadyHello hello)
    (hsubset : selected &&& ~~~hello.capabilities = 0#32) :
    validSelectedStreamCapabilities hello selected = true := by
  have hknown := and_not_trans hsubset hready.known
  unfold validSelectedStreamCapabilities
  rw [if_neg (by rw [not_or, Decidable.not_not, Decidable.not_not]; exact ⟨hsubset, hknown⟩)]
  split
  · rename_i hversion
    exact decide_eq_true (and_not_trans hsubset (hready.pathOnly hversion))
  · rename_i hversion
    exact decide_eq_true ⟨hready.version.resolve_left hversion, hready.mode⟩

variable (hmac : Mac)

theorem makePathHalf_ok (serverNonce : BitVec 128) (hready : ReadyHello hello)
    (hpassword : password ≠ [])
    (hselected : validSelectedStreamCapabilities hello selected = true) :
    ∃ key, makePathHalf hmac hello (readyOf hello selected serverNonce) password = .ok key := by
  unfold makePathHalf
  split
  · rename_i hpath
    have hoffered := and_ne_zero_of_and_not (validSelected_subset hselected) hpath
    have hchecked : validateStreamPathHello hello = none := by
      unfold validateStreamPathHello
      rw [if_neg, if_neg]
      · rintro (⟨hv, hne⟩ | ⟨-, hne⟩)
        · exact hne (hready.pathOnly hv)
        · exact hne hready.known
      · rintro (hmode | ⟨hv6, hv7⟩ | hnone)
        · exact hmode hready.mode
        · exact hready.version.elim hv6 hv7
        · exact hoffered hnone
    unfold deriveStreamPathProbeKey
    simp only [hchecked]
    rw [if_neg hpassword, if_neg (by simp [readyOf, hready.mode, hselected]), if_neg hpath]
    exact ⟨_, rfl⟩
  · exact ⟨_, rfl⟩

theorem makeDrainHalf_ok (serverNonce : BitVec 128) (hready : ReadyHello hello)
    (hpassword : password ≠ [])
    (hselected : validSelectedStreamCapabilities hello selected = true) :
    ∃ half, makeDrainHalf hmac hello (readyOf hello selected serverNonce) password = .ok half := by
  unfold makeDrainHalf
  split
  · rename_i hdrain
    -- version 6 offers nothing but the path capability, which has not this bit
    have hversion : hello.version = version7 := by
      refine hready.version.resolve_left fun hv => ?_
      have hoffered := and_ne_zero_of_and_not (validSelected_subset hselected) hdrain
      exact and_ne_zero_of_and_not (hready.pathOnly hv) hoffered (by decide)
    rw [if_neg (by rw [not_or]; exact ⟨fun hne => hne hversion, hpassword⟩)]
    exact ⟨_, rfl⟩
  · exact ⟨_, rfl⟩

theorem makeStreamPathAuth_ok (serverNonce : BitVec 128) (hready : ReadyHello hello)
    (hpassword : password ≠ [])
    (hselected : validSelectedStreamCapabilities hello selected = true) :
    ∃ auth, makeStreamPathAuth hmac hello (readyOf hello selected serverNonce) password =
      .ok auth := by
  obtain ⟨pathKey, hpath⟩ := makePathHalf_ok hmac serverNonce hready hpassword hselected
  obtain ⟨⟨drainKey, drainBinding⟩, hdrain⟩ :=
    makeDrainHalf_ok hmac serverNonce hready hpassword hselected
  unfold makeStreamPathAuth
  rw [if_neg (by simp [readyOf, hready.mode, hselected]), hpath, hdrain]
  split
  · exact ⟨_, rfl⟩
  · exact ⟨_, rfl⟩

end Deriving

section Agreement

variable {hmac : Mac} {hello : Hello} {selected : BitVec 32} {serverNonce : BitVec 128}
variable {password wire : List UInt8}

/-- The bytes of a READY. -/
def readyWire (hmac : Mac) (hello : Hello) (selected : BitVec 32) (serverNonce : BitVec 128)
    (password : List UInt8) : List UInt8 :=
  readyStart hello selected serverNonce ++
    putBits 32 (streamReadyMAC hmac hello (readyStart hello selected serverNonce) password)

theorem encodeStreamReadyV2_ok_iff :
    encodeStreamReadyV2 hmac hello selected serverNonce password = .ok wire ↔
      validateStreamReadyHello hello = none ∧ password ≠ [] ∧
        validSelectedStreamCapabilities hello selected = true ∧
        wire = readyWire hmac hello selected serverNonce password := by
  unfold encodeStreamReadyV2
  constructor
  · intro h
    split at h
    · cases h
    rename_i hvalid
    split at h
    · cases h
    rename_i hpassword
    split at h
    · cases h
    rename_i hselected
    exact ⟨hvalid, hpassword, Bool.not_eq_false _ ▸ hselected, (Except.ok.inj h).symm⟩
  · rintro ⟨hvalid, hpassword, hselected, rfl⟩
    simp only [hvalid, if_neg hpassword, hselected, Bool.true_eq_false, if_false]
    rfl

@[simp] theorem length_readyMagic (version : UInt8) : (readyMagic version).length = 8 := by
  unfold readyMagic
  split
  · rfl
  · rfl

@[simp] theorem length_readyStart : (readyStart hello selected serverNonce).length = 46 := by
  simp [readyStart]

theorem length_readyWire : (readyWire hmac hello selected serverNonce password).length = 78 := by
  simp [readyWire]

theorem readyStart_fields :
    slice (readyStart hello selected serverNonce) 0 8 = readyMagic hello.version ∧
      slice (readyStart hello selected serverNonce) 8 24 = putBits 16 hello.sessionID ∧
      byteAt (readyStart hello selected serverNonce) 24 = hello.legID ∧
      byteAt (readyStart hello selected serverNonce) 25 = hello.mode ∧
      slice (readyStart hello selected serverNonce) 26 30 = putBits 4 selected ∧
      slice (readyStart hello selected serverNonce) 30 46 = putBits 16 serverNonce := by
  refine ⟨?_, ?_, ?_, ?_, ?_, ?_⟩ <;>
    simp [readyStart, slice_append_right, slice_append_left, slice_self, byteAt_append_right]

theorem readyStart_of_fields {start : List UInt8}
    (hlen : start.length = 46)
    (hmagic : slice start 0 8 = readyMagic hello.version)
    (hsession : slice start 8 24 = putBits 16 hello.sessionID)
    (hleg : byteAt start 24 = hello.legID)
    (hmode : byteAt start 25 = hello.mode) :
    readyStart hello (getBits 32 (slice start 26 30)) (getBits 128 (slice start 30 46)) = start := by
  have hlegs : [hello.legID, hello.mode] = slice start 24 26 := by
    rw [slice_pair (by omega), hleg, hmode]
  rw [readyStart, hlegs, ← hmagic, ← hsession]
  simp only [putBits_getBits_slice, slice_append_slice, hlen, Nat.reduceSub, Nat.reduceMul,
    Nat.reduceLeDiff, Nat.zero_le]
  rw [← hlen, slice_all]

theorem checkStreamReady_readyWire {auth : StreamPathAuth}
    (hselected : validSelectedStreamCapabilities hello selected = true)
    (hauth : makeStreamPathAuth hmac hello (readyOf hello selected serverNonce) password =
      .ok auth) :
    checkStreamReady hmac (readyWire hmac hello selected serverNonce password) hello password =
      .ok (readyOf hello selected serverNonce, auth) := by
  obtain ⟨hmagic, hsession, hleg, hmode, hcaps, hnonce⟩ :=
    @readyStart_fields hello selected serverNonce
  have hstart : slice (readyWire hmac hello selected serverNonce password) 0 46 =
      readyStart hello selected serverNonce :=
    slice_append_left length_readyStart
  have hmac' : slice (readyWire hmac hello selected serverNonce password) 46 78 =
      putBits 32 (streamReadyMAC hmac hello (readyStart hello selected serverNonce) password) := by
    rw [readyWire, slice_append_right (by simp), length_readyStart]
    exact slice_self (length_putBits 32 _)
  have hfields : ∀ {i j}, j ≤ 46 →
      slice (readyWire hmac hello selected serverNonce password) i j =
        slice (readyStart hello selected serverNonce) i j :=
    fun h => slice_append_of_le (by simpa using h)
  have hbytes : ∀ {i}, i < 46 →
      byteAt (readyWire hmac hello selected serverNonce password) i =
        byteAt (readyStart hello selected serverNonce) i :=
    fun h => byteAt_append_of_lt (by simpa using h)
  unfold checkStreamReady
  rw [hstart, hmac', if_neg (fun h => h rfl), hfields (by decide), hfields (by decide),
    hfields (by decide), hfields (by decide), hbytes (by decide), hbytes (by decide), hmagic,
    hsession, hleg, hmode, hcaps, hnonce, if_neg (by simp)]
  simp only [getBits_putBits, hselected, Bool.true_eq_false, if_false, hauth]

theorem checkStreamReady_ok {ready : StreamReadyV2} {auth : StreamPathAuth}
    (hlen : wire.length = 78) (h : checkStreamReady hmac wire hello password = .ok (ready, auth)) :
    validSelectedStreamCapabilities hello ready.capabilities = true ∧
      wire = readyWire hmac hello ready.capabilities ready.serverNonce password ∧
      makeStreamPathAuth hmac hello ready password = .ok auth := by
  have hstartLen : (slice wire 0 46).length = 46 := length_slice (by omega)
  have hsplit : wire = slice wire 0 46 ++ slice wire 46 78 := by
    rw [slice_append_slice (by decide) (by decide), ← hlen, slice_all]
  unfold checkStreamReady at h
  split at h
  · cases h
  rename_i hmac'
  split at h
  · cases h
  rename_i hfields
  simp only [not_or, ne_eq, Decidable.not_not] at hmac' hfields
  obtain ⟨hmagic, hsession, hleg, hmode⟩ := hfields
  dsimp only at h
  split at h
  · cases h
  rename_i hselected
  split at h
  · cases h
  rename_i auth' hauth
  cases h
  have hstart := readyStart_of_fields hstartLen ((slice_slice_zero (by decide)).trans hmagic)
    ((slice_slice_zero (by decide)).trans hsession) ((byteAt_slice_zero (by decide)).trans hleg)
    ((byteAt_slice_zero (by decide)).trans hmode)
  rw [slice_slice_zero (by decide), slice_slice_zero (by decide)] at hstart
  refine ⟨Bool.not_eq_false _ ▸ hselected, ?_, hauth⟩
  simp only [readyWire, readyOf]
  rw [hstart, ← hmac']
  exact hsplit

/-- What the client took, and what it derived from it. -/
theorem readStreamReadyV2_ok {source source' : Source} {ready : StreamReadyV2}
    {auth : StreamPathAuth}
    (h : readStreamReadyV2 hmac source hello password = (.ok (ready, auth), source')) :
    encodeStreamReadyV2 hmac hello ready.capabilities ready.serverNonce password =
        .ok (readyWire hmac hello ready.capabilities ready.serverNonce password) ∧
      source.flatten = readyWire hmac hello ready.capabilities ready.serverNonce password ++
        source'.flatten := by
  unfold readStreamReadyV2 at h
  split at h
  · cases h
  rename_i hvalid
  split at h
  · cases h
  rename_i hpassword
  split at h
  · cases h
  rename_i wire source₁ hread
  obtain ⟨hcheck, rfl⟩ := Prod.mk.inj h
  obtain ⟨hlen, hflat⟩ := readFull_ok hread
  obtain ⟨hselected, hwire, -⟩ := checkStreamReady_ok hlen hcheck
  exact ⟨encodeStreamReadyV2_ok_iff.2 ⟨hvalid, hpassword, hselected, rfl⟩, hwire ▸ hflat⟩

theorem readStreamReadyV2_of_flatten {source : Source} {rest : List UInt8} {auth : StreamPathAuth}
    (hvalid : validateStreamReadyHello hello = none) (hpassword : password ≠ [])
    (hselected : validSelectedStreamCapabilities hello selected = true)
    (hauth : makeStreamPathAuth hmac hello (readyOf hello selected serverNonce) password =
      .ok auth)
    (hflat : source.flatten = readyWire hmac hello selected serverNonce password ++ rest) :
    ∃ source', readStreamReadyV2 hmac source hello password =
      (.ok (readyOf hello selected serverNonce, auth), source') ∧ source'.flatten = rest := by
  obtain ⟨source₁, hread, hrest⟩ := readFull_of_flatten hflat length_readyWire
  refine ⟨source₁, ?_, hrest⟩
  simp only [readStreamReadyV2, hvalid, if_neg hpassword, hread,
    checkStreamReady_readyWire hselected hauth]

/-- Two READYs with the same bytes were made for the same path under the same MAC. -/
theorem readyWire_inj {hello' : Hello} {selected' : BitVec 32} {serverNonce' : BitVec 128}
    {password' : List UInt8}
    (h : readyWire hmac hello' selected' serverNonce' password' =
      readyWire hmac hello selected serverNonce password) :
    readyMagic hello'.version = readyMagic hello.version ∧ hello'.sessionID = hello.sessionID ∧
      hello'.legID = hello.legID ∧ hello'.mode = hello.mode ∧
      streamReadyMAC hmac hello' (readyStart hello' selected' serverNonce') password' =
        streamReadyMAC hmac hello (readyStart hello' selected' serverNonce') password := by
  obtain ⟨hstart, hmac'⟩ := List.append_inj h (by simp)
  obtain ⟨hmagic, hsession, hleg, hmode, -⟩ := @readyStart_fields hello selected serverNonce
  obtain ⟨hmagic', hsession', hleg', hmode', -⟩ := @readyStart_fields hello' selected' serverNonce'
  rw [hstart] at hmagic' hsession' hleg' hmode'
  have hsessions := putBits_inj (by decide) (hsession'.symm.trans hsession)
  have hmacs := putBits_inj (by decide) hmac'
  rw [← hstart] at hmacs
  exact ⟨hmagic'.symm.trans hmagic, hsessions, hleg'.symm.trans hleg, hmode'.symm.trans hmode,
    hmacs⟩

theorem version_of_readyMagic {hello' : Hello} (hready : ReadyHello hello)
    (hready' : ReadyHello hello') (h : readyMagic hello'.version = readyMagic hello.version) :
    hello'.version = hello.version := by
  rcases hready.version with hv | hv <;> rcases hready'.version with hv' | hv' <;>
    rw [hv, hv'] at h ⊢
  · exact absurd h (by decide)
  · exact absurd h (by decide)

/-- Where the server stopped, or what it wrote and derived. -/
theorem writeStreamReadyV2WithNonce_cases (hmac : Mac) (hello : Hello) (selected : BitVec 32)
    (serverNonce : BitVec 128) (password : List UInt8) (sink : Sink) :
    (∃ e, encodeStreamReadyV2 hmac hello selected serverNonce password = .error e ∧
      writeStreamReadyV2WithNonce hmac sink hello selected serverNonce password =
        (.error e, sink)) ∨
    (∃ wire e sink', encodeStreamReadyV2 hmac hello selected serverNonce password = .ok wire ∧
      writeFull .shortWrite sink wire = (.error e, sink') ∧
      writeStreamReadyV2WithNonce hmac sink hello selected serverNonce password =
        (.error (.write e), sink')) ∨
    ∃ wire auth sink', encodeStreamReadyV2 hmac hello selected serverNonce password = .ok wire ∧
      sink'.taken = sink.taken ++ wire ∧
      makeStreamPathAuth hmac hello (readyOf hello selected serverNonce) password = .ok auth ∧
      writeStreamReadyV2WithNonce hmac sink hello selected serverNonce password =
        (.ok auth, sink') := by
  unfold writeStreamReadyV2WithNonce
  split
  · next e hencode => exact .inl ⟨e, hencode, rfl⟩
  · next wire hencode =>
    split
    · next e sink' hwrite => exact .inr (.inl ⟨wire, e, sink', hencode, hwrite, rfl⟩)
    · next sink' hwrite =>
      obtain ⟨hvalid, hpassword, hselected, -⟩ := encodeStreamReadyV2_ok_iff.1 hencode
      obtain ⟨auth, hauth⟩ := makeStreamPathAuth_ok hmac serverNonce
        (readyHello_of_validate hvalid) hpassword hselected
      exact .inr (.inr ⟨wire, auth, sink', hencode, writeFull_ok hwrite, hauth, by rw [hauth]⟩)

/-- The client takes a READY only where it would have computed the same one. -/
theorem readStreamReadyV2_same {hello' : Hello} {selected' : BitVec 32}
    {serverNonce' : BitVec 128} {password' rest : List UInt8} {source source' : Source}
    {ready : StreamReadyV2} {auth : StreamPathAuth}
    (hencode' : encodeStreamReadyV2 hmac hello' selected' serverNonce' password' = .ok wire)
    (hflat' : source.flatten = wire ++ rest)
    (hread : readStreamReadyV2 hmac source hello password = (.ok (ready, auth), source')) :
    hello'.version = hello.version ∧ hello'.sessionID = hello.sessionID ∧
      hello'.legID = hello.legID ∧ hello'.mode = hello.mode ∧
      streamReadyMAC hmac hello' (wire.take 46) password' =
        streamReadyMAC hmac hello (wire.take 46) password := by
  obtain ⟨hencode, hflat⟩ := readStreamReadyV2_ok hread
  obtain ⟨hvalid', -, -, rfl⟩ := encodeStreamReadyV2_ok_iff.1 hencode'
  obtain ⟨hvalid, -, -, -⟩ := encodeStreamReadyV2_ok_iff.1 hencode
  have hwires := (List.append_inj (hflat'.symm.trans hflat)
    (length_readyWire.trans length_readyWire.symm)).1
  obtain ⟨hmagic, hsession, hleg, hmode, hmacs⟩ := readyWire_inj hwires
  have hversion := version_of_readyMagic (readyHello_of_validate hvalid)
    (readyHello_of_validate hvalid') hmagic
  have htake : (readyWire hmac hello' selected' serverNonce' password').take 46 =
      readyStart hello' selected' serverNonce' := List.take_left' length_readyStart
  rw [htake]
  exact ⟨hversion, hsession, hleg, hmode, hmacs⟩

/--
Agreement of the READY handshake, for every keyed hash: every subset of what a valid
hello of version 6 or 7 offers can be answered; a server whose write succeeds has the
authentication that the client derives from the bytes; a server that fails has failed
before the READY was out, or in writing it; and what a client accepts is the READY of
its own hello and password, with a selection from what it offered, so that it refuses
one made for another path or under another MAC.
-/
theorem ready_handshake_agreement (hmac : Mac) (hello : Hello) (password : List UInt8) :
    (∀ selected serverNonce, ValidHello hello →
      hello.version = version6 ∨ hello.version = version7 →
      selected &&& ~~~hello.capabilities = 0#32 → password ≠ [] →
      ∃ wire, encodeStreamReadyV2 hmac hello selected serverNonce password = .ok wire) ∧
    (∀ selected serverNonce sink sink' auth,
      writeStreamReadyV2WithNonce hmac sink hello selected serverNonce password =
        (.ok auth, sink') →
      ∃ wire, sink'.taken = sink.taken ++ wire ∧
        ∀ source rest, source.flatten = wire ++ rest →
          ∃ ready source', readStreamReadyV2 hmac source hello password =
              (.ok (ready, auth), source') ∧ source'.flatten = rest) ∧
    (∀ selected serverNonce sink sink' e,
      writeStreamReadyV2WithNonce hmac sink hello selected serverNonce password =
        (.error e, sink') →
      (encodeStreamReadyV2 hmac hello selected serverNonce password = .error e ∧ sink' = sink) ∨
      ∃ wire e', encodeStreamReadyV2 hmac hello selected serverNonce password = .ok wire ∧
        writeFull .shortWrite sink wire = (.error e', sink') ∧ e = .write e') ∧
    (∀ source source' ready auth,
      readStreamReadyV2 hmac source hello password = (.ok (ready, auth), source') →
      ready.capabilities &&& ~~~hello.capabilities = 0#32 ∧
      ∃ wire, encodeStreamReadyV2 hmac hello ready.capabilities ready.serverNonce password =
          .ok wire ∧ source.flatten = wire ++ source'.flatten) ∧
    (∀ hello' password' selected' serverNonce' wire,
      encodeStreamReadyV2 hmac hello' selected' serverNonce' password' = .ok wire →
      hello'.version ≠ hello.version ∨ hello'.sessionID ≠ hello.sessionID ∨
        hello'.legID ≠ hello.legID ∨ hello'.mode ≠ hello.mode ∨
        streamReadyMAC hmac hello' (wire.take 46) password' ≠
          streamReadyMAC hmac hello (wire.take 46) password →
      ∀ source rest, source.flatten = wire ++ rest →
        ∃ e source', readStreamReadyV2 hmac source hello password = (.error e, source')) := by
  refine ⟨?_, ?_, ?_, ?_, ?_⟩
  · intro selected serverNonce hvalid hversion hsubset hpassword
    have hchecked := validateStreamReadyHello_of_valid hvalid hversion
    have hselected := validSelected_of_subset (readyHello_of_validate hchecked) hsubset
    exact ⟨_, encodeStreamReadyV2_ok_iff.2 ⟨hchecked, hpassword, hselected, rfl⟩⟩
  · intro selected serverNonce sink sink' auth h
    rcases writeStreamReadyV2WithNonce_cases hmac hello selected serverNonce password sink with
      ⟨e, -, heq⟩ | ⟨wire, e, sink₁, -, -, heq⟩ | ⟨wire, auth', sink₁, hencode, htaken, hauth, heq⟩
    · cases heq.symm.trans h
    · cases heq.symm.trans h
    · cases heq.symm.trans h
      obtain ⟨hvalid, hpassword, hselected, rfl⟩ := encodeStreamReadyV2_ok_iff.1 hencode
      refine ⟨_, htaken, ?_⟩
      intro source rest hflat
      exact ⟨_, readStreamReadyV2_of_flatten hvalid hpassword hselected hauth hflat⟩
  · intro selected serverNonce sink sink' e h
    rcases writeStreamReadyV2WithNonce_cases hmac hello selected serverNonce password sink with
      ⟨e', hencode, heq⟩ | ⟨wire, e', sink₁, hencode, hwrite, heq⟩ | ⟨_, _, _, -, -, -, heq⟩
    · cases heq.symm.trans h
      exact .inl ⟨hencode, rfl⟩
    · cases heq.symm.trans h
      exact .inr ⟨wire, e', hencode, hwrite, rfl⟩
    · cases heq.symm.trans h
  · intro source source' ready auth h
    obtain ⟨hencode, hflat⟩ := readStreamReadyV2_ok h
    obtain ⟨-, -, hselected, -⟩ := encodeStreamReadyV2_ok_iff.1 hencode
    exact ⟨validSelected_subset hselected, _, hencode, hflat⟩
  · intro hello' password' selected' serverNonce' wire hencode' hother source rest hflat'
    generalize hread : readStreamReadyV2 hmac source hello password = out
    obtain ⟨result, source'⟩ := out
    cases result with
    | error e => exact ⟨e, source', rfl⟩
    | ok accepted =>
      obtain ⟨hversion, hsession, hleg, hmode, hmacs⟩ :=
        readStreamReadyV2_same hencode' hflat' hread
      rcases hother with h | h | h | h | h
      · exact absurd hversion h
      · exact absurd hsession h
      · exact absurd hleg h
      · exact absurd hmode h
      · exact absurd hmacs h

/-- A version 7 server that selects everything, over a connection that takes ten bytes first. -/
theorem ready_handshake_agreement_example : let hello : Hello :=
      { version := version7, sessionID := 5#128, legID := 1, mode := modeStream
        timestamp := 1000#64, nonce := 9#128, capabilities := knownStreamCapabilities
        destination := [104, 58, 49] }
    let hmac : Mac := fun key message => BitVec.ofNat 256 (key.length + message.length)
    (∃ auth sink', writeStreamReadyV2WithNonce hmac ⟨[(10, false)], []⟩ hello
        knownStreamCapabilities 3#128 [1] = (.ok auth, sink')) ∧
    ∀ auth sink', writeStreamReadyV2WithNonce hmac ⟨[(10, false)], []⟩ hello
        knownStreamCapabilities 3#128 [1] = (.ok auth, sink') →
      ∃ wire, sink'.taken = [] ++ wire ∧
        ∀ source rest, source.flatten = wire ++ rest →
          ∃ ready source', readStreamReadyV2 hmac source hello [1] =
              (.ok (ready, auth), source') ∧ source'.flatten = rest :=
  ⟨⟨_, _, rfl⟩, fun auth sink' h =>
    (ready_handshake_agreement _ _ [1]).2.1 _ _ _ sink' auth h⟩

end Agreement

end Smp3Multipath.Core.Wire

import Smp3Multipath.Core.AttachLeg
import Smp3Multipath.Lib.Bytes
import Smp3Multipath.Lib.ByteStream

/-!
# The HELLO codec

`EncodeHelloParts` and `ReadHelloAt` for the four versions.  Version 4 has no mode
byte, version 5 has one, and versions 6 and 7 add the offered capabilities.  The MAC
covers the header and the destination; it is a parameter here.

The reader is given its bytes in segments.  It returns what was encoded, however the
bytes are cut, and whatever it accepts is what the writer would have sent
(`hello_codec_exact`).
-/

namespace Smp3Multipath.Core.Wire

open Lib.Bytes Lib.ByteStream Registry List

section Types

def version4 : UInt8 := 4
def version5 : UInt8 := 5
def version6 : UInt8 := 6
def version7 : UInt8 := 7

def modeStream : UInt8 := 0
def modeDatagram : UInt8 := 1

/-- `Hello`; the timestamp is the `int64` of Unix seconds, the destination its bytes. -/
structure Hello where
  version : UInt8
  sessionID : SessionID
  legID : UInt8
  mode : UInt8
  timestamp : BitVec 64
  nonce : BitVec 128
  capabilities : BitVec 32
  destination : List UInt8
deriving DecidableEq

inductive HelloError where
  | emptyPassword
  | invalidHello
  | invalidVersion
  | invalidMode
  | invalidV5Mode
  | staleHello
  | emptyDestination
  | invalidDestination
  | invalidAuthentication
  | invalidCapabilities
  | read (e : ReadError)
deriving DecidableEq

end Types

section Codec

/-- The keyed hash, `hmac.New(sha256.New, key)` over a message. -/
abbrev Mac := List UInt8 → List UInt8 → BitVec 256

def helloMagic : List UInt8 := [83, 77, 80, 51]

/-- `helloSkew`, in nanoseconds. -/
def helloSkew : Int := 90 * 1000000000

/-- Versions 6 and 7 accept these capabilities. -/
def offeredCapabilitiesOk (version : UInt8) (capabilities : BitVec 32) : Bool :=
  !(decide (version = version6) &&
      (decide (capabilities &&& ~~~streamCapabilityPathRTT ≠ 0#32) ||
        decide (capabilities &&& streamCapabilityPathRTT = 0#32))) &&
    !(decide (version = version7) &&
      (decide (capabilities &&& ~~~knownStreamCapabilities ≠ 0#32) ||
        decide (capabilities &&& streamCapabilityCoordinatedDrain = 0#32)))

/-- The header of a version; the fields of the comments in the source, in their order. -/
def encodeHeader (hello : Hello) : List UInt8 :=
  if hello.version = version5 then
    helloMagic ++ [version5, hello.legID, hello.mode] ++ putBits 16 hello.sessionID ++
      putBits 8 hello.timestamp ++ putBits 16 hello.nonce ++ toBytes 2 hello.destination.length
  else if hello.version = version6 ∨ hello.version = version7 then
    helloMagic ++ [hello.version, hello.legID, hello.mode] ++ putBits 16 hello.sessionID ++
      putBits 8 hello.timestamp ++ putBits 16 hello.nonce ++ putBits 4 hello.capabilities ++
      toBytes 2 hello.destination.length
  else
    helloMagic ++ [version4, hello.legID] ++ putBits 16 hello.sessionID ++
      putBits 8 hello.timestamp ++ putBits 16 hello.nonce ++ toBytes 2 hello.destination.length

/-- `EncodeHelloParts`: the header, the destination and the MAC. -/
def encodeHelloParts (hmac : Mac) (hello : Hello) (password : List UInt8) :
    Except HelloError (List UInt8 × List UInt8 × List UInt8) :=
  if password = [] then .error .emptyPassword
  else if hello.destination = [] ∨ hello.destination.length > 65535 then
    .error .invalidDestination
  else if hello.version ≠ version4 ∧ hello.version ≠ version5 ∧ hello.version ≠ version6 ∧
      hello.version ≠ version7 then .error .invalidVersion
  else if hello.version = version4 ∧ hello.mode ≠ modeStream then .error .invalidMode
  else if hello.version = version5 ∧ hello.mode ≠ modeDatagram then .error .invalidMode
  else if hello.version = version6 ∧ hello.mode ≠ modeStream then .error .invalidMode
  else if hello.version = version7 ∧ hello.mode ≠ modeStream then .error .invalidMode
  else if hello.version ≠ version6 ∧ hello.version ≠ version7 ∧ hello.capabilities ≠ 0#32 then
    .error .invalidCapabilities
  else if offeredCapabilitiesOk hello.version hello.capabilities = false then
    .error .invalidCapabilities
  else
    let header := encodeHeader hello
    .ok (header, hello.destination, putBits 32 (hmac password (header ++ hello.destination)))

/-- What the header of a version carries besides the version and the leg. -/
structure HeaderFields where
  mode : UInt8
  sessionID : SessionID
  timestamp : BitVec 64
  nonce : BitVec 128
  capabilities : BitVec 32
  destinationLength : Nat
deriving DecidableEq

/-- The header length of a version; `none` for a version the reader does not know. -/
def headerSize (version : UInt8) : Option Nat :=
  if version = version4 then some 48
  else if version = version5 then some 49
  else if version = version6 ∨ version = version7 then some 53
  else none

/-- The switch of `ReadHelloAt` once the header is read. -/
def decodeHeader (version : UInt8) (header : List UInt8) : Except HelloError HeaderFields :=
  if version = version4 then
    .ok
      { mode := modeStream
        sessionID := getBits 128 (slice header 6 22)
        nonce := getBits 128 (slice header 30 46)
        timestamp := getBits 64 (slice header 22 30)
        capabilities := 0#32
        destinationLength := ofBytes (slice header 46 48) }
  else if version = version5 then
    if byteAt header 6 ≠ modeDatagram then .error .invalidV5Mode
    else
      .ok
        { mode := byteAt header 6
          sessionID := getBits 128 (slice header 7 23)
          nonce := getBits 128 (slice header 31 47)
          timestamp := getBits 64 (slice header 23 31)
          capabilities := 0#32
          destinationLength := ofBytes (slice header 47 49) }
  else
    if byteAt header 6 ≠ modeStream then .error .invalidMode
    else if offeredCapabilitiesOk version (getBits 32 (slice header 47 51)) = false then
      .error .invalidCapabilities
    else
      .ok
        { mode := byteAt header 6
          sessionID := getBits 128 (slice header 7 23)
          timestamp := getBits 64 (slice header 23 31)
          nonce := getBits 128 (slice header 31 47)
          capabilities := getBits 32 (slice header 47 51)
          destinationLength := ofBytes (slice header 51 53) }

/-- The timestamp is more than the skew away from `now`, in nanoseconds. -/
def stale (timestamp : BitVec 64) (now : Int) : Bool :=
  let sent := timestamp.toInt * 1000000000
  decide (sent < now - helloSkew) || decide (sent > now + helloSkew)

/-- The end of `ReadHelloAt`: destination and MAC. -/
def readHelloBody (hmac : Mac) (source : Source) (password header : List UInt8) (hello : Hello)
    (destinationLength : Nat) : Except HelloError Hello × Source :=
  match readFull source destinationLength with
  | (.error e, source) => (.error (.read e), source)
  | (.ok destination, source) =>
    match readFull source 32 with
    | (.error e, source) => (.error (.read e), source)
    | (.ok gotMAC, source) =>
      if gotMAC ≠ putBits 32 (hmac password (header ++ destination)) then
        (.error .invalidAuthentication, source)
      else (.ok { hello with destination := destination }, source)

def readHelloAt (hmac : Mac) (source : Source) (password : List UInt8) (now : Int) :
    Except HelloError Hello × Source :=
  if password = [] then (.error .emptyPassword, source)
  else
    match readFull source 6 with
    | (.error e, source) => (.error (.read e), source)
    | (.ok start, source) =>
      if slice start 0 4 ≠ helloMagic then (.error .invalidHello, source)
      else
        let version := byteAt start 4
        match headerSize version with
        | none => (.error .invalidVersion, source)
        | some size =>
          match readFull source (size - 6) with
          | (.error e, source) => (.error (.read e), source)
          | (.ok tail, source) =>
            let header := start ++ tail
            match decodeHeader version header with
            | .error e => (.error e, source)
            | .ok fields =>
              if stale fields.timestamp now then (.error .staleHello, source)
              else if fields.destinationLength = 0 then (.error .emptyDestination, source)
              else
                readHelloBody hmac source password header
                  { version := version
                    sessionID := fields.sessionID
                    legID := byteAt start 5
                    mode := fields.mode
                    timestamp := fields.timestamp
                    nonce := fields.nonce
                    capabilities := fields.capabilities
                    destination := [] }
                  fields.destinationLength

end Codec

section Validity

/-- What the writer asks of a hello. -/
structure ValidHello (hello : Hello) : Prop where
  version : hello.version = version4 ∨ hello.version = version5 ∨ hello.version = version6 ∨
    hello.version = version7
  datagram : hello.version = version5 → hello.mode = modeDatagram
  stream : hello.version ≠ version5 → hello.mode = modeStream
  plain : hello.version = version4 ∨ hello.version = version5 → hello.capabilities = 0#32
  offered : offeredCapabilitiesOk hello.version hello.capabilities = true
  destination_ne : hello.destination ≠ []
  destination_le : hello.destination.length ≤ 65535

/-- The bytes of a hello on the wire. -/
def helloParts (hmac : Mac) (hello : Hello) (password : List UInt8) :
    List UInt8 × List UInt8 × List UInt8 :=
  (encodeHeader hello, hello.destination,
    putBits 32 (hmac password (encodeHeader hello ++ hello.destination)))

variable {hmac : Mac} {hello : Hello} {password : List UInt8}

theorem encodeHelloParts_ok_iff {parts : List UInt8 × List UInt8 × List UInt8} :
    encodeHelloParts hmac hello password = .ok parts ↔
      password ≠ [] ∧ ValidHello hello ∧ parts = helloParts hmac hello password := by
  constructor
  · intro h
    unfold encodeHelloParts at h
    split at h
    · cases h
    rename_i hpassword
    split at h
    · cases h
    rename_i hdestination
    split at h
    · cases h
    rename_i hversion
    split at h
    · cases h
    rename_i hmode4
    split at h
    · cases h
    rename_i hmode5
    split at h
    · cases h
    rename_i hmode6
    split at h
    · cases h
    rename_i hmode7
    split at h
    · cases h
    rename_i hplain
    split at h
    · cases h
    rename_i hoffered
    refine ⟨hpassword, ⟨?_, ?_, ?_, ?_, ?_, ?_, ?_⟩, (Except.ok.inj h).symm⟩
    · grind
    · grind
    · grind
    · intro hold
      refine Decidable.by_contra fun hcaps => hplain ⟨?_, ?_, hcaps⟩
      · rcases hold with hv | hv <;> rw [hv] <;> decide
      · rcases hold with hv | hv <;> rw [hv] <;> decide
    · grind
    · grind
    · grind
  · rintro ⟨hpassword, hvalid, rfl⟩
    have hversion := hvalid.version
    have hdatagram := hvalid.datagram
    have hstream := hvalid.stream
    have hplain := hvalid.plain
    unfold encodeHelloParts
    rw [if_neg hpassword, if_neg, if_neg, if_neg, if_neg, if_neg, if_neg, if_neg, if_neg]
    · rfl
    · rw [hvalid.offered]
      decide
    · grind
    · grind [version5, version7]
    · grind [version5, version6]
    · grind
    · grind [version4, version5]
    · grind
    · rintro (hnil | hlong)
      · exact hvalid.destination_ne hnil
      · exact absurd hvalid.destination_le (Nat.not_le_of_lt hlong)

theorem headerSize_eq (hello : Hello) (hvalid : ValidHello hello) :
    headerSize hello.version = some (encodeHeader hello).length := by
  rcases hvalid.version with hv | hv | hv | hv <;>
    simp [headerSize, encodeHeader, hv, version4, version5, version6, version7, helloMagic]

theorem decodeHeader_encodeHeader (hvalid : ValidHello hello) :
    decodeHeader hello.version (encodeHeader hello) =
      .ok { mode := hello.mode, sessionID := hello.sessionID, timestamp := hello.timestamp
            nonce := hello.nonce, capabilities := hello.capabilities
            destinationLength := hello.destination.length } := by
  have hlen : ofBytes (toBytes 2 hello.destination.length) = hello.destination.length := by
    have hle := hvalid.destination_le
    rw [ofBytes_toBytes]
    exact Nat.mod_eq_of_lt (by omega)
  rcases hvalid.version with hv | hv | hv | hv
  · have hmode := hvalid.stream (by rw [hv]; decide)
    have hcaps := hvalid.plain (Or.inl hv)
    simp [decodeHeader, encodeHeader, hv, version4, version5, version6, version7, hmode, hcaps,
      helloMagic, slice_append_right, slice_append_left, slice_self, hlen]
  · have hmode := hvalid.datagram hv
    have hcaps := hvalid.plain (Or.inr hv)
    simp [decodeHeader, encodeHeader, hv, version4, version5, hmode, hcaps,
      helloMagic, slice_append_right, slice_append_left, slice_self, hlen]
  · have hmode := hvalid.stream (by rw [hv]; decide)
    have hoffered := hvalid.offered
    simp only [hv, version6] at hoffered
    simp [decodeHeader, encodeHeader, hv, version4, version5, version6, version7, hmode,
      helloMagic, slice_append_right, slice_append_left, slice_self, hlen, hoffered]
  · have hmode := hvalid.stream (by rw [hv]; decide)
    have hoffered := hvalid.offered
    simp only [hv, version7] at hoffered
    simp [decodeHeader, encodeHeader, hv, version4, version5, version6, version7, hmode,
      helloMagic, slice_append_right, slice_append_left, slice_self, hlen, hoffered]

theorem encodeHeader_start (hello : Hello) :
    slice (encodeHeader hello) 0 4 = helloMagic ∧ byteAt (encodeHeader hello) 5 = hello.legID ∧
      6 ≤ (encodeHeader hello).length := by
  unfold encodeHeader
  split
  · simp [helloMagic, slice]
  split
  · simp [helloMagic, slice]
  · simp [helloMagic, slice]

theorem encodeHeader_version (hvalid : ValidHello hello) :
    byteAt (encodeHeader hello) 4 = hello.version := by
  rcases hvalid.version with hv | hv | hv | hv <;>
    simp [encodeHeader, hv, version4, version5, version6, version7, helloMagic]

theorem encodeHeader_decodeHeader {header destination : List UInt8} {fields : HeaderFields}
    (hmagic : slice header 0 4 = helloMagic)
    (hsize : headerSize (byteAt header 4) = some header.length)
    (hdecode : decodeHeader (byteAt header 4) header = .ok fields)
    (hlen : destination.length = fields.destinationLength) :
    encodeHeader
      { version := byteAt header 4, sessionID := fields.sessionID, legID := byteAt header 5
        mode := fields.mode, timestamp := fields.timestamp, nonce := fields.nonce
        capabilities := fields.capabilities, destination := destination } = header := by
  unfold headerSize at hsize
  unfold decodeHeader at hdecode
  unfold encodeHeader
  split at hsize
  · rename_i hv
    have hsize : header.length = 48 := (Option.some.inj hsize).symm
    have hlegs : [version4, byteAt header 5] = slice header 4 6 := by rw [slice_pair (by omega), hv]
    rw [if_pos hv] at hdecode
    cases hdecode
    dsimp only at hlen ⊢
    rw [hv, if_neg (by decide), if_neg (by decide), hlen, hlegs, ← hmagic]
    simp only [putBits_getBits_slice, toBytes_ofBytes_slice, slice_append_slice, hsize,
      Nat.reduceSub, Nat.reduceMul, Nat.reduceLeDiff, Nat.zero_le]
    rw [← hsize, slice_all]
  split at hsize
  · rename_i hv4 hv
    have hsize : header.length = 49 := (Option.some.inj hsize).symm
    have hlegs : [version5, byteAt header 5, byteAt header 6] = slice header 4 7 := by
      rw [slice_triple (by omega), hv]
    rw [if_neg hv4, if_pos hv] at hdecode
    split at hdecode
    · cases hdecode
    cases hdecode
    dsimp only at hlen ⊢
    rw [if_pos hv, hlen, hlegs, ← hmagic]
    simp only [putBits_getBits_slice, toBytes_ofBytes_slice, slice_append_slice, hsize,
      Nat.reduceSub, Nat.reduceMul, Nat.reduceLeDiff, Nat.zero_le]
    rw [← hsize, slice_all]
  split at hsize
  · rename_i hv4 hv5 hv
    have hsize : header.length = 53 := (Option.some.inj hsize).symm
    have hlegs : [byteAt header 4, byteAt header 5, byteAt header 6] = slice header 4 7 := by
      rw [slice_triple (by omega)]
    rw [if_neg hv4, if_neg hv5] at hdecode
    split at hdecode
    · cases hdecode
    split at hdecode
    · cases hdecode
    cases hdecode
    dsimp only at hlen ⊢
    rw [if_neg hv5, if_pos hv, hlen, hlegs, ← hmagic]
    simp only [putBits_getBits_slice, toBytes_ofBytes_slice, slice_append_slice, hsize,
      Nat.reduceSub, Nat.reduceMul, Nat.reduceLeDiff, Nat.zero_le]
    rw [← hsize, slice_all]
  · cases hsize

end Validity

section Reading

variable {hmac : Mac} {password : List UInt8} {source source' : Source}

theorem readHelloBody_ok {header : List UInt8} {hello hello' : Hello} {destinationLength : Nat}
    (h : readHelloBody hmac source password header hello destinationLength =
      (.ok hello', source')) :
    ∃ destination, destination.length = destinationLength ∧
      hello' = { hello with destination := destination } ∧
      source.flatten = destination ++
        (putBits 32 (hmac password (header ++ destination)) ++ source'.flatten) := by
  unfold readHelloBody at h
  split at h
  · cases h
  rename_i destination source₁ hdestination
  split at h
  · cases h
  rename_i gotMAC source₂ hmac'
  split at h
  · cases h
  rename_i hequal
  cases h
  obtain ⟨hlen, hflat⟩ := readFull_ok hdestination
  obtain ⟨-, hflat'⟩ := readFull_ok hmac'
  refine ⟨destination, hlen, rfl, ?_⟩
  rw [hflat, hflat', Decidable.not_not.1 hequal]

theorem readHelloBody_of_flatten {header destination rest : List UInt8} (hello : Hello)
    (hflat : source.flatten = destination ++
      (putBits 32 (hmac password (header ++ destination)) ++ rest)) :
    ∃ source', readHelloBody hmac source password header hello destination.length =
      (.ok { hello with destination := destination }, source') ∧ source'.flatten = rest := by
  obtain ⟨source₁, hread, hflat⟩ := readFull_of_flatten hflat rfl
  obtain ⟨source₂, hread', hflat⟩ := readFull_of_flatten hflat (length_putBits 32 _)
  refine ⟨source₂, ?_, hflat⟩
  simp only [readHelloBody, hread, hread', ne_eq, not_true_eq_false, if_false]

/-- The hello that the reader makes of a header and a destination. -/
def helloOf (header : List UInt8) (fields : HeaderFields) (destination : List UInt8) : Hello :=
  { version := byteAt header 4, sessionID := fields.sessionID, legID := byteAt header 5
    mode := fields.mode, timestamp := fields.timestamp, nonce := fields.nonce
    capabilities := fields.capabilities, destination := destination }

/-- What the reader found in the bytes it took. -/
structure ReadOutcome (hmac : Mac) (password : List UInt8) (now : Int) (header : List UInt8)
    (fields : HeaderFields) (destination : List UInt8) : Prop where
  password_ne : password ≠ []
  magic : slice header 0 4 = helloMagic
  size : headerSize (byteAt header 4) = some header.length
  decoded : decodeHeader (byteAt header 4) header = .ok fields
  fresh : stale fields.timestamp now = false
  destinationLength_ne : fields.destinationLength ≠ 0
  destination_length : destination.length = fields.destinationLength

theorem six_le_headerSize {version : UInt8} {size : Nat} (h : headerSize version = some size) :
    6 ≤ size := by
  unfold headerSize at h
  split at h
  · cases h
    decide
  split at h
  · cases h
    decide
  split at h <;> cases h
  decide

theorem readHelloAt_ok {now : Int} {hello : Hello}
    (h : readHelloAt hmac source password now = (.ok hello, source')) :
    ∃ header fields destination, ReadOutcome hmac password now header fields destination ∧
      hello = helloOf header fields destination ∧
      source.flatten = header ++ (destination ++
        (putBits 32 (hmac password (header ++ destination)) ++ source'.flatten)) := by
  unfold readHelloAt at h
  split at h
  · cases h
  rename_i hpassword
  split at h
  · cases h
  rename_i start source₁ hstart
  split at h
  · cases h
  rename_i hmagic
  dsimp only at h
  split at h
  · cases h
  rename_i size hsize
  split at h
  · cases h
  rename_i tail source₂ htail
  split at h
  · cases h
  rename_i fields hdecode
  split at h
  · cases h
  rename_i hfresh
  split at h
  · cases h
  rename_i hpos
  obtain ⟨hstartLen, hflat₁⟩ := readFull_ok hstart
  obtain ⟨htailLen, hflat₂⟩ := readFull_ok htail
  obtain ⟨destination, hlen, rfl, hflat₃⟩ := readHelloBody_ok h
  have hfour : byteAt (start ++ tail) 4 = byteAt start 4 := byteAt_append_of_lt (by omega)
  have hfive : byteAt (start ++ tail) 5 = byteAt start 5 := byteAt_append_of_lt (by omega)
  refine ⟨start ++ tail, fields, destination, ?_, ?_, ?_⟩
  · refine ⟨hpassword, ?_, ?_, ?_, Bool.not_eq_true _ ▸ hfresh, hpos, hlen⟩
    · rw [slice_append_of_le (by omega)]
      exact Decidable.not_not.1 hmagic
    · have hsix := six_le_headerSize hsize
      rw [hfour, hsize, length_append, hstartLen, htailLen, Nat.add_sub_cancel' hsix]
    · rw [hfour]
      exact hdecode
  · rw [helloOf, hfour, hfive]
  · simp only [hflat₁, hflat₂, hflat₃, append_assoc]

theorem decodeHeader_valid {header : List UInt8} {fields : HeaderFields}
    (hsize : headerSize (byteAt header 4) = some header.length)
    (hdecode : decodeHeader (byteAt header 4) header = .ok fields) :
    (byteAt header 4 = version4 ∨ byteAt header 4 = version5 ∨ byteAt header 4 = version6 ∨
        byteAt header 4 = version7) ∧
      (byteAt header 4 = version5 → fields.mode = modeDatagram) ∧
      (byteAt header 4 ≠ version5 → fields.mode = modeStream) ∧
      (byteAt header 4 = version4 ∨ byteAt header 4 = version5 → fields.capabilities = 0#32) ∧
      offeredCapabilitiesOk (byteAt header 4) fields.capabilities = true ∧
      fields.destinationLength ≤ 65535 := by
  generalize hversion : byteAt header 4 = version at hsize hdecode
  unfold headerSize at hsize
  unfold decodeHeader at hdecode
  split at hsize
  · rename_i hv
    subst hv
    have hsize : header.length = 48 := (Option.some.inj hsize).symm
    have hlt : ofBytes (slice header 46 48) < 256 ^ 2 := ofBytes_slice_lt (by omega)
    cases hdecode
    dsimp only
    exact ⟨by decide, by decide, fun _ => rfl, fun _ => rfl, by decide, by omega⟩
  split at hsize
  · rename_i hv4 hv
    subst hv
    have hsize : header.length = 49 := (Option.some.inj hsize).symm
    have hlt : ofBytes (slice header 47 49) < 256 ^ 2 := ofBytes_slice_lt (by omega)
    rw [if_neg hv4, if_pos rfl] at hdecode
    split at hdecode
    · cases hdecode
    rename_i hmode
    cases hdecode
    dsimp only
    exact ⟨by decide, fun _ => Decidable.not_not.1 hmode, fun hne => absurd rfl hne,
      fun _ => rfl, by decide, by omega⟩
  split at hsize
  · rename_i hv4 hv5 hv
    have hsize : header.length = 53 := (Option.some.inj hsize).symm
    have hlt : ofBytes (slice header 51 53) < 256 ^ 2 := ofBytes_slice_lt (by omega)
    rw [if_neg hv4, if_neg hv5] at hdecode
    split at hdecode
    · cases hdecode
    rename_i hmode
    split at hdecode
    · cases hdecode
    rename_i hoffered
    cases hdecode
    dsimp only
    exact ⟨Or.inr (Or.inr hv), fun h5 => absurd h5 hv5, fun _ => Decidable.not_not.1 hmode,
      fun hold => absurd hold (not_or.2 ⟨hv4, hv5⟩), Bool.not_eq_false _ ▸ hoffered, by omega⟩
  · cases hsize

/-- The reader takes what the writer would have made, and only that. -/
theorem ReadOutcome.valid {now : Int} {header destination : List UInt8} {fields : HeaderFields}
    (h : ReadOutcome hmac password now header fields destination) :
    ValidHello (helloOf header fields destination) ∧
      encodeHeader (helloOf header fields destination) = header := by
  refine ⟨?_, encodeHeader_decodeHeader h.magic h.size h.decoded h.destination_length⟩
  have hne : destination ≠ [] := by
    intro hnil
    exact h.destinationLength_ne (h.destination_length ▸ congrArg List.length hnil)
  obtain ⟨hversion, hdatagram, hstream, hplain, hoffered, hle⟩ :=
    decodeHeader_valid h.size h.decoded
  exact ⟨hversion, hdatagram, hstream, hplain, hoffered, hne, h.destination_length ▸ hle⟩

theorem readHelloAt_of_flatten {now : Int} {hello : Hello} {rest : List UInt8}
    (hvalid : ValidHello hello) (hpassword : password ≠ [])
    (hfresh : stale hello.timestamp now = false)
    (hflat : source.flatten = encodeHeader hello ++ (hello.destination ++
      (putBits 32 (hmac password (encodeHeader hello ++ hello.destination)) ++ rest))) :
    ∃ source', readHelloAt hmac source password now = (.ok hello, source') ∧
      source'.flatten = rest := by
  obtain ⟨hmagic, hleg, hsix⟩ := encodeHeader_start hello
  have hsplit : encodeHeader hello = (encodeHeader hello).take 6 ++ (encodeHeader hello).drop 6 :=
    (take_append_drop 6 _).symm
  generalize hstart : (encodeHeader hello).take 6 = start at hsplit
  generalize htail : (encodeHeader hello).drop 6 = tail at hsplit
  have hstartLen : start.length = 6 := by rw [← hstart, length_take, Nat.min_eq_left hsix]
  have hversion := encodeHeader_version hvalid
  have hsize := headerSize_eq hello hvalid
  have hdecode := decodeHeader_encodeHeader hvalid
  rw [hsplit] at hflat hmagic hleg hversion hsize hdecode
  rw [slice_append_of_le (by omega)] at hmagic
  rw [byteAt_append_of_lt (by omega)] at hleg hversion
  rw [append_assoc] at hflat
  obtain ⟨source₁, hread₁, hflat₁⟩ := readFull_of_flatten hflat hstartLen
  obtain ⟨source₂, hread₂, hflat₂⟩ := readFull_of_flatten (k := (start ++ tail).length - 6) hflat₁
    (by rw [length_append]; omega)
  obtain ⟨source₃, hread₃, hflat₃⟩ := readHelloBody_of_flatten { hello with destination := [] } hflat₂
  refine ⟨source₃, ?_, hflat₃⟩
  unfold readHelloAt
  simp only [if_neg hpassword, hread₁, hmagic, ne_eq, not_true_eq_false, if_false, hversion, hsize,
    hread₂, hdecode, hfresh, Bool.false_eq_true, hleg,
    mt eq_nil_of_length_eq_zero hvalid.destination_ne]
  exact hread₃

/--
The HELLO codec is exact and canonical, for every keyed hash: a valid hello has an
encoding under every password but the empty one, which both sides refuse; an encoding
is read back, however it is cut and whatever follows it; and whatever is accepted is
an encoding.
-/
theorem hello_codec_exact (hmac : Mac) (password : List UInt8) (now : Int) :
    (∀ hello, (∃ parts, encodeHelloParts hmac hello password = .ok parts) ↔
      password ≠ [] ∧ ValidHello hello) ∧
    (∀ hello header destination mac,
      encodeHelloParts hmac hello password = .ok (header, destination, mac) →
      hello.timestamp.toInt * 1000000000 ≤ now + helloSkew →
      now - helloSkew ≤ hello.timestamp.toInt * 1000000000 →
      ∀ source rest, source.flatten = header ++ destination ++ mac ++ rest →
        ∃ source', readHelloAt hmac source password now = (.ok hello, source') ∧
          source'.flatten = rest) ∧
    (∀ source source' hello, readHelloAt hmac source password now = (.ok hello, source') →
      ∃ header destination mac, encodeHelloParts hmac hello password =
          .ok (header, destination, mac) ∧
        source.flatten = header ++ destination ++ mac ++ source'.flatten) := by
  refine ⟨?_, ?_, ?_⟩
  · intro hello
    constructor
    · rintro ⟨parts, h⟩
      obtain ⟨hpassword, hvalid, -⟩ := encodeHelloParts_ok_iff.1 h
      exact ⟨hpassword, hvalid⟩
    · rintro ⟨hpassword, hvalid⟩
      exact ⟨_, encodeHelloParts_ok_iff.2 ⟨hpassword, hvalid, rfl⟩⟩
  · intro hello header destination mac hencode hafter hbefore source rest hflat
    obtain ⟨hpassword, hvalid, ⟨⟩⟩ := encodeHelloParts_ok_iff.1 hencode
    have hfresh : stale hello.timestamp now = false := by
      simp only [stale, Bool.or_eq_false_iff, decide_eq_false_iff_not, Int.not_lt]
      exact ⟨hbefore, hafter⟩
    refine readHelloAt_of_flatten hvalid hpassword hfresh ?_
    rw [hflat, append_assoc, append_assoc]
  · intro source source' hello h
    obtain ⟨header, fields, destination, houtcome, rfl, hflat⟩ := readHelloAt_ok h
    obtain ⟨hvalid, hheader⟩ := houtcome.valid
    refine ⟨_, _, _, encodeHelloParts_ok_iff.2 ⟨houtcome.password_ne, hvalid, rfl⟩, ?_⟩
    have hdestination : (helloOf header fields destination).destination = destination := rfl
    rw [hflat, hheader, hdestination, append_assoc, append_assoc]

/-- A version 7 hello with a path name, read 90 seconds after it was sent. -/
theorem hello_codec_exact_example : let hello : Hello :=
      { version := version7, sessionID := 5#128, legID := 1, mode := modeStream
        timestamp := 1000#64, nonce := 9#128, capabilities := knownStreamCapabilities
        destination := [104, 58, 49] }
    ∃ source', readHelloAt (fun _ message => BitVec.ofNat 256 message.length)
        [encodeHeader hello, [104, 58], 49 :: putBits 32 56#256] [1] 1090000000000 =
      (.ok hello, source') ∧ source'.flatten = [] :=
  (hello_codec_exact (fun _ message => BitVec.ofNat 256 message.length) [1]
    1090000000000).2.1 _ _ _ _ rfl (by decide) (by decide) _ [] rfl

end Reading

end Smp3Multipath.Core.Wire

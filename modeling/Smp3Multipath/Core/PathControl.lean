import Smp3Multipath.Core.PathReady

/-!
# The path control messages

Two messages of a fixed layout travel on a negotiated carrier: RTT probes with their
echoes, and the messages of a coordinated drain.  Each ends in a MAC over everything
before it, under a key that the READY handshake gave both endpoints.  The keyed hash is
a parameter.

Decoding undoes encoding, whatever is accepted encodes to the same bytes, and an
accepted drain message meets the conditions of its kind
(`path_control_codecs_exact`).
-/

namespace Smp3Multipath.Core.Wire

open Lib.Bytes Registry

section Authenticated

variable {hmac : Mac} {label : List UInt8} {key : BitVec 256} {start wire : List UInt8}

/-- The MAC of a message whose first bytes are `start`. -/
def messageMAC (hmac : Mac) (label : List UInt8) (key : BitVec 256) (start : List UInt8) :
    BitVec 256 :=
  hmac (putBits 32 key) (label ++ start)

/-- A message: its first bytes and their MAC. -/
def authenticate (hmac : Mac) (label : List UInt8) (key : BitVec 256) (start : List UInt8) :
    List UInt8 :=
  start ++ putBits 32 (messageMAC hmac label key start)

/-- The bytes of a message behind `size` are the MAC of those before. -/
def authentic (hmac : Mac) (label : List UInt8) (key : BitVec 256) (size : Nat)
    (wire : List UInt8) : Bool :=
  decide (slice wire size (size + 32) =
    putBits 32 (messageMAC hmac label key (slice wire 0 size)))

theorem length_authenticate : (authenticate hmac label key start).length = start.length + 32 := by
  rw [authenticate, List.length_append, length_putBits]

theorem slice_authenticate : slice (authenticate hmac label key start) 0 start.length = start :=
  slice_append_left rfl

theorem slice_authenticate_of_le {i j : Nat} (h : j ≤ start.length) :
    slice (authenticate hmac label key start) i j = slice start i j :=
  slice_append_of_le h

theorem byteAt_authenticate_of_lt {i : Nat} (h : i < start.length) :
    byteAt (authenticate hmac label key start) i = byteAt start i :=
  byteAt_append_of_lt h

theorem authentic_authenticate :
    authentic hmac label key start.length (authenticate hmac label key start) = true := by
  have hmac' : slice (authenticate hmac label key start) start.length (start.length + 32) =
      putBits 32 (messageMAC hmac label key start) := by
    rw [authenticate, slice_append_right (Nat.le_refl _), Nat.sub_self, Nat.add_sub_cancel_left]
    exact slice_self (length_putBits 32 _)
  rw [authentic, slice_authenticate, hmac']
  exact decide_eq_true rfl

theorem authenticate_of_authentic {size : Nat} (hlen : wire.length = size + 32)
    (h : authentic hmac label key size wire = true) :
    authenticate hmac label key (slice wire 0 size) = wire := by
  rw [authenticate, ← of_decide_eq_true h, slice_append_slice (Nat.zero_le _) (Nat.le_add_right ..),
    ← hlen, slice_all]

end Authenticated

section RTT

structure StreamPathBinding where
  sessionID : SessionID := 0#128
  legID : UInt8 := 0
  carrierID : String := ""
  generation : BitVec 64 := 0#64
deriving DecidableEq

structure StreamPathIdentity where
  sessionID : SessionID
  legID : UInt8
  carrierID : String
  generation : BitVec 64
  direction : UInt8
deriving DecidableEq

def StreamPathIdentity.binding (i : StreamPathIdentity) : StreamPathBinding :=
  { sessionID := i.sessionID
    legID := i.legID
    carrierID := i.carrierID
    generation := i.generation }

structure StreamRTTMessage where
  kind : UInt8
  identity : StreamPathIdentity
  token : BitVec 64
deriving DecidableEq

def streamRTTProbe : UInt8 := 1
def streamRTTEcho : UInt8 := 2

def streamRTTClientToServer : UInt8 := 1
def streamRTTServerToClient : UInt8 := 2

def streamRTTMessageMagic : List UInt8 := ascii "SMP3RTT1"
def streamRTTMessageV1 : UInt8 := 1
def streamRTTMessageLabel : List UInt8 := ascii "SMP3-STREAM-RTT-MESSAGE-V1"

def validateStreamPathBinding (binding : StreamPathBinding) : Option PathError :=
  if binding.carrierID = "" ∨ binding.generation = 0#64 then some .pathMessage else none

def validateStreamRTTMessage (message : StreamRTTMessage) : Option PathError :=
  match validateStreamPathBinding message.identity.binding with
  | some e => some e
  | none =>
    if message.identity.direction ≠ streamRTTClientToServer ∧
        message.identity.direction ≠ streamRTTServerToClient then some .pathMessage
    else if (message.kind ≠ streamRTTProbe ∧ message.kind ≠ streamRTTEcho) ∨
        message.token = 0#64 then some .pathMessage
    else none

/-- The first 36 bytes of an RTT message. -/
def rttStart (message : StreamRTTMessage) : List UInt8 :=
  streamRTTMessageMagic ++
    [streamRTTMessageV1, message.kind, message.identity.direction, message.identity.legID] ++
    putBits 16 message.identity.sessionID ++ putBits 8 message.token

def encodeStreamRTTMessage (hmac : Mac) (message : StreamRTTMessage) (key : BitVec 256) :
    Except PathError (List UInt8) :=
  match validateStreamRTTMessage message with
  | some e => .error e
  | none => .ok (authenticate hmac streamRTTMessageLabel key (rttStart message))

def decodeStreamRTTMessage (hmac : Mac) (wire : List UInt8) (key : BitVec 256)
    (expected : StreamPathBinding) : Except PathError StreamRTTMessage :=
  match validateStreamPathBinding expected with
  | some e => .error e
  | none =>
    if wire.length ≠ 68 ∨ slice wire 0 8 ≠ streamRTTMessageMagic ∨
        byteAt wire 8 ≠ streamRTTMessageV1 then .error .pathMessage
    else if authentic hmac streamRTTMessageLabel key 36 wire = false then
      .error .invalidAuthentication
    else
      let kind := byteAt wire 9
      let direction := byteAt wire 10
      let legID := byteAt wire 11
      let sessionID : SessionID := getBits 128 (slice wire 12 28)
      let token : BitVec 64 := getBits 64 (slice wire 28 36)
      if (kind ≠ streamRTTProbe ∧ kind ≠ streamRTTEcho) ∨
          (direction ≠ streamRTTClientToServer ∧ direction ≠ streamRTTServerToClient) ∨
          legID ≠ expected.legID ∨ sessionID ≠ expected.sessionID ∨ token = 0#64 then
        .error .pathMessage
      else
        .ok
          { kind := kind
            identity :=
              { sessionID := expected.sessionID
                legID := expected.legID
                carrierID := expected.carrierID
                generation := expected.generation
                direction := direction }
            token := token }

end RTT

section Drain

structure StreamDrainMessage where
  kind : UInt8
  senderRole : UInt8
  sessionID : SessionID
  targetLeg : UInt8
  generation : BitVec 64
  targetBinding : BitVec 128
  operationID : BitVec 128
  counter : BitVec 64
  ackedNext : BitVec 64
  outstandingFrames : BitVec 32
  outstandingBytes : BitVec 64
deriving DecidableEq

def streamDrainIntent : UInt8 := 1
def streamDrainReady : UInt8 := 3
def streamDrainCommit : UInt8 := 4
def streamDrainCommitAck : UInt8 := 5
def streamDrainAbort : UInt8 := 6

def streamPathRoleClient : UInt8 := 1
def streamPathRoleServer : UInt8 := 2

def streamDrainControlMagic : List UInt8 := ascii "SMP3DRN1"
def streamDrainMessageLabel : List UInt8 := ascii "SMP3-STREAM-DRAIN-MESSAGE-V1"

def validStreamDrainMessage (message : StreamDrainMessage) : Bool :=
  if message.kind < streamDrainIntent ∨ message.kind > streamDrainAbort ∨
      (message.senderRole ≠ streamPathRoleClient ∧ message.senderRole ≠ streamPathRoleServer) ∨
      message.generation = 0#64 ∨ message.counter = 0#64 then false
  else if message.targetBinding = 0#128 ∨ message.operationID = 0#128 then false
  else if (message.kind = streamDrainReady ∨ message.kind = streamDrainCommit ∨
        message.kind = streamDrainCommitAck) ∧
      (message.outstandingFrames ≠ 0#32 ∨ message.outstandingBytes ≠ 0#64) then false
  else true

/-- The first 97 bytes of a drain message; the byte behind the role is reserved. -/
def drainStart (message : StreamDrainMessage) : List UInt8 :=
  streamDrainControlMagic ++ [1, message.kind, message.senderRole, 0] ++
    putBits 16 message.sessionID ++ [message.targetLeg] ++ putBits 8 message.generation ++
    putBits 16 message.targetBinding ++ putBits 16 message.operationID ++
    putBits 8 message.counter ++ putBits 8 message.ackedNext ++
    putBits 4 message.outstandingFrames ++ putBits 8 message.outstandingBytes

/-- What the bytes of a drain message say. -/
def drainMessageOf (wire : List UInt8) : StreamDrainMessage :=
  { kind := byteAt wire 9
    senderRole := byteAt wire 10
    sessionID := getBits 128 (slice wire 12 28)
    targetLeg := byteAt wire 28
    generation := getBits 64 (slice wire 29 37)
    targetBinding := getBits 128 (slice wire 37 53)
    operationID := getBits 128 (slice wire 53 69)
    counter := getBits 64 (slice wire 69 77)
    ackedNext := getBits 64 (slice wire 77 85)
    outstandingFrames := getBits 32 (slice wire 85 89)
    outstandingBytes := getBits 64 (slice wire 89 97) }

namespace StreamPathAuth

def coordinatedDrainEnabled (a : StreamPathAuth) : Bool :=
  a.authenticated && decide (a.capabilities &&& streamCapabilityCoordinatedDrain ≠ 0#32)

def encodeDrainMessage (a : StreamPathAuth) (hmac : Mac) (message : StreamDrainMessage) :
    Except PathError (List UInt8) :=
  if a.coordinatedDrainEnabled = false ∨ message.sessionID ≠ a.sessionID ∨
      validStreamDrainMessage message = false then .error .drainNegotiation
  else .ok (authenticate hmac streamDrainMessageLabel a.drainKey (drainStart message))

def decodeDrainMessage (a : StreamPathAuth) (hmac : Mac) (wire : List UInt8)
    (expectedPeerRole : UInt8) : Except PathError StreamDrainMessage :=
  if a.coordinatedDrainEnabled = false ∨ wire.length ≠ 129 ∨
      slice wire 0 8 ≠ streamDrainControlMagic ∨ byteAt wire 8 ≠ 1 then .error .drainMessage
  else if byteAt wire 11 ≠ 0 then .error .drainMessage
  else if authentic hmac streamDrainMessageLabel a.drainKey 97 wire = false then
    .error .invalidAuthentication
  else
    let message := drainMessageOf wire
    if message.sessionID ≠ a.sessionID ∨ message.senderRole ≠ expectedPeerRole ∨
        validStreamDrainMessage message = false then .error .drainMessage
    else .ok message

end StreamPathAuth

end Drain

section RTTExact

variable {hmac : Mac} {message : StreamRTTMessage} {key : BitVec 256} {wire : List UInt8}
variable {expected : StreamPathBinding}

/-- A valid RTT message. -/
structure ValidRTTMessage (message : StreamRTTMessage) : Prop where
  binding : validateStreamPathBinding message.identity.binding = none
  direction : message.identity.direction = streamRTTClientToServer ∨
    message.identity.direction = streamRTTServerToClient
  kind : message.kind = streamRTTProbe ∨ message.kind = streamRTTEcho
  token : message.token ≠ 0#64

theorem validateStreamRTTMessage_eq_none_iff :
    validateStreamRTTMessage message = none ↔ ValidRTTMessage message := by
  unfold validateStreamRTTMessage
  constructor
  · intro h
    split at h
    · cases h
    rename_i hbinding
    split at h
    · cases h
    rename_i hdirection
    split at h
    · cases h
    rename_i hkind
    rw [not_or] at hkind
    exact ⟨hbinding, Decidable.or_iff_not_not_and_not.2 hdirection,
      Decidable.or_iff_not_not_and_not.2 hkind.1, hkind.2⟩
  · intro h
    rw [h.binding]
    dsimp only
    rw [if_neg (Decidable.or_iff_not_not_and_not.1 h.direction), if_neg]
    rintro (hkind | htoken)
    · exact Decidable.or_iff_not_not_and_not.1 h.kind hkind
    · exact h.token htoken

theorem encodeStreamRTTMessage_ok_iff :
    encodeStreamRTTMessage hmac message key = .ok wire ↔
      validateStreamRTTMessage message = none ∧
        wire = authenticate hmac streamRTTMessageLabel key (rttStart message) := by
  unfold encodeStreamRTTMessage
  constructor
  · intro h
    split at h
    · cases h
    · rename_i hvalid
      exact ⟨hvalid, (Except.ok.inj h).symm⟩
  · rintro ⟨hvalid, rfl⟩
    rw [hvalid]

theorem length_rttStart : (rttStart message).length = 36 := by
  have hmagic : streamRTTMessageMagic.length = 8 := rfl
  simp [rttStart, hmagic]

theorem rttStart_fields :
    slice (rttStart message) 0 8 = streamRTTMessageMagic ∧
      byteAt (rttStart message) 8 = streamRTTMessageV1 ∧
      byteAt (rttStart message) 9 = message.kind ∧
      byteAt (rttStart message) 10 = message.identity.direction ∧
      byteAt (rttStart message) 11 = message.identity.legID ∧
      slice (rttStart message) 12 28 = putBits 16 message.identity.sessionID ∧
      slice (rttStart message) 28 36 = putBits 8 message.token := by
  have hmagic : streamRTTMessageMagic.length = 8 := rfl
  refine ⟨?_, ?_, ?_, ?_, ?_, ?_, ?_⟩ <;>
    simp [rttStart, hmagic, slice_append_right, slice_append_left, slice_self,
      byteAt_append_right]

theorem decode_encode_rtt (hvalid : ValidRTTMessage message) :
    decodeStreamRTTMessage hmac
      (authenticate hmac streamRTTMessageLabel key (rttStart message)) key
      message.identity.binding = .ok message := by
  obtain ⟨hmagic, hversion, hkind, hdirection, hleg, hsession, htoken⟩ := @rttStart_fields message
  have hlen : (authenticate hmac streamRTTMessageLabel key (rttStart message)).length = 68 := by
    rw [length_authenticate, length_rttStart]
  have hauthentic := @authentic_authenticate hmac streamRTTMessageLabel key (rttStart message)
  have hfields {i j : Nat} (h : j ≤ 36) :
      slice (authenticate hmac streamRTTMessageLabel key (rttStart message)) i j =
        slice (rttStart message) i j :=
    slice_authenticate_of_le (length_rttStart ▸ h)
  have hbytes {i : Nat} (h : i < 36) :
      byteAt (authenticate hmac streamRTTMessageLabel key (rttStart message)) i =
        byteAt (rttStart message) i :=
    byteAt_authenticate_of_lt (length_rttStart ▸ h)
  rw [length_rttStart] at hauthentic
  unfold decodeStreamRTTMessage
  simp only [hvalid.binding, hlen, hauthentic, hfields, hbytes, hmagic, hversion, hkind,
    hdirection, hleg, hsession, htoken, Nat.reduceLeDiff, Nat.reduceLT]
  rw [if_neg (by simp), if_neg (by simp), getBits_putBits _ (by decide),
    getBits_putBits _ (by decide), if_neg]
  · rfl
  · rintro (hne | hne | hne | hne | hzero)
    · exact Decidable.or_iff_not_not_and_not.1 hvalid.kind hne
    · exact Decidable.or_iff_not_not_and_not.1 hvalid.direction hne
    · exact hne rfl
    · exact hne rfl
    · exact hvalid.token hzero

theorem rttStart_of_fields {start : List UInt8} (hlen : start.length = 36)
    (hmagic : slice start 0 8 = streamRTTMessageMagic)
    (hversion : byteAt start 8 = streamRTTMessageV1) (hkind : byteAt start 9 = message.kind)
    (hdirection : byteAt start 10 = message.identity.direction)
    (hleg : byteAt start 11 = message.identity.legID)
    (hsession : getBits 128 (slice start 12 28) = message.identity.sessionID)
    (htoken : getBits 64 (slice start 28 36) = message.token) : rttStart message = start := by
  have hbytes : [streamRTTMessageV1, message.kind, message.identity.direction,
      message.identity.legID] = slice start 8 12 := by
    rw [slice_quadruple (by omega), hversion, hkind, hdirection, hleg]
  rw [rttStart, hbytes, ← hmagic, ← hsession, ← htoken]
  simp only [putBits_getBits_slice, slice_append_slice, hlen, Nat.reduceSub, Nat.reduceMul,
    Nat.reduceLeDiff, Nat.zero_le]
  rw [← hlen, slice_all]

/-- What the decoder accepts is a valid message of the binding, and the encoder's bytes for it. -/
theorem decodeStreamRTTMessage_ok
    (h : decodeStreamRTTMessage hmac wire key expected = .ok message) :
    message.identity.binding = expected ∧ ValidRTTMessage message ∧
      authenticate hmac streamRTTMessageLabel key (rttStart message) = wire := by
  unfold decodeStreamRTTMessage at h
  split at h
  · cases h
  rename_i hbinding
  split at h
  · cases h
  rename_i hlayout
  split at h
  · cases h
  rename_i hauthentic
  dsimp only at h
  split at h
  · cases h
  rename_i hfields
  simp only [not_or, ne_eq, Decidable.not_not] at hlayout hfields
  obtain ⟨hlen, hmagic, hversion⟩ := hlayout
  obtain ⟨hkind, hdirection, hleg, hsession, htoken⟩ := hfields
  cases h
  refine ⟨rfl, ⟨hbinding, Decidable.or_iff_not_not_and_not.2 hdirection,
    Decidable.or_iff_not_not_and_not.2 hkind, htoken⟩, ?_⟩
  refine (congrArg (authenticate hmac streamRTTMessageLabel key) ?_).trans
    (authenticate_of_authentic hlen (Bool.not_eq_false _ ▸ hauthentic))
  exact rttStart_of_fields (length_slice (by omega))
    ((slice_slice_zero (by decide)).trans hmagic)
    ((byteAt_slice_zero (by decide)).trans hversion)
    (byteAt_slice_zero (by decide))
    (byteAt_slice_zero (by decide))
    ((byteAt_slice_zero (by decide)).trans hleg)
    ((congrArg (getBits 128) (slice_slice_zero (by decide))).trans hsession)
    (congrArg (getBits 64) (slice_slice_zero (by decide)))

end RTTExact

section DrainExact

variable {hmac : Mac} {a : StreamPathAuth} {message : StreamDrainMessage} {wire : List UInt8}
variable {role : UInt8}

theorem length_drainStart : (drainStart message).length = 97 := by
  have hmagic : streamDrainControlMagic.length = 8 := rfl
  simp [drainStart, hmagic]

theorem drainStart_head :
    slice (drainStart message) 0 8 = streamDrainControlMagic ∧ byteAt (drainStart message) 8 = 1 ∧
      byteAt (drainStart message) 11 = 0 := by
  have hmagic : streamDrainControlMagic.length = 8 := rfl
  refine ⟨?_, ?_, ?_⟩ <;>
    simp [drainStart, hmagic, slice_append_left, byteAt_append_right]

theorem drainMessageOf_drainStart : drainMessageOf (drainStart message) = message := by
  have hmagic : streamDrainControlMagic.length = 8 := rfl
  simp [drainMessageOf, drainStart, hmagic, slice_append_right, slice_append_left, slice_self,
    byteAt_append_right]

theorem drainMessageOf_slice : drainMessageOf (slice wire 0 97) = drainMessageOf wire := by
  simp [drainMessageOf, slice_slice_zero, byteAt_slice_zero]

theorem drainStart_drainMessageOf {start : List UInt8} (hlen : start.length = 97)
    (hmagic : slice start 0 8 = streamDrainControlMagic) (hversion : byteAt start 8 = 1)
    (hreserved : byteAt start 11 = 0) : drainStart (drainMessageOf start) = start := by
  have hbytes : [1, byteAt start 9, byteAt start 10, 0] = slice start 8 12 := by
    rw [slice_quadruple (by omega), hversion, hreserved]
  have hleg : [byteAt start 28] = slice start 28 29 := (slice_singleton (by omega)).symm
  simp only [drainStart, drainMessageOf]
  rw [hbytes, hleg, ← hmagic]
  simp only [putBits_getBits_slice, slice_append_slice, hlen, Nat.reduceSub, Nat.reduceMul,
    Nat.reduceLeDiff, Nat.zero_le]
  rw [← hlen, slice_all]

theorem encodeDrainMessage_ok_iff :
    a.encodeDrainMessage hmac message = .ok wire ↔
      a.coordinatedDrainEnabled = true ∧ message.sessionID = a.sessionID ∧
        validStreamDrainMessage message = true ∧
        wire = authenticate hmac streamDrainMessageLabel a.drainKey (drainStart message) := by
  unfold StreamPathAuth.encodeDrainMessage
  constructor
  · intro h
    split at h
    · cases h
    rename_i hchecks
    simp only [not_or, ne_eq, Decidable.not_not, Bool.not_eq_false] at hchecks
    exact ⟨hchecks.1, hchecks.2.1, hchecks.2.2, (Except.ok.inj h).symm⟩
  · rintro ⟨henabled, hsession, hvalid, rfl⟩
    rw [if_neg (by simp [henabled, hsession, hvalid])]

theorem decode_encode_drain (henabled : a.coordinatedDrainEnabled = true)
    (hsession : message.sessionID = a.sessionID) (hvalid : validStreamDrainMessage message = true) :
    a.decodeDrainMessage hmac
      (authenticate hmac streamDrainMessageLabel a.drainKey (drainStart message))
      message.senderRole = .ok message := by
  obtain ⟨hmagic, hversion, hreserved⟩ := @drainStart_head message
  generalize hwire :
    authenticate hmac streamDrainMessageLabel a.drainKey (drainStart message) = wire
  have hstart : slice wire 0 97 = drainStart message := by
    rw [← hwire, ← @length_drainStart message]
    exact slice_authenticate
  have hmessage : drainMessageOf wire = message := by
    rw [← drainMessageOf_slice, hstart, drainMessageOf_drainStart]
  have hlen : wire.length = 129 := by rw [← hwire, length_authenticate, length_drainStart]
  have hauthentic : authentic hmac streamDrainMessageLabel a.drainKey 97 wire = true := by
    rw [← hwire, ← @length_drainStart message]
    exact authentic_authenticate
  rw [← hstart, slice_slice_zero (by decide)] at hmagic
  rw [← hstart, byteAt_slice_zero (by decide)] at hversion hreserved
  unfold StreamPathAuth.decodeDrainMessage
  rw [if_neg (by simp [henabled, hlen, hmagic, hversion]), if_neg (by simp [hreserved]),
    if_neg (by simp [hauthentic]), hmessage]
  dsimp only
  rw [if_neg (by simp [hsession, hvalid])]

theorem decodeDrainMessage_ok (h : a.decodeDrainMessage hmac wire role = .ok message) :
    message.senderRole = role ∧ a.encodeDrainMessage hmac message = .ok wire := by
  unfold StreamPathAuth.decodeDrainMessage at h
  split at h
  · cases h
  rename_i hlayout
  split at h
  · cases h
  rename_i hreserved
  split at h
  · cases h
  rename_i hauthentic
  dsimp only at h
  split at h
  · cases h
  rename_i hchecks
  simp only [not_or, ne_eq, Decidable.not_not, Bool.not_eq_false]
    at hlayout hreserved hauthentic hchecks
  obtain ⟨henabled, hlen, hmagic, hversion⟩ := hlayout
  obtain ⟨hsession, hrole, hvalid⟩ := hchecks
  cases h
  refine ⟨hrole, encodeDrainMessage_ok_iff.2 ⟨henabled, hsession, hvalid, ?_⟩⟩
  have hstart : drainStart (drainMessageOf wire) = slice wire 0 97 := by
    rw [← drainMessageOf_slice]
    exact drainStart_drainMessageOf (length_slice (by omega))
      ((slice_slice_zero (by decide)).trans hmagic)
      ((byteAt_slice_zero (by decide)).trans hversion)
      ((byteAt_slice_zero (by decide)).trans hreserved)
  rw [hstart]
  exact (authenticate_of_authentic hlen hauthentic).symm

/-- A valid drain message. -/
structure ValidDrainMessage (message : StreamDrainMessage) : Prop where
  kind : ¬ (message.kind < streamDrainIntent ∨ message.kind > streamDrainAbort)
  role : message.senderRole = streamPathRoleClient ∨ message.senderRole = streamPathRoleServer
  generation : message.generation ≠ 0#64
  counter : message.counter ≠ 0#64
  targetBinding : message.targetBinding ≠ 0#128
  operationID : message.operationID ≠ 0#128
  settled : message.kind = streamDrainReady ∨ message.kind = streamDrainCommit ∨
      message.kind = streamDrainCommitAck →
    message.outstandingFrames = 0#32 ∧ message.outstandingBytes = 0#64

theorem validStreamDrainMessage_eq_true_iff :
    validStreamDrainMessage message = true ↔ ValidDrainMessage message := by
  unfold validStreamDrainMessage
  constructor
  · intro h
    split at h
    · cases h
    rename_i hhead
    split at h
    · cases h
    rename_i htokens
    split at h
    · cases h
    rename_i hcounts
    simp only [not_or] at hhead htokens
    obtain ⟨hlow, hhigh, hrole, hgeneration, hcounter⟩ := hhead
    refine ⟨not_or.2 ⟨hlow, hhigh⟩, Decidable.or_iff_not_not_and_not.2 hrole, hgeneration, hcounter,
      htokens.1, htokens.2, ?_⟩
    intro hkind
    have hzero := not_and.1 hcounts hkind
    rwa [not_or, ne_eq, Decidable.not_not, ne_eq, Decidable.not_not] at hzero
  · intro h
    rw [if_neg, if_neg, if_neg]
    · rintro ⟨hkind, hframes | hbytes⟩
      · exact hframes (h.settled hkind).1
      · exact hbytes (h.settled hkind).2
    · exact not_or.2 ⟨h.targetBinding, h.operationID⟩
    · rintro (hlow | hhigh | hrole | hgeneration | hcounter)
      · exact h.kind (Or.inl hlow)
      · exact h.kind (Or.inr hhigh)
      · exact Decidable.or_iff_not_not_and_not.1 h.role hrole
      · exact h.generation hgeneration
      · exact h.counter hcounter

end DrainExact

section Exact

/--
The path control codecs are exact and canonical, for every keyed hash.  For RTT
messages: the encoder takes exactly the valid ones, the decoder with the same key and
the message's binding gives the message back, and whatever it accepts encodes to the
same bytes.  For drain messages the same, with the sender's role as the expected one;
and an accepted message has the expected role, the session of the authentication, a
known kind, and no outstanding counts where its kind forbids them.
-/
theorem path_control_codecs_exact (hmac : Mac) :
    (∀ message key, (∃ wire, encodeStreamRTTMessage hmac message key = .ok wire) ↔
      validateStreamRTTMessage message = none) ∧
    (∀ message key wire, encodeStreamRTTMessage hmac message key = .ok wire →
      decodeStreamRTTMessage hmac wire key message.identity.binding = .ok message) ∧
    (∀ wire key binding message, decodeStreamRTTMessage hmac wire key binding = .ok message →
      message.identity.binding = binding ∧ encodeStreamRTTMessage hmac message key = .ok wire) ∧
    (∀ (a : StreamPathAuth) message, (∃ wire, a.encodeDrainMessage hmac message = .ok wire) ↔
      a.coordinatedDrainEnabled = true ∧ message.sessionID = a.sessionID ∧
        validStreamDrainMessage message = true) ∧
    (∀ (a : StreamPathAuth) message wire, a.encodeDrainMessage hmac message = .ok wire →
      a.decodeDrainMessage hmac wire message.senderRole = .ok message) ∧
    (∀ (a : StreamPathAuth) wire role message,
      a.decodeDrainMessage hmac wire role = .ok message →
      a.encodeDrainMessage hmac message = .ok wire ∧
      message.senderRole = role ∧ message.sessionID = a.sessionID ∧
      (streamDrainIntent ≤ message.kind ∧ message.kind ≤ streamDrainAbort) ∧
      (message.kind = streamDrainReady ∨ message.kind = streamDrainCommit ∨
          message.kind = streamDrainCommitAck →
        message.outstandingFrames = 0#32 ∧ message.outstandingBytes = 0#64)) := by
  refine ⟨?_, ?_, ?_, ?_, ?_, ?_⟩
  · intro message key
    constructor
    · rintro ⟨wire, h⟩
      exact (encodeStreamRTTMessage_ok_iff.1 h).1
    · intro hvalid
      exact ⟨_, encodeStreamRTTMessage_ok_iff.2 ⟨hvalid, rfl⟩⟩
  · intro message key wire h
    obtain ⟨hvalid, rfl⟩ := encodeStreamRTTMessage_ok_iff.1 h
    exact decode_encode_rtt (validateStreamRTTMessage_eq_none_iff.1 hvalid)
  · intro wire key binding message h
    obtain ⟨hbinding, hvalid, hwire⟩ := decodeStreamRTTMessage_ok h
    exact ⟨hbinding, encodeStreamRTTMessage_ok_iff.2
      ⟨validateStreamRTTMessage_eq_none_iff.2 hvalid, hwire.symm⟩⟩
  · intro a message
    constructor
    · rintro ⟨wire, h⟩
      obtain ⟨henabled, hsession, hvalid, -⟩ := encodeDrainMessage_ok_iff.1 h
      exact ⟨henabled, hsession, hvalid⟩
    · rintro ⟨henabled, hsession, hvalid⟩
      exact ⟨_, encodeDrainMessage_ok_iff.2 ⟨henabled, hsession, hvalid, rfl⟩⟩
  · intro a message wire h
    obtain ⟨henabled, hsession, hvalid, rfl⟩ := encodeDrainMessage_ok_iff.1 h
    exact decode_encode_drain henabled hsession hvalid
  · intro a wire role message h
    obtain ⟨hrole, hencode⟩ := decodeDrainMessage_ok h
    obtain ⟨-, hsession, hvalid, -⟩ := encodeDrainMessage_ok_iff.1 hencode
    have hmessage := validStreamDrainMessage_eq_true_iff.1 hvalid
    obtain ⟨hlow, hhigh⟩ := not_or.1 hmessage.kind
    exact ⟨hencode, hrole, hsession, ⟨UInt8.not_lt.1 hlow, UInt8.not_lt.1 hhigh⟩,
      hmessage.settled⟩

/-- A probe of the second leg and an abort of the client go through. -/
theorem path_control_codecs_exact_example :
    let hmac : Mac := fun key message => BitVec.ofNat 256 (key.length + message.length)
    let probe : StreamRTTMessage :=
      { kind := streamRTTProbe, token := 7#64
        identity :=
          { sessionID := 5#128, legID := 1, carrierID := "b", generation := 2#64
            direction := streamRTTServerToClient } }
    let auth : StreamPathAuth :=
      { sessionID := 5#128, legID := 1, capabilities := knownStreamCapabilities
        drainKey := 11#256, authenticated := true }
    let abort : StreamDrainMessage :=
      { kind := streamDrainAbort, senderRole := streamPathRoleClient, sessionID := 5#128
        targetLeg := 1, generation := 2#64, targetBinding := 3#128, operationID := 4#128
        counter := 1#64, ackedNext := 0#64, outstandingFrames := 6#32, outstandingBytes := 600#64 }
    (∃ wire, decodeStreamRTTMessage hmac wire 9#256 probe.identity.binding = .ok probe) ∧
      ∃ wire, auth.decodeDrainMessage hmac wire abort.senderRole = .ok abort :=
  ⟨⟨_, (path_control_codecs_exact _).2.1 _ _ _ (encodeStreamRTTMessage_ok_iff.2 ⟨rfl, rfl⟩)⟩,
    ⟨_, (path_control_codecs_exact _).2.2.2.2.1 _ _ _
      (encodeDrainMessage_ok_iff.2 ⟨rfl, rfl, rfl, rfl⟩)⟩⟩

end Exact

end Smp3Multipath.Core.Wire

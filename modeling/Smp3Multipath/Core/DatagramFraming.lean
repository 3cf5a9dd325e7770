import Smp3Multipath.Core.StreamFraming

/-!
# Datagram framing

A frame on a datagram leg is the header of a stream frame, with the datagram type, the id and the
length of what follows: the length of the address, the address and the data.  The writer hands
over the parts one after another and calls `Write` until each is taken, so that a short count does
no harm.  The reader checks every length before it makes a buffer.

The reader adds its maximum to the size of the largest address in a machine word: a maximum near
the end of the word makes the sum negative and every frame too long
(`datagram_maximum_wraps`).  The maximum of an engine is far below (`maxDatagramSize_le`).
-/

namespace Smp3Multipath.Core.Wire

open Lib.Bytes Lib.ByteStream List

section Frames

def datagramFrameType : UInt8 := 5
def maxDatagramPayload : Nat := 16 * 1024
def maxDatagramAddressSize : Nat := 512

/-- `datagramFrame`; the time at which it was queued is left out. -/
structure DatagramFrame where
  id : BitVec 64
  address : List UInt8
  data : List UInt8
deriving DecidableEq

inductive DatagramError where
  | invalidAddress
  | frameTooLarge
  | unexpectedFrame
  | invalidFrameLength
  | invalidAddressLength
  | exceedsMaximum
  | read (e : ReadError)
  | write (e : WriteError)
deriving DecidableEq

/-- `MaxDatagramSize` of an engine, from its configuration. -/
def maxDatagramSize (configured : Int64) : Int64 :=
  let size := if configured.toInt ≤ 0 then Int64.ofNat maxDatagramPayload else configured
  if size.toInt > maxStreamFramePayload - 2 - 512 then
    Int64.ofNat (maxStreamFramePayload - 2 - 512)
  else size

end Frames

section Writer

def writeDatagramParts (sink : Sink) : List (List UInt8) → Except WriteError Unit × Sink
  | [] => (.ok (), sink)
  | part :: parts =>
    match writeFull .unexpectedEOF sink part with
    | (.error e, sink) => (.error e, sink)
    | (.ok (), sink) => writeDatagramParts sink parts

def DatagramFrame.payloadLength (frame : DatagramFrame) : Nat :=
  2 + frame.address.length + frame.data.length

def DatagramFrame.header (frame : DatagramFrame) : StreamFrameHeader :=
  { type := datagramFrameType, value := frame.id, length := BitVec.ofNat 32 frame.payloadLength }

/-- The parts in which a frame goes out. -/
def DatagramFrame.parts (frame : DatagramFrame) : List (List UInt8) :=
  [headerBytes frame.header, putBits 2 (BitVec.ofNat 16 frame.address.length), frame.address,
    frame.data]

def writeDatagramFrame (sink : Sink) (frame : DatagramFrame) : Except DatagramError Unit × Sink :=
  if frame.address.length = 0 ∨ frame.address.length > maxDatagramAddressSize then
    (.error .invalidAddress, sink)
  else if frame.payloadLength > maxStreamFramePayload then (.error .frameTooLarge, sink)
  else
    match writeDatagramParts sink frame.parts with
    | (.error e, sink) => (.error (.write e), sink)
    | (.ok (), sink) => (.ok (), sink)

/-- Frames one after another, up to the first error. -/
def writeDatagramFrames (sink : Sink) : List DatagramFrame → Except DatagramError Unit × Sink
  | [] => (.ok (), sink)
  | frame :: frames =>
    match writeDatagramFrame sink frame with
    | (.error e, sink) => (.error e, sink)
    | (.ok (), sink) => writeDatagramFrames sink frames

end Writer

section Reader

/-- The longest payload for a maximum, in a machine word. -/
def maxPayloadLength (maxDatagram : Int64) : Int64 :=
  Int64.ofNat (2 + maxDatagramAddressSize) + maxDatagram

/-- What `ReadDatagramFrame` makes of a payload. -/
def parsePayload (maxDatagram : Int64) (id : BitVec 64) (payload : List UInt8) :
    Except DatagramError DatagramFrame :=
  let addressLength := (getBits 16 (slice payload 0 2)).toNat
  if addressLength = 0 ∨ addressLength > maxDatagramAddressSize ∨
      2 + addressLength > payload.length then
    .error .invalidAddressLength
  else
    let data := payload.drop (2 + addressLength)
    if (data.length : Int) > maxDatagram.toInt then .error .exceedsMaximum
    else .ok { id := id, address := slice payload 2 (2 + addressLength), data := data }

def readDatagramFrame (maxDatagram : Int64) (source : Source) :
    Except DatagramError DatagramFrame × Source :=
  match readFull source streamFrameHeaderSize with
  | (.error e, source) => (.error (.read e), source)
  | (.ok wire, source) =>
    let header := headerOfBytes wire
    if header.type ≠ datagramFrameType then (.error .unexpectedFrame, source)
    else
      let payloadLength := header.length.toNat
      if payloadLength < 3 ∨ (payloadLength : Int) > (maxPayloadLength maxDatagram).toInt ∨
          payloadLength > maxStreamFramePayload then
        (.error .invalidFrameLength, source)
      else
        match readFull source payloadLength with
        | (.error e, source) => (.error (.read e), source)
        | (.ok payload, source) => (parsePayload maxDatagram header.value payload, source)

/-- The next frames of a stream. -/
def readDatagramFrames (maxDatagram : Int64) :
    Nat → Source → Except DatagramError (List DatagramFrame) × Source
  | 0, source => (.ok [], source)
  | k + 1, source =>
    match readDatagramFrame maxDatagram source with
    | (.error e, source) => (.error e, source)
    | (.ok frame, source) =>
      match readDatagramFrames maxDatagram k source with
      | (.error e, source) => (.error e, source)
      | (.ok frames, source) => (.ok (frame :: frames), source)

end Reader

section Validity

variable {frame : DatagramFrame} {maxDatagram : Int64}

/-- A frame within the limits of the format, and of this maximum. -/
structure ValidDatagram (maxDatagram : Int64) (frame : DatagramFrame) : Prop where
  address_pos : 0 < frame.address.length
  address_le : frame.address.length ≤ maxDatagramAddressSize
  data_le : (frame.data.length : Int) ≤ maxDatagram.toInt
  payload_le : frame.payloadLength ≤ maxStreamFramePayload

/-- The maximum leaves room for the largest address in the word. -/
def Fits (maxDatagram : Int64) : Prop :=
  maxDatagram.toInt + (2 + maxDatagramAddressSize) < 2 ^ 63
deriving Decidable

/-- The bytes of a frame. -/
def DatagramFrame.bytes (frame : DatagramFrame) : List UInt8 :=
  frame.parts.flatten

theorem DatagramFrame.bytes_eq (frame : DatagramFrame) :
    frame.bytes = headerBytes frame.header ++
      (putBits 2 (BitVec.ofNat 16 frame.address.length) ++ frame.address ++ frame.data) := by
  simp [DatagramFrame.bytes, DatagramFrame.parts]

theorem ValidDatagram.toNat_length (h : ValidDatagram maxDatagram frame) :
    frame.header.length.toNat = frame.payloadLength := by
  have hle := h.payload_le
  have hmax : maxStreamFramePayload < 2 ^ 32 := by decide
  rw [DatagramFrame.header, BitVec.toNat_ofNat]
  exact Nat.mod_eq_of_lt (Nat.lt_of_le_of_lt hle hmax)

theorem toInt_maxPayloadLength (h : Fits maxDatagram) :
    (maxPayloadLength maxDatagram).toInt = maxDatagram.toInt + 514 := by
  have hlow := Int64.le_toInt maxDatagram
  have hsize : (Int64.ofNat (2 + maxDatagramAddressSize)).toInt = 514 := by decide
  simp only [Fits, maxDatagramAddressSize] at h
  rw [maxPayloadLength, Int64.toInt_add, hsize, Int.bmod_eq_of_le (by omega) (by omega)]
  omega

/-- The maximum of an engine leaves room for the largest address within a frame. -/
theorem maxDatagramSize_le (configured : Int64) :
    (maxDatagramSize configured).toInt ≤ maxStreamFramePayload - 2 - 512 := by
  unfold maxDatagramSize
  generalize (if configured.toInt ≤ 0 then Int64.ofNat maxDatagramPayload else configured) = size
  dsimp only
  split
  · decide
  · omega

theorem fits_maxDatagramSize (configured : Int64) : Fits (maxDatagramSize configured) := by
  have hle := maxDatagramSize_le configured
  simp only [maxStreamFramePayload] at hle
  simp only [Fits, maxDatagramAddressSize]
  omega

end Validity

section Writing

variable {frame : DatagramFrame} {frames : List DatagramFrame} {maxDatagram : Int64}
variable {sink sink' : Sink} {parts : List (List UInt8)}

theorem writeDatagramParts_ok (h : writeDatagramParts sink parts = (.ok (), sink')) :
    sink'.taken = sink.taken ++ parts.flatten := by
  induction parts generalizing sink with
  | nil =>
    cases h
    simp
  | cons part parts ih =>
    rw [writeDatagramParts] at h
    split at h
    · cases h
    next hpart =>
      rw [ih h, writeFull_ok hpart, flatten_cons, append_assoc]

theorem writeDatagramParts_of_progress (h : sink.Progress) :
    ∃ sink', writeDatagramParts sink parts = (.ok (), sink') ∧ sink'.Progress := by
  induction parts generalizing sink with
  | nil => exact ⟨sink, rfl, h⟩
  | cons part parts ih =>
    obtain ⟨after, hwrite, hafter⟩ := @writeFull_of_progress .unexpectedEOF sink part h
    rw [writeDatagramParts, hwrite]
    exact ih hafter

theorem writeDatagramFrame_eq (hvalid : ValidDatagram maxDatagram frame) :
    writeDatagramFrame sink frame =
      match writeDatagramParts sink frame.parts with
      | (.error e, sink) => (.error (.write e), sink)
      | (.ok (), sink) => (.ok (), sink) := by
  have hpos := hvalid.address_pos
  have hle := hvalid.address_le
  have hpayload := hvalid.payload_le
  rw [writeDatagramFrame, if_neg (by omega), if_neg (by omega)]

theorem writeDatagramFrames_ok (hvalid : ∀ frame ∈ frames, ValidDatagram maxDatagram frame)
    (h : writeDatagramFrames sink frames = (.ok (), sink')) :
    sink'.taken = sink.taken ++ frames.flatMap DatagramFrame.bytes := by
  induction frames generalizing sink with
  | nil =>
    cases h
    simp
  | cons frame frames ih =>
    rw [writeDatagramFrames, writeDatagramFrame_eq (hvalid frame mem_cons_self)] at h
    split at h
    · cases h
    next hframe =>
      split at hframe
      · cases hframe
      next hparts =>
        cases hframe
        have hrest := ih (fun f hf => hvalid f (mem_cons_of_mem _ hf)) h
        rw [hrest, writeDatagramParts_ok hparts, flatMap_cons, append_assoc]
        rfl

theorem writeDatagramFrames_of_progress
    (hvalid : ∀ frame ∈ frames, ValidDatagram maxDatagram frame) (hsink : sink.Progress) :
    ∃ sink', writeDatagramFrames sink frames = (.ok (), sink') := by
  induction frames generalizing sink with
  | nil => exact ⟨sink, rfl⟩
  | cons frame frames ih =>
    obtain ⟨after, hwrite, hafter⟩ :=
      @writeDatagramParts_of_progress sink frame.parts hsink
    obtain ⟨sink', hrest⟩ := ih (fun f hf => hvalid f (mem_cons_of_mem _ hf)) hafter
    refine ⟨sink', ?_⟩
    rw [writeDatagramFrames, writeDatagramFrame_eq (hvalid frame mem_cons_self), hwrite]
    exact hrest

end Writing

section Reading

variable {frame : DatagramFrame} {frames : List DatagramFrame} {maxDatagram : Int64}
variable {source source' : Source} {payload rest : List UInt8} {id : BitVec 64}

theorem parsePayload_of_valid (hvalid : ValidDatagram maxDatagram frame) :
    parsePayload maxDatagram frame.id
        (putBits 2 (BitVec.ofNat 16 frame.address.length) ++ frame.address ++ frame.data) =
      .ok frame := by
  obtain ⟨hpos, hle, hdata, -⟩ := hvalid
  have hsize : maxDatagramAddressSize < 2 ^ 16 := by decide
  have hlength : (getBits 16 (slice (putBits 2 (BitVec.ofNat 16 frame.address.length) ++
      frame.address ++ frame.data) 0 2)).toNat = frame.address.length := by
    rw [append_assoc, slice_append_left (length_putBits 2 _), getBits_putBits _ (by decide),
      BitVec.toNat_ofNat]
    omega
  have haddress : slice (putBits 2 (BitVec.ofNat 16 frame.address.length) ++ frame.address ++
      frame.data) 2 (2 + frame.address.length) = frame.address := by
    rw [slice_append_of_le (by simp), slice_append_right (by simp)]
    simp [slice_self]
  have hrest : (putBits 2 (BitVec.ofNat 16 frame.address.length) ++ frame.address ++
      frame.data).drop (2 + frame.address.length) = frame.data :=
    drop_left' (by simp)
  have hlengths : ¬ (frame.address.length = 0 ∨ frame.address.length > maxDatagramAddressSize ∨
      2 + frame.address.length > (putBits 2 (BitVec.ofNat 16 frame.address.length) ++
        frame.address ++ frame.data).length) := by
    simp only [length_append, length_putBits]
    omega
  simp only [parsePayload, hlength, haddress, hrest]
  rw [if_neg hlengths, if_neg (by omega)]

theorem parsePayload_ok (h : parsePayload maxDatagram id payload = .ok frame) :
    frame.id = id ∧ 0 < frame.address.length ∧ frame.address.length ≤ maxDatagramAddressSize ∧
      (frame.data.length : Int) ≤ maxDatagram.toInt ∧
      payload =
        putBits 2 (BitVec.ofNat 16 frame.address.length) ++ frame.address ++ frame.data := by
  simp only [parsePayload] at h
  generalize hn : (getBits 16 (slice payload 0 2)).toNat = n at h
  split at h
  · cases h
  next hlengths =>
    split at h
    · cases h
    next hdata =>
      cases h
      have hlen : (slice payload 2 (2 + n)).length = n := by
        rw [length_slice (by omega)]
        omega
      have hprefixed : putBits 2 (BitVec.ofNat 16 n) = slice payload 0 2 := by
        rw [← hn, BitVec.ofNat_toNat, BitVec.setWidth_eq,
          putBits_getBits_slice (by decide) (by decide) (by omega)]
      refine ⟨rfl, by simp only [hlen]; omega, by simp only [hlen]; omega,
        Int.not_lt.1 hdata, ?_⟩
      simp only [hlen]
      rw [hprefixed, slice_append_slice (by omega) (by omega), slice, drop_zero,
        take_append_drop]

theorem readDatagramFrame_of_flatten (hfits : Fits maxDatagram)
    (hvalid : ValidDatagram maxDatagram frame) (hflat : source.flatten = frame.bytes ++ rest) :
    ∃ source', readDatagramFrame maxDatagram source = (.ok frame, source') ∧
      source'.flatten = rest := by
  have hlength := hvalid.toNat_length
  have hlimit := toInt_maxPayloadLength hfits
  obtain ⟨hpos, hle, hdata, hpayload⟩ := hvalid
  rw [DatagramFrame.bytes_eq, append_assoc] at hflat
  obtain ⟨source₁, hheader, hflat₁⟩ := readFull_of_flatten hflat (length_headerBytes _)
  obtain ⟨source₂, hread, hrest⟩ := readFull_of_flatten (k := frame.payloadLength) hflat₁ (by
    simp [DatagramFrame.payloadLength]
    omega)
  refine ⟨source₂, ?_, hrest⟩
  have hlengths : ¬ (frame.payloadLength < 3 ∨
      (frame.payloadLength : Int) > (maxPayloadLength maxDatagram).toInt ∨
      frame.payloadLength > maxStreamFramePayload) := by
    simp only [DatagramFrame.payloadLength, maxDatagramAddressSize] at hle hpayload ⊢
    omega
  rw [readDatagramFrame, streamFrameHeaderSize, hheader]
  simp only [headerOfBytes_headerBytes, hlength]
  rw [if_neg (by simp [DatagramFrame.header]), if_neg hlengths, hread]
  exact congrArg (·, source₂) (parsePayload_of_valid ⟨hpos, hle, hdata, hpayload⟩)

theorem readDatagramFrames_of_flatten (hfits : Fits maxDatagram)
    (hvalid : ∀ frame ∈ frames, ValidDatagram maxDatagram frame)
    (hflat : source.flatten = frames.flatMap DatagramFrame.bytes ++ rest) :
    ∃ source', readDatagramFrames maxDatagram frames.length source = (.ok frames, source') ∧
      source'.flatten = rest := by
  induction frames generalizing source with
  | nil => exact ⟨source, rfl, hflat⟩
  | cons frame frames ih =>
    rw [flatMap_cons, append_assoc] at hflat
    obtain ⟨source₁, hframe, hflat₁⟩ :=
      readDatagramFrame_of_flatten hfits (hvalid frame mem_cons_self) hflat
    obtain ⟨source₂, hrest, hflat₂⟩ :=
      ih (fun f hf => hvalid f (mem_cons_of_mem _ hf)) hflat₁
    refine ⟨source₂, ?_, hflat₂⟩
    rw [length_cons, readDatagramFrames, hframe]
    dsimp only
    rw [hrest]

theorem readDatagramFrame_of_flatten_nil (hflat : source.flatten = []) :
    readDatagramFrame maxDatagram source = (.error (.read .eof), []) := by
  rw [readDatagramFrame, streamFrameHeaderSize, readFull_of_flatten_nil hflat]

theorem readDatagramFrame_ok (h : readDatagramFrame maxDatagram source = (.ok frame, source')) :
    ValidDatagram maxDatagram frame ∧ source.flatten = frame.bytes ++ source'.flatten := by
  rw [readDatagramFrame] at h
  split at h
  · cases h
  next wire source₁ hwire =>
    obtain ⟨hlen, hflat⟩ := readFull_ok hwire
    dsimp only at h
    split at h
    · cases h
    next htype =>
      split at h
      · cases h
      next hlengths =>
        split at h
        · cases h
        next payload source₂ hpayload =>
          obtain ⟨hplen, hpflat⟩ := readFull_ok hpayload
          obtain ⟨hparse, rfl⟩ := Prod.mk.inj h
          obtain ⟨hid, hpos, hle, hdata, hbytes⟩ := parsePayload_ok hparse
          have hsum : (headerOfBytes wire).length.toNat = frame.payloadLength := by
            rw [← hplen, hbytes]
            simp [DatagramFrame.payloadLength]
            omega
          have hheader : headerOfBytes wire = frame.header := by
            rw [DatagramFrame.header, hid, ← hsum, BitVec.ofNat_toNat, BitVec.setWidth_eq,
              ← Decidable.not_not.1 htype]
          refine ⟨⟨hpos, hle, hdata, by omega⟩, ?_⟩
          rw [hflat, hpflat, DatagramFrame.bytes_eq, ← hheader, headerBytes_headerOfBytes hlen,
            ← hbytes, append_assoc]

end Reading

section Lossless

/--
Datagram framing is lossless up to the maxima that leave room for an address in the word.  What is
written, in whatever pieces, reads back as the same frames in any segmentation, with the stream
then at its end; frames within the limits are written over every connection that goes on taking
bytes; and what is accepted under any maximum is the encoding of the frame returned, which is
within the limits.
-/
theorem datagram_framing_lossless :
    (∀ maxDatagram frames sink sink', Fits maxDatagram →
      (∀ frame ∈ frames, ValidDatagram maxDatagram frame) →
      writeDatagramFrames sink frames = (.ok (), sink') →
      ∃ bytes, sink'.taken = sink.taken ++ bytes ∧
        ∀ source, source.flatten = bytes →
          ∃ source',
            readDatagramFrames maxDatagram frames.length source = (.ok frames, source') ∧
              readDatagramFrame maxDatagram source' = (.error (.read .eof), [])) ∧
    (∀ maxDatagram frames sink, (∀ frame ∈ frames, ValidDatagram maxDatagram frame) →
      sink.Progress → ∃ sink', writeDatagramFrames sink frames = (.ok (), sink')) ∧
    (∀ maxDatagram frame source source',
      readDatagramFrame maxDatagram source = (.ok frame, source') →
        ValidDatagram maxDatagram frame ∧ source.flatten = frame.bytes ++ source'.flatten) ∧
    (∀ configured, Fits (maxDatagramSize configured)) := by
  refine ⟨?_, ?_, ?_, fits_maxDatagramSize⟩
  · intro maxDatagram frames sink sink' hfits hvalid hwrite
    refine ⟨_, writeDatagramFrames_ok hvalid hwrite, fun source hflat => ?_⟩
    rw [← append_nil (frames.flatMap DatagramFrame.bytes)] at hflat
    obtain ⟨source', hread, hrest⟩ := readDatagramFrames_of_flatten hfits hvalid hflat
    exact ⟨source', hread, readDatagramFrame_of_flatten_nil hrest⟩
  · intro maxDatagram frames sink hvalid hsink
    exact writeDatagramFrames_of_progress hvalid hsink
  · intro maxDatagram frame source source' hread
    exact readDatagramFrame_ok hread

/-- Two datagrams under the default maximum, the first in pieces. -/
theorem datagram_framing_lossless_default :
    let frames : List DatagramFrame := [⟨7#64, [97], [1, 2]⟩, ⟨8#64, [97, 98], []⟩]
    ∃ bytes, (writeDatagramFrames ⟨[(1, false), (5, false)], []⟩ frames).2.taken = [] ++ bytes ∧
      ∀ source, source.flatten = bytes →
        ∃ source',
          readDatagramFrames (maxDatagramSize 0) frames.length source = (.ok frames, source') ∧
            readDatagramFrame (maxDatagramSize 0) source' = (.error (.read .eof), []) := by
  intro frames
  refine datagram_framing_lossless.1 (maxDatagramSize 0) frames ⟨[(1, false), (5, false)], []⟩ _
    (by decide) ?_ rfl
  intro frame hframe
  simp only [frames, mem_cons, not_mem_nil, or_false] at hframe
  rcases hframe with rfl | rfl
  · exact ⟨by decide, by decide, by decide, by decide⟩
  · exact ⟨by decide, by decide, by decide, by decide⟩

/-- A datagram of one byte is written, and refused under the largest maximum there is. -/
theorem datagram_maximum_wraps : let frame : DatagramFrame := ⟨0#64, [97], [1]⟩
    ValidDatagram Int64.maxValue frame ∧
      (writeDatagramFrames ⟨[], []⟩ [frame]).1 = .ok () ∧
      readDatagramFrame Int64.maxValue [(writeDatagramFrames ⟨[], []⟩ [frame]).2.taken] =
        (.error .invalidFrameLength, [[0, 1, 97, 1]]) := by
  exact ⟨⟨by decide, by decide, by decide, by decide⟩, by decide +kernel, by decide +kernel⟩

end Lossless

end Smp3Multipath.Core.Wire

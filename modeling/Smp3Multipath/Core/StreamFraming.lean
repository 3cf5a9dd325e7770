import Smp3Multipath.Core.HelloCodec

/-!
# Stream framing

A frame on a stream carrier is a header of type, value and payload length, and the
payload.  Three writers make frames: DATA goes out as header and payload in two calls
of `Write`, the small control frames as a header alone, and the RTT and drain messages
as header and payload in one buffer.  One reader splits them again.

The control writers call `Write` until everything is taken.  The DATA writer calls it
once for the header and once for the payload and reports a short count as an error, so
that it does not stand every connection (`framing_short_data_write`); but what all
writers report as written is read back, in any segmentation
(`stream_framing_lossless`).
-/

namespace Smp3Multipath.Core.Wire

open Lib.Bytes Lib.ByteStream List

section Types

def streamFrameData : UInt8 := 1
def streamFrameActivate : UInt8 := 2
def streamFrameACK : UInt8 := 3
def streamFrameClose : UInt8 := 4
def streamFramePathRTT : UInt8 := 5
def streamFrameDrain : UInt8 := 6

def streamFrameHeaderSize : Nat := 13
def maxStreamFramePayload : Nat := 2 ^ 20
def streamRTTMessageSize : Nat := 68
def streamDrainControlMessageSize : Nat := 129

structure StreamFrameHeader where
  type : UInt8
  value : BitVec 64
  length : BitVec 32
deriving DecidableEq

structure WireFrame where
  typ : UInt8
  seq : BitVec 64
  data : List UInt8
deriving DecidableEq

inductive FrameError where
  | unknownStreamFrameType
  | invalidControlFrameSize
  | invalidStreamFrameLength
  | pathMessage
  | drainMessage
  | gate
  | read (e : ReadError)
  | write (e : WriteError)
deriving DecidableEq

end Types

section Header

def validateStreamFrameHeader (header : StreamFrameHeader) : Option FrameError :=
  if header.type = streamFrameData then
    if header.length.toNat = 0 ∨ header.length.toNat > maxStreamFramePayload then
      some .invalidStreamFrameLength
    else none
  else if header.type = streamFrameActivate ∨ header.type = streamFrameACK ∨
      header.type = streamFrameClose then
    if header.length.toNat ≠ 0 then some .invalidControlFrameSize else none
  else if header.type = streamFramePathRTT then
    if header.value ≠ 0#64 ∨ header.length.toNat ≠ streamRTTMessageSize then
      some .invalidControlFrameSize
    else none
  else if header.type = streamFrameDrain then
    if header.value ≠ 0#64 ∨ header.length.toNat ≠ streamDrainControlMessageSize then
      some .invalidControlFrameSize
    else none
  else some .unknownStreamFrameType

/-- The thirteen bytes of a header. -/
def headerBytes (header : StreamFrameHeader) : List UInt8 :=
  [header.type] ++ putBits 8 header.value ++ putBits 4 header.length

/-- What thirteen bytes say. -/
def headerOfBytes (wire : List UInt8) : StreamFrameHeader :=
  { type := byteAt wire 0
    value := getBits 64 (slice wire 1 9)
    length := getBits 32 (slice wire 9 13) }

/-- `EncodeStreamFrameHeader` into a buffer of the header's size. -/
def encodeStreamFrameHeader (header : StreamFrameHeader) : Except FrameError (List UInt8) :=
  match validateStreamFrameHeader header with
  | some e => .error e
  | none => .ok (headerBytes header)

def readStreamFrameHeader (source : Source) : Except FrameError StreamFrameHeader × Source :=
  match readFull source streamFrameHeaderSize with
  | (.error e, source) => (.error (.read e), source)
  | (.ok wire, source) =>
    let header := headerOfBytes wire
    match validateStreamFrameHeader header with
    | some e => (.error e, source)
    | none => (.ok header, source)

end Header

section Writers

/-- `writeDataFrameWithGate`: the bytes taken, whether the gate was passed, and the result.
`gate` is the error that the gate returns at the first `Write`, if any. -/
def writeDataFrameWithGate (sink : Sink) (seq : BitVec 64) (data : List UInt8)
    (gate : Option FrameError) : Nat × Bool × Except FrameError Unit × Sink :=
  match encodeStreamFrameHeader
      { type := streamFrameData, value := seq, length := BitVec.ofNat 32 data.length } with
  | .error e => (0, false, .error e, sink)
  | .ok header =>
    match gate with
    | some e => (0, false, .error e, sink)
    | none =>
      match writeBuffers sink [header, data] with
      | (written, .error e, sink) => (written, true, .error (.write e), sink)
      | (written, .ok (), sink) =>
        if written ≠ streamFrameHeaderSize + data.length then
          (written, true, .error (.write .shortWrite), sink)
        else (written, true, .ok (), sink)

def writeAll (sink : Sink) (buffer : List UInt8) : Except FrameError Unit × Sink :=
  match writeFull .unexpectedEOF sink buffer with
  | (.error e, sink) => (.error (.write e), sink)
  | (.ok (), sink) => (.ok (), sink)

/-- `encodeControlFrame`; the header of a type that is refused stays empty. -/
def encodeControlFrame (typ : UInt8) (value : BitVec 64) : List UInt8 :=
  match encodeStreamFrameHeader { type := typ, value := value, length := 0#32 } with
  | .ok header => header
  | .error _ => List.replicate streamFrameHeaderSize 0

/-- A header of a control type with value zero, and its payload, in one buffer. -/
def writePayloadFrame (sink : Sink) (typ : UInt8) (payload : List UInt8) :
    Except FrameError Unit × Sink :=
  match encodeStreamFrameHeader
      { type := typ, value := 0#64, length := BitVec.ofNat 32 payload.length } with
  | .error e => (.error e, sink)
  | .ok header => writeAll sink (header ++ payload)

def writePathRTTFrame (sink : Sink) (message : List UInt8) : Except FrameError Unit × Sink :=
  if message.length ≠ streamRTTMessageSize then (.error .pathMessage, sink)
  else writePayloadFrame sink streamFramePathRTT message

def writeStreamControlPayload (sink : Sink) (typ : UInt8) (payload : List UInt8) :
    Except FrameError Unit × Sink :=
  if payload.length = 0 ∨ payload.length > maxStreamFramePayload then (.error .drainMessage, sink)
  else writePayloadFrame sink typ payload

/-- The choice of the writer in `legWriteLoop`, by the type of the frame. -/
def writeFrame (sink : Sink) (frame : WireFrame) : Except FrameError Unit × Sink :=
  if frame.typ = streamFrameData then
    match writeDataFrameWithGate sink frame.seq frame.data none with
    | (_, _, result, sink) => (result, sink)
  else if frame.typ = streamFramePathRTT then writePathRTTFrame sink frame.data
  else if frame.typ = streamFrameDrain then
    writeStreamControlPayload sink streamFrameDrain frame.data
  else writeAll sink (encodeControlFrame frame.typ frame.seq)

/-- Frames one after another, up to the first error. -/
def writeFrames (sink : Sink) : List WireFrame → Except FrameError Unit × Sink
  | [] => (.ok (), sink)
  | frame :: frames =>
    match writeFrame sink frame with
    | (.error e, sink) => (.error e, sink)
    | (.ok (), sink) => writeFrames sink frames

end Writers

section Reader

/-- `readWireFrame`; the pool that payload buffers come from is left out. -/
def readWireFrame (source : Source) : Except FrameError WireFrame × Source :=
  match readStreamFrameHeader source with
  | (.error e, source) => (.error e, source)
  | (.ok header, source) =>
    if header.type = streamFramePathRTT ∨ header.type = streamFrameDrain ∨
        header.type = streamFrameData then
      match readFull source header.length.toNat with
      | (.error e, source) => (.error (.read e), source)
      | (.ok data, source) =>
        (.ok { typ := header.type, seq := header.value, data := data }, source)
    else (.ok { typ := header.type, seq := header.value, data := [] }, source)

/-- The next frames of a stream. -/
def readWireFrames : Nat → Source → Except FrameError (List WireFrame) × Source
  | 0, source => (.ok [], source)
  | k + 1, source =>
    match readWireFrame source with
    | (.error e, source) => (.error e, source)
    | (.ok frame, source) =>
      match readWireFrames k source with
      | (.error e, source) => (.error e, source)
      | (.ok frames, source) => (.ok (frame :: frames), source)

end Reader

section Frames

variable {frame : WireFrame} {frames : List WireFrame} {sink sink' : Sink} {source : Source}
variable {rest : List UInt8}

/-- The header of a frame. -/
def headerOf (frame : WireFrame) : StreamFrameHeader :=
  { type := frame.typ, value := frame.seq, length := BitVec.ofNat 32 frame.data.length }

/-- A frame within the rules of its type. -/
structure ValidFrame (frame : WireFrame) : Prop where
  header : validateStreamFrameHeader (headerOf frame) = none
  length : frame.data.length ≤ maxStreamFramePayload

/-- The bytes of a frame. -/
def frameBytes (frame : WireFrame) : List UInt8 :=
  headerBytes (headerOf frame) ++ frame.data

@[simp] theorem length_headerBytes (header : StreamFrameHeader) :
    (headerBytes header).length = 13 := by
  simp [headerBytes]

theorem headerOfBytes_headerBytes (header : StreamFrameHeader) :
    headerOfBytes (headerBytes header) = header := by
  simp [headerOfBytes, headerBytes, slice_append_left, slice_append_right, slice_self]

theorem headerBytes_headerOfBytes {wire : List UInt8} (hlen : wire.length = 13) :
    headerBytes (headerOfBytes wire) = wire := by
  have htype : [byteAt wire 0] = slice wire 0 1 := (slice_singleton (by omega)).symm
  rw [headerBytes, headerOfBytes, putBits_getBits_slice (by decide) (by decide) (by omega),
    putBits_getBits_slice (by decide) (by decide) (by omega), htype,
    slice_append_slice (by omega) (by omega), slice_append_slice (by omega) (by omega),
    slice_self hlen]

theorem ValidFrame.toNat_length (h : ValidFrame frame) :
    (headerOf frame).length.toNat = frame.data.length := by
  have hle := h.length
  have hmax : maxStreamFramePayload < 2 ^ 32 := by decide
  rw [headerOf, BitVec.toNat_ofNat]
  exact Nat.mod_eq_of_lt (Nat.lt_of_le_of_lt hle hmax)

theorem encodeStreamFrameHeader_headerOf (h : ValidFrame frame) :
    encodeStreamFrameHeader (headerOf frame) = .ok (headerBytes (headerOf frame)) := by
  rw [encodeStreamFrameHeader, h.header]

/-- The rules of the types. -/
theorem validateStreamFrameHeader_none {header : StreamFrameHeader}
    (h : validateStreamFrameHeader header = none) :
    (header.type = streamFrameData ∧ header.length.toNat ≠ 0) ∨
      (header.type = streamFramePathRTT ∧ header.value = 0#64 ∧
        header.length.toNat = streamRTTMessageSize) ∨
      (header.type = streamFrameDrain ∧ header.value = 0#64 ∧
        header.length.toNat = streamDrainControlMessageSize) ∨
      ((header.type = streamFrameActivate ∨ header.type = streamFrameACK ∨
        header.type = streamFrameClose) ∧ header.length.toNat = 0) := by
  unfold validateStreamFrameHeader at h
  split at h
  · rename_i htype
    split at h
    · cases h
    rename_i hlength
    exact Or.inl ⟨htype, fun hzero => hlength (Or.inl hzero)⟩
  split at h
  · rename_i htype
    split at h
    · cases h
    rename_i hlength
    exact Or.inr (Or.inr (Or.inr ⟨htype, Decidable.not_not.1 hlength⟩))
  split at h
  · rename_i htype
    split at h
    · cases h
    rename_i hrules
    rw [not_or, Decidable.not_not, Decidable.not_not] at hrules
    exact Or.inr (Or.inl ⟨htype, hrules⟩)
  split at h
  · rename_i htype
    split at h
    · cases h
    rename_i hrules
    rw [not_or, Decidable.not_not, Decidable.not_not] at hrules
    exact Or.inr (Or.inr (Or.inl ⟨htype, hrules⟩))
  · cases h

theorem ValidFrame.cases (h : ValidFrame frame) :
    (frame.typ = streamFrameData ∧ frame.data ≠ []) ∨
      (frame.typ = streamFramePathRTT ∧ frame.seq = 0#64 ∧
        frame.data.length = streamRTTMessageSize) ∨
      (frame.typ = streamFrameDrain ∧ frame.seq = 0#64 ∧
        frame.data.length = streamDrainControlMessageSize) ∨
      ((frame.typ = streamFrameActivate ∨ frame.typ = streamFrameACK ∨
        frame.typ = streamFrameClose) ∧ frame.data = []) := by
  have hcases := validateStreamFrameHeader_none h.header
  rw [h.toNat_length] at hcases
  rcases hcases with ⟨htype, hlength⟩ | hrtt | hdrain | ⟨htype, hlength⟩
  · exact Or.inl ⟨htype, fun hnil => hlength (congrArg List.length hnil)⟩
  · exact Or.inr (Or.inl hrtt)
  · exact Or.inr (Or.inr (Or.inl hdrain))
  · exact Or.inr (Or.inr (Or.inr ⟨htype, eq_nil_of_length_eq_zero hlength⟩))

end Frames

section Writing

variable {frame : WireFrame} {frames : List WireFrame} {sink sink' : Sink}

theorem writeAll_ok {buffer : List UInt8} (h : writeAll sink buffer = (.ok (), sink')) :
    sink'.taken = sink.taken ++ buffer := by
  unfold writeAll at h
  split at h
  · cases h
  · rename_i sink₁ hwrite
    cases h
    exact writeFull_ok hwrite

theorem writeFrame_control (hvalid : ValidFrame frame) (hcontrol : frame.typ ≠ streamFrameData) :
    writeFrame sink frame = writeAll sink (frameBytes frame) := by
  have hencode := encodeStreamFrameHeader_headerOf hvalid
  unfold writeFrame
  rw [if_neg hcontrol]
  rcases hvalid.cases with ⟨htype, -⟩ | ⟨htype, hseq, hlen⟩ | ⟨htype, hseq, hlen⟩ | ⟨htype, hdata⟩
  · exact absurd htype hcontrol
  · rw [headerOf, htype, hseq] at hencode
    rw [if_pos htype, writePathRTTFrame, if_neg (fun hne => hne hlen), writePayloadFrame, hencode,
      frameBytes, headerOf, htype, hseq]
  · rw [headerOf, htype, hseq] at hencode
    have hsize : ¬ (frame.data.length = 0 ∨ frame.data.length > maxStreamFramePayload) := by
      rw [hlen]
      decide
    rw [if_neg (by rw [htype]; decide), if_pos htype, writeStreamControlPayload, if_neg hsize,
      writePayloadFrame, hencode, frameBytes, headerOf, htype, hseq]
  · rw [headerOf, hdata] at hencode
    rw [if_neg, if_neg, encodeControlFrame]
    · simp only [length_nil] at hencode
      rw [hencode, frameBytes, hdata, append_nil, headerOf, hdata]
      rfl
    · rcases htype with htype | htype | htype <;> rw [htype] <;> decide
    · rcases htype with htype | htype | htype <;> rw [htype] <;> decide

/-- A DATA frame goes out exactly if the connection takes header and payload whole. -/
theorem writeFrame_data (hvalid : ValidFrame frame) (hdata : frame.typ = streamFrameData) :
    ((∃ sink', writeFrame sink frame = (.ok (), sink')) ↔
        sink.takesWhole [headerBytes (headerOf frame), frame.data] = true) ∧
      ∀ sink', writeFrame sink frame = (.ok (), sink') →
        sink'.taken = sink.taken ++ frameBytes frame := by
  have hencode := encodeStreamFrameHeader_headerOf hvalid
  have hiff := @writeBuffers_ok_iff sink [headerBytes (headerOf frame), frame.data]
  have htaken := @writeBuffers_taken sink [headerBytes (headerOf frame), frame.data]
  have hlen : [headerBytes (headerOf frame), frame.data].flatten.length =
      streamFrameHeaderSize + frame.data.length := by
    simp [streamFrameHeaderSize]
  have hflat : [headerBytes (headerOf frame), frame.data].flatten = frameBytes frame := by
    simp [frameBytes]
  rw [hlen] at hiff
  rw [hflat] at htaken
  unfold writeFrame writeDataFrameWithGate
  rw [if_pos hdata]
  rw [headerOf, hdata] at hencode hiff htaken ⊢
  rw [hencode]
  dsimp only
  generalize writeBuffers sink _ = out at hiff htaken ⊢
  obtain ⟨written, result, after⟩ := out
  dsimp only at hiff htaken ⊢
  cases result with
  | error e =>
    rw [← hiff]
    exact ⟨⟨nofun, fun h => absurd h.2 nofun⟩, nofun⟩
  | ok done =>
    by_cases hwritten : written = streamFrameHeaderSize + frame.data.length
    · have hwhole := hiff.1 ⟨hwritten, rfl⟩
      dsimp only
      rw [if_neg (fun hne => hne hwritten)]
      refine ⟨⟨fun _ => hwhole, fun _ => ⟨after, rfl⟩⟩, ?_⟩
      rintro sink' ⟨⟩
      exact htaken hwhole
    · dsimp only
      rw [if_pos hwritten, ← hiff]
      exact ⟨⟨nofun, fun h => absurd h.1 hwritten⟩, nofun⟩

theorem writeFrame_ok (hvalid : ValidFrame frame) (h : writeFrame sink frame = (.ok (), sink')) :
    sink'.taken = sink.taken ++ frameBytes frame := by
  by_cases hdata : frame.typ = streamFrameData
  · exact (writeFrame_data hvalid hdata).2 sink' h
  · rw [writeFrame_control hvalid hdata] at h
    exact writeAll_ok h

theorem writeFrames_ok (hvalid : ∀ frame ∈ frames, ValidFrame frame)
    (h : writeFrames sink frames = (.ok (), sink')) :
    sink'.taken = sink.taken ++ frames.flatMap frameBytes := by
  induction frames generalizing sink with
  | nil =>
    rw [writeFrames] at h
    cases h
    exact (append_nil _).symm
  | cons frame frames ih =>
    rw [writeFrames] at h
    split at h
    · cases h
    · rename_i sink₁ hframe
      have hfirst := writeFrame_ok (hvalid frame mem_cons_self) hframe
      have hrest := ih (fun f hf => hvalid f (mem_cons_of_mem _ hf)) h
      rw [hrest, hfirst, flatMap_cons, append_assoc]

theorem writeFrames_of_progress (hvalid : ∀ frame ∈ frames, ValidFrame frame)
    (hcontrol : ∀ frame ∈ frames, frame.typ ≠ streamFrameData) (hsink : sink.Progress) :
    ∃ sink', writeFrames sink frames = (.ok (), sink') := by
  induction frames generalizing sink with
  | nil => exact ⟨sink, rfl⟩
  | cons frame frames ih =>
    obtain ⟨after, hwrite, hafter⟩ :=
      @writeFull_of_progress .unexpectedEOF sink (frameBytes frame) hsink
    obtain ⟨sink', hrest⟩ := ih (fun f hf => hvalid f (mem_cons_of_mem _ hf))
      (fun f hf => hcontrol f (mem_cons_of_mem _ hf)) hafter
    refine ⟨sink', ?_⟩
    rw [writeFrames, writeFrame_control (hvalid frame mem_cons_self)
      (hcontrol frame mem_cons_self), writeAll, hwrite]
    exact hrest

end Writing

section Reading

variable {frame : WireFrame} {frames : List WireFrame} {source : Source} {wire rest : List UInt8}

theorem readStreamFrameHeader_of_flatten (hlen : wire.length = 13)
    (hflat : source.flatten = wire ++ rest) :
    ∃ source', source'.flatten = rest ∧ readStreamFrameHeader source =
      match validateStreamFrameHeader (headerOfBytes wire) with
      | some e => (.error e, source')
      | none => (.ok (headerOfBytes wire), source') := by
  obtain ⟨source', hread, hrest⟩ := readFull_of_flatten hflat hlen
  refine ⟨source', hrest, ?_⟩
  unfold readStreamFrameHeader streamFrameHeaderSize
  rw [hread]

theorem readWireFrame_of_flatten (hvalid : ValidFrame frame)
    (hflat : source.flatten = frameBytes frame ++ rest) :
    ∃ source', readWireFrame source = (.ok frame, source') ∧ source'.flatten = rest := by
  rw [frameBytes, append_assoc] at hflat
  obtain ⟨source₁, hflat₁, hheader⟩ :=
    readStreamFrameHeader_of_flatten (length_headerBytes _) hflat
  rw [headerOfBytes_headerBytes, hvalid.header] at hheader
  unfold readWireFrame
  rw [hheader]
  dsimp only
  split
  · obtain ⟨source₂, hread, hrest⟩ := readFull_of_flatten hflat₁ hvalid.toNat_length.symm
    exact ⟨source₂, by rw [hread]; rfl, hrest⟩
  · rename_i htypes
    -- the types without a payload
    have hnil : frame.data = [] := by
      rcases hvalid.cases with ⟨htype, -⟩ | ⟨htype, -⟩ | ⟨htype, -⟩ | ⟨-, hdata⟩
      · exact absurd (Or.inr (Or.inr htype)) htypes
      · exact absurd (Or.inl htype) htypes
      · exact absurd (Or.inr (Or.inl htype)) htypes
      · exact hdata
    rw [hnil, nil_append] at hflat₁
    refine ⟨source₁, ?_, hflat₁⟩
    rw [← hnil]
    rfl

theorem readWireFrames_of_flatten (hvalid : ∀ frame ∈ frames, ValidFrame frame)
    (hflat : source.flatten = frames.flatMap frameBytes ++ rest) :
    ∃ source', readWireFrames frames.length source = (.ok frames, source') ∧
      source'.flatten = rest := by
  induction frames generalizing source with
  | nil => exact ⟨source, rfl, hflat⟩
  | cons frame frames ih =>
    rw [flatMap_cons, append_assoc] at hflat
    obtain ⟨source₁, hframe, hflat₁⟩ :=
      readWireFrame_of_flatten (hvalid frame mem_cons_self) hflat
    obtain ⟨source₂, hrest, hflat₂⟩ := ih (fun f hf => hvalid f (mem_cons_of_mem _ hf)) hflat₁
    refine ⟨source₂, ?_, hflat₂⟩
    rw [length_cons, readWireFrames, hframe]
    dsimp only
    rw [hrest]

theorem readWireFrame_of_invalid {e : FrameError} (hlen : wire.length = 13)
    (hinvalid : validateStreamFrameHeader (headerOfBytes wire) = some e)
    (hflat : source.flatten = wire ++ rest) :
    ∃ source', readWireFrame source = (.error e, source') ∧ source'.flatten = rest := by
  obtain ⟨source', hrest, hheader⟩ := readStreamFrameHeader_of_flatten hlen hflat
  rw [hinvalid] at hheader
  refine ⟨source', ?_, hrest⟩
  rw [readWireFrame, hheader]

theorem readWireFrame_of_flatten_nil (hflat : source.flatten = []) :
    readWireFrame source = (.error (.read .eof), []) := by
  rw [readWireFrame, readStreamFrameHeader, streamFrameHeaderSize, readFull_of_flatten_nil hflat]

end Reading

section Lossless

/--
Stream framing is lossless for what the writers report as written.  For valid frames
and every behaviour of the connection: if all writes succeed, the bytes taken read back
as the same frames in any segmentation, and then the stream is at its end.  The writes
of control frames succeed over every connection that goes on taking bytes, the write of
a DATA frame exactly if header and payload are each taken whole.  And a header against
the rules of its type is refused with nothing read behind its thirteen bytes.
-/
theorem stream_framing_lossless :
    (∀ frames sink sink', (∀ frame ∈ frames, ValidFrame frame) →
      writeFrames sink frames = (.ok (), sink') →
      ∃ bytes, sink'.taken = sink.taken ++ bytes ∧
        ∀ source, source.flatten = bytes →
          ∃ source', readWireFrames frames.length source = (.ok frames, source') ∧
            readWireFrame source' = (.error (.read .eof), [])) ∧
    (∀ frames sink, (∀ frame ∈ frames, ValidFrame frame) →
      (∀ frame ∈ frames, frame.typ ≠ streamFrameData) → sink.Progress →
      ∃ sink', writeFrames sink frames = (.ok (), sink')) ∧
    (∀ frame sink, ValidFrame frame → frame.typ = streamFrameData →
      ((∃ sink', writeFrame sink frame = (.ok (), sink')) ↔
        sink.takesWhole [headerBytes (headerOf frame), frame.data] = true)) ∧
    (∀ wire e, wire.length = 13 → validateStreamFrameHeader (headerOfBytes wire) = some e →
      ∀ source rest, source.flatten = wire ++ rest →
        ∃ source', readWireFrame source = (.error e, source') ∧ source'.flatten = rest) := by
  refine ⟨?_, ?_, ?_, ?_⟩
  · intro frames sink sink' hvalid hwrite
    refine ⟨_, writeFrames_ok hvalid hwrite, ?_⟩
    intro source hflat
    rw [← append_nil (frames.flatMap frameBytes)] at hflat
    obtain ⟨source', hread, hrest⟩ := readWireFrames_of_flatten hvalid hflat
    exact ⟨source', hread, readWireFrame_of_flatten_nil hrest⟩
  · intro frames sink hvalid hcontrol hsink
    exact writeFrames_of_progress hvalid hcontrol hsink
  · intro frame sink hvalid hdata
    exact (writeFrame_data hvalid hdata).1
  · intro wire e hlen hinvalid source rest hflat
    exact readWireFrame_of_invalid hlen hinvalid hflat

/-- An ACK, a byte of DATA and a CLOSE, the ACK in pieces. -/
theorem stream_framing_lossless_example : let frames : List WireFrame :=
      [⟨streamFrameACK, 7#64, []⟩, ⟨streamFrameData, 3#64, [9]⟩, ⟨streamFrameClose, 4#64, []⟩]
    ∃ bytes, (writeFrames ⟨[(1, false), (5, false)], []⟩ frames).2.taken = [] ++ bytes ∧
      ∀ source, source.flatten = bytes →
        ∃ source', readWireFrames frames.length source = (.ok frames, source') ∧
          readWireFrame source' = (.error (.read .eof), []) := by
  intro frames
  refine stream_framing_lossless.1 frames ⟨[(1, false), (5, false)], []⟩ _ ?_ rfl
  intro frame hframe
  simp only [frames, mem_cons, not_mem_nil, or_false] at hframe
  rcases hframe with rfl | rfl | rfl
  · exact ⟨by decide, by decide⟩
  · exact ⟨by decide, by decide⟩
  · exact ⟨by decide, by decide⟩

/--
A connection that takes five bytes of a DATA header and no error breaks the frame: the
payload follows at once, the writer reports a short write, and what is on the wire is
not read back as the frame.  An ACK survives the same connection.
-/
theorem framing_short_data_write : let sink : Sink := ⟨[(5, false)], []⟩
    let frame : WireFrame := ⟨streamFrameData, 3#64, [9]⟩
    let ack : WireFrame := ⟨streamFrameACK, 3#64, []⟩
    sink.Progress ∧ ValidFrame frame ∧ ValidFrame ack ∧
      (writeFrames sink [frame]).1 = .error (.write .shortWrite) ∧
      readWireFrames 1 [(writeFrames sink [frame]).2.taken] =
        (.error (.read .unexpectedEOF), []) ∧
      readWireFrames 1 [(writeFrames sink [ack]).2.taken] = (.ok [ack], [[]]) := by
  refine ⟨?_, ⟨by decide, by decide⟩, ⟨by decide, by decide⟩, by decide, by decide, by decide⟩
  intro call hcall
  rw [mem_singleton.1 hcall]
  decide

end Lossless

section Accepted

variable {frame : WireFrame} {frames : List WireFrame} {source source' : Source}
variable {header : StreamFrameHeader} {wire data rest : List UInt8}

theorem headerOf_of_length (hdata : data.length = header.length.toNat) :
    headerOf ⟨header.type, header.value, data⟩ = header := by
  rw [headerOf, hdata, BitVec.ofNat_toNat, BitVec.setWidth_eq]

theorem length_le_of_valid (h : validateStreamFrameHeader header = none) :
    header.length.toNat ≤ maxStreamFramePayload := by
  have hsizes : streamRTTMessageSize ≤ maxStreamFramePayload ∧
      streamDrainControlMessageSize ≤ maxStreamFramePayload := by decide
  unfold validateStreamFrameHeader at h
  grind

/-- A header within the rules and as many bytes as it announces make the frame. -/
theorem validFrame_of_header (hlen : wire.length = 13)
    (hheader : validateStreamFrameHeader (headerOfBytes wire) = none)
    (hdata : data.length = (headerOfBytes wire).length.toNat) :
    ValidFrame ⟨(headerOfBytes wire).type, (headerOfBytes wire).value, data⟩ ∧
      frameBytes ⟨(headerOfBytes wire).type, (headerOfBytes wire).value, data⟩ = wire ++ data := by
  have hof := headerOf_of_length hdata
  refine ⟨⟨hof ▸ hheader, hdata.trans_le (length_le_of_valid hheader)⟩, ?_⟩
  rw [frameBytes, hof, headerBytes_headerOfBytes hlen]

/-- What is accepted is the encoding of the frame that is returned. -/
theorem readWireFrame_ok (h : readWireFrame source = (.ok frame, source')) :
    ValidFrame frame ∧ source.flatten = frameBytes frame ++ source'.flatten := by
  unfold readWireFrame readStreamFrameHeader at h
  rcases hwire : readFull source streamFrameHeaderSize with ⟨_ | wire, source₁⟩ <;>
    rw [hwire] at h
  · cases h
  obtain ⟨hlen, hflat⟩ := readFull_ok hwire
  dsimp only at h
  cases hheader : validateStreamFrameHeader (headerOfBytes wire) with
  | some e =>
    rw [hheader] at h
    cases h
  | none =>
    rw [hheader] at h
    dsimp only at h
    split at h
    · rcases hread : readFull source₁ (headerOfBytes wire).length.toNat with ⟨_ | data, source₂⟩ <;>
        rw [hread] at h <;> cases h
      obtain ⟨hdata, hrest⟩ := readFull_ok hread
      obtain ⟨hvalid, hbytes⟩ := validFrame_of_header hlen hheader hdata
      exact ⟨hvalid, by rw [hbytes, hflat, hrest, append_assoc]⟩
    · rename_i htypes
      cases h
      -- the types without a payload announce none
      have hnil : (headerOfBytes wire).length.toNat = 0 := by
        have := validateStreamFrameHeader_none hheader
        grind
      obtain ⟨hvalid, hbytes⟩ := validFrame_of_header hlen hheader (length_nil.trans hnil.symm)
      exact ⟨hvalid, by rw [hbytes, append_nil, hflat]⟩

theorem readWireFrames_ok {n : Nat} (h : readWireFrames n source = (.ok frames, source')) :
    (∀ frame ∈ frames, ValidFrame frame) ∧
      source.flatten = frames.flatMap frameBytes ++ source'.flatten := by
  induction n generalizing source frames with
  | zero =>
    cases h
    exact ⟨by simp, rfl⟩
  | succ n ih =>
    unfold readWireFrames at h
    rcases hframe : readWireFrame source with ⟨_ | frame, source₁⟩ <;> rw [hframe] at h
    · cases h
    dsimp only at h
    rcases hframes : readWireFrames n source₁ with ⟨_ | frames₁, source₂⟩ <;> rw [hframes] at h <;>
      cases h
    obtain ⟨hvalid, hflat⟩ := readWireFrame_ok hframe
    obtain ⟨hvalids, hflat₁⟩ := ih hframes
    exact ⟨forall_mem_cons.2 ⟨hvalid, hvalids⟩,
      by rw [hflat, hflat₁, flatMap_cons, append_assoc]⟩

/-- **The reader of the stream framing.**  However the stream is cut into segments, the reader
returns frames exactly when the stream starts with their encodings and each keeps the rules of its
type, and it takes those bytes and no others. -/
theorem stream_reader_exact (source : Source) (frames : List WireFrame) (rest : List UInt8) :
    (∃ source', readWireFrames frames.length source = (.ok frames, source') ∧
        source'.flatten = rest) ↔
      (∀ frame ∈ frames, ValidFrame frame) ∧
        source.flatten = frames.flatMap frameBytes ++ rest := by
  constructor
  · rintro ⟨source', hread, rfl⟩
    exact readWireFrames_ok hread
  · rintro ⟨hvalid, hflat⟩
    exact readWireFrames_of_flatten hvalid hflat

end Accepted

end Smp3Multipath.Core.Wire

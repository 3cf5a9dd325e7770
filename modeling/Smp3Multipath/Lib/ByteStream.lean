import Mathlib.Data.List.Basic

/-!
# Byte streams

A reader that hands out its bytes in segments, and a writer that takes what it is
given piece by piece, each as its calls behave.  `readFull` and `writeFull` are the
loops that hide the pieces: what they do depends on the whole content only
(`readFull_of_flatten`, `writeFull_ok`).
-/

namespace Smp3Multipath.Lib.ByteStream

open List

section Reading

/-- What each `Read` finds ready, in order; behind the last segment the stream ends. -/
abbrev Source := List (List UInt8)

inductive ReadError where
  | eof
  | unexpectedEOF
deriving DecidableEq

/-- The loop of `io.ReadFull`, with the bytes it has. -/
def readLoop (got : List UInt8) : Source → Nat → Except ReadError (List UInt8) × Source
  | source, 0 => (.ok got, source)
  | [], _ + 1 => (.error (if got = [] then .eof else .unexpectedEOF), [])
  | segment :: source, k + 1 =>
    if segment.length ≤ k then readLoop (got ++ segment) source (k + 1 - segment.length)
    else (.ok (got ++ segment.take (k + 1)), segment.drop (k + 1) :: source)

/-- `io.ReadFull` into a buffer of `k` bytes. -/
def readFull (source : Source) (k : Nat) : Except ReadError (List UInt8) × Source :=
  readLoop [] source k

theorem readLoop_ok {source source' : Source} {k : Nat} {got bs : List UInt8}
    (h : readLoop got source k = (.ok bs, source')) :
    ∃ new, bs = got ++ new ∧ new.length = k ∧ source.flatten = new ++ source'.flatten := by
  induction source generalizing got k with
  | nil =>
    cases k with
    | zero =>
      rw [readLoop] at h
      cases h
      exact ⟨[], (append_nil _).symm, rfl, rfl⟩
    | succ k =>
      rw [readLoop] at h
      cases h
  | cons segment source ih =>
    cases k with
    | zero =>
      rw [readLoop] at h
      cases h
      exact ⟨[], (append_nil _).symm, rfl, rfl⟩
    | succ k =>
      rw [readLoop] at h
      split at h
      · rename_i hle
        obtain ⟨new, hbs, hlen, hflat⟩ := ih h
        refine ⟨segment ++ new, ?_, ?_, ?_⟩
        · rw [hbs, append_assoc]
        · rw [length_append]
          omega
        · rw [flatten_cons, hflat, append_assoc]
      · rename_i hlt
        cases h
        refine ⟨segment.take (k + 1), rfl, ?_, ?_⟩
        · rw [length_take]
          omega
        · rw [flatten_cons, flatten_cons, ← append_assoc,
            take_append_drop]

theorem readFull_ok {source source' : Source} {k : Nat} {bs : List UInt8}
    (h : readFull source k = (.ok bs, source')) :
    bs.length = k ∧ source.flatten = bs ++ source'.flatten := by
  obtain ⟨new, hbs, hlen, hflat⟩ := readLoop_ok h
  rw [nil_append] at hbs
  exact ⟨hbs ▸ hlen, hbs ▸ hflat⟩

theorem readLoop_of_flatten {source : Source} {k : Nat} {bs rest : List UInt8} (got : List UInt8)
    (hflat : source.flatten = bs ++ rest) (hlen : bs.length = k) :
    ∃ source', readLoop got source k = (.ok (got ++ bs), source') ∧ source'.flatten = rest := by
  induction source generalizing got k bs with
  | nil =>
    have hnil : bs = [] ∧ rest = [] := append_eq_nil_iff.1 hflat.symm
    obtain ⟨rfl, rfl⟩ := hnil
    cases hlen
    exact ⟨[], by rw [append_nil]; rfl, rfl⟩
  | cons segment source ih =>
    cases k with
    | zero =>
      have hnil : bs = [] := eq_nil_of_length_eq_zero hlen
      subst hnil
      exact ⟨segment :: source, by rw [append_nil]; rfl, hflat⟩
    | succ k =>
      rw [flatten_cons] at hflat
      rw [readLoop]
      by_cases hle : segment.length ≤ k
      · rw [if_pos hle]
        -- the segment is used up: it is the front of what is asked for
        have hfront : segment = bs.take segment.length := by
          have htake := congrArg (List.take segment.length) hflat
          rwa [take_left, take_append_of_le_length (by omega)] at htake
        have hback : source.flatten = bs.drop segment.length ++ rest := by
          have hdrop := congrArg (List.drop segment.length) hflat
          rwa [drop_left, drop_append_of_le_length (by omega)] at hdrop
        obtain ⟨source', hread, hrest⟩ := ih (got ++ segment) hback (by
          rw [length_drop, hlen])
        refine ⟨source', ?_, hrest⟩
        rw [hread, append_assoc]
        congr 3
        nth_rewrite 1 [hfront]
        exact take_append_drop _ _
      · rw [if_neg hle]
        have hfront : segment.take (k + 1) = bs := by
          have htake := congrArg (List.take (k + 1)) hflat
          rwa [take_append_of_le_length (by omega), take_left' hlen] at htake
        have hback : segment.drop (k + 1) ++ source.flatten = rest := by
          have hdrop := congrArg (List.drop (k + 1)) hflat
          rwa [drop_append_of_le_length (by omega), drop_left' hlen] at hdrop
        refine ⟨segment.drop (k + 1) :: source, by rw [hfront], ?_⟩
        rw [flatten_cons, hback]

theorem readFull_of_flatten {source : Source} {k : Nat} {bs rest : List UInt8}
    (hflat : source.flatten = bs ++ rest) (hlen : bs.length = k) :
    ∃ source', readFull source k = (.ok bs, source') ∧ source'.flatten = rest :=
  readLoop_of_flatten [] hflat hlen

theorem readFull_of_flatten_nil {source : Source} {k : Nat} (hflat : source.flatten = []) :
    readFull source (k + 1) = (.error .eof, []) := by
  unfold readFull
  induction source with
  | nil => rfl
  | cons segment source ih =>
    rw [flatten_cons, append_eq_nil_iff] at hflat
    obtain ⟨rfl, hrest⟩ := hflat
    exact ih hrest

end Reading

section Buffered

/-- The size of a `bufio.Reader`. -/
def bufferSize : Nat := 4096

/-- `io.ReadFull` through a `bufio.Reader` that holds `buffer`, into fewer bytes than the reader has
room for; what the reader holds afterwards, and what is left to read. -/
def readBuffered (got buffer : List UInt8) :
    Source → Nat → Except ReadError (List UInt8) × List UInt8 × Source
  | source, k =>
    if k ≤ buffer.length then (.ok (got ++ buffer.take k), buffer.drop k, source)
    else
      match source with
      | [] => (.error (if got ++ buffer = [] then .eof else .unexpectedEOF), [], [])
      | segment :: source =>
        if segment.length ≤ bufferSize then
          readBuffered (got ++ buffer) segment source (k - buffer.length)
        else
          -- a longer segment fills the buffer, and that is enough
          (.ok (got ++ buffer ++ segment.take (k - buffer.length)),
            (segment.take bufferSize).drop (k - buffer.length), segment.drop bufferSize :: source)

/-- The next `m` bytes, those of the buffer first, end with a segment. -/
def EndsSegment (buffer : List UInt8) (source : Source) (m : Nat) : Prop :=
  ∃ front back, source = front ++ back ∧ buffer.length + front.flatten.length = m

variable {source source' : Source} {k m : Nat} {got buffer segment bs more : List UInt8}

theorem endsSegment_zero_iff : EndsSegment buffer source 0 ↔ buffer = [] := by
  constructor
  · rintro ⟨front, back, _, hlen⟩
    exact eq_nil_of_length_eq_zero (Nat.eq_zero_of_add_eq_zero_right hlen)
  · rintro rfl
    exact ⟨[], source, rfl, rfl⟩

theorem endsSegment_drop (hk : k ≤ buffer.length) (hm : k ≤ m) :
    EndsSegment buffer source m ↔ EndsSegment (buffer.drop k) source (m - k) := by
  unfold EndsSegment
  rw [length_drop]
  refine exists_congr fun front => exists_congr fun back => and_congr_right fun _ => ?_
  omega

theorem endsSegment_cons (h : buffer.length < m) :
    EndsSegment buffer (segment :: source) m ↔
      EndsSegment segment source (m - buffer.length) := by
  constructor
  · rintro ⟨front, back, hsource, hlen⟩
    cases front with
    | nil =>
      rw [flatten_nil, length_nil] at hlen
      omega
    | cons s front =>
      obtain ⟨rfl, rfl⟩ := cons_eq_cons.1 hsource
      rw [flatten_cons, length_append] at hlen
      exact ⟨front, back, rfl, by omega⟩
  · rintro ⟨front, back, rfl, hlen⟩
    refine ⟨segment :: front, back, rfl, ?_⟩
    rw [flatten_cons, length_append]
    omega

/-- Reading a part of the `m` bytes does not change where they end. -/
theorem readLoop_endsSegment (h : readLoop got source k = (.ok bs, source')) (hk : k < m) :
    EndsSegment [] source m ↔ EndsSegment [] source' (m - k) := by
  induction source generalizing got k m with
  | nil =>
    cases k with
    | zero =>
      cases h
      exact Iff.rfl
    | succ k => cases h
  | cons segment source ih =>
    cases k with
    | zero =>
      cases h
      exact Iff.rfl
    | succ k =>
      have hpos : ([] : List UInt8).length < m := Nat.lt_of_le_of_lt (Nat.zero_le _) hk
      rw [readLoop] at h
      rw [endsSegment_cons hpos]
      split at h
      · next hle =>
        have hrest := ih h (show k + 1 - segment.length < m - segment.length by omega)
        rw [length_nil, Nat.sub_zero, endsSegment_drop (Nat.le_refl _) (by omega),
          drop_length, hrest]
        congr! 1
        omega
      · next hgt =>
        cases h
        rw [length_nil, Nat.sub_zero, endsSegment_drop (Nat.lt_of_not_le hgt) (Nat.le_of_lt hk),
          endsSegment_cons (Nat.sub_pos_of_lt hk)]
        rfl

/-- What the reader gives, what it holds afterwards, and where the bytes after that end.  A segment
longer than the buffer is taken in part, and then the buffer holds more than is asked for. -/
theorem readBuffered_of_flatten (got : List UInt8) (hflat : buffer ++ source.flatten = bs ++ more)
    (hlen : bs.length = k) (hsize : k < bufferSize) :
    ∃ buffer' source', readBuffered got buffer source k = (.ok (got ++ bs), buffer', source') ∧
      buffer' ++ source'.flatten = more ∧ ∀ m, k ≤ m → m < bufferSize →
        (EndsSegment buffer source m ↔ EndsSegment buffer' source' (m - k)) := by
  induction source generalizing got buffer bs k with
  | nil =>
    rw [flatten_nil, append_nil] at hflat
    subst hflat
    have hle : k ≤ (bs ++ more).length := by
      rw [length_append, hlen]
      exact Nat.le_add_right _ _
    refine ⟨more, [], ?_, append_nil _, fun m hm _ => ?_⟩
    · unfold readBuffered
      rw [if_pos hle, take_left' hlen, drop_left' hlen]
    · rw [endsSegment_drop hle hm, drop_left' hlen]
  | cons segment source ih =>
    unfold readBuffered
    by_cases hle : k ≤ buffer.length
    · rw [if_pos hle]
      have hfront : buffer.take k = bs := by
        have htake := congrArg (List.take k) hflat
        rwa [take_append_of_le_length hle, take_left' hlen] at htake
      have hback : buffer.drop k ++ (segment :: source).flatten = more := by
        have hdrop := congrArg (List.drop k) hflat
        rwa [drop_append_of_le_length hle, drop_left' hlen] at hdrop
      exact ⟨buffer.drop k, segment :: source, by rw [hfront], hback,
        fun m hm _ => endsSegment_drop hle hm⟩
    · rw [if_neg hle]
      -- the buffer is used up: it is the front of what is asked for
      have hbuffer : buffer ++ bs.drop buffer.length = bs := by
        have htake := congrArg (List.take buffer.length) hflat
        rw [take_left, take_append_of_le_length (by omega)] at htake
        nth_rewrite 1 [htake]
        exact take_append_drop _ _
      have hrest : segment ++ source.flatten = bs.drop buffer.length ++ more := by
        have hdrop := congrArg (List.drop buffer.length) hflat
        rwa [drop_left, drop_append_of_le_length (by omega)] at hdrop
      have hlen' : (bs.drop buffer.length).length = k - buffer.length := by rw [length_drop, hlen]
      dsimp only
      split
      · obtain ⟨buffer', source', hread, hmore, hends⟩ := ih (got ++ buffer) hrest hlen' (by omega)
        refine ⟨buffer', source', ?_, hmore, fun m hm hlt => ?_⟩
        · rw [hread, append_assoc, hbuffer]
        · rw [endsSegment_cons (by omega), hends _ (by omega) (by omega)]
          congr! 1
          omega
      · next hlong =>
        have hpart : k - buffer.length ≤ segment.length := by omega
        have htake : segment.take (k - buffer.length) = bs.drop buffer.length := by
          have htake := congrArg (List.take (k - buffer.length)) hrest
          rwa [take_append_of_le_length hpart, take_left' hlen'] at htake
        have hback : segment.drop (k - buffer.length) ++ source.flatten = more := by
          have hdrop := congrArg (List.drop (k - buffer.length)) hrest
          rwa [drop_append_of_le_length hpart, drop_left' hlen'] at hdrop
        refine ⟨(segment.take bufferSize).drop (k - buffer.length), segment.drop bufferSize :: source,
          ?_, ?_, fun m hm hlt => ?_⟩
        · rw [htake, append_assoc, hbuffer]
        · rw [← hback, flatten_cons, ← append_assoc]
          congr 1
          nth_rewrite 3 [← take_append_drop bufferSize segment]
          rw [drop_append_of_le_length]
          rw [length_take]
          omega
        · refine iff_of_false (fun h => ?_) fun h => ?_
          · obtain ⟨_, _, _, hends⟩ := (endsSegment_cons (by omega)).1 h
            omega
          · obtain ⟨_, _, _, hends⟩ := h
            rw [length_drop, length_take] at hends
            omega

end Buffered

section Writing

inductive WriteError where
  | connection
  | shortWrite
  | unexpectedEOF
deriving DecidableEq

/-- A connection: how many bytes each `Write` takes at most and whether it fails, and what it
has taken; behind the script it takes everything. -/
structure Sink where
  script : List (Nat × Bool)
  taken : List UInt8
deriving DecidableEq

/-- One `Write`: the number of bytes taken, and whether it failed. -/
def Sink.write (sink : Sink) (buffer : List UInt8) : Nat × Bool × Sink :=
  match sink.script with
  | [] => (buffer.length, false, ⟨[], sink.taken ++ buffer⟩)
  | (n, fails) :: script => (min n buffer.length, fails, ⟨script, sink.taken ++ buffer.take n⟩)

/-- The loop that writes a buffer to its end; `stalled` is its error for a call that takes
nothing.  Every round shortens the buffer. -/
def writeLoop (stalled : WriteError) (sink : Sink) (buffer : List UInt8) :
    Nat → Except WriteError Unit × Sink
  | 0 => (.ok (), sink)
  | rounds + 1 =>
    if buffer = [] then (.ok (), sink)
    else
      match sink.write buffer with
      | (n, fails, sink) =>
        if fails then (.error .connection, sink)
        else if n = 0 then (.error stalled, sink)
        else writeLoop stalled sink (buffer.drop n) rounds

def writeFull (stalled : WriteError) (sink : Sink) (buffer : List UInt8) :
    Except WriteError Unit × Sink :=
  writeLoop stalled sink buffer buffer.length

theorem Sink.write_taken (sink : Sink) (buffer : List UInt8) :
    (sink.write buffer).2.2.taken = sink.taken ++ buffer.take (sink.write buffer).1 := by
  unfold Sink.write
  split
  · rw [take_length]
  · rename_i n fails script hscript
    show sink.taken ++ buffer.take n = sink.taken ++ buffer.take (min n buffer.length)
    rw [take_eq_take_min]

theorem writeLoop_ok {stalled : WriteError} {sink sink' : Sink} {buffer : List UInt8}
    {rounds : Nat} (hrounds : buffer.length ≤ rounds)
    (h : writeLoop stalled sink buffer rounds = (.ok (), sink')) :
    sink'.taken = sink.taken ++ buffer := by
  induction rounds generalizing sink buffer with
  | zero =>
    have hnil : buffer = [] := eq_nil_of_length_eq_zero (Nat.le_zero.1 hrounds)
    rw [writeLoop] at h
    cases h
    rw [hnil, append_nil]
  | succ rounds ih =>
    rw [writeLoop] at h
    split at h
    · rename_i hnil
      cases h
      rw [hnil, append_nil]
    · have htaken := sink.write_taken buffer
      generalize sink.write buffer = out at h htaken
      obtain ⟨n, fails, after⟩ := out
      dsimp only at h htaken
      split at h
      · cases h
      split at h
      · cases h
      · rename_i hpos
        have hlen : (buffer.drop n).length ≤ rounds := by
          rw [length_drop]
          omega
        rw [ih hlen h, htaken, append_assoc, take_append_drop]

theorem writeFull_ok {stalled : WriteError} {sink sink' : Sink} {buffer : List UInt8}
    (h : writeFull stalled sink buffer = (.ok (), sink')) : sink'.taken = sink.taken ++ buffer :=
  writeLoop_ok (Nat.le_refl _) h

/-- The calls to come all take something and none fails. -/
def Sink.Progress (sink : Sink) : Prop :=
  ∀ call ∈ sink.script, 0 < call.1 ∧ call.2 = false

theorem Sink.Progress.write {sink : Sink} {buffer : List UInt8} (h : sink.Progress)
    (hne : buffer ≠ []) :
    0 < (sink.write buffer).1 ∧ (sink.write buffer).2.1 = false ∧
      (sink.write buffer).2.2.Progress := by
  have hpos : 0 < buffer.length := length_pos_of_ne_nil hne
  unfold Sink.write
  split
  · exact ⟨hpos, rfl, fun call hcall => absurd hcall not_mem_nil⟩
  · rename_i n fails script hscript
    rw [Sink.Progress, hscript] at h
    obtain ⟨hn, hfails⟩ := h (n, fails) mem_cons_self
    exact ⟨Nat.lt_min.2 ⟨hn, hpos⟩, hfails, fun call hcall => h call (mem_cons_of_mem _ hcall)⟩

theorem writeLoop_of_progress {stalled : WriteError} {sink : Sink} {buffer : List UInt8}
    {rounds : Nat} (h : sink.Progress) :
    ∃ sink', writeLoop stalled sink buffer rounds = (.ok (), sink') ∧ sink'.Progress := by
  induction rounds generalizing sink buffer with
  | zero => exact ⟨sink, rfl, h⟩
  | succ rounds ih =>
    rw [writeLoop]
    by_cases hnil : buffer = []
    · rw [if_pos hnil]
      exact ⟨sink, rfl, h⟩
    · rw [if_neg hnil]
      obtain ⟨hpos, hfails, hafter⟩ := h.write hnil
      generalize sink.write buffer = out at hpos hfails hafter
      obtain ⟨n, fails, after⟩ := out
      dsimp only at hpos hfails hafter ⊢
      rw [if_neg (by rw [hfails]; decide), if_neg (by omega)]
      exact ih hafter

/-- A connection that goes on taking bytes is written to, however little it takes at once. -/
theorem writeFull_of_progress {stalled : WriteError} {sink : Sink} {buffer : List UInt8}
    (h : sink.Progress) :
    ∃ sink', writeFull stalled sink buffer = (.ok (), sink') ∧ sink'.Progress :=
  writeLoop_of_progress h

end Writing

section Buffers

/-- `net.Buffers.WriteTo`: one `Write` for each buffer, the bytes taken, and the first error. -/
def writeBuffers (sink : Sink) : List (List UInt8) → Nat × Except WriteError Unit × Sink
  | [] => (0, .ok (), sink)
  | buffer :: buffers =>
    match sink.write buffer with
    | (n, fails, sink) =>
      if fails then (n, .error .connection, sink)
      else
        match writeBuffers sink buffers with
        | (m, result, sink) => (n + m, result, sink)

/-- The next calls take these buffers, each as a whole. -/
def Sink.takesWhole (sink : Sink) : List (List UInt8) → Bool
  | [] => true
  | buffer :: buffers =>
    match sink.write buffer with
    | (n, fails, sink) => !fails && decide (n = buffer.length) && sink.takesWhole buffers

theorem Sink.write_le (sink : Sink) (buffer : List UInt8) :
    (sink.write buffer).1 ≤ buffer.length := by
  unfold Sink.write
  split
  · exact Nat.le_refl _
  · exact Nat.min_le_right ..

theorem writeBuffers_le (sink : Sink) (buffers : List (List UInt8)) :
    (writeBuffers sink buffers).1 ≤ buffers.flatten.length := by
  induction buffers generalizing sink with
  | nil => exact Nat.le_refl 0
  | cons buffer buffers ih =>
    have hle := sink.write_le buffer
    rw [writeBuffers, flatten_cons, length_append]
    generalize sink.write buffer = out at hle
    obtain ⟨n, fails, after⟩ := out
    dsimp only at hle ⊢
    split
    · dsimp only
      omega
    · have hrest := ih after
      dsimp only
      omega

theorem writeBuffers_ok_iff {sink : Sink} {buffers : List (List UInt8)} :
    ((writeBuffers sink buffers).1 = buffers.flatten.length ∧
        (writeBuffers sink buffers).2.1 = .ok ()) ↔
      sink.takesWhole buffers = true := by
  induction buffers generalizing sink with
  | nil => exact ⟨fun _ => rfl, fun _ => ⟨rfl, rfl⟩⟩
  | cons buffer buffers ih =>
    have hle := sink.write_le buffer
    rw [writeBuffers, Sink.takesWhole, flatten_cons, length_append]
    generalize sink.write buffer = out at hle
    obtain ⟨n, fails, after⟩ := out
    have hrest := writeBuffers_le after buffers
    dsimp only at hle ⊢
    cases fails with
    | true => simp
    | false =>
      rw [if_neg Bool.false_ne_true, Bool.not_false, Bool.true_and, Bool.and_eq_true,
        decide_eq_true_eq, ← ih]
      dsimp only
      constructor
      · rintro ⟨hsum, hok⟩
        exact ⟨by omega, by omega, hok⟩
      · rintro ⟨hn, hm, hok⟩
        exact ⟨by omega, hok⟩

theorem writeBuffers_taken {sink : Sink} {buffers : List (List UInt8)}
    (h : sink.takesWhole buffers = true) :
    (writeBuffers sink buffers).2.2.taken = sink.taken ++ buffers.flatten := by
  induction buffers generalizing sink with
  | nil => exact (append_nil _).symm
  | cons buffer buffers ih =>
    have htaken := sink.write_taken buffer
    rw [Sink.takesWhole] at h
    rw [writeBuffers, flatten_cons]
    generalize sink.write buffer = out at h htaken
    obtain ⟨n, fails, after⟩ := out
    simp only [Bool.and_eq_true, Bool.not_eq_true', decide_eq_true_eq] at h htaken
    obtain ⟨⟨hfails, hn⟩, hrest⟩ := h
    dsimp only
    rw [hfails, if_neg Bool.false_ne_true]
    dsimp only
    rw [ih hrest, htaken, hn, take_length, append_assoc]

end Buffers

end Smp3Multipath.Lib.ByteStream

import Smp3Multipath.Client.SocksDial

/-!
# Datagrams of the SOCKS association

A datagram between the application and the association is a header of three bytes, an address and
the payload.  `encodeSocksUDPDatagram` writes the address that it finds in the text of an endpoint,
and `parseSocksUDPDatagram` makes the text again; the payload is what its reader has left.

A Go string is a list of bytes.  What `net` does with texts is a parameter, with what its
documentation says in `Contracts`.  A `bufio.Reader` over the bytes of a packet gives them in order
and then `io.EOF`, so it is a stream of one segment.
-/

namespace Smp3Multipath.Client.SocksDatagram

open Lib.ByteStream List Option
open SocksDial (Address reading)

section Texts

abbrev Text := List UInt8

def colon : UInt8 := 58
def leftBracket : UInt8 := 91
def rightBracket : UInt8 := 93

/-- None of the characters with a meaning to `SplitHostPort`. -/
def Plain (text : Text) : Prop := colon ∉ text ∧ leftBracket ∉ text ∧ rightBracket ∉ text

instance (text : Text) : Decidable (Plain text) := inferInstanceAs (Decidable (_ ∧ _))

def digit (n : Nat) : UInt8 := UInt8.ofNat (48 + n)

def digitsOf : Nat → Nat → Text
  | 0, _ => []
  | fuel + 1, n => if n < 10 then [digit n] else digitsOf fuel (n / 10) ++ [digit (n % 10)]

/-- `strconv.Itoa`. -/
def itoa (n : Nat) : Text := digitsOf (n + 1) n

def IsDigit (b : UInt8) : Prop := 48 ≤ b.toNat ∧ b.toNat ≤ 57

instance (b : UInt8) : Decidable (IsDigit b) := inferInstanceAs (Decidable (_ ∧ _))

def parseDigits (text : Text) : Option Nat :=
  if text ≠ [] ∧ ∀ b ∈ text, IsDigit b then
    some (text.foldl (fun n b => 10 * n + (b.toNat - 48)) 0)
  else none

/-- `strconv.Atoi`; a number that does not fit is an error there, and refused as a port here. -/
def atoi : Text → Option Int
  | [] => none
  | b :: text =>
    if b = 43 then (parseDigits text).map Int.ofNat
    else if b = 45 then (parseDigits text).map fun n => -(n : Int)
    else (parseDigits (b :: text)).map Int.ofNat

theorem toNat_digit {n : Nat} (h : n < 10) : (digit n).toNat = 48 + n := by
  rw [digit, UInt8.toNat_ofNat']
  exact Nat.mod_eq_of_lt (by omega)

theorem isDigit_digit {n : Nat} (h : n < 10) : IsDigit (digit n) := by
  rw [IsDigit, toNat_digit h]
  omega

theorem digitsOf_spec (fuel n : Nat) (h : n < fuel) :
    digitsOf fuel n ≠ [] ∧ (∀ b ∈ digitsOf fuel n, IsDigit b) ∧
      (digitsOf fuel n).foldl (fun n b => 10 * n + (b.toNat - 48)) 0 = n := by
  induction fuel generalizing n with
  | zero => omega
  | succ fuel ih =>
    rw [digitsOf]
    split
    · next hlt =>
      refine ⟨cons_ne_nil _ _, ?_, ?_⟩
      · intro b hb
        rw [mem_singleton.1 hb]
        exact isDigit_digit hlt
      · rw [foldl_cons, foldl_nil, toNat_digit hlt]
        omega
    · next hge =>
      have hmod : n % 10 < 10 := Nat.mod_lt n (by omega)
      obtain ⟨-, hall, hvalue⟩ := ih (n / 10) (by omega)
      refine ⟨append_ne_nil_of_right_ne_nil _ (cons_ne_nil _ _), ?_, ?_⟩
      · intro b hb
        rcases mem_append.1 hb with hb | hb
        · exact hall b hb
        · rw [mem_singleton.1 hb]
          exact isDigit_digit hmod
      · rw [foldl_append, hvalue, foldl_cons, foldl_nil, toNat_digit hmod]
        omega

theorem isDigit_itoa {n : Nat} {b : UInt8} (h : b ∈ itoa n) : IsDigit b :=
  (digitsOf_spec (n + 1) n (Nat.lt_succ_self n)).2.1 b h

theorem plain_itoa (n : Nat) : Plain (itoa n) := by
  refine ⟨fun h => ?_, fun h => ?_, fun h => ?_⟩
  · exact absurd (isDigit_itoa h) (by decide)
  · exact absurd (isDigit_itoa h) (by decide)
  · exact absurd (isDigit_itoa h) (by decide)

theorem atoi_itoa (n : Nat) : atoi (itoa n) = some (n : Int) := by
  obtain ⟨hne, hall, hvalue⟩ := digitsOf_spec (n + 1) n (Nat.lt_succ_self n)
  have hparse : parseDigits (itoa n) = some n := by
    rw [parseDigits, if_pos ⟨hne, hall⟩]
    exact congrArg some hvalue
  cases htext : itoa n with
  | nil => exact absurd htext hne
  | cons b text =>
    have hdigit : IsDigit b := isDigit_itoa (htext ▸ mem_cons_self)
    rw [htext] at hparse
    rw [atoi, if_neg, if_neg, hparse]
    · rfl
    · rintro rfl
      exact absurd hdigit (by decide)
    · rintro rfl
      exact absurd hdigit (by decide)

end Texts

section Model

/-- The functions of `net`; an IP is its bytes. -/
structure Library where
  splitHostPort : Text → Option (Text × Text)
  joinHostPort : Text → Text → Text
  parseIP : Text → Option (List UInt8)
  ipString : List UInt8 → Text

def v4InV6Prefix : List UInt8 := [0, 0, 0, 0, 0, 0, 0, 0, 0, 0, 255, 255]

/-- `IP.To4`. -/
def to4 (ip : List UInt8) : Option (List UInt8) :=
  if ip.length = 4 then some ip
  else if ip.length = 16 ∧ ip.take 12 = v4InV6Prefix then some (ip.drop 12)
  else none

theorem to4_length {ip v4 : List UInt8} (h : to4 ip = some v4) : v4.length = 4 := by
  rw [to4] at h
  split at h
  · next hlen =>
    cases h
    exact hlen
  · split at h
    · next hlen =>
      cases h
      rw [length_drop, hlen.1]
    · cases h

theorem to4_none_length {ip : List UInt8} (h : to4 ip = none) : ip.length ≠ 4 := by
  intro hlen
  rw [to4, if_pos hlen] at h
  cases h

/-- An error as its format and the arguments, or one of a read. -/
inductive Error where
  | text (format : String) (args : List Text)
  | read (e : ReadError)
deriving DecidableEq

/-- `byte(port>>8), byte(port)`. -/
def portBytes (port : Nat) : List UInt8 := [UInt8.ofNat (port / 256), UInt8.ofNat port]

variable (lib : Library)

def encodeSocksAddress (target : Text) (allowZeroPort : Bool) : Except Error (List UInt8) :=
  match lib.splitHostPort target with
  | none => .error (.text "invalid SOCKS address %q" [target])
  | some (host, portText) =>
    if host = [] then .error (.text "invalid SOCKS address %q" [target])
    else
      match atoi portText with
      | none => .error (.text "invalid SOCKS port %q" [portText])
      | some port =>
        if port < 0 ∨ 65535 < port ∨ (allowZeroPort = false ∧ port = 0) then
          .error (.text "invalid SOCKS port %q" [portText])
        else
          match lib.parseIP host with
          | some ip =>
            match to4 ip with
            | some v4 => .ok (1 :: v4 ++ portBytes port.toNat)
            | none =>
              if ip.length ≠ 16 then .error (.text "invalid SOCKS IP address %q" [host])
              else .ok (4 :: ip ++ portBytes port.toNat)
          | none =>
            if 255 < host.length then .error (.text "SOCKS domain exceeds 255 bytes" [])
            else .ok (3 :: UInt8.ofNat host.length :: host ++ portBytes port.toNat)

/-- The end of `decodeSocksAddress`: the port, and the text of the endpoint. -/
def decodePort (allowZeroPort : Bool) (host : Text) (source : Source) :
    Except Error (Text × Source) :=
  reading source 2 .read fun bytes source =>
    let port := (bytes.getD 0 0).toNat * 256 + (bytes.getD 1 0).toNat
    if port = 0 ∧ allowZeroPort = false then .error (.text "SOCKS port is zero" [])
    else .ok (lib.joinHostPort host (itoa port), source)

/-- `decodeSocksAddress`, with what the reader has left. -/
def decodeSocksAddress (source : Source) (allowZeroPort : Bool) : Except Error (Text × Source) :=
  reading source 1 .read fun addressType source =>
    if addressType.headD 0 = 1 then
      reading source 4 .read fun value => decodePort lib allowZeroPort (lib.ipString value)
    else if addressType.headD 0 = 3 then
      reading source 1 .read fun length source =>
        if length.headD 0 = 0 then .error (.text "empty SOCKS domain" [])
        else reading source (length.headD 0).toNat .read fun value => decodePort lib allowZeroPort value
    else if addressType.headD 0 = 4 then
      reading source 16 .read fun value => decodePort lib allowZeroPort (lib.ipString value)
    else .error (.text "unsupported SOCKS address type %d" [addressType])

def socksUDPHeaderSize : Nat := 3

def parseSocksUDPDatagram (packet : List UInt8) : Except Error (Text × List UInt8) :=
  if packet.length < socksUDPHeaderSize then .error (.text "short SOCKS5 UDP datagram" [])
  else if packet.getD 0 0 ≠ 0 ∨ packet.getD 1 0 ≠ 0 then
    .error (.text "invalid SOCKS5 UDP reserved field" [])
  else if packet.getD 2 0 ≠ 0 then
    .error (.text "fragmented SOCKS5 UDP datagram is not supported" [])
  else
    match decodeSocksAddress lib [packet.drop socksUDPHeaderSize] false with
    | .error e => .error e
    | .ok (address, source) =>
      if source.flatten = [] then .error (.text "empty SOCKS5 UDP datagram" [])
      else .ok (address, source.flatten)

def encodeSocksUDPDatagram (address : Text) (payload : List UInt8) : Except Error (List UInt8) :=
  if payload = [] then .error (.text "empty SOCKS5 UDP datagram" [])
  else
    match encodeSocksAddress lib address false with
    | .error e => .error e
    | .ok encodedAddress => .ok ([0, 0, 0] ++ encodedAddress ++ payload)

end Model

section Contracts

/-- What the documentation of `net` says about its functions. -/
structure Contracts (lib : Library) : Prop where
  join_plain : ∀ host port, colon ∉ host → lib.joinHostPort host port = host ++ colon :: port
  join_colon : ∀ host port, colon ∈ host →
    lib.joinHostPort host port = leftBracket :: host ++ rightBracket :: colon :: port
  split_plain : ∀ host port, Plain host → Plain port →
    lib.splitHostPort (host ++ colon :: port) = some (host, port)
  split_bracket : ∀ host port, leftBracket ∉ host → rightBracket ∉ host → Plain port →
    lib.splitHostPort (leftBracket :: host ++ rightBracket :: colon :: port) = some (host, port)
  parse_length : ∀ host ip, lib.parseIP host = some ip →
    ip.length = 4 ∨ ip.length = 16
  parse_text : ∀ host ip, lib.parseIP host = some ip →
    host ≠ [] ∧ leftBracket ∉ host ∧ rightBracket ∉ host
  string_to4 : ∀ host ip v4, lib.parseIP host = some ip → to4 ip = some v4 →
    lib.ipString v4 = lib.ipString ip
  parse_string : ∀ host ip, lib.parseIP host = some ip →
    lib.parseIP (lib.ipString ip) = some ip

/-- An IP literal, or a domain name of 1 to 255 bytes. -/
def ValidHost (lib : Library) (host : Text) : Prop :=
  lib.parseIP host ≠ none ∨ (1 ≤ host.length ∧ host.length ≤ 255 ∧ Plain host)

instance (lib : Library) (host : Text) : Decidable (ValidHost lib host) :=
  inferInstanceAs (Decidable (_ ∨ _))

/-- An IP literal in its canonical form, a domain name as it is. -/
def canonicalHost (lib : Library) (host : Text) : Text :=
  match lib.parseIP host with
  | some ip => lib.ipString ip
  | none => host

variable {lib : Library} {host : Text}

theorem Contracts.parseIP_canonicalHost (hlib : Contracts lib) (host : Text) :
    lib.parseIP (canonicalHost lib host) = lib.parseIP host := by
  rw [canonicalHost]
  split
  · next ip hip => rw [hlib.parse_string host ip hip, hip]
  · rfl

theorem Contracts.ne_nil_of_valid (hlib : Contracts lib) (hhost : ValidHost lib host) :
    host ≠ [] := by
  rcases hhost with hip | ⟨hlen, -, -⟩
  · obtain ⟨ip, hip⟩ := ne_none_iff_exists'.1 hip
    exact (hlib.parse_text host ip hip).1
  · exact ne_nil_of_length_pos hlen

theorem Contracts.brackets_of_valid (hlib : Contracts lib) (hhost : ValidHost lib host) :
    leftBracket ∉ host ∧ rightBracket ∉ host := by
  rcases hhost with hip | ⟨-, -, hplain⟩
  · obtain ⟨ip, hip⟩ := ne_none_iff_exists'.1 hip
    exact (hlib.parse_text host ip hip).2
  · exact hplain.2

/-- The text of an endpoint falls apart again, with the brackets or without them. -/
theorem Contracts.split_join (hlib : Contracts lib) (hhost : ValidHost lib host) (port : Nat) :
    lib.splitHostPort (lib.joinHostPort host (itoa port)) = some (host, itoa port) := by
  obtain ⟨hleft, hright⟩ := hlib.brackets_of_valid hhost
  by_cases hcolon : colon ∈ host
  · rw [hlib.join_colon host _ hcolon]
    exact hlib.split_bracket host _ hleft hright (plain_itoa port)
  · rw [hlib.join_plain host _ hcolon]
    exact hlib.split_plain host _ ⟨hcolon, hleft, hright⟩ (plain_itoa port)

end Contracts

section Wire

/-- The type and the host of an address, as they stand before the port. -/
def wire (address : Address) : List UInt8 := address.type :: address.bytes

def hostBytes : Address → List UInt8
  | .v4 host _ | .v6 host _ | .domain host _ => host

/-- The text that the decoder makes of the host. -/
def hostText (lib : Library) : Address → Text
  | .v4 host _ | .v6 host _ => lib.ipString host
  | .domain host _ => host

/-- How long an address is can be seen from its start. -/
theorem wire_length_unique {a b : Address} {r r' : List UInt8} (h : wire a ++ r = wire b ++ r') :
    (wire a).length = (wire b).length := by
  rw [wire, wire, cons_append, cons_append, cons_eq_cons] at h
  obtain ⟨htype, hbytes⟩ := h
  cases a with
  | v4 host hhost =>
    cases b with
    | v4 host' hhost' => exact congrArg (· + 1) (hhost.trans hhost'.symm)
    | domain host' hhost' | v6 host' hhost' => cases htype
  | domain host hhost =>
    cases b with
    | v4 host' hhost' | v6 host' hhost' => cases htype
    | domain host' hhost' =>
      have hlen := congrArg UInt8.toNat (cons_eq_cons.1 hbytes).1
      rw [UInt8.toNat_ofNat', UInt8.toNat_ofNat', Nat.mod_eq_of_lt hhost,
        Nat.mod_eq_of_lt hhost'] at hlen
      exact congrArg (· + 2) hlen
  | v6 host hhost =>
    cases b with
    | v4 host' hhost' | domain host' hhost' => cases htype
    | v6 host' hhost' => exact congrArg (· + 1) (hhost.trans hhost'.symm)

theorem portBytes_value {port : Nat} (h : port ≤ 65535) :
    ((portBytes port).getD 0 0).toNat * 256 + ((portBytes port).getD 1 0).toNat = port := by
  change (UInt8.ofNat (port / 256)).toNat * 256 + (UInt8.ofNat port).toNat = port
  rw [UInt8.toNat_ofNat', UInt8.toNat_ofNat']
  omega

variable {lib : Library} {α : Type} {source : Source} {allowZeroPort : Bool}

/-- The decoder has made `text`, and `rest` is still to be read. -/
def Leaves (r : Except Error (Text × Source)) (text : Text) (rest : List UInt8) : Prop :=
  ∃ source, r = .ok (text, source) ∧ source.flatten = rest

theorem reading_leaves {bs more text rest : List UInt8} {k : Nat}
    {next : List UInt8 → Source → Except Error (Text × Source)}
    (hflat : source.flatten = bs ++ more) (hlen : bs.length = k)
    (hnext : ∀ source', source'.flatten = more → Leaves (next bs source') text rest) :
    Leaves (reading source k .read next) text rest := by
  obtain ⟨source', hread, hmore⟩ := readFull_of_flatten hflat hlen
  rw [reading, hread]
  exact hnext source' hmore

theorem reading_ok {k : Nat} {next : List UInt8 → Source → Except Error α} {r : α}
    (h : reading source k .read next = .ok r) :
    ∃ bs source', bs.length = k ∧ source.flatten = bs ++ source'.flatten ∧
      next bs source' = .ok r := by
  rw [reading] at h
  split at h
  · cases h
  · next bs source' hread =>
    obtain ⟨hlen, hflat⟩ := readFull_ok hread
    exact ⟨bs, source', hlen, hflat, h⟩

theorem decodePort_leaves {port : Nat} {more : List UInt8} (hpos : 0 < port)
    (hport : port ≤ 65535) (hflat : source.flatten = portBytes port ++ more) (host : Text) :
    Leaves (decodePort lib false host source) (lib.joinHostPort host (itoa port)) more := by
  refine reading_leaves hflat rfl fun source' hmore => ?_
  dsimp only
  rw [portBytes_value hport, if_neg (by omega)]
  exact ⟨source', rfl, hmore⟩

theorem decodePort_ok {host : Text} {r : Text × Source}
    (h : decodePort lib allowZeroPort host source = .ok r) :
    ∃ port, port.length = 2 ∧ source.flatten = port ++ r.2.flatten := by
  obtain ⟨port, source', hlen, hflat, hnext⟩ := reading_ok h
  dsimp only at hnext
  split at hnext <;> cases hnext
  exact ⟨port, hlen, hflat⟩

theorem decodeSocksAddress_leaves (lib : Library) {address : Address}
    (hhost : hostBytes address ≠ []) {port : Nat} (hpos : 0 < port) (hport : port ≤ 65535)
    {more : List UInt8} (hflat : source.flatten = wire address ++ (portBytes port ++ more)) :
    Leaves (decodeSocksAddress lib source false)
      (lib.joinHostPort (hostText lib address) (itoa port)) more := by
  have htype : source.flatten = [address.type] ++ (address.bytes ++ (portBytes port ++ more)) :=
    hflat
  refine reading_leaves htype rfl fun source₁ hflat₁ => ?_
  cases address with
  | v4 host hlen | v6 host hlen =>
    refine reading_leaves hflat₁ hlen fun source₂ hflat₂ => ?_
    exact decodePort_leaves hpos hport hflat₂ _
  | domain host hlen =>
    have hlength : (UInt8.ofNat host.length).toNat = host.length := by
      rw [UInt8.toNat_ofNat', Nat.mod_eq_of_lt hlen]
    have hflat₁ : source₁.flatten =
        [UInt8.ofNat host.length] ++ (host ++ (portBytes port ++ more)) := hflat₁
    refine reading_leaves hflat₁ rfl fun source₂ hflat₂ => ?_
    have hzero : ¬ UInt8.ofNat host.length = 0 := by
      intro hzero
      rw [hzero] at hlength
      exact hhost (eq_nil_of_length_eq_zero hlength.symm)
    rw [if_neg (show ¬ List.headD [UInt8.ofNat host.length] 0 = 0 from hzero)]
    refine reading_leaves hflat₂ hlength.symm fun source₃ hflat₃ => ?_
    exact decodePort_leaves hpos hport hflat₃ _

theorem decodeSocksAddress_ok {r : Text × Source}
    (h : decodeSocksAddress lib source allowZeroPort = .ok r) :
    ∃ address port, port.length = 2 ∧
      source.flatten = wire address ++ (port ++ r.2.flatten) := by
  obtain ⟨typeBytes, source₁, hlen₁, hflat₁, h⟩ := reading_ok h
  obtain ⟨addressType, rfl⟩ := length_eq_one_iff.1 hlen₁
  split at h
  · next htype =>
    have htype : addressType = 1 := htype
    obtain ⟨host, source₂, hlen₂, hflat₂, h⟩ := reading_ok h
    obtain ⟨port, hport, hflat₃⟩ := decodePort_ok h
    refine ⟨.v4 host hlen₂, port, hport, ?_⟩
    rw [hflat₁, hflat₂, hflat₃, htype]
    rfl
  · split at h
    · next htype =>
      have htype : addressType = 3 := htype
      obtain ⟨lengthBytes, source₂, hlen₂, hflat₂, h⟩ := reading_ok h
      obtain ⟨length, rfl⟩ := length_eq_one_iff.1 hlen₂
      split at h
      · cases h
      · obtain ⟨host, source₃, hlen₃, hflat₃, h⟩ := reading_ok h
        have hlen₃ : host.length = length.toNat := hlen₃
        obtain ⟨port, hport, hflat₄⟩ := decodePort_ok h
        refine ⟨.domain host (hlen₃ ▸ length.toNat_lt), port, hport, ?_⟩
        rw [hflat₁, hflat₂, hflat₃, hflat₄, htype]
        change _ = 3 :: (UInt8.ofNat host.length :: host) ++ _
        rw [hlen₃, UInt8.ofNat_toNat]
        rfl
    · split at h
      · next htype =>
        have htype : addressType = 4 := htype
        obtain ⟨host, source₂, hlen₂, hflat₂, h⟩ := reading_ok h
        obtain ⟨port, hport, hflat₃⟩ := decodePort_ok h
        refine ⟨.v6 host hlen₂, port, hport, ?_⟩
        rw [hflat₁, hflat₂, hflat₃, htype]
        rfl
      · cases h

end Wire

section Roundtrip

variable {lib : Library} {host : Text} {port : Nat}

theorem encodeSocksAddress_join (hlib : Contracts lib) (hhost : ValidHost lib host)
    (hpos : 0 < port) (hport : port ≤ 65535) :
    ∃ address : Address,
      encodeSocksAddress lib (lib.joinHostPort host (itoa port)) false =
        .ok (wire address ++ portBytes port) ∧
      hostBytes address ≠ [] ∧ hostText lib address = canonicalHost lib host := by
  rw [encodeSocksAddress, hlib.split_join hhost]
  simp only [atoi_itoa, canonicalHost]
  rw [if_neg (hlib.ne_nil_of_valid hhost), if_neg (by omega), Int.toNat_natCast]
  cases hip : lib.parseIP host with
  | some ip =>
    dsimp only
    cases hv4 : to4 ip with
    | some v4 =>
      have hlen4 : v4.length = 4 := to4_length hv4
      exact ⟨.v4 v4 hlen4, rfl, ne_nil_of_length_pos (hlen4 ▸ by decide),
        hlib.string_to4 host ip v4 hip hv4⟩
    | none =>
      have hlen : ip.length = 16 :=
        (hlib.parse_length host ip hip).resolve_left (to4_none_length hv4)
      dsimp only
      rw [if_neg (not_not.2 hlen)]
      exact ⟨.v6 ip hlen, rfl, ne_nil_of_length_pos (hlen ▸ by decide), rfl⟩
  | none =>
    obtain ⟨hlow, hhigh, -⟩ := hhost.resolve_left (not_not.2 hip)
    dsimp only
    rw [if_neg (by omega)]
    exact ⟨.domain host (by omega), rfl, ne_nil_of_length_pos hlow, rfl⟩

theorem encodeSocksAddress_zero (hlib : Contracts lib) (hhost : ValidHost lib host) :
    encodeSocksAddress lib (lib.joinHostPort host (itoa 0)) false =
      .error (.text "invalid SOCKS port %q" [itoa 0]) := by
  rw [encodeSocksAddress, hlib.split_join hhost]
  simp only [atoi_itoa]
  rw [if_neg (hlib.ne_nil_of_valid hhost), if_pos (.inr (.inr ⟨trivial, rfl⟩))]

theorem parseSocksUDPDatagram_ok {packet : List UInt8} {r : Text × List UInt8}
    (h : parseSocksUDPDatagram lib packet = .ok r) :
    packet.getD 2 0 = 0 ∧ r.2 ≠ [] ∧ ∃ address port, port.length = 2 ∧
      packet.drop socksUDPHeaderSize = wire address ++ (port ++ r.2) := by
  rw [parseSocksUDPDatagram] at h
  split at h
  · cases h
  split at h
  · cases h
  split at h
  · cases h
  next hfragment =>
  split at h
  · cases h
  next text source hdecode =>
  split at h
  · cases h
  next hpayload =>
  cases h
  obtain ⟨address, port, hport, hflat⟩ := decodeSocksAddress_ok hdecode
  rw [flatten_singleton] at hflat
  exact ⟨not_not.1 hfragment, hpayload, address, port, hport, hflat⟩

/-- A packet without a reserved byte or a fragment number is as good as its address. -/
theorem parseSocksUDPDatagram_of_decode {packet body payload : List UInt8} {text : Text}
    {source : Source} (hpacket : packet = [0, 0, 0] ++ body)
    (hdecode : decodeSocksAddress lib [body] false = .ok (text, source))
    (hrest : source.flatten = payload) (hpayload : payload ≠ []) :
    parseSocksUDPDatagram lib packet = .ok (text, payload) := by
  subst hpacket hrest
  have hlen : ¬ ([0, 0, 0] ++ body).length < socksUDPHeaderSize := by
    rw [length_append]
    exact Nat.not_lt.2 (Nat.le_add_right 3 body.length)
  have hdrop : ([0, 0, 0] ++ body).drop socksUDPHeaderSize = body := rfl
  rw [parseSocksUDPDatagram, if_neg hlen, if_neg (by simp), if_neg (by simp), hdrop, hdecode]
  exact if_neg hpayload

theorem parseSocksUDPDatagram_rejects {packet : List UInt8}
    (h : ∀ r, parseSocksUDPDatagram lib packet ≠ .ok r) :
    ∃ e, parseSocksUDPDatagram lib packet = .error e := by
  cases hparse : parseSocksUDPDatagram lib packet with
  | error e => exact ⟨e, rfl⟩
  | ok r => exact absurd hparse (h r)

theorem parseSocksUDPDatagram_cut (lib : Library) {start suffix : List UInt8}
    (hstart : start.length = socksUDPHeaderSize) (hport : suffix.length = 2)
    (address : Address) (k : Nat) :
    ∃ e, parseSocksUDPDatagram lib ((start ++ (wire address ++ suffix)).take k) =
      .error e := by
  refine parseSocksUDPDatagram_rejects fun r hr => ?_
  obtain ⟨-, hpayload, address', port', hport', hdrop⟩ := parseSocksUDPDatagram_ok hr
  rw [drop_take, ← hstart, drop_left] at hdrop
  -- what is left of the header starts with an address of the same length, so nothing is cut off
  have hwhole : wire address ++ suffix = wire address' ++ (port' ++ r.2 ++
      (wire address ++ suffix).drop (k - start.length)) := by
    rw [← append_assoc, ← hdrop, take_append_drop]
  have hwire := wire_length_unique hwhole
  have hlength := congrArg List.length hwhole
  have hpos := length_pos_of_ne_nil hpayload
  simp only [length_append] at hlength
  omega

/-- Every endpoint and every payload come back as they were sent, an IP literal in its canonical
form.  A fragment and a packet whose header is cut anywhere are rejected. -/
theorem socks_datagram_roundtrip (lib : Library) (hlib : Contracts lib) :
    (∀ host port payload, ValidHost lib host → 0 < port → port ≤ 65535 → payload ≠ [] →
      ∃ packet,
        encodeSocksUDPDatagram lib (lib.joinHostPort host (itoa port)) payload = .ok packet ∧
        parseSocksUDPDatagram lib packet =
          .ok (lib.joinHostPort (canonicalHost lib host) (itoa port), payload) ∧
        lib.parseIP (canonicalHost lib host) = lib.parseIP host) ∧
    (∀ packet, packet.getD 2 0 ≠ 0 → ∃ e, parseSocksUDPDatagram lib packet = .error e) ∧
    (∀ start address suffix k, start.length = socksUDPHeaderSize → suffix.length = 2 →
      k < (start ++ (wire address ++ suffix)).length →
      ∃ e, parseSocksUDPDatagram lib ((start ++ (wire address ++ suffix)).take k) = .error e) := by
  refine ⟨?_, ?_, ?_⟩
  · intro host port payload hhost hpos hport hpayload
    obtain ⟨address, hencode, hne, htext⟩ := encodeSocksAddress_join hlib hhost hpos hport
    refine ⟨[0, 0, 0] ++ (wire address ++ portBytes port) ++ payload, ?_, ?_,
      hlib.parseIP_canonicalHost host⟩
    · rw [encodeSocksUDPDatagram, if_neg hpayload, hencode]
    · have hflat : List.flatten [wire address ++ portBytes port ++ payload] =
          wire address ++ (portBytes port ++ payload) := by
        rw [flatten_singleton, append_assoc]
      obtain ⟨source, hdecode, hrest⟩ := decodeSocksAddress_leaves lib hne hpos hport hflat
      rw [htext] at hdecode
      exact parseSocksUDPDatagram_of_decode rfl hdecode hrest hpayload
  · intro packet hfragment
    refine parseSocksUDPDatagram_rejects fun r hr => ?_
    exact hfragment (parseSocksUDPDatagram_ok hr).1
  · intro start address suffix k hstart hsuffix _
    exact parseSocksUDPDatagram_cut lib hstart hsuffix address k

end Roundtrip

section Sample

/-- The text and the bytes of `::1`. -/
def loopbackText : Text := [58, 58, 49]
def loopback : List UInt8 := [0, 0, 0, 0, 0, 0, 0, 0, 0, 0, 0, 0, 0, 0, 0, 1]

/-- The host up to the byte `stop`, and the port behind it and the text `between`. -/
def splitAt (stop : UInt8) (between text : Text) : Option (Text × Text) :=
  let port := (text.dropWhile (· ≠ stop)).drop (between.length + 1)
  if text = text.takeWhile (· ≠ stop) ++ stop :: between ++ port ∧ Plain port then
    some (text.takeWhile (· ≠ stop), port)
  else none

/-- The functions of `net` as far as `::1` is the only IP. -/
def sampleLibrary : Library where
  splitHostPort
    | [] => none
    | b :: text =>
      if b = leftBracket then splitAt rightBracket [colon] text else splitAt colon [] (b :: text)
  joinHostPort host port :=
    if colon ∈ host then leftBracket :: host ++ rightBracket :: colon :: port
    else host ++ colon :: port
  parseIP text := if text = loopbackText then some loopback else none
  ipString ip := if ip = loopback then loopbackText else []

theorem splitAt_append {stop : UInt8} {host port : Text} (between : Text) (hhost : stop ∉ host)
    (hport : Plain port) :
    splitAt stop between (host ++ stop :: between ++ port) = some (host, port) := by
  have hall : ∀ b ∈ host, decide (b ≠ stop) = true := by
    intro b hb
    exact decide_eq_true (fun h => hhost (h ▸ hb))
  have htake : (host ++ stop :: between ++ port).takeWhile (· ≠ stop) = host := by
    rw [append_assoc, takeWhile_append_of_pos hall]
    simp
  have hdrop : (host ++ stop :: between ++ port).dropWhile (· ≠ stop) =
      stop :: between ++ port := by
    rw [append_assoc, dropWhile_append_of_pos hall]
    simp
  have hrest : (stop :: between ++ port).drop (between.length + 1) = port := drop_left
  rw [splitAt, htake, hdrop, hrest]
  exact if_pos ⟨rfl, hport⟩

theorem contracts_sampleLibrary : Contracts sampleLibrary where
  join_plain host port h := if_neg h
  join_colon host port h := if_pos h
  split_plain host port hhost hport := by
    cases host with
    | nil => exact splitAt_append [] not_mem_nil hport
    | cons b host =>
      have hb : b ≠ leftBracket := fun h => hhost.2.1 (h ▸ mem_cons_self)
      have hsplit := splitAt_append [] hhost.1 hport
      rw [append_assoc] at hsplit
      exact (if_neg hb).trans hsplit
  split_bracket host port _ hright hport := by
    have hsplit := splitAt_append [colon] hright hport
    rw [append_assoc] at hsplit
    exact hsplit
  parse_length host ip h := by
    cases (ite_none_right_eq_some.1 h).2
    exact Or.inr rfl
  parse_text host ip h := by
    cases (ite_none_right_eq_some.1 h).1
    decide
  string_to4 host ip v4 h hv4 := by
    cases (ite_none_right_eq_some.1 h).2
    have hnone : to4 loopback = none := by decide
    rw [hnone] at hv4
    cases hv4
  parse_string host ip h := by
    cases (ite_none_right_eq_some.1 h).2
    decide

/-- The text `example`. -/
def domainText : Text := [101, 120, 97, 109, 112, 108, 101]

/-- A datagram to `[::1]:53`, one to `example:8080`, and one that is cut in the address. -/
theorem socks_datagram_roundtrip_loopback :
    (∃ packet,
      encodeSocksUDPDatagram sampleLibrary
        (sampleLibrary.joinHostPort loopbackText (itoa 53)) [7, 9] = .ok packet ∧
      parseSocksUDPDatagram sampleLibrary packet =
        .ok (sampleLibrary.joinHostPort loopbackText (itoa 53), [7, 9])) ∧
    (∃ packet,
      encodeSocksUDPDatagram sampleLibrary
        (sampleLibrary.joinHostPort domainText (itoa 8080)) [7] = .ok packet ∧
      parseSocksUDPDatagram sampleLibrary packet =
        .ok (sampleLibrary.joinHostPort domainText (itoa 8080), [7])) ∧
    (∃ e, parseSocksUDPDatagram sampleLibrary
      ([0, 0, 0] ++ (wire (.v6 loopback rfl) ++ [0, 53]) |>.take 12) = .error e) := by
  obtain ⟨hround, -, hcut⟩ := socks_datagram_roundtrip sampleLibrary contracts_sampleLibrary
  refine ⟨?_, ?_, hcut [0, 0, 0] (.v6 loopback rfl) [0, 53] 12 rfl rfl (by decide)⟩
  · obtain ⟨packet, hencode, hparse, -⟩ := hround loopbackText 53 [7, 9] (by decide) (by decide)
      (by decide) (by decide)
    exact ⟨packet, hencode, hparse⟩
  · obtain ⟨packet, hencode, hparse, -⟩ := hround domainText 8080 [7] (by decide) (by decide)
      (by decide) (by decide)
    exact ⟨packet, hencode, hparse⟩

/-- Port 0 and the empty payload are refused by the encoder, so not every endpoint and not every
payload come back. -/
theorem socks_datagram_zero_port_refused :
    Contracts sampleLibrary ∧ ValidHost sampleLibrary loopbackText ∧
    encodeSocksUDPDatagram sampleLibrary
      (sampleLibrary.joinHostPort loopbackText (itoa 0)) [7] =
        .error (.text "invalid SOCKS port %q" [itoa 0]) ∧
    encodeSocksUDPDatagram sampleLibrary
      (sampleLibrary.joinHostPort loopbackText (itoa 53)) [] =
        .error (.text "empty SOCKS5 UDP datagram" []) ∧
    ¬ ∀ host port payload, ValidHost sampleLibrary host → port ≤ 65535 → ∃ packet,
      encodeSocksUDPDatagram sampleLibrary
        (sampleLibrary.joinHostPort host (itoa port)) payload = .ok packet ∧
      parseSocksUDPDatagram sampleLibrary packet =
        .ok (sampleLibrary.joinHostPort (canonicalHost sampleLibrary host) (itoa port),
          payload) := by
  have hzero : encodeSocksUDPDatagram sampleLibrary
      (sampleLibrary.joinHostPort loopbackText (itoa 0)) [7] =
        .error (.text "invalid SOCKS port %q" [itoa 0]) := by
    rw [encodeSocksUDPDatagram, if_neg (cons_ne_nil _ _),
      encodeSocksAddress_zero contracts_sampleLibrary (by decide)]
  refine ⟨contracts_sampleLibrary, by decide, hzero, if_pos rfl, fun hall => ?_⟩
  obtain ⟨packet, hencode, -⟩ := hall loopbackText 0 [7] (by decide) (by decide)
  rw [hzero] at hencode
  cases hencode

end Sample

end Smp3Multipath.Client.SocksDatagram

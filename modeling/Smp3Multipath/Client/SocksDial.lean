import Smp3Multipath.Client.Configuration
import Smp3Multipath.Lib.ByteStream

/-!
# The dialer of the upstream SOCKS proxy

`dialUpstream` reads the method, the authentication and the head of the CONNECT reply from the
connection itself, and the bound address through a `bufio.Reader` that is then thrown away.  The
reader takes as much as one `Read` gives it.  Exactly if bytes of the peer behind the proxy come in
one segment with the end of the reply, some are lost with the reader.

The model reads a stream that comes in segments; the bytes that are written, the deadline and the
watcher that closes the connection at the end of the context are left out.
-/

namespace Smp3Multipath.Client.SocksDial

open Lib.ByteStream List
open Client.Configuration (Upstream)

section Model

def socksVersion5 : UInt8 := 5
def socksNoAuth : UInt8 := 0
def socksUserPass : UInt8 := 2

inductive DialError where
  /-- "upstream SOCKS address is empty" -/
  | addressEmpty
  /-- "upstream SOCKS username and password must be provided together" -/
  | credentialsIncomplete
  /-- "read upstream SOCKS method" -/
  | readMethod (e : ReadError)
  /-- "upstream SOCKS returned an invalid version" -/
  | invalidVersion
  /-- `errSOCKS5NoAcceptableMethod` -/
  | noAcceptableMethod
  /-- "upstream SOCKS credentials exceed 255 bytes" -/
  | credentialsTooLong
  /-- "read upstream SOCKS authentication" -/
  | readAuthentication (e : ReadError)
  /-- "upstream SOCKS authentication failed" -/
  | authenticationFailed
  /-- The target cannot be encoded. -/
  | target
  /-- "read upstream SOCKS CONNECT" -/
  | readConnect (e : ReadError)
  /-- "upstream SOCKS CONNECT returned an invalid version" -/
  | connectVersion
  /-- "read upstream SOCKS bound address" -/
  | boundAddress (e : ReadError)
  /-- "unsupported SOCKS bound address type" -/
  | addressType (t : UInt8)
  /-- "upstream SOCKS CONNECT failed with reply" -/
  | connectFailed (reply : UInt8)
deriving DecidableEq

/-- `io.ReadFull` on a reader, and what follows. -/
def reading {ε α : Type} (source : Source) (k : Nat) (wrap : ReadError → ε)
    (next : List UInt8 → Source → Except ε α) : Except ε α :=
  match readFull source k with
  | (.error e, _) => .error (wrap e)
  | (.ok bs, source) => next bs source

/-- `io.ReadFull` on the buffered reader, and what follows. -/
def readingBuffered {α : Type} (buffer : List UInt8) (source : Source) (k : Nat)
    (next : List UInt8 → List UInt8 → Source → Except DialError α) : Except DialError α :=
  match readBuffered [] buffer source k with
  | (.error e, _, _) => .error (.boundAddress e)
  | (.ok bs, buffer, source) => next bs buffer source

/-- `discardSocksAddress` on a new reader; what is left of the connection. -/
def discardSocksAddress (addressType : UInt8) (source : Source) : Except DialError Source :=
  let port (buffer : List UInt8) (source : Source) : Except DialError Source :=
    readingBuffered buffer source 2 fun _ _ source => .ok source
  if addressType = 1 then
    readingBuffered [] source 4 fun _ buffer source => port buffer source
  else if addressType = 3 then
    readingBuffered [] source 1 fun length buffer source =>
      readingBuffered buffer source (length.headD 0).toNat fun _ buffer source =>
        port buffer source
  else if addressType = 4 then
    readingBuffered [] source 16 fun _ buffer source => port buffer source
  else .error (.addressType addressType)

/-- `dialUpstream` on the head of the CONNECT reply. -/
def replied (reply : List UInt8) (source : Source) : Except DialError Source :=
  if reply.headD 0 ≠ socksVersion5 then .error .connectVersion
  else
    match discardSocksAddress (reply.getD 3 0) source with
    | .error e => .error e
    | .ok source =>
      if reply.getD 1 0 ≠ 0 then .error (.connectFailed (reply.getD 1 0)) else .ok source

/-- The CONNECT request and its reply; `encodes` says whether the target can be encoded. -/
def connect (encodes : Bool) (source : Source) : Except DialError Source :=
  if encodes then reading source 4 .readConnect replied else .error .target

/-- `dialUpstream` on the reply to user and password. -/
def authenticated (encodes : Bool) (authReply : List UInt8) (source : Source) :
    Except DialError Source :=
  if authReply.headD 0 ≠ 1 ∨ authReply.getD 1 0 ≠ 0 then .error .authenticationFailed
  else connect encodes source

/-- `dialUpstream` on the method the proxy has selected. -/
def selected (options : Upstream) (encodes : Bool) (selection : List UInt8) (source : Source) :
    Except DialError Source :=
  if selection.headD 0 ≠ socksVersion5 then .error .invalidVersion
  else if selection.getD 1 0 = socksNoAuth then connect encodes source
  else if selection.getD 1 0 = socksUserPass then
    if options.username = "" ∨ options.password = "" then .error .noAcceptableMethod
    else if 255 < options.username.utf8ByteSize ∨ 255 < options.password.utf8ByteSize then
      .error .credentialsTooLong
    else reading source 2 .readAuthentication (authenticated encodes)
  else .error .noAcceptableMethod

/-- `dialUpstream` from the greeting on, on a connection with the bytes of `source`; what is left
to read of the connection that is returned. -/
def dialUpstream (options : Upstream) (encodes : Bool) (source : Source) :
    Except DialError Source :=
  if options.address = "" then .error .addressEmpty
  else if (options.username = "" ∧ options.password ≠ "") ∨
      (options.username ≠ "" ∧ options.password = "") then .error .credentialsIncomplete
  else reading source 2 .readMethod (selected options encodes)

end Model

section Exchange

/-- The bound address of a reply, with its length where the length is open. -/
inductive Address where
  | v4 (host : List UInt8) (h : host.length = 4)
  | domain (host : List UInt8) (h : host.length < 256)
  | v6 (host : List UInt8) (h : host.length = 16)

def Address.type : Address → UInt8
  | .v4 .. => 1
  | .domain .. => 3
  | .v6 .. => 4

def Address.bytes : Address → List UInt8
  | .v4 host _ | .v6 host _ => host
  | .domain host _ => UInt8.ofNat host.length :: host

/-- A well-formed exchange that accepts the connection. -/
structure Exchange where
  /-- The proxy has selected user and password. -/
  auth : Bool
  reserved : UInt8
  address : Address
  port : List UInt8
  port_length : port.length = 2

def Exchange.reply (e : Exchange) : List UInt8 :=
  [socksVersion5, 0, e.reserved, e.address.type] ++ (e.address.bytes ++ e.port)

/-- All that the proxy sends before the bytes of the peer. -/
def Exchange.bytes (e : Exchange) : List UInt8 :=
  [socksVersion5, if e.auth then socksUserPass else socksNoAuth] ++
    ((if e.auth then [1, 0] else []) ++ e.reply)

/-- The options can carry out the exchange. -/
structure Suits (options : Upstream) (e : Exchange) : Prop where
  address : options.address ≠ ""
  together : options.username = "" ↔ options.password = ""
  credentials : e.auth = true → options.username ≠ "" ∧
    options.username.utf8ByteSize ≤ 255 ∧ options.password.utf8ByteSize ≤ 255

/-- The dial succeeds, and what is left to read of the connection is `rest` exactly if `p`. -/
def Keeps (r : Except DialError Source) (rest : List UInt8) (p : Prop) : Prop :=
  ∃ source, r = .ok source ∧ (source.flatten = rest ↔ p)

variable {source : Source} {bs more buffer rest : List UInt8} {k m : Nat}

theorem reading_keeps {wrap : ReadError → DialError}
    {next : List UInt8 → Source → Except DialError Source} (hflat : source.flatten = bs ++ more)
    (hlen : bs.length = k) (hk : k < m)
    (hnext : ∀ source', source'.flatten = more →
      Keeps (next bs source') rest (EndsSegment [] source' (m - k))) :
    Keeps (reading source k wrap next) rest (EndsSegment [] source m) := by
  obtain ⟨source', hread, hmore⟩ := readFull_of_flatten hflat hlen
  rw [reading, hread, readLoop_endsSegment hread hk]
  exact hnext source' hmore

theorem readingBuffered_keeps {next : List UInt8 → List UInt8 → Source → Except DialError Source}
    (hflat : buffer ++ source.flatten = bs ++ more) (hlen : bs.length = k) (hk : k ≤ m)
    (hm : m < bufferSize)
    (hnext : ∀ buffer' source', buffer' ++ source'.flatten = more →
      Keeps (next bs buffer' source') rest (EndsSegment buffer' source' (m - k))) :
    Keeps (readingBuffered buffer source k next) rest (EndsSegment buffer source m) := by
  obtain ⟨buffer', source', hread, hmore, hends⟩ :=
    readBuffered_of_flatten [] hflat hlen (Nat.lt_of_le_of_lt hk hm)
  rw [readingBuffered, hread, hends m hk hm]
  exact hnext buffer' source' hmore

/-- After the port, what the buffer holds is lost. -/
theorem readPort_keeps {port : List UInt8} (hport : port.length = 2)
    (hflat : buffer ++ source.flatten = port ++ rest) :
    Keeps (readingBuffered buffer source 2 fun _ _ source => .ok source) rest
      (EndsSegment buffer source 2) := by
  refine readingBuffered_keeps hflat hport (Nat.le_refl 2) (by decide)
    fun buffer' source' hmore => ?_
  refine ⟨source', rfl, ?_⟩
  rw [Nat.sub_self, endsSegment_zero_iff, ← hmore]
  constructor
  · intro h
    exact eq_nil_of_length_eq_zero (by simpa using congrArg List.length h)
  · rintro rfl
    rfl

theorem readHost_keeps {host port : List UInt8} (hhost : host.length = k) (hport : port.length = 2)
    (hk : k < 256) (hflat : buffer ++ source.flatten = host ++ (port ++ rest)) :
    Keeps (readingBuffered buffer source k fun _ buffer source =>
        readingBuffered buffer source 2 fun _ _ source => .ok source) rest
      (EndsSegment buffer source (k + 2)) := by
  have hsize : k + 2 < bufferSize := Nat.lt_trans (Nat.add_lt_add_right hk 2) (by decide)
  refine readingBuffered_keeps hflat hhost (Nat.le_add_right k 2) hsize
    fun buffer' source' hmore => ?_
  rw [Nat.add_sub_cancel_left]
  exact readPort_keeps hport hmore

theorem discardSocksAddress_keeps {address : Address} {port : List UInt8} (hport : port.length = 2)
    (hflat : source.flatten = address.bytes ++ (port ++ rest)) :
    Keeps (discardSocksAddress address.type source) rest
      (EndsSegment [] source (address.bytes.length + 2)) := by
  cases address with
  | v4 host h =>
    rw [show Address.bytes (.v4 host h) = host from rfl, h]
    exact readHost_keeps h hport (by decide) hflat
  | v6 host h =>
    rw [show Address.bytes (.v6 host h) = host from rfl, h]
    exact readHost_keeps h hport (by decide) hflat
  | domain host h =>
    have hlength : host.length = (UInt8.ofNat host.length).toNat := by
      rw [UInt8.toNat_ofNat']
      exact (Nat.mod_eq_of_lt h).symm
    have hcons : [] ++ source.flatten = [UInt8.ofNat host.length] ++ (host ++ (port ++ rest)) :=
      hflat
    have hsize : host.length + 1 + 2 < bufferSize := by
      unfold bufferSize
      omega
    refine readingBuffered_keeps hcons rfl (by simp [Address.bytes]) hsize
      fun buffer' source' hmore => ?_
    have hend : (Address.domain host h).bytes.length + 2 - 1 =
        (UInt8.ofNat host.length).toNat + 2 := by
      rw [← hlength, show (Address.domain host h).bytes.length = host.length + 1 from rfl]
      omega
    rw [hend]
    exact readHost_keeps hlength hport (hlength ▸ h) hmore

theorem connect_keeps {e : Exchange} (hflat : source.flatten = e.reply ++ rest) :
    Keeps (connect true source) rest (EndsSegment [] source e.reply.length) := by
  have hlen : e.reply.length = 4 + (e.address.bytes.length + 2) := by
    rw [Exchange.reply, length_append, length_append, e.port_length]
    rfl
  rw [Exchange.reply, append_assoc, append_assoc] at hflat
  rw [hlen]
  refine reading_keeps hflat rfl (by omega) fun source' hmore => ?_
  rw [Nat.add_sub_cancel_left]
  obtain ⟨source₁, hok, hiff⟩ := discardSocksAddress_keeps e.port_length hmore
  exact ⟨source₁, by simp [replied, hok], hiff⟩

/-- The first bytes of a stream end with a segment if its segments can be divided there. -/
theorem endsSegment_iff (hflat : source.flatten = bs ++ rest) :
    EndsSegment [] source bs.length ↔ ∃ front back, source = front ++ back ∧ front.flatten = bs := by
  refine exists_congr fun front => exists_congr fun back => and_congr_right fun hsource => ?_
  rw [length_nil, Nat.zero_add]
  refine ⟨fun hlen => ?_, fun h => h ▸ rfl⟩
  rw [hsource, flatten_append] at hflat
  exact (append_inj hflat hlen).1

end Exchange

/-- The dial of every well-formed exchange succeeds, and the connection that is returned has exactly
the bytes after the reply if and only if the reply ends with a segment. -/
theorem dialUpstream_keeps_rest
    (options : Upstream)
    (e : Exchange)
    (hsuits : Suits options e)
    (source : Source)
    (rest : List UInt8)
    (hsource : source.flatten = e.bytes ++ rest) :
    ∃ source', dialUpstream options true source = .ok source' ∧
      (source'.flatten = rest ↔
        ∃ front back, source = front ++ back ∧ front.flatten = e.bytes) := by
  have htogether : ¬((options.username = "" ∧ options.password ≠ "") ∨
      (options.username ≠ "" ∧ options.password = "")) := by
    have hiff := hsuits.together
    tauto
  rw [dialUpstream, if_neg hsuits.address, if_neg htogether, ← endsSegment_iff hsource]
  rw [Exchange.bytes, append_assoc] at hsource
  have hpos : 0 < e.reply.length := Nat.succ_pos _
  refine reading_keeps hsource rfl (by simp [Exchange.bytes]; omega) fun source₁ hmore => ?_
  cases hauth : e.auth with
  | false =>
    rw [hauth] at hmore
    have hlen : e.bytes.length - 2 = e.reply.length := by simp [Exchange.bytes, hauth]
    rw [hlen]
    exact connect_keeps hmore
  | true =>
    obtain ⟨husername, huser, hpass⟩ := hsuits.credentials hauth
    have hgiven : ¬(options.username = "" ∨ options.password = "") := by
      have hiff := hsuits.together
      tauto
    have hshort : ¬(255 < options.username.utf8ByteSize ∨ 255 < options.password.utf8ByteSize) := by
      omega
    have hselected : selected options true [socksVersion5, socksUserPass] source₁ =
        reading source₁ 2 .readAuthentication (authenticated true) := by
      simp [selected, socksUserPass, socksNoAuth, socksVersion5, hgiven, hshort]
    rw [hauth, if_pos rfl, append_assoc] at hmore
    have hlen : e.bytes.length - 2 = 2 + e.reply.length := by
      simp [Exchange.bytes, hauth]
      omega
    rw [hlen, if_pos rfl, hselected]
    refine reading_keeps hmore rfl (by omega) fun source₂ hmore₂ => ?_
    rw [Nat.add_sub_cancel_left]
    exact connect_keeps hmore₂

/-- An exchange without authentication, with an IPv4 address. -/
def plainExchange : Exchange where
  auth := false
  reserved := 0
  address := .v4 [127, 0, 0, 1] rfl
  port := [0, 80]
  port_length := rfl

def plainOptions : Upstream := { address := "proxy:1080", username := "", password := "" }

theorem dialUpstream_keeps_rest_plain :
    ∃ source, dialUpstream plainOptions true
        [[5, 0], [5, 0, 0, 1], [127, 0, 0, 1, 0, 80], [72, 73]] = .ok source ∧
      source.flatten = [72, 73] := by
  obtain ⟨source, hok, hiff⟩ := dialUpstream_keeps_rest plainOptions plainExchange
    ⟨by decide, by decide, by decide⟩ [[5, 0], [5, 0, 0, 1], [127, 0, 0, 1, 0, 80], [72, 73]]
    [72, 73] rfl
  exact ⟨source, hok, hiff.2 ⟨[[5, 0], [5, 0, 0, 1], [127, 0, 0, 1, 0, 80]], [[72, 73]], rfl, rfl⟩⟩

/-- In one segment with the end of the reply, the first bytes of the peer are lost. -/
theorem bytes_with_reply_lost :
    ∃ source, dialUpstream plainOptions true [[5, 0], plainExchange.reply ++ [72, 73]] =
      .ok source ∧ source.flatten ≠ [72, 73] := by
  exact ⟨[], rfl, nofun⟩

end Smp3Multipath.Client.SocksDial

import Mathlib

/-!
# Byte strings

Big-endian numbers of a fixed width, bit vectors as byte arrays, and the slices of a
byte string that a decoder of fixed offsets reads.  A decoder is the inverse of an
encoder in both directions: `getBits_putBits` for what was written, and
`putBits_getBits` with `slice_append_slice` for what was read.
-/

namespace Smp3Multipath.Lib.Bytes

open List

section Numbers

/-- The `n` big-endian bytes of a number. -/
def toBytes : Nat → Nat → List UInt8
  | 0, _ => []
  | n + 1, v => UInt8.ofNat (v / 256 ^ n) :: toBytes n v

/-- The number that big-endian bytes stand for. -/
def ofBytes : List UInt8 → Nat
  | [] => 0
  | b :: bs => b.toNat * 256 ^ bs.length + ofBytes bs

@[simp] theorem length_toBytes (n v : Nat) : (toBytes n v).length = n := by
  induction n with
  | zero => rfl
  | succ n ih => rw [toBytes, length_cons, ih]

theorem ofBytes_toBytes (n v : Nat) : ofBytes (toBytes n v) = v % 256 ^ n := by
  induction n with
  | zero =>
    rw [Nat.pow_zero, Nat.mod_one]
    rfl
  | succ n ih =>
    have hdigit : (UInt8.ofNat (v / 256 ^ n)).toNat = v / 256 ^ n % 256 := rfl
    rw [toBytes, ofBytes, ih, length_toBytes, hdigit, Nat.pow_succ, Nat.mod_mul, Nat.mul_comm,
      Nat.add_comm]

theorem ofBytes_lt (bs : List UInt8) : ofBytes bs < 256 ^ bs.length := by
  induction bs with
  | nil => exact Nat.one_pos
  | cons b bs ih =>
    have hb : b.toNat < 256 := b.toNat_lt
    have hmul : b.toNat * 256 ^ bs.length ≤ 255 * 256 ^ bs.length :=
      Nat.mul_le_mul_right _ (by omega)
    rw [ofBytes, length_cons, Nat.pow_succ]
    omega

/-- The digits depend on the number modulo their range only. -/
theorem toBytes_add_mul (n c v : Nat) : toBytes n (c * 256 ^ n + v) = toBytes n v := by
  induction n generalizing c with
  | zero => rfl
  | succ n ih =>
    have hpos : 0 < 256 ^ n := Nat.pow_pos (by decide)
    have hsplit : c * 256 ^ (n + 1) + v = c * 256 * 256 ^ n + v := by
      rw [Nat.pow_succ, Nat.mul_assoc, Nat.mul_comm (256 ^ n)]
    have hdigit : UInt8.ofNat ((c * 256 * 256 ^ n + v) / 256 ^ n) = UInt8.ofNat (v / 256 ^ n) := by
      apply UInt8.toNat_inj.1
      show (c * 256 * 256 ^ n + v) / 256 ^ n % 256 = v / 256 ^ n % 256
      rw [Nat.mul_comm (c * 256), Nat.mul_add_div hpos, Nat.mul_comm c, Nat.mul_add_mod]
    rw [toBytes, toBytes, hsplit, ih, hdigit]

theorem toBytes_ofBytes {n : Nat} {bs : List UInt8} (hlen : bs.length = n) :
    toBytes n (ofBytes bs) = bs := by
  subst hlen
  induction bs with
  | nil => rfl
  | cons b bs ih =>
    have hpos : 0 < 256 ^ bs.length := Nat.pow_pos (by decide)
    have hdigit : UInt8.ofNat ((b.toNat * 256 ^ bs.length + ofBytes bs) / 256 ^ bs.length) = b := by
      rw [Nat.mul_comm, Nat.mul_add_div hpos, Nat.div_eq_of_lt (ofBytes_lt bs), Nat.add_zero,
        UInt8.ofNat_toNat]
    rw [length_cons, toBytes, ofBytes, hdigit, toBytes_add_mul, ih]

end Numbers

section Bits

variable {w n : Nat}

/-- The bytes of a bit vector, the most significant first. -/
def putBits (n : Nat) (v : BitVec w) : List UInt8 :=
  toBytes n v.toNat

/-- The bit vector that bytes stand for. -/
def getBits (w : Nat) (bs : List UInt8) : BitVec w :=
  BitVec.ofNat w (ofBytes bs)

@[simp] theorem length_putBits (n : Nat) (v : BitVec w) : (putBits n v).length = n :=
  length_toBytes n v.toNat

theorem pow_bytes (n : Nat) : 256 ^ n = 2 ^ (8 * n) := by
  rw [Nat.pow_mul]

@[simp] theorem getBits_putBits (v : BitVec w) (hw : w = 8 * n) : getBits w (putBits n v) = v := by
  have hlt : v.toNat < 256 ^ n := by
    rw [pow_bytes, ← hw]
    exact v.isLt
  rw [getBits, putBits, ofBytes_toBytes, Nat.mod_eq_of_lt hlt, BitVec.ofNat_toNat]
  exact BitVec.setWidth_eq v

theorem putBits_inj {a b : BitVec w} (hw : w = 8 * n) (h : putBits n a = putBits n b) : a = b := by
  rw [← getBits_putBits a hw, h, getBits_putBits b hw]

theorem putBits_getBits {bs : List UInt8} (hw : w = 8 * n) (hlen : bs.length = n) :
    putBits n (getBits w bs) = bs := by
  have hlt : ofBytes bs < 2 ^ w := by
    rw [hw, ← pow_bytes, ← hlen]
    exact ofBytes_lt bs
  rw [getBits, putBits, BitVec.toNat_ofNat, Nat.mod_eq_of_lt hlt]
  exact toBytes_ofBytes hlen

end Bits

section Slices

variable {bs as : List UInt8} {i j k : Nat}

/-- The bytes `i` to `j` of a byte string. -/
def slice (bs : List UInt8) (i j : Nat) : List UInt8 :=
  (bs.take j).drop i

/-- The byte at a place within a byte string. -/
def byteAt (bs : List UInt8) (i : Nat) : UInt8 :=
  bs.getD i 0

theorem length_slice (hj : j ≤ bs.length) : (slice bs i j).length = j - i := by
  rw [slice, length_drop, length_take, Nat.min_eq_left hj]

theorem slice_all : slice bs 0 bs.length = bs := by
  rw [slice, take_length, drop_zero]

theorem slice_append_slice (hij : i ≤ j) (hjk : j ≤ k) :
    slice bs i j ++ slice bs j k = slice bs i k := by
  rw [slice, slice, slice, ← take_append_drop (j - i) ((bs.take k).drop i), take_drop,
    drop_drop, take_take, Nat.add_sub_cancel' hij, Nat.min_eq_left hjk]

theorem slice_singleton (hi : i < bs.length) : slice bs i (i + 1) = [byteAt bs i] := by
  rw [slice, byteAt, getD_eq_getElem?_getD, getElem?_eq_getElem hi,
    take_succ_eq_append_getElem hi, drop_append_of_le_length (by simp; omega)]
  simp

theorem slice_eq_cons (hij : i < j) (hj : j ≤ bs.length) :
    slice bs i j = byteAt bs i :: slice bs (i + 1) j := by
  rw [← slice_append_slice (Nat.le_succ i) hij, slice_singleton (by omega)]
  rfl

theorem slice_pair (hi : i + 1 < bs.length) :
    slice bs i (i + 2) = [byteAt bs i, byteAt bs (i + 1)] := by
  rw [slice_eq_cons (by omega) hi, slice_singleton hi]

theorem slice_triple (hi : i + 2 < bs.length) :
    slice bs i (i + 3) = [byteAt bs i, byteAt bs (i + 1), byteAt bs (i + 2)] := by
  rw [slice_eq_cons (by omega) hi, slice_pair hi]

theorem slice_quadruple
    (hi : i + 3 < bs.length) :
    slice bs i (i + 4) = [byteAt bs i, byteAt bs (i + 1), byteAt bs (i + 2), byteAt bs (i + 3)] := by
  rw [slice_eq_cons (by omega) hi, slice_triple hi]

theorem ofBytes_slice_lt (hj : j ≤ bs.length) : ofBytes (slice bs i j) < 256 ^ (j - i) := by
  rw [← length_slice hj]
  exact ofBytes_lt _

theorem putBits_getBits_slice {w n : Nat} (hw : w = 8 * n) (hn : j - i = n) (hj : j ≤ bs.length) :
    putBits n (getBits w (slice bs i j)) = slice bs i j :=
  putBits_getBits hw ((length_slice hj).trans hn)

theorem toBytes_ofBytes_slice {n : Nat} (hn : j - i = n) (hj : j ≤ bs.length) :
    toBytes n (ofBytes (slice bs i j)) = slice bs i j :=
  toBytes_ofBytes ((length_slice hj).trans hn)

theorem slice_append_right (h : as.length ≤ i) :
    slice (as ++ bs) i j = slice bs (i - as.length) (j - as.length) := by
  by_cases hj : as.length ≤ j
  · rw [slice, slice, take_append, take_of_length_le hj, drop_append,
      drop_of_length_le h, nil_append]
  · have hleft : slice (as ++ bs) i j = [] := by
      apply drop_of_length_le
      rw [length_take]
      omega
    have hright : slice bs (i - as.length) (j - as.length) = [] := by
      apply drop_of_length_le
      rw [length_take]
      omega
    rw [hleft, hright]

@[simp] theorem slice_cons_succ (b : UInt8) (bs : List UInt8) (i j : Nat) :
    slice (b :: bs) (i + 1) (j + 1) = slice bs i j :=
  rfl

theorem slice_append_left (h : as.length = j) : slice (as ++ bs) 0 j = as := by
  rw [slice, drop_zero, ← h, take_left]

theorem slice_append_of_le (h : j ≤ as.length) : slice (as ++ bs) i j = slice as i j := by
  rw [slice, slice, take_append_of_le_length h]

theorem slice_self (h : as.length = j) : slice as 0 j = as := by
  rw [← h, slice_all]

theorem slice_slice_zero (h : j ≤ k) : slice (slice bs 0 k) i j = slice bs i j := by
  rw [slice, slice, slice, drop_zero, take_take, Nat.min_eq_left h]

@[simp] theorem byteAt_cons_zero (b : UInt8) (bs : List UInt8) : byteAt (b :: bs) 0 = b :=
  rfl

@[simp] theorem byteAt_cons_succ (b : UInt8) (bs : List UInt8) (i : Nat) :
    byteAt (b :: bs) (i + 1) = byteAt bs i :=
  rfl

theorem byteAt_append_of_lt (h : i < as.length) : byteAt (as ++ bs) i = byteAt as i := by
  rw [byteAt, byteAt, getD_eq_getElem?_getD, getD_eq_getElem?_getD,
    getElem?_append_left h]

theorem byteAt_append_right (h : as.length ≤ i) :
    byteAt (as ++ bs) i = byteAt bs (i - as.length) := by
  rw [byteAt, byteAt, getD_eq_getElem?_getD, getD_eq_getElem?_getD,
    getElem?_append_right h]

theorem byteAt_slice_zero (h : i < k) : byteAt (slice bs 0 k) i = byteAt bs i := by
  rw [byteAt, byteAt, slice, drop_zero, getD_eq_getElem?_getD,
    getD_eq_getElem?_getD, getElem?_take_of_lt h]

end Slices

end Smp3Multipath.Lib.Bytes

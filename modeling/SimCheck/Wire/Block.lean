/-!
# Blocks on the wire

Coordinator and workers exchange blocks of 16 bytes: a tag, three bytes of padding, a 32-bit number
and a 64-bit value, both with the high byte first.

* `bigEndian`, `ofBigEndian` are inverse on numbers that fit (`ofBigEndian_bigEndian`);
* `Block.bytes` writes a block, `Block.ofBytes` reads one.
-/

namespace SimCheck.Wire

/-- A sequence of bytes. -/
abbrev Bytes := List UInt8

/-- The low `count` bytes of a number, the highest first. -/
def bigEndian : (count : Nat) → Nat → Bytes
  | 0, _ => []
  | count + 1, n => UInt8.ofNat (n / Nat.pow 256 count) :: bigEndian count n

/-- The number that bytes stand for, the highest first. -/
def ofBigEndian (bytes : Bytes) : Nat := bytes.foldl (fun n b => 256 * n + b.toNat) 0

@[simp] theorem length_bigEndian (count n : Nat) : (bigEndian count n).length = count := by
  induction count with
  | zero => rfl
  | succ count ih => simp [bigEndian, ih]

theorem foldl_bigEndian (count n high : Nat) :
    (bigEndian count n).foldl (fun m b => 256 * m + b.toNat) high
      = Nat.pow 256 count * high + n % Nat.pow 256 count := by
  induction count generalizing high with
  | zero => simp [bigEndian, Nat.mod_one]
  | succ count ih =>
    have split : n % Nat.pow 256 (count + 1)
        = n % Nat.pow 256 count + Nat.pow 256 count * (n / Nat.pow 256 count % 256) := Nat.mod_mul
    have shift : Nat.pow 256 (count + 1) * high = Nat.pow 256 count * (256 * high) :=
      Nat.mul_assoc ..
    have byte : (UInt8.ofNat (n / Nat.pow 256 count)).toNat = n / Nat.pow 256 count % 256 :=
      UInt8.toNat_ofNat'
    simp only [bigEndian, List.foldl_cons, ih, byte, Nat.mul_add, split, shift]
    omega

/-- Reading what was written gives the number modulo the range of the bytes. -/
theorem ofBigEndian_bigEndian (count n : Nat) :
    ofBigEndian (bigEndian count n) = n % Nat.pow 256 count := by
  simp [ofBigEndian, foldl_bigEndian]

/-- The number of bytes of a block. -/
def blockSize : Nat := 16

/-- The fields of a block. -/
structure Block where
  tag : UInt8
  id : UInt32
  value : UInt64
  deriving DecidableEq

namespace Block

/-- The bytes of a block; the padding is zero. -/
def bytes (b : Block) : Bytes :=
  b.tag :: 0 :: 0 :: 0 :: (bigEndian 4 b.id.toNat ++ bigEndian 8 b.value.toNat)

/-- The fields of 16 bytes; the padding is ignored. -/
def ofBytes (bytes : Bytes) : Block where
  tag := bytes.headD 0
  id := UInt32.ofNat (ofBigEndian ((bytes.drop 4).take 4))
  value := UInt64.ofNat (ofBigEndian ((bytes.drop 8).take 8))

@[simp] theorem length_bytes (b : Block) : b.bytes.length = blockSize := by
  simp [bytes, blockSize]

/-- Reading a block that was written gives its fields. -/
theorem ofBytes_bytes (b : Block) : ofBytes b.bytes = b := by
  have hid : ((b.bytes.drop 4).take 4) = bigEndian 4 b.id.toNat := by
    simp [bytes]
  have hvalue : ((b.bytes.drop 8).take 8) = bigEndian 8 b.value.toNat := by
    have : b.bytes = (b.tag :: 0 :: 0 :: 0 :: bigEndian 4 b.id.toNat)
        ++ bigEndian 8 b.value.toNat := by simp [bytes]
    rw [this, List.drop_left' (by simp), List.take_of_length_le (by simp)]
  have fits : b.id.toNat % Nat.pow 256 4 = b.id.toNat ∧ b.value.toNat % Nat.pow 256 8 = b.value.toNat :=
    ⟨Nat.mod_eq_of_lt b.id.toNat_lt, Nat.mod_eq_of_lt b.value.toNat_lt⟩
  simp only [ofBytes, hid, hvalue, ofBigEndian_bigEndian, fits, UInt32.ofNat_toNat,
    UInt64.ofNat_toNat]
  rfl

end Block

end SimCheck.Wire

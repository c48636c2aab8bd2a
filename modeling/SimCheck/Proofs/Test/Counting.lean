import Mathlib
import SimCheck.Sample
import SimCheck.Scalar.Binary64

/-!
# Counting in binary64

A test adds its observations up as binary64 numbers and reads the number of positive ones off the sum.
A significand has 53 bits, so that this is exact for fewer than `2 ^ 53` observations.

* `unpacked k` is the natural number `k` with its significand shifted to 53 bits;
* `round_scaled`, `unpack_pack`: it is kept by rounding and by packing;
* `ofNat_add`, `truncate_ofNat`: sums and integer parts of natural numbers below `2 ^ 53` are exact;
* `sum_ofBools`: the sum of Boolean observations is the number of positive ones.
-/

namespace SimCheck.Binary64

open Float.Model Float.Model.UnpackedFloat

/-- The number of places by which a natural number is shifted to fill the 53 bits of a significand. -/
def shift (k : Nat) : Nat := 52 - k.log2

variable {k l : Nat}

theorem significand_pos (hpos : 0 < k) : 0 < k * 2 ^ shift k :=
  Nat.mul_pos hpos (Nat.two_pow_pos _)

/-- A natural number with a significand of 53 bits. -/
def unpacked (k : Nat) : UnpackedFloat :=
  if h : 0 < k then .finite .positive (k * 2 ^ shift k) (-shift k) (significand_pos h)
  else .zero .positive

/-! ### Rounding -/

theorem unpacked_of_pos (hpos : 0 < k) :
    unpacked k = .finite .positive (k * 2 ^ shift k) (-shift k) (significand_pos hpos) := dif_pos hpos

theorem log2_le (hpos : 0 < k) (hlt : k < 2 ^ 53) : k.log2 ≤ 52 :=
  Nat.lt_succ_iff.1 ((Nat.log2_lt hpos.ne').2 hlt)

theorem log2_mul_two_pow (hpos : 0 < k) (i : Nat) : (k * 2 ^ i).log2 = k.log2 + i := by
  induction i with
  | zero => simp
  | succ i ih =>
    have hdouble : k * 2 ^ (i + 1) = 2 * (k * 2 ^ i) := by ring
    rw [hdouble, Nat.log2_two_mul (by positivity), ih]
    omega

theorem targetExponent_scaled (hpos : 0 < k) (hlt : k < 2 ^ 53) (i : Nat) :
    Format.binary64.targetExponent (totalExponent (k * 2 ^ i) (-i)) = -shift k := by
  have hle := log2_le hpos hlt
  have hmin : Format.binary64.minExponent = -1074 := by decide
  have hbits : Format.binary64.mantissaBits = 53 := by decide
  unfold Format.targetExponent totalExponent shift
  rw [log2_mul_two_pow hpos, hmin, hbits]
  omega

theorem shiftRight_scaled (m r : Nat) :
    (⟨m * 2 ^ r, false, false⟩ : ExtendedMantissa) >>> r = ⟨m, false, false⟩ := by
  show Nat.repeat ExtendedMantissa.shiftRightOne r _ = _
  induction r generalizing m with
  | zero => simp [Nat.repeat]
  | succ r ih =>
    have hdouble : m * 2 ^ (r + 1) = (m * 2) * 2 ^ r := by ring
    rw [Nat.repeat, hdouble, ih]
    simp [ExtendedMantissa.shiftRightOne]

theorem shiftToExponent_scaled (m : Nat) {i j : Nat} (h : j ≤ i) :
    shiftToExponent (m * 2 ^ i) (-i) .exact (-j) = (⟨m * 2 ^ j, false, false⟩, -(j : Int)) := by
  obtain ⟨r, rfl⟩ := Nat.exists_eq_add_of_le h
  have hshift : (-(j : Int) - -((j + r : Nat) : Int)).toNat = r := by omega
  have hpow : m * 2 ^ (j + r) = m * 2 ^ j * 2 ^ r := by ring
  unfold shiftToExponent ExtendedMantissa.ofMantissaAndAccuracy
  simp only [hshift, hpow, shiftRight_scaled]
  congr 1
  omega

theorem roundWithAccuracy_scaled (hpos : 0 < k) (hlt : k < 2 ^ 53) (h : shift k ≤ i) :
    roundWithAccuracy Format.binary64 .positive (k * 2 ^ i) (-i) .exact = unpacked k := by
  have hne : k * 2 ^ shift k ≠ 0 := (significand_pos hpos).ne'
  unfold roundWithAccuracy shiftToTargetExponent
  simp only [targetExponent_scaled hpos hlt, shiftToExponent_scaled k h]
  have hround : (⟨k * 2 ^ shift k, false, false⟩ : ExtendedMantissa).roundedMantissa
      = k * 2 ^ shift k := rfl
  simp only [hround, targetExponent_scaled hpos hlt, shiftToExponent_scaled k le_rfl, unpacked]
  rw [dif_neg hne, dif_pos hpos]

theorem decreaseExponent_scaled (m i j : Nat) :
    decreaseExponent (m * 2 ^ i) (-i) (-j) = (m * 2 ^ max i j, -((max i j : Nat) : Int)) := by
  have hshift : (-(i : Int) - -(j : Int)).toNat = j - i := by omega
  unfold decreaseExponent
  simp only [hshift, Nat.shiftLeft_eq, Nat.mul_assoc, ← Nat.pow_add]
  congr 3 <;> omega

/-- A scaled natural number is rounded to itself. -/
theorem round_scaled (hpos : 0 < k) (hlt : k < 2 ^ 53) (i : Nat) :
    UnpackedFloat.round Format.binary64 .positive (k * 2 ^ i) (-i) = unpacked k := by
  unfold UnpackedFloat.round
  simp only [targetExponent_scaled hpos hlt, decreaseExponent_scaled]
  exact roundWithAccuracy_scaled hpos hlt (le_max_right ..)

theorem normalize_scaled (hlt : k < 2 ^ 53) (i : Nat) :
    UnpackedFloat.normalize Format.binary64 ((k * 2 ^ i : Nat) : Int) (-i) .positive
      = unpacked k := by
  unfold UnpackedFloat.normalize
  by_cases hpos : 0 < k
  · have hcompare : compare ((k * 2 ^ i : Nat) : Int) 0 = .gt :=
      Std.compare_eq_gt.2 (by positivity)
    simp only [hcompare, Int.toNat_natCast, round_scaled hpos hlt]
  · obtain rfl : k = 0 := by omega
    simp [unpacked]

/-- Sums of natural numbers are exact as far as they fit the significand. -/
theorem add_unpacked (h : k + l < 2 ^ 53) :
    UnpackedFloat.add Format.binary64 (unpacked k) (unpacked l) = unpacked (k + l) := by
  by_cases hk : 0 < k
  · by_cases hl : 0 < l
    · have hmin : min (-(shift k : Int)) (-(shift l : Int))
          = -((max (shift k) (shift l) : Nat) : Int) := by omega
      have hsum : ((k + l : Nat) * 2 ^ max (shift k) (shift l) : Nat)
          = ((k * 2 ^ max (shift k) (shift l) : Nat) : Int)
            + (l * 2 ^ max (shift k) (shift l) : Nat) := by
        push_cast
        ring
      rw [unpacked_of_pos hk, unpacked_of_pos hl]
      simp only [UnpackedFloat.add, hmin, decreaseExponent_scaled, max_eq_right (le_max_left ..),
        max_eq_right (le_max_right ..)]
      rw [← normalize_scaled h (max (shift k) (shift l)), hsum]
      rfl
    · obtain rfl : l = 0 := by omega
      simp [unpacked, hk, UnpackedFloat.add]
  · obtain rfl : k = 0 := by omega
    by_cases hl : 0 < l
    · simp [unpacked, hl, UnpackedFloat.add]
    · obtain rfl : l = 0 := by omega
      simp [unpacked, UnpackedFloat.add]

/-! ### Packed numbers -/

theorem significand_mem (hpos : 0 < k) (hlt : k < 2 ^ 53) :
    2 ^ 52 ≤ k * 2 ^ shift k ∧ k * 2 ^ shift k < 2 ^ 53 := by
  have hle := log2_le hpos hlt
  have hlog : (k * 2 ^ shift k).log2 = 52 := by
    rw [log2_mul_two_pow hpos, shift]
    omega
  exact (Nat.log2_eq_iff (significand_pos hpos).ne').1 hlog

theorem ofBitVec_unpackSign {spec : Format} {s : Sign} {e : BitVec spec.exponentBits}
    {m : BitVec spec.mantissaBitsWithoutImplicit} :
    Sign.ofBitVec (unpackSign (packComponents spec s e m)) = s := by
  have hsign : unpackSign (packComponents spec s e m) = s.toBitVec := by
    ext i hi
    obtain rfl : i = 0 := by omega
    simp [unpackSign, packComponents, BitVec.getLsbD_append, BitVec.getElem_append]
  rw [hsign]
  cases s <;> rfl

/-- A number with a significand of 53 bits is packed without loss. -/
theorem unpack_pack_of_mem {m : Nat} (hpos : 0 < m) (hlow : 2 ^ 52 ≤ m) (hhigh : m < 2 ^ 53)
    {e : Int} (hmin : -1074 ≤ e) (hmax : e ≤ 971) :
    UnpackedFloat.unpack Format.binary64
        (UnpackedFloat.pack Format.binary64 (.finite .positive m e hpos))
      = .finite .positive m e hpos := by
  have hlog : m.log2 + 1 = Format.binary64.mantissaBits := by
    have h52 : m.log2 = 52 := (Nat.log2_eq_iff hpos.ne').2 ⟨hlow, hhigh⟩
    rw [h52]
    decide
  have hbias : Format.binary64.exponentBias = 1023 := by decide
  obtain ⟨b, rfl⟩ : ∃ b : Nat, e = b - 1075 := ⟨(e + 1075).toNat, by omega⟩
  have hbiased : ((b : Int) - 1075 + (1023 : Nat) + (52 : Nat)).toNat = b := by omega
  have hexponent : (BitVec.ofNat 11 b).toNat = b := by
    rw [BitVec.toNat_ofNat]
    omega
  have hne (v : BitVec 11) (hv : b ≠ v.toNat) : BitVec.ofNat 11 b ≠ v := fun heq =>
    hv (heq ▸ hexponent.symm)
  have hsignificand : (1#1 ++ BitVec.ofNat 52 m).toNat = m := by
    rw [BitVec.toNat_append, ← Nat.shiftLeft_add_eq_or_of_lt (BitVec.isLt _), BitVec.toNat_ofNat,
      Nat.shiftLeft_eq]
    simp
    omega
  unfold UnpackedFloat.pack
  simp only [hbias, hbiased, hlog]
  rw [if_neg (by omega), if_pos trivial]
  unfold UnpackedFloat.unpack
  simp only [unpackMantissa_packComponents, unpackExponent_packComponents, ofBitVec_unpackSign,
    hbias]
  rw [if_neg (hne _ (by simp; omega)), if_neg (hne _ (by simp; omega))]
  simp only [hsignificand, hexponent]
  congr 1

theorem unpack_pack (hlt : k < 2 ^ 53) :
    UnpackedFloat.unpack Format.binary64 (UnpackedFloat.pack Format.binary64 (unpacked k))
      = unpacked k := by
  by_cases hpos : 0 < k
  · obtain ⟨hlow, hhigh⟩ := significand_mem hpos hlt
    rw [unpacked_of_pos hpos]
    exact unpack_pack_of_mem _ hlow hhigh (by unfold shift; omega) (by unfold shift; omega)
  · obtain rfl : k = 0 := by omega
    rfl

/-! ### Natural numbers -/

theorem ofNat_eq (hlt : k < 2 ^ 53) : ofNat k = ⟨Float.Model.pack (unpacked k)⟩ := by
  have hsize : k < UInt64.size := by
    have : UInt64.size = 2 ^ 64 := rfl
    omega
  have hnat : k.toUInt64.toNat = k := Nat.mod_eq_of_lt hsize
  have hnormal := normalize_scaled hlt 0
  rw [ofNat, if_pos hsize, ← hnormal]
  unfold UInt64.toFloat Float.Model.ofUInt64 UnpackedFloat.ofUInt64 UnpackedFloat.ofNat
    UnpackedFloat.ofInt
  simp [hnat]

/-- Below `2 ^ 53` sums of natural numbers are exact. -/
theorem ofNat_add (h : k + l < 2 ^ 53) : ofNat k + ofNat l = ofNat (k + l) := by
  have hk : k < 2 ^ 53 := by omega
  have hl : l < 2 ^ 53 := by omega
  rw [ofNat_eq hk, ofNat_eq hl, ofNat_eq h, ← add_unpacked h]
  show (⟨Float.Model.pack (UnpackedFloat.add _ (unpack _ (UnpackedFloat.pack _ (unpacked k)))
    (unpack _ (UnpackedFloat.pack _ (unpacked l))))⟩ : Float) = _
  rw [unpack_pack hk, unpack_pack hl]

theorem toInt_unpacked (low high : Int) (k : Nat) :
    UnpackedFloat.toInt low high (unpacked k) = k := by
  by_cases hpos : 0 < k
  · have hdecrease := decreaseExponent_scaled k (shift k) 0
    have hshift := shiftToExponent_scaled k (Nat.zero_le (shift k))
    simp only [Nat.cast_zero, neg_zero, pow_zero, mul_one, Nat.max_zero] at hdecrease hshift
    rw [unpacked_of_pos hpos]
    simp only [UnpackedFloat.toInt, roundToInt, hdecrease, hshift]
    rfl
  · obtain rfl : k = 0 := by omega
    rfl

/-- Below `2 ^ 53` a natural number is its own integer part. -/
theorem truncate_ofNat (hlt : k < 2 ^ 53) : truncate (ofNat k) = k := by
  have hmin : Int64.minValue.toInt ≤ k := by
    have : Int64.minValue.toInt ≤ 0 := by decide
    omega
  have hmax : (k : Int) ≤ Int64.maxValue.toInt := by
    have : Int64.maxValue.toInt = 2 ^ 63 - 1 := by decide
    omega
  have hclamp : Int64.ofIntClamp k = Int64.ofIntLE k hmin hmax := Int64.ofIntLE_eq_ofIntClamp.symm
  rw [ofNat_eq hlt]
  show (UnpackedFloat.toInt64 (unpack _ (UnpackedFloat.pack _ (unpacked k)))).toInt = k
  rw [unpack_pack hlt, UnpackedFloat.toInt64, toInt_unpacked, hclamp, Int64.toInt_ofIntLE]

/-! ### Boolean observations -/

theorem ofBool_eq (b : Bool) : Scalar.ofBool b = ofNat ([b].count true) := by
  cases b <;> rfl

/-- **The sum of fewer than `2 ^ 53` Boolean observations is the number of positive ones.** -/
theorem sum_ofBools {bs : List Bool} (h : bs.length < 2 ^ 53) :
    (Sample.ofBools bs : Sample Float).sum = ofNat (bs.count true) := by
  induction bs using List.reverseRecOn with
  | nil => rfl
  | append_singleton bs b ih =>
    have hcount : (bs ++ [b]).count true ≤ (bs ++ [b]).length := List.count_le_length
    rw [List.count_append] at hcount ⊢
    rw [Sample.ofBools_append, ← ofNat_add (hcount.trans_lt h), ← ofBool_eq,
      ← ih ((List.sublist_append_left ..).length_le.trans_lt h)]
    rfl

end SimCheck.Binary64

import Mathlib.Tactic.Common
import Mathlib.Tactic.Ring
import SimCheck.Wire.Stream

/-!
# Messages and their blocks

A message is told by the kind of its block and by some of the fields; the rest of the block is ignored
when it is read, and zero when it is written.

* `ofBigEndian_inj`: bytes of a given length are told by their number;
* `Field`, `Field.slice`: the parts of a block and their bytes;
* `LawfulMessage`: messages of one direction, with the parts of its block that each of them uses;
* `decodeBlock_eq_ok_iff`: a block is read as a message exactly if it has the bytes of that message in
  all parts that the message uses;
* `decodeNext?_encode`: a message that was written is read back;
* `exists_unused_of_ne`: what is read as a message differs from what is written for it at most in parts
  that the message does not use.
-/

namespace SimCheck.Wire

/-! ### Numbers -/

theorem foldl_eq_ofBigEndian (bytes : Bytes) (high : ℕ) :
    bytes.foldl (fun n b => 256 * n + b.toNat) high
      = 256 ^ bytes.length * high + ofBigEndian bytes := by
  induction bytes generalizing high with
  | nil => simp [ofBigEndian]
  | cons b bytes ih =>
    rw [ofBigEndian, List.foldl_cons, List.foldl_cons, ih, ih, List.length_cons]
    ring

theorem ofBigEndian_cons (b : UInt8) (bytes : Bytes) :
    ofBigEndian (b :: bytes) = 256 ^ bytes.length * b.toNat + ofBigEndian bytes := by
  rw [ofBigEndian, List.foldl_cons, foldl_eq_ofBigEndian, Nat.mul_zero, Nat.zero_add]

/-- A number fits into its bytes. -/
theorem ofBigEndian_lt (bytes : Bytes) : ofBigEndian bytes < 256 ^ bytes.length := by
  induction bytes with
  | nil => simp [ofBigEndian]
  | cons b bytes ih =>
    have hb : b.toNat + 1 ≤ 256 := b.toNat_lt
    have hmul := Nat.mul_le_mul_left (256 ^ bytes.length) hb
    rw [Nat.mul_add, Nat.mul_one] at hmul
    rw [ofBigEndian_cons, List.length_cons, Nat.pow_succ]
    omega

/-- **Bytes of a given length are told by their number.** -/
theorem ofBigEndian_inj {a b : Bytes} (hlength : a.length = b.length)
    (h : ofBigEndian a = ofBigEndian b) : a = b := by
  induction a generalizing b with
  | nil => exact (List.length_eq_zero_iff.1 hlength.symm).symm
  | cons x a ih =>
    obtain _ | ⟨y, b⟩ := b
    · cases hlength
    have hrest : a.length = b.length := Nat.succ.inj hlength
    rw [ofBigEndian_cons, ofBigEndian_cons, hrest] at h
    have ha := ofBigEndian_lt a
    rw [hrest] at ha
    have hb := ofBigEndian_lt b
    have hpos : 0 < 256 ^ b.length := Nat.pow_pos (by decide)
    -- The first byte is the quotient and the others are the remainder.
    have hdiv := congrArg (· / 256 ^ b.length) h
    have hmod := congrArg (· % 256 ^ b.length) h
    simp only [Nat.mul_add_div hpos, Nat.div_eq_of_lt ha, Nat.div_eq_of_lt hb, Nat.add_zero] at hdiv
    simp only [Nat.mul_add_mod, Nat.mod_eq_of_lt ha, Nat.mod_eq_of_lt hb] at hmod
    rw [UInt8.toNat_inj.1 hdiv, ih hrest hmod]

/-! ### Parts of a block -/

/-- The parts of a block. -/
inductive Field
  | tag
  | padding
  | id
  | value
  deriving DecidableEq

namespace Field

/-- The number of bytes before a part. -/
def start : Field → ℕ
  | tag => 0
  | padding => 1
  | id => 4
  | value => 8

/-- The number of bytes of a part. -/
def size : Field → ℕ
  | tag => 1
  | padding => 3
  | id => 4
  | value => 8

/-- The bytes of a part. -/
def slice (f : Field) (bytes : Bytes) : Bytes := (bytes.drop f.start).take f.size

theorem length_slice {a : Bytes} (ha : a.length = blockSize) (f : Field) :
    (f.slice a).length = f.size := by
  rw [slice, List.length_take, List.length_drop, ha]
  cases f <;> rfl

/-- Parts of the same number are the same. -/
theorem slice_eq_of_number {a b : Bytes} (ha : a.length = blockSize) (hb : b.length = blockSize)
    {f : Field} (h : ofBigEndian (f.slice a) = ofBigEndian (f.slice b)) : f.slice a = f.slice b :=
  ofBigEndian_inj ((length_slice ha f).trans (length_slice hb f).symm) h

theorem number_slice_lt {a : Bytes} (ha : a.length = blockSize) (f : Field) :
    ofBigEndian (f.slice a) < 256 ^ f.size := by
  rw [← length_slice ha f]
  exact ofBigEndian_lt _

/-- A byte of a block lies in one of its parts. -/
theorem exists_of_lt {i : ℕ} (hi : i < blockSize) : ∃ f : Field, f.start ≤ i ∧ i < f.start + f.size := by
  by_cases hvalue : 8 ≤ i
  · exact ⟨value, hvalue, hi⟩
  by_cases hid : 4 ≤ i
  · exact ⟨id, hid, Nat.lt_of_not_le hvalue⟩
  by_cases hpadding : 1 ≤ i
  · exact ⟨padding, hpadding, Nat.lt_of_not_le hid⟩
  · exact ⟨tag, Nat.zero_le i, Nat.lt_of_not_le hpadding⟩

/-- Blocks that agree in a part agree in each byte of it. -/
theorem getElem?_eq_of_slice_eq {a b : Bytes} {f : Field} (h : f.slice a = f.slice b) {i : ℕ}
    (hstart : f.start ≤ i) (hend : i < f.start + f.size) : a[i]? = b[i]? := by
  have hbyte (bytes : Bytes) : (f.slice bytes)[i - f.start]? = bytes[i]? := by
    rw [slice, List.getElem?_take_of_lt (by omega), List.getElem?_drop, Nat.add_sub_cancel' hstart]
  rw [← hbyte a, ← hbyte b, h]

end Field

section Slices

theorem id_ofBytes (a : Bytes) :
    (Block.ofBytes a).id = UInt32.ofNat (ofBigEndian (Field.id.slice a)) := rfl

theorem value_ofBytes (a : Bytes) :
    (Block.ofBytes a).value = UInt64.ofNat (ofBigEndian (Field.value.slice a)) := rfl

variable {a b : Bytes} (ha : a.length = blockSize) (hb : b.length = blockSize)

include ha hb

theorem tag_eq_iff : (Block.ofBytes a).tag = (Block.ofBytes b).tag ↔
    Field.tag.slice a = Field.tag.slice b := by
  obtain _ | ⟨x, a⟩ := a
  · cases ha
  obtain _ | ⟨y, b⟩ := b
  · cases hb
  simp [Block.ofBytes, Field.slice, Field.start, Field.size]

theorem id_eq_iff : (Block.ofBytes a).id = (Block.ofBytes b).id ↔
    Field.id.slice a = Field.id.slice b := by
  refine ⟨fun h => Field.slice_eq_of_number ha hb ?_,
    congrArg fun bytes => UInt32.ofNat (ofBigEndian bytes)⟩
  have hnumber := congrArg UInt32.toNat h
  rwa [id_ofBytes, id_ofBytes, UInt32.toNat_ofNat_of_lt' (Field.number_slice_lt ha .id),
    UInt32.toNat_ofNat_of_lt' (Field.number_slice_lt hb .id)] at hnumber

theorem value_eq_iff : (Block.ofBytes a).value = (Block.ofBytes b).value ↔
    Field.value.slice a = Field.value.slice b := by
  refine ⟨fun h => Field.slice_eq_of_number ha hb ?_,
    congrArg fun bytes => UInt64.ofNat (ofBigEndian bytes)⟩
  have hnumber := congrArg UInt64.toNat h
  rwa [value_ofBytes, value_ofBytes, UInt64.toNat_ofNat_of_lt' (Field.number_slice_lt ha .value),
    UInt64.toNat_ofNat_of_lt' (Field.number_slice_lt hb .value)] at hnumber

end Slices

/-! ### Messages -/

theorem Kind.ofTag?_eq_some_iff {t : UInt8} {k : Kind} : Kind.ofTag? t = some k ↔ k.tag = t := by
  constructor
  · intro h
    simpa using List.find?_some h
  · rintro rfl
    exact Kind.ofTag?_tag k

/-- Messages of one direction.  A block is read as a message if it is of the message's kind and has the
fields that the message uses. -/
class LawfulMessage (α : Type) [Message α] where
  /-- Whether a message is told by a part of its block. -/
  uses : α → Field → Bool
  uses_tag (m : α) : uses m .tag = true
  uses_padding (m : α) : uses m .padding = false
  ofBlock_eq_ok_iff {m : α} {b : Block} : Message.ofBlock b = .ok m ↔
    (Message.toBlock m).tag = b.tag ∧ (uses m .id = true → (Message.toBlock m).id = b.id) ∧
      (uses m .value = true → (Message.toBlock m).value = b.value)

/-- The end of a run is told by its kind, the other messages by a number as well. -/
def CoordinatorMessage.uses : CoordinatorMessage → Field → Bool
  | _, .tag => true
  | register _, .id | start _, .id => true
  | _, _ => false

/-- An observation uses all of its block. -/
def WorkerMessage.uses : WorkerMessage → Field → Bool
  | _, .padding => false
  | _, _ => true

instance : LawfulMessage CoordinatorMessage where
  uses := CoordinatorMessage.uses
  uses_tag m := by cases m <;> rfl
  uses_padding m := by cases m <;> rfl
  ofBlock_eq_ok_iff {m b} := by
    obtain ⟨tag, id, value⟩ := b
    simp only [Message.ofBlock]
    cases hkind : Kind.ofTag? tag with
    | none =>
      have hne (k : Kind) : k.tag ≠ tag := fun h => by
        rw [Kind.ofTag?_eq_some_iff.2 h] at hkind
        cases hkind
      cases m <;> simp [Message.toBlock, hne]
    | some k =>
      obtain rfl := Kind.ofTag?_eq_some_iff.1 hkind
      cases k <;> rcases m with ⟨⟨n⟩⟩ | ⟨⟨n⟩⟩ | _ <;>
        simp [Message.toBlock, CoordinatorMessage.uses, Kind.tag, eq_comm]

instance : LawfulMessage WorkerMessage where
  uses := WorkerMessage.uses
  uses_tag _ := rfl
  uses_padding _ := rfl
  ofBlock_eq_ok_iff {m b} := by
    obtain ⟨tag, id, value⟩ := b
    obtain ⟨⟨property⟩, v⟩ := m
    have hvalue : value.toInt64 = v ↔ v.toUInt64 = value :=
      ⟨fun h => h ▸ UInt64.toUInt64_toInt64 value, fun h => h ▸ Int64.toInt64_toUInt64 v⟩
    simp only [Message.ofBlock]
    cases hkind : Kind.ofTag? tag with
    | none =>
      have hne (k : Kind) : k.tag ≠ tag := fun h => by
        rw [Kind.ofTag?_eq_some_iff.2 h] at hkind
        cases hkind
      simp [Message.toBlock, hne]
    | some k =>
      obtain rfl := Kind.ofTag?_eq_some_iff.1 hkind
      cases k <;>
        simp [Message.toBlock, WorkerMessage.uses, Kind.tag, hvalue, eq_comm (a := id)]

section Lawful

variable {α : Type} [Message α] [LawfulMessage α]

/-- **A block is read as a message exactly if it has the message's bytes wherever it matters.** -/
theorem decodeBlock_eq_ok_iff {m : α} {bytes : Bytes} (hbytes : bytes.length = blockSize) :
    decodeBlock bytes = .ok m ↔
      ∀ f, LawfulMessage.uses m f = true → f.slice (encode m) = f.slice bytes := by
  have hencode : (encode m).length = blockSize := Block.length_bytes _
  have hblock : Message.toBlock m = Block.ofBytes (encode m) := (Block.ofBytes_bytes _).symm
  rw [decodeBlock, LawfulMessage.ofBlock_eq_ok_iff, hblock, tag_eq_iff hencode hbytes,
    id_eq_iff hencode hbytes, value_eq_iff hencode hbytes]
  constructor
  · rintro ⟨htag, hid, hvalue⟩ f hf
    cases f with
    | tag => exact htag
    | padding =>
      rw [LawfulMessage.uses_padding] at hf
      cases hf
    | id => exact hid hf
    | value => exact hvalue hf
  · intro h
    exact ⟨h .tag (LawfulMessage.uses_tag m), h .id, h .value⟩

theorem decodeBlock_encode (m : α) : decodeBlock (encode m) = .ok m :=
  (decodeBlock_eq_ok_iff (Block.length_bytes _)).2 fun _ _ => rfl

/-- **A message that was written is read back, whatever comes after it.** -/
theorem decodeNext?_encode (m : α) (bytes : Bytes) :
    decodeNext? (encode m ++ bytes) = some (.ok m, bytes) := by
  have hlength : (encode m).length = blockSize := Block.length_bytes _
  have hlong : ¬(encode m ++ bytes).length < blockSize := by
    rw [List.length_append]
    omega
  unfold decodeNext?
  rw [if_neg hlong, List.take_left' hlength, List.drop_left' hlength, decodeBlock_encode]

/-- **What is read as a message differs from what is written for it at most in parts that the message
does not use.** -/
theorem exists_unused_of_ne {m : α} {bytes : Bytes} (hbytes : bytes.length = blockSize)
    (h : decodeBlock bytes = .ok m) {i : ℕ} (hne : (encode m)[i]? ≠ bytes[i]?) :
    ∃ f, LawfulMessage.uses m f = false ∧ f.start ≤ i ∧ i < f.start + f.size := by
  have hencode : (encode m).length = blockSize := Block.length_bytes _
  have hi : i < blockSize := by
    by_contra hlong
    rw [List.getElem?_eq_none (by omega), List.getElem?_eq_none (by omega)] at hne
    exact hne rfl
  obtain ⟨f, hstart, hend⟩ := Field.exists_of_lt hi
  refine ⟨f, Bool.eq_false_iff.2 fun hused => hne ?_, hstart, hend⟩
  exact Field.getElem?_eq_of_slice_eq ((decodeBlock_eq_ok_iff hbytes).1 h f hused) hstart hend

end Lawful

end SimCheck.Wire

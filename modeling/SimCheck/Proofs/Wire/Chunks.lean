import SimCheck.Proofs.Delivery.Stream
import SimCheck.Proofs.Wire.Codec

/-!
# Streams in chunks

A stream of bytes may arrive in chunks of any sizes.  Each chunk is appended to the bytes left over and
all complete blocks are decoded, those that are no messages included.

* `blocks`: the complete blocks of a stream;
* `decodeChunks`: decoding after each chunk;
* `decodeAll_eq`, `decodeChunks_eq`: each block is decoded on its own, wherever the stream is cut;
* `StreamCodec`: what one end of a connection relies on when it reads what the other writes, which
  holds in both directions.
-/

namespace SimCheck.Wire

/-- The complete blocks of a stream, in order. -/
def blocks (stream : Bytes) : List Bytes :=
  (List.range (stream.length / blockSize)).map fun i =>
    (stream.drop (blockSize * i)).take blockSize

/-- The bytes after the last complete block: as many as the length of the stream leaves as a remainder. -/
def incomplete (stream : Bytes) : Bytes := stream.drop (stream.length - stream.length % blockSize)

theorem blocks_of_lt {stream : Bytes} (h : stream.length < blockSize) : blocks stream = [] := by
  rw [blocks, Nat.div_eq_of_lt h, List.range_zero, List.map_nil]

theorem blocks_of_le {stream : Bytes} (h : blockSize ≤ stream.length) :
    blocks stream = stream.take blockSize :: blocks (stream.drop blockSize) := by
  have hcount : stream.length / blockSize = (stream.length - blockSize) / blockSize + 1 :=
    Nat.div_eq_sub_div (by decide) h
  rw [blocks, blocks, hcount, List.range_succ_eq_map, List.map_cons, List.map_map, Nat.mul_zero,
    List.drop_zero, List.length_drop]
  refine congrArg _ (List.map_congr_left fun i _ => ?_)
  rw [Function.comp_apply, List.drop_drop, Nat.mul_succ, Nat.add_comm]

theorem incomplete_of_lt {stream : Bytes} (h : stream.length < blockSize) :
    incomplete stream = stream := by
  rw [incomplete, Nat.mod_eq_of_lt h, Nat.sub_self, List.drop_zero]

theorem incomplete_of_le {stream : Bytes} (h : blockSize ≤ stream.length) :
    incomplete stream = incomplete (stream.drop blockSize) := by
  have hmod : (stream.length - blockSize) % blockSize = stream.length % blockSize :=
    (Nat.mod_eq_sub_mod h).symm
  have hle : stream.length % blockSize ≤ stream.length - blockSize := hmod ▸ Nat.mod_le _ _
  rw [incomplete, incomplete, List.length_drop, List.drop_drop, hmod]
  exact congrArg (List.drop · stream) (by omega)

theorem length_incomplete_lt (stream : Bytes) : (incomplete stream).length < blockSize := by
  have hlt : stream.length % blockSize < blockSize := Nat.mod_lt _ (by decide)
  rw [incomplete, List.length_drop]
  omega

section Decoding

variable {α : Type} [Message α]

/-- Decodes a stream that arrives in chunks, after each of them.  Answers the results and the bytes
left over. -/
def decodeChunks (buffer : Bytes) : List Bytes → List (Except Error α) × Bytes
  | [] => ([], buffer)
  | chunk :: chunks =>
    let now := decodeAll (buffer ++ chunk)
    let later := decodeChunks now.2 chunks
    (now.1 ++ later.1, later.2)

theorem decodeAll_of_none {buffer : Bytes} (h : decodeNext? (α := α) buffer = none) :
    decodeAll (α := α) buffer = ([], buffer) := by
  rw [decodeAll]
  split <;> simp_all

theorem decodeAll_of_some {buffer rest : Bytes} {m : Except Error α}
    (h : decodeNext? buffer = some (m, rest)) :
    decodeAll buffer = (m :: (decodeAll rest).1, (decodeAll (α := α) rest).2) := by
  rw [decodeAll]
  split <;> simp_all

/-- **A stream is decoded block by block**, whether or not its blocks are messages. -/
theorem decodeAll_eq (stream : Bytes) :
    decodeAll (α := α) stream = ((blocks stream).map decodeBlock, incomplete stream) := by
  induction hn : stream.length using Nat.strongRecOn generalizing stream with
  | ind n ih =>
    subst hn
    by_cases hshort : stream.length < blockSize
    · rw [decodeAll_of_none (if_pos hshort), blocks_of_lt hshort, incomplete_of_lt hshort,
        List.map_nil]
    · have hlong : blockSize ≤ stream.length := Nat.le_of_not_lt hshort
      have hnext : decodeNext? (α := α) stream =
          some (decodeBlock (stream.take blockSize), stream.drop blockSize) := if_neg hshort
      rw [decodeAll_of_some hnext, ih _ (length_lt_of_decodeNext? hnext) _ rfl, blocks_of_le hlong,
        incomplete_of_le hlong, List.map_cons]

/-- The bytes left over from the first piece are decoded with the second. -/
theorem decodeAll_append (a b : Bytes) :
    decodeAll (α := α) (a ++ b) =
      ((decodeAll a).1 ++ (decodeAll ((decodeAll (α := α) a).2 ++ b)).1,
        (decodeAll (α := α) ((decodeAll (α := α) a).2 ++ b)).2) := by
  -- The recursion is on the first piece: every block that is complete in it is split off.
  induction hn : a.length using Nat.strongRecOn generalizing a with
  | ind n ih =>
    subst hn
    cases hnext : decodeNext? (α := α) a with
    | none => rw [decodeAll_of_none hnext, List.nil_append]
    | some r =>
      obtain ⟨m, rest⟩ := r
      rw [decodeAll_of_some hnext, decodeAll_of_some (decodeNext?_append hnext b),
        ih _ (length_lt_of_decodeNext? hnext) rest rfl, List.cons_append]

/-- **Wherever a stream is cut, it is decoded as if it came at once.** -/
theorem decodeChunks_eq {buffer : Bytes} (hbuffer : buffer.length < blockSize)
    (chunks : List Bytes) :
    decodeChunks (α := α) buffer chunks = decodeAll (buffer ++ chunks.flatten) := by
  induction chunks generalizing buffer with
  | nil =>
    rw [decodeChunks, List.flatten_nil, List.append_nil, decodeAll_of_none (if_pos hbuffer)]
  | cons chunk chunks ih =>
    have hleft : (decodeAll (α := α) (buffer ++ chunk)).2.length < blockSize := by
      rw [decodeAll_eq]
      exact length_incomplete_lt _
    rw [decodeChunks, ih hleft, List.flatten_cons, ← List.append_assoc,
      decodeAll_append (buffer ++ chunk)]

end Decoding

section Lawful

variable {α : Type} [Message α] [LawfulMessage α]

/-- **Messages that are encoded one after the other are decoded to themselves**, with no byte left. -/
theorem decodeAll_flatMap_encode (ms : List α) :
    decodeAll (ms.flatMap encode) = (ms.map .ok, []) := by
  induction ms with
  | nil => rw [List.flatMap_nil, decodeAll_of_none rfl, List.map_nil]
  | cons m ms ih =>
    rw [List.flatMap_cons, decodeAll_of_some (decodeNext?_encode m _), ih, List.map_cons]

end Lawful

/-- What one end of a connection relies on when it reads what the other end writes. -/
structure StreamCodec (α : Type) [Message α] (uses : α → Field → Bool) : Prop where
  /-- However a stream is cut, each of its blocks is decoded on its own, and the bytes beyond them are
  left. -/
  chunks (cs : List Bytes) : decodeChunks (α := α) [] cs =
    ((blocks cs.flatten).map decodeBlock, incomplete cs.flatten)
  messages (ms : List α) : decodeAll (ms.flatMap encode) = (ms.map .ok, [])
  /-- What is read as a message is written back with the same bytes, but for those that the message
  does not use. -/
  canonical {bytes : Bytes} {m : α} : bytes.length = blockSize → decodeBlock bytes = .ok m →
    decodeBlock (encode m) = .ok m ∧ (encode m).length = blockSize ∧
      ∀ i, (encode m)[i]? ≠ bytes[i]? →
        ∃ f, uses m f = false ∧ f.start ≤ i ∧ i < f.start + f.size

theorem LawfulMessage.streamCodec (α : Type) [Message α] [LawfulMessage α] :
    StreamCodec α LawfulMessage.uses where
  chunks cs := by
    rw [decodeChunks_eq (by decide) cs, List.nil_append, decodeAll_eq]
  messages := decodeAll_flatMap_encode
  canonical {_ m} hbytes h :=
    ⟨decodeBlock_encode m, Block.length_bytes _, fun _ => exists_unused_of_ne hbytes h⟩

/-- **Streams of both directions are decoded block by block, wherever they are cut**; what was written
is read, and what is read is written back up to bytes that do not matter.  The end of a run uses
neither number, the other messages of a coordinator the first of them, and an observation both. -/
theorem streamCodec_of_both_directions :
    StreamCodec CoordinatorMessage CoordinatorMessage.uses ∧
      StreamCodec WorkerMessage WorkerMessage.uses :=
  ⟨LawfulMessage.streamCodec CoordinatorMessage, LawfulMessage.streamCodec WorkerMessage⟩

/-- Two chunks that cut a block that is no message: it is consumed, and the end of a run after it is
read. -/
example : decodeChunks (α := CoordinatorMessage) []
    [List.replicate 10 9, List.replicate 6 0 ++ encode CoordinatorMessage.stop ++ [1]]
      = ([.error (.unknownTag 9), .ok .stop], [1]) := by
  rw [decodeChunks_eq (by decide), decodeAll_eq]
  decide

end SimCheck.Wire

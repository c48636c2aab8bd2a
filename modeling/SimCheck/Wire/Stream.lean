import SimCheck.Wire.Message

/-!
# Streams of messages

Bytes arrive in pieces of any size and are buffered until a block is complete.  A block that is no
message is consumed all the same, so that the stream goes on after it.

* `decodeNext?` splits the first block off a buffer;
* `decodeAll` decodes every complete block and returns the bytes left over;
* `decodeUntilError` stops after the first block that is no message.
-/

namespace SimCheck.Wire

variable {α : Type} [Message α]

/-- The message of 16 bytes. -/
def decodeBlock (bytes : Bytes) : Except Error α := Message.ofBlock (Block.ofBytes bytes)

/-- Splits the first block off a buffer, if it is complete. -/
def decodeNext? (buffer : Bytes) : Option (Except Error α × Bytes) :=
  if buffer.length < blockSize then none
  else some (decodeBlock (buffer.take blockSize), buffer.drop blockSize)

theorem length_lt_of_decodeNext? {buffer rest : Bytes} {m : Except Error α}
    (h : decodeNext? buffer = some (m, rest)) : rest.length < buffer.length := by
  grind [decodeNext?, blockSize, List.length_drop]

/-- Decodes every complete block of a buffer. -/
def decodeAll (buffer : Bytes) : List (Except Error α) × Bytes :=
  match _ : decodeNext? (α := α) buffer with
  | none => ([], buffer)
  | some (m, rest) =>
    let (ms, left) := decodeAll rest
    (m :: ms, left)
termination_by buffer.length
decreasing_by exact length_lt_of_decodeNext? ‹_›

/-- Decodes the blocks of a buffer up to the first error.  Answers the messages, the bytes left over
and the error, if there is one. -/
def decodeUntilError (buffer : Bytes) : List α × Bytes × Option Error :=
  match _ : decodeNext? (α := α) buffer with
  | none => ([], buffer, none)
  | some (.error e, rest) => ([], rest, some e)
  | some (.ok m, rest) =>
    let (ms, left, e) := decodeUntilError rest
    (m :: ms, left, e)
termination_by buffer.length
decreasing_by exact length_lt_of_decodeNext? ‹_›

end SimCheck.Wire

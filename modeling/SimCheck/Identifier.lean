/-!
# Identifiers

`PropertyId` numbers the path properties of a tree and names them on the wire; `ClientId` numbers
the workers of a coordinator and wraps around after the largest 32-bit word.
-/

namespace SimCheck

/-- The number of a path property. -/
structure PropertyId where
  value : UInt32
  deriving DecidableEq

instance : ToString PropertyId := ⟨fun id => toString id.value.toNat⟩

/-- The number a coordinator gives to a worker. -/
structure ClientId where
  value : UInt32
  deriving DecidableEq

instance : ToString ClientId := ⟨fun id => s!"client-{id.value.toNat}"⟩

/-- The number after this one, modulo `2 ^ 32`. -/
def ClientId.next (id : ClientId) : ClientId := ⟨id.value + 1⟩

end SimCheck

import SimCheck.Decimal.Read
import SimCheck.SocketAddress.Basic
import SimCheck.Text.Reader

/-!
# Reading socket addresses

`SocketAddress.ofText?` reads `a.b.c.d:port` and `[groups]:port`.  Octets have at most three digits
and no leading zero; groups have at most four hexadecimal digits, one double colon stands for at
least one zero group, and the last two groups may be a version 4 address; a scope may follow as `%`
and a number.  A port may have leading zeros.
-/

namespace SimCheck

open Text (Reader hexDigit?)
open Text.Reader (char optional? takeWhile1)

namespace SocketAddress

/-- Takes a decimal number below a bound. -/
def decimal (bound : Nat) : Reader Nat := do
  let n := Decimal.value (← takeWhile1 Char.isDigit)
  if n < bound then return n else failure

/-- Takes an octet. -/
def octet : Reader UInt8 := do
  let cs ← takeWhile1 Char.isDigit
  if 3 < cs.length ∨ (1 < cs.length ∧ cs.head? = some '0') then failure
  let n := Decimal.value cs
  if n < 256 then return .ofNat n else failure

/-- Takes a version 4 address. -/
def ipv4 : Reader Ipv4 := do
  let a ← octet
  let b ← char '.' *> octet
  let c ← char '.' *> octet
  let d ← char '.' *> octet
  return ⟨a, b, c, d⟩

/-- Takes a group of hexadecimal digits. -/
def group : Reader UInt16 := do
  let cs ← takeWhile1 fun c => (hexDigit? c).isSome
  if 4 < cs.length then failure
  return .ofNat (cs.foldl (fun n c => 16 * n + (hexDigit? c).getD 0) 0)

/-- Takes at most `limit` groups with colons between them.  A version 4 address stands for two
groups and ends them; the Boolean says whether there is one. -/
def groups : (limit : Nat) → (separator : Reader Unit) → Reader (List UInt16 × Bool)
  | 0, _ => return ([], false)
  | limit + 1, separator => do
    let embedded ← if limit = 0 then pure none else optional? (separator *> ipv4)
    match embedded with
    | some address => return (address.groups, true)
    | none =>
      match ← optional? (separator *> group) with
      | none => return ([], false)
      | some g =>
        let (gs, embedded) ← groups limit (char ':')
        return (g :: gs, embedded)

/-- The address with these groups, if there are eight. -/
def ofGroups? (gs : List UInt16) : Option Ipv6 :=
  if h : gs.length = 8 then some ⟨⟨gs.toArray, by simp [h]⟩⟩ else none

/-- Takes a version 6 address. -/
def ipv6 : Reader Ipv6 := do
  let (front, embedded) ← groups 8 (pure ())
  if front.length = 8 then (ofGroups? front : Option Ipv6)
  else if embedded then failure
  else
    char ':'
    char ':'
    let (back, _) ← groups (7 - front.length) (pure ())
    let zeros := List.replicate (8 - front.length - back.length) 0
    (ofGroups? (front ++ zeros ++ back) : Option Ipv6)

/-- Takes a colon and a port. -/
def port : Reader UInt16 := do
  char ':'
  return .ofNat (← decimal 65536)

/-- Takes a version 6 address in brackets and a port. -/
def bracketed : Reader SocketAddress := do
  char '['
  let address ← ipv6
  let scope ← optional? (char '%' *> decimal 4294967296)
  char ']'
  return .v6 address (.ofNat (scope.getD 0)) (← port)

/-- Reads an address with a port. -/
def ofText? (s : String) : Option SocketAddress :=
  Text.Reader.run? (do return .v4 (← ipv4) (← port)) s <|> bracketed.run? s

end SocketAddress

end SimCheck

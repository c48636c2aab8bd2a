/-!
# Socket addresses

An address of the internet protocol, version 4 or 6, with a port.  The text of a version 6 address
leaves out its longest run of zero groups, the first of several, unless it is a single group; an
address that embeds a version 4 address in its mapped form shows it with dots.
-/

namespace SimCheck

/-- A version 4 address. -/
structure Ipv4 where
  first : UInt8
  second : UInt8
  third : UInt8
  fourth : UInt8
  deriving DecidableEq

/-- A version 6 address. -/
structure Ipv6 where
  groups : Vector UInt16 8
  deriving DecidableEq

/-- An address with a port. -/
inductive SocketAddress
  | v4 (address : Ipv4) (port : UInt16)
  /-- A version 6 address may be confined to a scope; zero is none. -/
  | v6 (address : Ipv6) (scope : UInt32) (port : UInt16)
  deriving DecidableEq

namespace Ipv4

/-- The address with dots. -/
def text (a : Ipv4) : String := s!"{a.first}.{a.second}.{a.third}.{a.fourth}"

/-- The two groups that embed the address into a version 6 address. -/
def groups (a : Ipv4) : List UInt16 :=
  [a.first.toUInt16 * 256 + a.second.toUInt16, a.third.toUInt16 * 256 + a.fourth.toUInt16]

/-- The address that two groups embed. -/
def ofGroups (high low : UInt16) : Ipv4 :=
  ⟨(high / 256).toUInt8, high.toUInt8, (low / 256).toUInt8, low.toUInt8⟩

end Ipv4

namespace Ipv6

/-- The number of zero groups from a position on. -/
def zerosFrom (groups : List UInt16) (start : Nat) : Nat :=
  ((groups.drop start).takeWhile (· == 0)).length

/-- Start and length of the longest run of zero groups; the first of several. -/
def longestZeros (groups : List UInt16) : Nat × Nat :=
  (List.range groups.length).foldl
    (fun best start =>
      let length := zerosFrom groups start
      if best.2 < length then (start, length) else best)
    (0, 0)

/-- Groups in hexadecimal, with colons between them. -/
def groupsText (groups : List UInt16) : String :=
  ":".intercalate (groups.map fun g => String.ofList (Nat.toDigits 16 g.toNat))

/-- The address with its longest run of zeros left out. -/
def text (a : Ipv6) : String :=
  match a.groups.toList with
  | [0, 0, 0, 0, 0, 0xffff, high, low] => "::ffff:" ++ (Ipv4.ofGroups high low).text
  | groups =>
    let (start, length) := longestZeros groups
    if 1 < length then
      groupsText (groups.take start) ++ "::" ++ groupsText (groups.drop (start + length))
    else groupsText groups

end Ipv6

/-- The address and the port. -/
def SocketAddress.text : SocketAddress → String
  | .v4 address port => s!"{address.text}:{port}"
  | .v6 address scope port =>
    let suffix := if scope = 0 then "" else s!"%{scope}"
    s!"[{address.text}{suffix}]:{port}"

end SimCheck

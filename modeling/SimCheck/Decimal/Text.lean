import SimCheck.Decimal.Shortest

/-!
# Decimal texts of binary64 numbers

Three formats, each a function to strings.

* `Decimal.text`: the shortest decimal that reads back, always positional, integers without a
  point, `-0` with its sign, `NaN`, `inf` and `-inf`;
* `Decimal.fixed`: a given number of places, a half goes to the even neighbour;
* `Decimal.significant`: the value rounded to a number of significant digits, as a binary64 number.

`Decimal.pointed` is the shortest decimal with `.0` on integers, as configuration files write it.
-/

namespace SimCheck.Decimal

/-- A natural number in decimal, padded with zeros on the left. -/
def padded (width n : Nat) : String :=
  let s := toString n
  "".pushn '0' (width - s.length) ++ s

/-- A decimal magnitude written positionally, without an exponent. -/
def Digits.positional (d : Digits) : String :=
  match d.exponent with
  | .ofNat k => toString d.digits ++ "".pushn '0' k
  | .negSucc k =>
    let places := k + 1
    let s := padded (places + 1) d.digits
    let whole := s.length - places
    String.ofList (s.toList.take whole) ++ "." ++ String.ofList (s.toList.drop whole)

/-- A minus sign for negative numbers. -/
def sign (negative : Bool) : String := if negative then "-" else ""

/-- The shortest positional decimal that reads back as the number. -/
def text (x : Float) : String :=
  match Exact.ofFloat x with
  | .nan => "NaN"
  | .infinite negative => sign negative ++ "inf"
  | .finite negative 0 _ => sign negative ++ "0"
  | .finite negative m e => sign negative ++ (shortest m e).positional

/-- The shortest positional decimal, with `.0` on integers. -/
def pointed (x : Float) : String :=
  match Exact.ofFloat x with
  | .nan => "nan"
  | .infinite negative => sign negative ++ "inf"
  | .finite .. => let s := text x; if s.contains '.' then s else s ++ ".0"

/-- The number with the given count of decimal places, the exact value rounded to nearest and a
half to the even neighbour. -/
def fixed (places : Nat) (x : Float) : String :=
  match Exact.ofFloat x with
  | .nan => "NaN"
  | .infinite negative => sign negative ++ "inf"
  | .finite negative m e =>
    let n := ((Ratio.ofBinary m e).scale (-places)).round .even
    sign negative ++
      if places = 0 then toString n else (⟨n, -places⟩ : Digits).positional

/-- The binary64 number nearest to a decimal magnitude. -/
def Digits.toFloat (negative : Bool) (d : Digits) : Float :=
  let magnitude : Float :=
    if d.digits = 0 then 0.0
    else
      -- beyond these decades every magnitude rounds to infinity or to zero
      let top := (Ratio.digitCount d.digits : Int) + d.exponent
      if 400 < top then 1.0 / 0.0
      else if top < -400 then 0.0
      else match d.exponent with
        | .ofNat k => Float.ofScientific d.digits false k
        | .negSucc k => Float.ofScientific d.digits true (k + 1)
  if negative then -magnitude else magnitude

/-- The number rounded to `count` significant decimal digits, a half to the even neighbour. -/
def significant (count : Nat) (x : Float) : Float :=
  match Exact.ofFloat x with
  | .nan => x
  | .infinite _ => x
  | .finite _ 0 _ => x
  | .finite negative m e =>
    let r := Ratio.ofBinary m e
    let k := r.decade - count
    (⟨(r.scale k).round .even, k⟩ : Digits).toFloat negative

end SimCheck.Decimal

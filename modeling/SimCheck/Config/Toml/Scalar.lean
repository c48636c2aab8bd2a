import SimCheck.Config.Value
import SimCheck.Decimal.Read
import SimCheck.Text.Reader

/-!
# Scalars of TOML documents

Keys, strings, numbers and Booleans.

* `key` reads a dotted key;
* `string` reads the four kinds of string;
* `plain` reads a number or a Boolean.
-/

namespace SimCheck.Config.Toml

open Text (Reader hexDigit?)
open Text.Reader (char next optional? peek? takeWhile takeWhile1 word)

/-- Spaces and tabs. -/
def blanks : Reader Unit := do
  let _ ← takeWhile fun c => c = ' ' || c = '\t'

/-- A line end. -/
def lineEnd : Reader Unit := char '\n' <|> (char '\r' *> char '\n')

/-- Whether a character may stand in comments and strings on one line. -/
def isInline (c : Char) : Bool := c = '\t' || (' ' ≤ c && c ≠ '\x7f')

/-- Reads with `step` until it has nothing more, at most `fuel` times, and joins what it reads. -/
def pieces (step : Reader (Option (List Char))) : (fuel : Nat) → Reader (List Char)
  | 0 => failure
  | fuel + 1 => do
    match ← step with
    | none => return []
    | some cs => return cs ++ (← pieces step fuel)

/-- Reads pieces as long as the text lasts. -/
def allPieces (step : Reader (Option (List Char))) : Reader (List Char) := do
  pieces step ((← get).length + 1)

/-- A character written with a number of hexadecimal digits. -/
def codePoint (digits : Nat) : Reader Char := do
  let cs ← (List.range digits).mapM fun _ => next
  let ds ← (cs.mapM hexDigit? : Option (List Nat))
  let n := ds.foldl (fun n d => 16 * n + d) 0
  if n.isValidChar then return Char.ofNat n else failure

/-- The character after a backslash. -/
def escape : Reader Char := do
  match ← next with
  | 'b' => return '\x08'
  | 't' => return '\t'
  | 'n' => return '\n'
  | 'f' => return '\x0c'
  | 'r' => return '\r'
  | '"' => return '"'
  | '\\' => return '\\'
  | 'u' => codePoint 4
  | 'U' => codePoint 8
  | _ => failure

/-- The next piece of a string on one line, up to the closing mark. -/
def linePiece (mark : Char) (escapes : Bool) : Reader (Option (List Char)) := do
  let c ← next
  if c = mark then return none
  else if c = '\\' ∧ escapes then return some [← escape]
  else if isInline c then return some [c]
  else failure

/-- A backslash at the end of a line hides the line end and all blank space after it. -/
def hiddenLineEnd : Reader Unit := do
  blanks
  lineEnd
  let _ ← takeWhile fun c => c = ' ' || c = '\t' || c = '\n' || c = '\r'

/-- The marks that close a string over several lines: three, with up to two of the text before
them. -/
def closing (mark : Char) : Reader (List Char) := fun cs =>
  let marks := (cs.takeWhile (· = mark)).take 5
  if marks.length < 3 then none else some (marks.drop 3, cs.drop marks.length)

/-- The rest of a string over several lines. -/
def longPieces (mark : Char) (escapes : Bool) : (fuel : Nat) → Reader (List Char)
  | 0 => failure
  | fuel + 1 => do
    match ← optional? (closing mark) with
    | some cs => return cs
    | none =>
      let piece ← (do
        if escapes then
          if ← (do char '\\'; hiddenLineEnd; return true) <|> pure false then return []
        if ← (do lineEnd; return true) <|> pure false then return ['\n']
        let c ← next
        if c = '\\' ∧ escapes then return [← escape]
        else if isInline c then return [c]
        else failure)
      return piece ++ (← longPieces mark escapes fuel)

/-- A string between marks, on one line or over several. -/
def marked (mark : Char) (escapes : Bool) : Reader String := do
  let long ← optional? (word (String.ofList [mark, mark, mark]))
  let cs ← match long with
    | some _ => do
      let _ ← optional? lineEnd
      longPieces mark escapes ((← get).length + 1)
    | none => do
      char mark
      allPieces (linePiece mark escapes)
  return String.ofList cs

/-- A string. -/
def string : Reader String := marked '"' true <|> marked '\'' false

/-- Whether a character may stand in a key without marks. -/
def isBare (c : Char) : Bool := c.isAlphanum || c = '_' || c = '-'

/-- A string on one line. -/
def shortString : Reader String := do
  match ← peek? with
  | some '"' => char '"'; return String.ofList (← allPieces (linePiece '"' true))
  | some '\'' => char '\''; return String.ofList (← allPieces (linePiece '\'' false))
  | _ => failure

/-- A part of a key. -/
def simpleKey : Reader String :=
  (String.ofList <$> takeWhile1 isBare) <|> shortString

/-- The parts of a key after the first. -/
def moreKeys : (fuel : Nat) → Reader (List String)
  | 0 => failure
  | fuel + 1 => do
    match ← optional? (blanks *> char '.' *> blanks) with
    | none => return []
    | some () => return (← simpleKey) :: (← moreKeys fuel)

/-- A key with dots between its parts. -/
def key : Reader (List String) := do
  let first ← simpleKey
  return first :: (← moreKeys ((← get).length + 1))

/-- Digits with single underscores between them, the underscores taken out. -/
def joined? (isDigit : Char → Bool) (cs : List Char) : Option (List Char) :=
  let rec go : List Char → Option (List Char)
    | [] => some []
    | '_' :: c :: rest => if isDigit c then (go rest).map (c :: ·) else none
    | c :: rest => if isDigit c then (go rest).map (c :: ·) else none
  match cs with
  | [] => none
  | c :: rest => if isDigit c then (go rest).map (c :: ·) else none

/-- An integer in base two, eight or sixteen. -/
def based? (base : Nat) (cs : List Char) : Option Value := do
  let ds ← joined? (fun c => (hexDigit? c).any (· < base)) cs
  let n := ds.foldl (fun n c => base * n + (hexDigit? c).getD 0) 0
  if isWord n then some (.int n) else none

/-- Splits a list at the first element that satisfies a predicate. -/
def splitAt? (p : Char → Bool) (cs : List Char) : List Char × Option (List Char) :=
  (cs.takeWhile fun c => !p c, (cs.dropWhile fun c => !p c).tail?)

/-- The integer part of a number: digits without a leading zero. -/
def whole? (cs : List Char) : Option (List Char) :=
  (joined? Char.isDigit cs).filter fun ds => ds.length == 1 || ds.head? != some '0'

/-- An exponent after its sign, as digits. -/
def exponentDigits? (cs : List Char) : Option (List Char) :=
  match cs with
  | '+' :: ds => joined? Char.isDigit ds
  | '-' :: ds => (joined? Char.isDigit ds).map ('-' :: ·)
  | ds => joined? Char.isDigit ds

/-- A decimal number without its sign. -/
def decimal? (negative : Bool) (cs : List Char) : Option Value := do
  let sign := if negative then ['-'] else []
  let (mantissa, exponent) := splitAt? (fun c => c = 'e' || c = 'E') cs
  let (whole, fraction) := splitAt? (· = '.') mantissa
  let ds ← whole? whole
  match fraction, exponent with
  | none, none =>
    let n := Decimal.value ds
    let n : Int := if negative then -n else n
    if isWord n then some (.int n) else none
  | _, _ =>
    let fraction ← match fraction with
      | none => some []
      | some f => (joined? Char.isDigit f).map ('.' :: ·)
    let exponent ← match exponent with
      | none => some []
      | some e => (exponentDigits? e).map ('e' :: ·)
    (Decimal.number? (String.ofList (sign ++ ds ++ fraction ++ exponent))).map .float

/-- A number or a Boolean from its characters. -/
def plain? (cs : List Char) : Option Value :=
  match cs with
  | ['t', 'r', 'u', 'e'] => some (.bool true)
  | ['f', 'a', 'l', 's', 'e'] => some (.bool false)
  | '0' :: 'x' :: ds => based? 16 ds
  | '0' :: 'o' :: ds => based? 8 ds
  | '0' :: 'b' :: ds => based? 2 ds
  | _ =>
    let (negative, rest) := Decimal.splitSign cs
    if rest = ['i', 'n', 'f'] ∨ rest = ['n', 'a', 'n'] then
      (Decimal.number? (String.ofList cs)).map .float
    else decimal? negative rest

/-- A number or a Boolean. -/
def plain : Reader Value := do
  let cs ← takeWhile1 fun c => c.isAlphanum || c = '_' || c = '-' || c = '+' || c = '.'
  (plain? cs : Option Value)

end SimCheck.Config.Toml

import SimCheck.Text.Visible

/-!
# Quoted text

A text in quotation marks, for diagnostics: quotation marks, backslashes, tabs and line ends are
escaped, and characters that are not visible are written by their code point.
-/

namespace SimCheck.Text

/-- A character as it stands between quotation marks. -/
def escaped (c : Char) : String :=
  if c = '"' then "\\\""
  else if c = '\\' then "\\\\"
  else if c = '\t' then "\\t"
  else if c = '\n' then "\\n"
  else if c = '\r' then "\\r"
  else if c = '\x00' then "\\0"
  else if isVisible c then c.toString
  else "\\u\x7b" ++ String.ofList (Nat.toDigits 16 c.toNat) ++ "\x7d"

/-- A text in quotation marks. -/
def quoted (s : String) : String := "\"" ++ "".intercalate (s.toList.map escaped) ++ "\""

end SimCheck.Text

import Assay.Text.Printable

/-!
Quoted texts: between single quotes, or between double ones if the text holds a single quote and
no double one.
-/

namespace Assay.Text

/-- `n` in lower-case hexadecimal with at least `width` digits. -/
def hexPadded (width n : Nat)
    : List Char :=
  let digits := Nat.toDigits 16 n
  List.replicate (width - digits.length) '0' ++ digits

/-- The numeric escape of a code point, in the shortest of its three widths. -/
def numericEscape (n : Nat)
    : List Char :=
  if n < 0x100 then '\\' :: 'x' :: hexPadded 2 n
  else if n < 0x10000 then '\\' :: 'u' :: hexPadded 4 n
  else '\\' :: 'U' :: hexPadded 8 n

/-- A character inside quotes: what does not print is escaped. -/
def quotedChar (quote c : Char)
    : List Char :=
  if c = quote ∨ c = '\\' then ['\\', c]
  else if c = '\n' then ['\\', 'n']
  else if c = '\r' then ['\\', 'r']
  else if c = '\t' then ['\\', 't']
  else if isPrintable c then [c]
  else numericEscape c.toNat

/-- The quote that a text is put between. -/
def quoteFor (cs : List Char)
    : Char :=
  if cs.contains '\'' && !cs.contains '"' then '"' else '\''

/-- A text between quotes. -/
def quoted (s : String)
    : String :=
  let cs := s.toList
  let quote := quoteFor cs
  String.ofList (quote :: cs.flatMap (quotedChar quote) ++ [quote])

/-- A text with every character outside ASCII as a numeric escape. -/
def asciiEscaped (s : String)
    : String :=
  String.ofList (s.toList.flatMap fun c => if c.toNat < 0x80 then [c] else numericEscape c.toNat)

end Assay.Text

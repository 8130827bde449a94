import CitationStudio.Text.Printable

/-! Texts as messages show them: between single quotes, or between double quotes where the
text has a single quote and no double one. The quote and the backslash are escaped, the common
breaks have letters of their own, and a character that is not printable is written by its
number in two, four or eight lower-case hexadecimal digits. -/

namespace CitationStudio.Text

/-- The quotation mark a text is put between. -/
def quoteMark (t : Text) : Char := if '\'' ∈ t ∧ '"' ∉ t then '"' else '\''

def hexDigits (width n : Nat) : Text :=
  let digits := Nat.toDigits 16 n
  List.replicate (width - digits.length) '0' ++ digits

def quotedChar (mark c : Char) : Text :=
  if c = mark ∨ c = '\\' then ['\\', c]
  else if c = '\n' then ['\\', 'n']
  else if c = '\t' then ['\\', 't']
  else if c = '\r' then ['\\', 'r']
  else if isPrintable c then [c]
  else if c.toNat < 0x100 then '\\' :: 'x' :: hexDigits 2 c.toNat
  else if c.toNat < 0x10000 then '\\' :: 'u' :: hexDigits 4 c.toNat
  else '\\' :: 'U' :: hexDigits 8 c.toNat

def quoted (t : Text) : Text :=
  let mark := quoteMark t
  mark :: t.flatMap (quotedChar mark) ++ [mark]

example : quoted "it's".toList = "\"it's\"".toList := by decide +kernel
example : quoted "a\n\x00é".toList = "'a\\n\\x00é'".toList := by decide +kernel

end CitationStudio.Text

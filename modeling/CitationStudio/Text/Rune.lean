import CitationStudio.Text.Quoted

/-! Texts that may be broken. An escape in a data file can name one half of a character that is
coded in two; a half without its partner is no character, but it keeps its place in the text. -/

namespace CitationStudio

inductive Rune where
  | char (c : Char)
  /-- Half of a character, by its code. -/
  | half (code : Nat)
  deriving Repr, DecidableEq, Inhabited

abbrev Runes := List Rune

namespace Rune

def ofCode (n : Nat) : Rune := if 0xd800 ≤ n ∧ n ≤ 0xdfff then half n else char (Char.ofNat n)

/-- The character, or the one that stands for what is none. -/
def toChar : Rune → Char
  | char c => c
  | half _ => '\ufffd'

end Rune

namespace Runes

def ofText (t : Text) : Runes := t.map .char

/-- The text, if no half is among the runes. -/
def text? : Runes → Option Text
  | [] => some []
  | .char c :: rs => (text? rs).map (c :: ·)
  | .half _ :: _ => none

/-- The text with every half replaced. -/
def text (rs : Runes) : Text := rs.map Rune.toChar

/-- The text as it is written out: two halves of one character that follow each other make it up,
and any other half is replaced. -/
def joined : Runes → Text
  | [] => []
  | .char c :: rs => c :: joined rs
  | [.half _] => ['\ufffd']
  | .half u :: .half w :: rs =>
    if u < 0xdc00 ∧ 0xdc00 ≤ w then
      Char.ofNat (0x10000 + (u - 0xd800) * 1024 + (w - 0xdc00)) :: joined rs
    else '\ufffd' :: joined (.half w :: rs)
  | .half _ :: .char c :: rs => '\ufffd' :: c :: joined rs

/-- The text with every half written by its code. -/
def written (rs : Runes) : Text :=
  rs.flatMap fun
    | .char c => [c]
    | .half n => '\\' :: 'u' :: Text.hexDigits 4 n

/-- Between quotes, with a half written by its code. -/
def quoted (rs : Runes) : Text :=
  let mark := Text.quoteMark (text rs)
  let one : Rune → Text
    | .char c => Text.quotedChar mark c
    | .half n => '\\' :: 'u' :: Text.hexDigits 4 n
  mark :: rs.flatMap one ++ [mark]

example : joined [.half 0xd83d, .half 0xde00, .half 0xde00] = ['😀', '\ufffd'] := by decide +kernel

end Runes

end CitationStudio

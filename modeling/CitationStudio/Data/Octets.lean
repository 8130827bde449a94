import CitationStudio.Text.Basic

/-! Octets written with sixty-four characters, four characters for three octets. Other characters
between them are passed over. The last group may be short; equality signs fill it up, and what
follows them is not looked at. -/

namespace CitationStudio.Octets

def sextet? (c : Char) : Option Nat :=
  let n := c.toNat
  if 'A' ≤ c ∧ c ≤ 'Z' then some (n - 65)
  else if 'a' ≤ c ∧ c ≤ 'z' then some (n - 71)
  else if '0' ≤ c ∧ c ≤ '9' then some (n + 4)
  else if c = '+' then some 62
  else if c = '/' then some 63
  else none

/-- The octets of characters, when `seen` characters of a group have been read, the last of which
left some bits over, and `fillers` equality signs after them. A group of one character spells
nothing, and no group ends without what fills it up. -/
def readFrom (seen left fillers : Nat) : Text → Option (List UInt8)
  | [] => if seen = 0 then some [] else none
  | c :: t =>
    if c = '=' then
      if 2 ≤ seen ∧ 4 ≤ seen + fillers + 1 then some []
      else readFrom seen left (if 2 ≤ seen then fillers + 1 else fillers) t
    else match sextet? c with
      | none => readFrom seen left fillers t
      | some n =>
        match seen with
        | 0 => readFrom 1 n 0 t
        | 1 => (readFrom 2 (n % 16) 0 t).map (UInt8.ofNat (left * 4 + n / 16) :: ·)
        | 2 => (readFrom 3 (n % 4) 0 t).map (UInt8.ofNat (left * 16 + n / 4) :: ·)
        | _ => (readFrom 0 0 0 t).map (UInt8.ofNat (left * 64 + n) :: ·)

def read? (t : Text) : Option (List UInt8) := readFrom 0 0 0 t

example : read? "aGkh".toList = some [0x68, 0x69, 0x21] := by decide +kernel
example : read? "aGk=".toList = some [0x68, 0x69] := by decide +kernel
example : read? "aGk".toList = none := by decide +kernel

end CitationStudio.Octets

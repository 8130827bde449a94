import CitationStudio.Text.Basic

/-! Texts from the octets of a file, in UTF-8. Each character has one spelling: octets that are
not the shortest spelling of a character make the whole file unreadable. -/

namespace CitationStudio.Text

/-- What the first octet of a character says: how many octets follow, the bits it carries
itself, and the least number that is written so. -/
def leadOctet? (b : Nat) : Option (Nat × Nat × Nat) :=
  if b < 0x80 then some (0, b, 0)
  else if 0xc0 ≤ b ∧ b < 0xe0 then some (1, b - 0xc0, 0x80)
  else if 0xe0 ≤ b ∧ b < 0xf0 then some (2, b - 0xe0, 0x800)
  else if 0xf0 ≤ b ∧ b < 0xf8 then some (3, b - 0xf0, 0x10000)
  else none

/-- Between two characters, or inside one of which the octets so far give a number. -/
inductive OctetState where
  | between
  | within (need number least : Nat)
  deriving Repr, DecidableEq, Inhabited

/-- The characters of octets; `need` more are due after the next one. -/
def ofOctetsFrom? : OctetState → List UInt8 → Option Text
  | .between, [] => some []
  | .within _ _ _, [] => none
  | .between, b :: bs =>
    match leadOctet? b.toNat with
    | none => none
    | some (0, number, _) => (ofOctetsFrom? .between bs).map (Char.ofNat number :: ·)
    | some (need + 1, number, least) => ofOctetsFrom? (.within need number least) bs
  | .within need number least, b :: bs =>
    if 0x80 ≤ b.toNat ∧ b.toNat < 0xc0 then
      let number := 64 * number + (b.toNat - 0x80)
      match need with
      | need + 1 => ofOctetsFrom? (.within need number least) bs
      | 0 =>
        if least ≤ number ∧ number.isValidChar then
          (ofOctetsFrom? .between bs).map (Char.ofNat number :: ·)
        else none
    else none

def ofOctets? (bs : List UInt8) : Option Text := ofOctetsFrom? .between bs

/-- A carriage return with or without a line feed becomes a line feed. -/
def unifyBreaks : Text → Text
  | [] => []
  | '\r' :: '\n' :: t => '\n' :: unifyBreaks t
  | c :: t => (if c = '\r' then '\n' else c) :: unifyBreaks t

example : ofOctets? [0x61, 0xc3, 0xa9, 0xf0, 0x9f, 0x98, 0x80] = some "aé😀".toList := by
  decide +kernel
example : ofOctets? [0xff] = none := by decide +kernel
example : ofOctets? [0xc0, 0x80] = none := by decide +kernel

end CitationStudio.Text

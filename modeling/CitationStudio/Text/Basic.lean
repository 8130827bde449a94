/-! Texts are lists of characters, so that every offset and every length in the library
counts characters. Blank characters are those of the space class of Unicode together with
the separators of the control range; `strip` removes them from both ends. -/

namespace CitationStudio

abbrev Text := List Char

namespace Text

/-- The blank characters: tab to carriage return, the four information separators, space,
next line, no-break space and the space separators, line and paragraph separator. -/
def isSpace (c : Char) : Bool :=
  let n := c.toNat
  (9 ≤ n && n ≤ 13) || (28 ≤ n && n ≤ 32) || n == 0x85 || n == 0xa0 || n == 0x1680 ||
  (0x2000 ≤ n && n ≤ 0x200a) || n == 0x2028 || n == 0x2029 || n == 0x202f || n == 0x205f ||
  n == 0x3000

def stripStart (t : Text) : Text := t.dropWhile isSpace

def strip (t : Text) : Text := (stripStart (stripStart t).reverse).reverse

def isBlank (t : Text) : Bool := t.all isSpace

@[simp] theorem isBlank_nil : isBlank [] = true := rfl

@[simp] theorem isBlank_cons (c : Char) (t : Text) :
    isBlank (c :: t) = (isSpace c && isBlank t) := rfl

/-- Only blanks are stripped. -/
theorem mem_stripStart {c : Char} (h : isSpace c = false) (t : Text) :
    c ∈ stripStart t ↔ c ∈ t := by
  induction t with
  | nil => rfl
  | cons d t ih =>
    by_cases hd : isSpace d = true
    · have hne : c ≠ d := by
        rintro rfl
        exact absurd hd (h ▸ Bool.false_ne_true)
      rw [stripStart, List.dropWhile_cons_of_pos hd, List.mem_cons, or_iff_right hne]
      exact ih
    · rw [stripStart, List.dropWhile_cons_of_neg hd]

theorem mem_strip {c : Char} (h : isSpace c = false) (t : Text) : c ∈ strip t ↔ c ∈ t := by
  rw [strip, List.mem_reverse, mem_stripStart h, List.mem_reverse, mem_stripStart h]

def joinLines (t : Text) : Text := t.map fun c => if c = '\n' ∨ c = '\r' then ' ' else c

/-- The lines of a text: one more than it has line feeds. -/
def lines : Text → List Text
  | [] => [[]]
  | c :: t =>
    if c = '\n' then [] :: lines t
    else match lines t with
      | [] => [[c]]
      | l :: ls => (c :: l) :: ls

theorem lines_ne_nil (t : Text) : lines t ≠ [] := by
  induction t with
  | nil => simp [lines]
  | cons c t ih =>
    simp only [lines]
    split
    · simp
    · split <;> simp

def ofNat (n : Nat) : Text := Nat.toDigits 10 n

def ofInt : Int → Text
  | .ofNat n => ofNat n
  | .negSucc n => '-' :: ofNat (n + 1)

def padStart (width : Nat) (t : Text) : Text := List.replicate (width - t.length) ' ' ++ t

def padEnd (width : Nat) (t : Text) : Text := t ++ List.replicate (width - t.length) ' '

def occursIn (part : Text) : Text → Bool
  | [] => part.isEmpty
  | c :: t => part.isPrefixOf (c :: t) || occursIn part t

/-- A text is what comes before a stretch, the stretch, and what comes after it. -/
theorem three_pieces (t : Text) {a b : Nat} (h : a ≤ b) :
    t.take a ++ (t.take b).drop a ++ t.drop b = t := by
  have ht : t.take a = (t.take b).take a := by rw [List.take_take, Nat.min_eq_left h]
  rw [ht, List.take_append_drop, List.take_append_drop]

end Text

end CitationStudio

import CitationStudio.Text.Basic

/-! Markup marks parts of a text by tags in brackets. A text that is put into markup is escaped,
so that what it has in brackets is not taken for a tag: backslashes before a tag are doubled and
one more is put there. A tag starts with a small letter, a number sign, a slash or an at sign. -/

namespace CitationStudio.Markup

def startsTag (c : Char) : Bool := ('a' ≤ c && c ≤ 'z') || c = '#' || c = '/' || c = '@'

/-- Is there a closing bracket in a text, before any other opening one? -/
def isClosed : Text → Bool
  | [] => false
  | c :: t => if c = ']' then true else if c = '[' then false else isClosed t

/-- Does a text that follows an opening bracket make a tag with it? -/
def isTag : Text → Bool
  | [] => false
  | c :: t => startsTag c && isClosed t

/-- Escapes tags; `slashes` backslashes stand right before the text. -/
def escapeFrom (slashes : Nat) : Text → Text
  | [] => List.replicate slashes '\\'
  | c :: t =>
    if c = '\\' then escapeFrom (slashes + 1) t
    else if c = '[' ∧ isTag t then
      List.replicate (2 * slashes + 1) '\\' ++ c :: escapeFrom 0 t
    else List.replicate slashes '\\' ++ c :: escapeFrom 0 t

/-- Is the last character a backslash and the one before it not? -/
def endsInSlash (t : Text) : Bool :=
  match t.reverse with
  | '\\' :: '\\' :: _ => false
  | '\\' :: _ => true
  | _ => false

/-- A lone backslash at the end would escape what comes next. -/
def guarded (t : Text) : Text := if endsInSlash t then t ++ ['\\'] else t

def escape (t : Text) : Text := guarded (escapeFrom 0 t)

/-- What is seen of an escaped text; `slashes` backslashes stand right before it. The ones before
a tag are taken back. Before any other opening bracket, which needs no backslash, the last one
counts as its escape and goes. -/
def seenFrom (slashes : Nat) : Text → Text
  | [] => List.replicate slashes '\\'
  | c :: t =>
    if c = '\\' then seenFrom (slashes + 1) t
    else
      let kept := if c = '[' ∧ !isTag t then slashes - 1 else slashes
      List.replicate kept '\\' ++ c :: seenFrom 0 t

/-- What is seen of an escaped text at the end of markup. The backslash that guards its end is
not taken back. -/
def seen (t : Text) : Text := guarded (seenFrom 0 t)

def tagged (tag t : Text) : Text := '[' :: tag ++ ']' :: t ++ "[/".toList ++ tag ++ [']']

example : escape "a [b] \\[/c] [D]".toList = "a \\[b] \\\\\\[/c] [D]".toList := by decide +kernel
example : seen "a \\\\[b] \\[D]".toList = "a \\\\[b] [D]".toList := by decide +kernel
example : escape "x\\".toList = "x\\\\".toList := by decide +kernel

end CitationStudio.Markup

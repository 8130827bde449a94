import CitationStudio.Surface
import CitationStudio.Text.Location

/-! A text area of the screen: a text with a selection between two places. -/

namespace CitationStudio

structure TextArea where
  text : Text
  selection : Option (Location × Location)
  deriving Repr, DecidableEq, Inhabited

namespace TextArea

def ofText (t : Text) : TextArea := ⟨t, some (.origin, .origin)⟩

/-- Puts another text there, as typing does: the selection stays. -/
def type (a : TextArea) (t : Text) : TextArea := { a with text := t }

def select (a : TextArea) (selection : Option (Location × Location)) : TextArea :=
  { a with selection }

def offsets (a : TextArea) : Option (Int × Int) :=
  a.selection.map fun (start, stop) =>
    let b := start.offset a.text
    let e := stop.offset a.text
    (min b e, max b e)

/-- Puts another text in place of the whole text; the cursor is then behind it. -/
def put (_ : TextArea) (t : Text) : TextArea :=
  let place := Location.ofOffset t t.length
  ⟨t, some (place, place)⟩

instance : Surface TextArea where
  text := TextArea.text
  selection := offsets
  put := put

end TextArea

end CitationStudio

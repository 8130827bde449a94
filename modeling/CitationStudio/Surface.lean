import CitationStudio.Text.Basic

/-! Where a text is shown and edited. A session sees no more of it than the text, the selected
offsets, if any, and a way to put another text there. -/

namespace CitationStudio

class Surface (σ : Type) where
  text : σ → Text
  selection : σ → Option (Int × Int)
  put : σ → Text → σ

namespace Surface

/-- Shows a text where there is a surface that does not show it already. -/
def display {σ : Type} [Surface σ] (surface : Option σ) (t : Text) : Option σ :=
  surface.map fun s => if text s = t then s else put s t

end Surface

/-- A text in memory with a selection, which is given up when the text is replaced. -/
structure TextBox where
  text : Text
  selection : Option (Int × Int)
  deriving Repr, DecidableEq, Inhabited

namespace TextBox

def ofText (t : Text) : TextBox := ⟨t, none⟩

def select (b : TextBox) (start stop : Int) : TextBox := { b with selection := some (start, stop) }

def deselect (b : TextBox) : TextBox := { b with selection := none }

/-- Puts another text there, as typing does: the selection stays. -/
def type (b : TextBox) (t : Text) : TextBox := { b with text := t }

instance : Surface TextBox where
  text := TextBox.text
  selection := TextBox.selection
  put _ t := ofText t

end TextBox

end CitationStudio

import CitationStudio.Text.Width

/-! Fitting a text into a number of cells. A line is broken between words where the next word
does not fit; a word that fits on no line is cut to the width if `fold` says so, and otherwise
is left as it is. Blanks stay behind the word they follow. -/

namespace CitationStudio.Text

/-- Without the characters that would move the cursor of a terminal about. -/
def dropMoves (t : Text) : Text :=
  t.filter fun c => !(c = '\x07' || c = '\x08' || c = '\x0b' || c = '\x0c' || c = '\r')

def tabStops : Text → List Text
  | [] => [[]]
  | c :: t =>
    if c = '\t' then [] :: tabStops t
    else match tabStops t with
      | [] => [[c]]
      | p :: ps => (c :: p) :: ps

/-- Each stretch but the last gets a space and as many more as lead to the next multiple of eight
cells. -/
def joinStops : List Text → Text
  | [] => []
  | [t] => t
  | t :: ts =>
    let t := t ++ [' ']
    t ++ List.replicate ((8 - width t % 8) % 8) ' ' ++ joinStops ts

def expandTabs (t : Text) : Text := joinStops (tabStops t)

def stripEnd (t : Text) : Text := (stripStart t.reverse).reverse

/-- The words of a line, each with the blanks behind it, the first one also with those before
it. What is blank throughout has no words. -/
def wordsFrom : Nat → Text → List Text
  | 0, _ => []
  | n + 1, t =>
    let blanks := t.takeWhile isSpace
    let rest := t.dropWhile isSpace
    if rest.isEmpty then []
    else
      let body := rest.takeWhile fun c => !isSpace c
      let after := rest.dropWhile fun c => !isSpace c
      (blanks ++ body ++ after.takeWhile isSpace) :: wordsFrom n (after.dropWhile isSpace)

def words (t : Text) : List Text := wordsFrom t.length t

/-- A word cut between clusters into pieces that fit; the last piece is apart from those before
it. -/
def chop (limit room : Nat) (piece : Text) : List Cluster → List Text × Text
  | [] => ([], piece)
  | k :: ks =>
    if room < k.cells then
      let (more, last) := chop limit (limit - k.cells) k.chars ks
      (piece :: more, last)
    else chop limit (room - k.cells) (piece ++ k.chars) ks

/-- Fills lines with words: the line so far with the cells its words take, and the words that are
left. -/
def fill (limit : Nat) (fold : Bool) (line : Text) (used : Nat) : List Text → List Text
  | [] => [line]
  | w :: ws =>
    if used + width (stripEnd w) ≤ limit then fill limit fold (line ++ w) (used + width w) ws
    else if limit < width (stripEnd w) ∧ fold then
      let (pieces, last) := chop limit limit [] (Cluster.ofText w)
      (if line.isEmpty then pieces else line :: pieces) ++ fill limit fold last (width last) ws
    else if line.isEmpty then fill limit fold w (width w) ws
    else line :: fill limit fold w (width w) ws

/-- Without the blanks at its end that are more than the limit allows. -/
def cropBlanks (limit : Nat) (t : Text) : Text :=
  let blanks := t.length - (stripEnd t).length
  t.take (t.length - min blanks (t.length - limit))

/-- The longest start that fits; half of a wide cluster is a space. -/
def fitStart : Nat → List Cluster → Text
  | _, [] => []
  | room, k :: ks =>
    if room = 0 then []
    else if k.cells ≤ room then k.chars ++ fitStart (room - k.cells) ks
    else [' ']

/-- A line that is too long ends where the limit is, with an ellipsis unless it may be cut. -/
def truncate (limit : Nat) (fold : Bool) (t : Text) : Text :=
  if width t ≤ limit then t
  else if fold then fitStart limit (Cluster.ofText t)
  else fitStart (limit - 1) (Cluster.ofText t) ++ ['…']

def wrapLine (limit : Nat) (fold : Bool) (line : Text) : List Text :=
  let line := expandTabs line
  let broken := match words line with
    | [] => [line]
    | ws => fill limit fold [] 0 ws
  broken.map fun l => truncate limit fold (cropBlanks limit l)

/-- The lines of a text, each at most as wide as the limit. -/
def wrap (limit : Nat) (fold : Bool) (t : Text) : List Text :=
  (lines (dropMoves t)).flatMap (wrapLine limit fold)

end CitationStudio.Text

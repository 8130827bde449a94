import CitationStudio.Screen.Log
import CitationStudio.Screen.Panels
import CitationStudio.Screen.TextArea
import CitationStudio.Tagging.Bench

/-! The screen. One text area tags a citation, another one marks a text; a lab previews what
either of them makes. The panels show what they were last given. -/

namespace CitationStudio

structure Screen where
  bench : Tagging.Bench TextArea
  marking : Marking.Session TextArea
  /-- Everything that was logged. -/
  log : List Screen.LogEntry
  /-- The screens with rows that were opened. -/
  opened : List (List Text)
  panels : Screen.Panels

namespace Screen

inductive Action where
  | toLiteral | toVariable | wrap | undo | clearPicks | strip | lock | copy
  | markExpr | markLiteral | fold | unfold | clear | send | combine
  deriving Repr, DecidableEq, Inhabited

namespace Action

def all : List Action :=
  [toLiteral, toVariable, wrap, undo, clearPicks, strip, lock, copy, markExpr, markLiteral, fold,
    unfold, clear, send, combine]

def name : Action → Text
  | toLiteral => "to_literal".toList
  | toVariable => "to_variable".toList
  | wrap => "wrap_selection".toList
  | undo => "undo".toList
  | clearPicks => "clear_selection".toList
  | strip => "strip_brackets".toList
  | lock => "toggle_lock".toList
  | copy => "copy_output".toList
  | markExpr => "mark_expr".toList
  | markLiteral => "mark_literal".toList
  | fold => "fold".toList
  | unfold => "unfold".toList
  | clear => "clear_visual".toList
  | send => "send_to_preview".toList
  | combine => "show_combos".toList

def ofName? (t : Text) : Option Action := all.find? fun a => a.name = t

def buttons : List (Text × Action) :=
  [("btn-literal", toLiteral), ("btn-variable", toVariable), ("btn-wrap", wrap),
    ("btn-undo", undo), ("btn-brackets", strip), ("btn-lock", lock), ("btn-copy", copy),
    ("btn-expr", markExpr), ("btn-lit", markLiteral), ("btn-fold", fold), ("btn-unfold", unfold),
    ("btn-clear", clear), ("btn-send", send), ("btn-combos", combine)].map fun (k, a) =>
    (k.toList, a)

def ofButton? (t : Text) : Option Action := buttons.lookup t

end Action

def say (s : Screen) (e : LogEntry) : Screen := { s with log := s.log ++ [e] }

def tagging (s : Screen) : Tagging.Session TextArea := s.bench.session

def advance (s : Screen) (t : Tagging.Session TextArea) : Screen :=
  { s with bench := s.bench.advance t }

def refreshPreview (s : Screen) : Screen :=
  let (preview, rendered) := previewOf s.bench.lab
  { s with panels := { s.panels with preview, rendered } }

def refreshTagging (s : Screen) : Screen :=
  refreshPreview { s with panels := { s.panels with
    parts := partLabels s.tagging.template.parts
    compiled := orElse s.tagging.output "(no parts yet)" } }

def refreshMarking (s : Screen) : Screen :=
  { s with panels := { s.panels with
    runs := runsOf s.marking.state.document
    folds := foldsOf s.marking.state
    marked := orElse s.marking.state.compiled "(empty)" } }

/-- Logs why the tagging session refused, if it did. -/
def sayTaggingError (s : Screen) : Screen :=
  match s.tagging.error with
  | some e => s.say (.refused e.message)
  | none => s

def sayMarkingError (s : Screen) : Screen :=
  match s.marking.error with
  | some e => s.say (.refused e.message)
  | none => s

def taggingDone (s : Screen) (action : String) (r : Tagging.Session TextArea × Bool) : Screen :=
  let s := s.advance r.1
  (if r.2 then s.say (.done action.toList s.tagging.output) else s.sayTaggingError).refreshTagging

/-- The compiled form of the marked text, or words that there is none. -/
def markedForm (m : Marking.Session TextArea) : Text :=
  if m.state.compiled.isEmpty then "(empty)".toList else m.state.compiled

def markingDone (s : Screen) (action : String) (r : Marking.Session TextArea × Bool) : Screen :=
  let s := { s with marking := r.1 }
  (if r.2 then s.say (.done action.toList (markedForm s.marking))
    else s.sayMarkingError).refreshMarking

def convert (s : Screen) (sort : String) : Screen :=
  match s.tagging.convert sort.toList none with
  | .ok r => s.taggingDone sort r
  | .error _ => s

def wrap (s : Screen) : Screen :=
  if s.tagging.picks.run?.isSome then s.taggingDone "wrap" s.tagging.wrap
  else s.say (.refused "Check two or more adjacent parts to wrap them.".toList)

def undo (s : Screen) : Screen :=
  match s.tagging.undo with
  | (t, true) => s.taggingDone "undo" (t, true)
  | (t, false) => (s.advance t).say (.note "Nothing to undo.".toList)

def lock (s : Screen) : Screen :=
  let s := s.advance s.tagging.toggleLock
  s.say (.note (if s.tagging.locked then "Input locked." else "Input unlocked.").toList)

def copy (s : Screen) : Screen :=
  match s.tagging.copy .works with
  | (t, true, _) =>
    let s := s.advance t
    s.say (.done "copy".toList s.tagging.output)
  | (t, false, _) => (s.advance t).sayTaggingError

def send (s : Screen) : Screen :=
  let sent := s.marking.send
  let s := (s.advance { s.tagging with
    feed := s.tagging.feed.publish sent.names sent.template }).refreshPreview
  s.say (.done "send".toList (markedForm s.marking))

def combine (s : Screen) (draw : Nat → Nat → List Nat) : Except Lab.RowsError Screen :=
  match s.bench.lab.rows draw with
  | .ok rows => .ok { s with opened := s.opened ++ [rowsScreen rows s.bench.lab.count] }
  | .error e => .error e

def act (s : Screen) (draw : Nat → Nat → List Nat) : Action → Except Lab.RowsError Screen
  | .toLiteral => .ok (s.convert "literal")
  | .toVariable => .ok (s.convert "variable")
  | .wrap => .ok s.wrap
  | .undo => .ok s.undo
  | .clearPicks => .ok (s.advance s.tagging.clearPicks).refreshTagging
  | .strip => .ok (s.advance s.tagging.stripBrackets).refreshTagging
  | .lock => .ok s.lock
  | .copy => .ok s.copy
  | .markExpr => .ok (s.markingDone "expr" (s.marking.toExpr none))
  | .markLiteral => .ok (s.markingDone "literal" (s.marking.toLiteral none))
  | .fold => .ok (s.markingDone "fold" (s.marking.fold none))
  | .unfold => .ok (s.markingDone "unfold" s.marking.unfold)
  | .clear => .ok { s with marking := s.marking.clear }.refreshMarking
  | .send => .ok s.send
  | .combine => s.combine draw

/-! ## Text areas -/

def taggingText (s : Screen) : Text := (s.tagging.surface.map TextArea.text).getD []

def markingText (s : Screen) : Text := (s.marking.surface.map TextArea.text).getD []

def taggingTyped (s : Screen) : Screen :=
  if s.taggingText = s.tagging.input then s
  else (s.advance (s.tagging.type s.taggingText).1).refreshTagging

def markingTyped (s : Screen) : Screen :=
  if s.markingText = s.marking.buffer then s
  else
    match s.marking.type s.markingText with
    | (m, true) => { s with marking := m }.refreshMarking
    | (m, false) => { s with marking := m }.sayMarkingError.refreshMarking

def settle (before after : Screen) : Screen :=
  let tagged := if after.taggingText = before.taggingText then after else after.taggingTyped
  if after.markingText = before.markingText then tagged else tagged.markingTyped

inductive Area where
  | tagging | marking
  deriving Repr, DecidableEq, Inhabited

def onArea (s : Screen) (a : Area) (f : TextArea → TextArea) : Screen :=
  match a with
  | .tagging => s.advance { s.tagging with surface := s.tagging.surface.map f }
  | .marking => { s with marking := { s.marking with surface := s.marking.surface.map f } }

inductive Step where
  | type (area : Area) (t : Text)
  | select (area : Area) (selection : Option (Location × Location))
  | check (picks : List Int)
  | act (a : Action)
  | nothing
  deriving Repr, DecidableEq, Inhabited

def step (s : Screen) (draw : Nat → Nat → List Nat) (x : Step) : Except Lab.RowsError Screen :=
  match x with
  | .type a t => .ok (s.settle (s.onArea a fun area => area.type t))
  | .select a selection => .ok (s.settle (s.onArea a fun area => area.select selection))
  | .check picks => .ok (s.settle (s.advance (s.tagging.pick picks)))
  | .act a => (s.act draw a).map (s.settle ·)
  | .nothing => .ok s

/-- A screen with a text to start from. The lab listens before anything is published. -/
def start (seed : Text) (lab : Lab) (historyLimit : Option Int) : Screen :=
  let follower := Lab.Follower.attach lab .empty
  let session := Tagging.Session.new none follower.feed historyLimit
  let bench : Tagging.Bench TextArea :=
    ⟨session, follower.lab.catchUp session.feed follower.feed.delivered.length⟩
  let bench := bench.advance (bench.session.apply seed)
  let area := some (TextArea.ofText seed)
  let s : Screen :=
    { bench := { bench with session := { bench.session with surface := area } }
      marking := { Marking.Session.new (none : Option TextArea) seed with surface := area }
      log := []
      opened := []
      panels := {} }
  s.refreshTagging.refreshMarking

end Screen

end CitationStudio

import CitationStudio.Text.Markup

/-! The log on the screen: what was done, what was refused, and what is to be known. -/

namespace CitationStudio.Screen

inductive LogEntry where
  | done (action : Text) (t : Text)
  | refused (t : Text)
  | note (t : Text)
  deriving Repr, DecidableEq, Inhabited

namespace LogEntry

def icons : List (Text × Text) :=
  [("literal", "📝"), ("variable", "🔤"), ("wrap", "🧩"), ("undo", "↩️"), ("fold", "📁"),
    ("unfold", "📂"), ("expr", "🟡"), ("send", "📤"), ("copy", "📋")].map fun (k, v) =>
    (k.toList, v.toList)

def icon (action : Text) : Text := (icons.lookup action).getD "⚪".toList

def shownLength : Nat := 200

def text : LogEntry → Text
  | done _ t | refused t | note t => t

/-- An entry as it is written. -/
def markup : LogEntry → Text
  | done action t =>
    icon action ++ ' ' :: Markup.tagged "bold".toList action ++ ": ".toList ++
      Markup.escape (t.take shownLength)
  | refused t => "❌ ".toList ++ Markup.tagged "bold red".toList (Markup.escape t)
  | note t => "ℹ️  ".toList ++ Markup.tagged "dim".toList (Markup.escape t)

end LogEntry

end CitationStudio.Screen

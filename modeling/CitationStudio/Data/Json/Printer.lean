import CitationStudio.Data.Value

/-! Writing values as JSON, on one line or with one item or entry a line and two blanks of
indentation a level. Only the quotation mark, the backslash and control characters are
escaped. -/

namespace CitationStudio.Json

def escapedChar (c : Char) : Text :=
  if c = '"' then ['\\', '"']
  else if c = '\\' then ['\\', '\\']
  else if c = '\n' then ['\\', 'n']
  else if c = '\r' then ['\\', 'r']
  else if c = '\t' then ['\\', 't']
  else if c = '\x0c' then ['\\', 'f']
  else if c = '\x08' then ['\\', 'b']
  else if c.toNat < 32 then '\\' :: 'u' :: Text.hexDigits 4 c.toNat
  else [c]

def written (t : Text) : Text := '"' :: t.flatMap escapedChar ++ ['"']

def writtenAtom : Value → Text
  | .null => "null".toList
  | .bool true => "true".toList
  | .bool false => "false".toList
  | .int n => Text.ofInt n
  | .float .nan => "NaN".toList
  | .float (.infinite negative) => (if negative then ['-'] else []) ++ "Infinity".toList
  | .float x => x.text
  | v => written v.text

def writtenKey (k : Value) : Text := written k.text

mutual
def compact : Value → Text
  | .list items => '[' :: compactItems items ++ [']']
  | .map entries => '{' :: compactEntries entries ++ ['}']
  | v => writtenAtom v

def compactItems : List Value → Text
  | [] => []
  | [v] => compact v
  | v :: w :: vs => compact v ++ ", ".toList ++ compactItems (w :: vs)

def compactEntry : Value × Value → Text
  | (k, v) => writtenKey k ++ ": ".toList ++ compact v

def compactEntries : List (Value × Value) → Text
  | [] => []
  | [e] => compactEntry e
  | e :: f :: es => compactEntry e ++ ", ".toList ++ compactEntries (f :: es)
end

def newLine (level : Nat) : Text := '\n' :: List.replicate (2 * level) ' '

mutual
/-- A value with its items and entries on lines of their own. -/
def indented (level : Nat) : Value → Text
  | .list [] => "[]".toList
  | .list (v :: vs) =>
    '[' :: newLine (level + 1) ++ indented (level + 1) v ++ indentedItems (level + 1) vs ++
      newLine level ++ [']']
  | .map [] => ['{', '}']
  | .map (e :: es) =>
    '{' :: newLine (level + 1) ++ indentedEntry (level + 1) e ++ indentedEntries (level + 1) es ++
      newLine level ++ ['}']
  | v => writtenAtom v

def indentedItems (level : Nat) : List Value → Text
  | [] => []
  | v :: vs => ',' :: newLine level ++ indented level v ++ indentedItems level vs

def indentedEntry (level : Nat) : Value × Value → Text
  | (k, v) => writtenKey k ++ ": ".toList ++ indented level v

def indentedEntries (level : Nat) : List (Value × Value) → Text
  | [] => []
  | e :: es => ',' :: newLine level ++ indentedEntry level e ++ indentedEntries level es
end

end CitationStudio.Json

import CitationStudio.Text.Basic

/-! Balanced text: square brackets and braces each close as many times as they open, and never
before they have opened. The two sorts are counted apart. A backslash takes the character after
it out of the count. -/

namespace CitationStudio.Fold

/-- Is the text balanced when so many brackets and braces are open before it? -/
def balancedFrom (square curly : Nat) : Text → Bool
  | '\\' :: _ :: t => balancedFrom square curly t
  | '[' :: t => balancedFrom (square + 1) curly t
  | ']' :: t => square != 0 && balancedFrom (square - 1) curly t
  | '{' :: t => balancedFrom square (curly + 1) t
  | '}' :: t => curly != 0 && balancedFrom square (curly - 1) t
  | _ :: t => balancedFrom square curly t
  | [] => square == 0 && curly == 0

def isBalanced (t : Text) : Bool := balancedFrom 0 0 t

end CitationStudio.Fold

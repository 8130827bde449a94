import CitationStudio.Data.Value
import CitationStudio.Part.Basic

/-! Values offered where a part is wanted. Only parts have a sort. -/

namespace CitationStudio.Part

inductive Offer where
  | part (p : Part)
  | other (v : Value)

structure NotAPart where
  value : Value

def NotAPart.message (e : NotAPart) : Text := "Not an addend: ".toList ++ e.value.shown

def Offer.kind : Offer → Except NotAPart Kind
  | .part p => .ok p.kind
  | .other v => .error ⟨v⟩

end CitationStudio.Part

import CitationStudio.Render.Registry

/-! # Names of renderers that cannot be resolved

A name with a dot in it is taken for a path up to its last dot, and a member. If there is no such
module or no such member, this is said of the name. A path that starts with a dot is relative to
nothing, which is not said of the name, and neither is anything else that is raised while a module
is imported or its member is made. -/

namespace CitationStudio.Render

theorem splitLast_append {path member : Runes} (h : dot ∉ member) :
    splitLast (path ++ dot :: member) = (path, member) := by
  have hafter : (path ++ dot :: member).reverse.takeWhile (· ≠ dot) = member.reverse := by
    rw [List.reverse_append, List.reverse_cons, List.append_assoc,
      List.takeWhile_append_of_pos fun c hc => ?_, List.singleton_append,
      List.takeWhile_cons_of_neg (by decide), List.append_nil]
    rw [decide_eq_true_iff]
    rintro rfl
    exact h (List.mem_reverse.1 hc)
  rw [splitLast, hafter, List.reverse_reverse]
  refine Prod.ext (List.take_left' ?_) rfl
  rw [List.length_append, List.length_cons]
  omega

/-- A name is a path, relative to nothing, and a member behind its last dot. -/
structure Dotted (name path member : Runes) : Prop where
  split : name = path ++ dot :: member
  last : dot ∉ member
  nonempty : path ≠ []
  absolute : path.head? ≠ some dot

/-- A name whose trouble is not said of the name. -/
inductive Baffling (modules : Modules) (name : Runes) : Prop
  /-- The path up to the last dot starts with a dot. -/
  | relative {rest : Runes} : name = dot :: rest → dot ∈ rest → Baffling modules name
  /-- Something is raised while the module is imported or searched, other than that it, or what is
  searched for, is not there. -/
  | failing {path member : Runes} {e : Raised} : Dotted name path member →
      modules path member = .unfound e → e.kind ≠ .lacking → e.isExpected = false →
      Baffling modules name
  /-- Something is raised while the member is made. -/
  | unmade {path member : Runes} {e : Raised} : Dotted name path member →
      modules path member = .unmade e → e.isExpected = false → Baffling modules name

variable {modules : Modules} {name path member : Runes}

theorem Dotted.splitLast_eq (h : Dotted name path member) : splitLast name = (path, member) :=
  h.split ▸ splitLast_append h.last

/-- A name has one path and one member. -/
theorem Dotted.unique {path' member' : Runes} (h : Dotted name path member)
    (h' : Dotted name path' member') : path = path' ∧ member = member' :=
  Prod.mk.inj (h.splitLast_eq.symm.trans h'.splitLast_eq)

end CitationStudio.Render

import Mathlib.Data.List.Chain
import Mathlib.Data.List.Forall2
import CitationStudio.Citation.Run

/-! # The runs of literal text

A run is a punctuation character, or it has no punctuation in it and goes as far as that holds: two
runs without punctuation are never neighbours, or they would be one. This leaves one way to cut a
text into runs. Putting a character before runs keeps what is said of them, so every text has them;
and the runs of a text begin with whatever run it begins with, so it has no others. Literal text is
cut like this once each of its line breaks has made way for a space. -/

namespace CitationStudio.Citation

/-! ## Line breaks -/

/-- A character and what stands in its place. -/
inductive Spacing : Char → Char → Prop
  | newline : Spacing '\n' ' '
  | carriageReturn : Spacing '\r' ' '
  | other {c : Char} : c ≠ '\n' → c ≠ '\r' → Spacing c c

/-- A text and the same text with a space in the place of each line break. -/
def Spaced (t u : Text) : Prop := List.Forall₂ Spacing t u

theorem spacing_iff (c d : Char) :
    Spacing c d ↔ d = if c = '\n' ∨ c = '\r' then ' ' else c := by
  constructor
  · rintro (_ | _ | ⟨hn, hr⟩)
    · rfl
    · rfl
    · rw [if_neg (not_or.2 ⟨hn, hr⟩)]
  · rintro rfl
    by_cases hn : c = '\n'
    · subst hn
      exact .newline
    · by_cases hr : c = '\r'
      · subst hr
        exact .carriageReturn
      · rw [if_neg (not_or.2 ⟨hn, hr⟩)]
        exact .other hn hr

theorem spaced_iff (t u : Text) : Spaced t u ↔ u = t.joinLines := by
  induction t generalizing u with
  | nil => exact List.forall₂_nil_left_iff
  | cons c t ih =>
    unfold Spaced at ih ⊢
    rw [List.forall₂_cons_left_iff]
    constructor
    · rintro ⟨d, v, hd, hv, rfl⟩
      rw [(spacing_iff c d).1 hd, (ih v).1 hv]
      rfl
    · rintro rfl
      exact ⟨_, _, (spacing_iff c _).2 rfl, (ih _).2 rfl, rfl⟩

/-! ## Runs -/

/-- The characters that are runs of their own. -/
def marks : List Char := [',', ':', ';', '#', '(', ')', '"']

theorem isPunctuation_iff (c : Char) : isPunctuation c = true ↔ c ∈ marks := by
  simp [isPunctuation, marks, or_assoc]

/-- There is no punctuation in the text. -/
def Plain (t : Text) : Prop := ∀ c ∈ t, c ∉ marks

theorem plain_cons {c : Char} {t : Text} :
    Plain (c :: t) ↔ isPunctuation c = false ∧ Plain t := by
  rw [← Bool.not_eq_true, isPunctuation_iff]
  exact List.forall_mem_cons

/-- A single punctuation character, or no punctuation at all. -/
def Uniform (r : Text) : Prop := (∃ c ∈ marks, r = [c]) ∨ Plain r

/-- How a text is to be cut into runs. -/
structure Runs (t : Text) (rs : List Text) : Prop where
  flatten : rs.flatten = t
  visible : ∀ r ∈ rs, r ≠ []
  uniform : ∀ r ∈ rs, Uniform r
  apart : rs.IsChain fun r r' => ¬ (Plain r ∧ Plain r')

/-- Behind the first run are the runs of what is left of the text. -/
theorem Runs.tail {t r : Text} {rs : List Text} (h : Runs t (r :: rs)) : Runs rs.flatten rs where
  flatten := rfl
  visible := (List.forall_mem_cons.1 h.visible).2
  uniform := (List.forall_mem_cons.1 h.uniform).2
  apart := h.apart.tail

theorem Runs.plain_of_head {t r : Text} {c : Char} {rs : List Text} (h : Runs t rs)
    (hr : c :: r ∈ rs) (hc : isPunctuation c = false) : Plain (c :: r) := by
  rcases h.uniform _ hr with ⟨d, hd, he⟩ | hplain
  · rw [(List.cons.inj he).1, (isPunctuation_iff d).2 hd] at hc
    cases hc
  · exact hplain

/-! ## A text has runs -/

theorem uniform_single (c : Char) : Uniform [c] := by
  cases hc : isPunctuation c with
  | true => exact .inl ⟨c, (isPunctuation_iff c).1 hc, rfl⟩
  | false => exact .inr (plain_cons.2 ⟨hc, List.forall_mem_nil _⟩)

theorem consRun_mark {c d : Char} (h : isPunctuation c = true ∨ isPunctuation d = true)
    (r : Text) (rs : List Text) : consRun c ((d :: r) :: rs) = [c] :: (d :: r) :: rs := by
  rw [consRun, if_pos (Bool.or_eq_true_iff.2 h)]

theorem consRun_plain {c d : Char} (hc : isPunctuation c = false) (hd : isPunctuation d = false)
    (r : Text) (rs : List Text) : consRun c ((d :: r) :: rs) = (c :: d :: r) :: rs := by
  rw [consRun, hc, hd, Bool.or_self, if_neg Bool.false_ne_true]

/-- Runs stay runs when a character is put before them. -/
theorem Runs.cons {t : Text} {rs : List Text} (h : Runs t rs) (c : Char) :
    Runs (c :: t) (consRun c rs) := by
  have hflatten : (consRun c rs).flatten = c :: t := by rw [flatten_consRun, h.flatten]
  have hvisible := ne_nil_of_mem_consRun (c := c) h.visible
  cases rs with
  | nil => exact ⟨hflatten, hvisible, by simpa [consRun] using uniform_single c, .singleton _⟩
  | cons r rs =>
    obtain ⟨d, r, rfl⟩ := List.exists_cons_of_ne_nil (h.visible r List.mem_cons_self)
    by_cases hmark : isPunctuation c = true ∨ isPunctuation d = true
    · rw [consRun_mark hmark] at hflatten hvisible ⊢
      refine ⟨hflatten, hvisible, List.forall_mem_cons.2 ⟨uniform_single c, h.uniform⟩, ?_⟩
      refine List.isChain_cons_cons.2 ⟨?_, h.apart⟩
      intro ⟨hc, hd⟩
      rcases hmark with hmark | hmark
      · exact Bool.false_ne_true ((plain_cons.1 hc).1.symm.trans hmark)
      · exact Bool.false_ne_true ((plain_cons.1 hd).1.symm.trans hmark)
    · rw [not_or, Bool.not_eq_true, Bool.not_eq_true] at hmark
      have hplain := h.plain_of_head List.mem_cons_self hmark.2
      rw [consRun_plain hmark.1 hmark.2] at hflatten hvisible ⊢
      refine ⟨hflatten, hvisible, ?_, ?_⟩
      · exact List.forall_mem_cons.2 ⟨.inr (plain_cons.2 ⟨hmark.1, hplain⟩), h.tail.uniform⟩
      · -- the longer run is as plain as the one that it was
        obtain ⟨hhead, htail⟩ := List.isChain_cons.1 h.apart
        exact List.isChain_cons.2 ⟨fun r' hr' hboth => hhead r' hr' ⟨hplain, hboth.2⟩, htail⟩

theorem runs_runs (t : Text) : Runs t (runs t) := by
  induction t with
  | nil => exact ⟨rfl, List.forall_mem_nil _, List.forall_mem_nil _, .nil⟩
  | cons c t ih => exact ih.cons c

/-! ## It has no others -/

theorem runs_mark {c : Char} (h : isPunctuation c = true) (t : Text) :
    runs (c :: t) = [c] :: runs t := by
  rw [runs]
  cases runs t with
  | nil => rfl
  | cons r rs =>
    cases r with
    | nil => rfl
    | cons d r => exact consRun_mark (.inl h) r rs

/-- Text without punctuation is one run if there is none behind it that would go on with it. -/
theorem runs_plain {r : Text} (hne : r ≠ []) (hr : Plain r) {t : Text}
    (ht : ∀ c ∈ t.head?, isPunctuation c = true) : runs (r ++ t) = r :: runs t := by
  induction r with
  | nil => exact absurd rfl hne
  | cons c r ih =>
    obtain ⟨hc, hr⟩ := plain_cons.1 hr
    rw [List.cons_append, runs]
    cases r with
    | nil =>
      cases t with
      | nil => rfl
      | cons d t =>
        have hd : isPunctuation d = true := ht d rfl
        rw [List.nil_append, runs_mark hd, consRun_mark (.inr hd)]
    | cons d r => rw [ih (List.cons_ne_nil _ _) hr, consRun_plain hc (plain_cons.1 hr).1]

/-- What comes behind a run without punctuation begins with some. -/
theorem Runs.head?_tail {t r : Text} {rs : List Text} (h : Runs t (r :: rs)) (hr : Plain r) :
    ∀ c ∈ rs.flatten.head?, isPunctuation c = true := by
  intro c hc
  cases rs with
  | nil => cases hc
  | cons r' rs =>
    obtain ⟨d, r', rfl⟩ := List.exists_cons_of_ne_nil (h.tail.visible r' List.mem_cons_self)
    obtain rfl : d = c := Option.some.inj hc
    cases hd : isPunctuation d with
    | true => rfl
    | false =>
      have hplain := h.tail.plain_of_head List.mem_cons_self hd
      exact absurd ⟨hr, hplain⟩ (List.isChain_cons_cons.1 h.apart).1

theorem Runs.eq_runs {t : Text} {rs : List Text} (h : Runs t rs) : runs t = rs := by
  induction rs generalizing t with
  | nil => rw [← h.flatten]; rfl
  | cons r rs ih =>
    rw [← h.flatten, List.flatten_cons]
    rcases h.uniform r List.mem_cons_self with ⟨c, hc, rfl⟩ | hr
    · rw [List.singleton_append, runs_mark ((isPunctuation_iff c).2 hc), ih h.tail]
    · rw [runs_plain (h.visible r List.mem_cons_self) hr (h.head?_tail hr), ih h.tail]

/-- **Literal text is cut at its punctuation and nowhere else.** Its runs are the one list of
non-empty texts that make up the text with a space for each newline and each carriage return, in
which each is a single punctuation character or has no punctuation in it, and no two without
punctuation are neighbours. -/
theorem literalRuns_eq_iff (t : Text) (rs : List Text) :
    literalRuns t = rs ↔ ∃ u, Spaced t u ∧ Runs u rs := by
  constructor
  · intro h
    subst h
    exact ⟨t.joinLines, (spaced_iff t _).2 rfl, runs_runs _⟩
  · rintro ⟨u, hu, hrs⟩
    obtain rfl := (spaced_iff t u).1 hu
    exact hrs.eq_runs

end CitationStudio.Citation

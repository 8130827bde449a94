import CitationStudio.Proofs.Fold.Expanded
import CitationStudio.Proofs.Marking.Display

/-! # What an author types

A session is told the new text of its buffer and has to guess the edit. An edit that only puts text
in, or only takes text out, is a smallest one, so it is among those that are tried. If the buffer
takes it, then one of them is taken: that one or one that lies further right and leads to the same
text. What is put in removes no token, wherever it goes. What is taken out may remove other tokens
than the author meant, in a text that repeats, and tokens look alike: then the fold table depends on
the guess. -/

namespace CitationStudio

theorem getElem?_take_append_drop {α : Type} (xs : List α) {a b : Nat} (hab : a ≤ b) (k : Nat) :
    (xs.take a ++ xs.drop b)[k]? = if k < a then xs[k]? else xs[k + (b - a)]? := by
  by_cases ha : a ≤ xs.length
  · have hlength : (xs.take a).length = a := List.length_take_of_le ha
    split
    · rename_i hk
      rw [List.getElem?_append_left (by omega), List.getElem?_take_of_lt hk]
    · rw [List.getElem?_append_right (by omega), List.getElem?_drop, hlength]
      congr 1
      omega
  · rw [List.take_of_length_le (by omega), List.drop_eq_nil_of_le (by omega), List.append_nil]
    split
    · rfl
    · rw [List.getElem?_eq_none (by omega), List.getElem?_eq_none (by omega)]

/-- It makes no difference from which of two places on as many entries are left out just if each
entry from the one place to before the other is the same as the one so many places on. -/
theorem take_append_drop_eq_iff {α : Type} (xs : List α) {a b : Nat} (hab : a ≤ b) (n : Nat) :
    xs.take b ++ xs.drop (b + n) = xs.take a ++ xs.drop (a + n) ↔
      ∀ k, a ≤ k → k < b → xs[k]? = xs[k + n]? := by
  have hget (c k : Nat) : (xs.take c ++ xs.drop (c + n))[k]? =
      if k < c then xs[k]? else xs[k + n]? := by
    rw [getElem?_take_append_drop xs (Nat.le_add_right c n), Nat.add_sub_cancel_left]
  rw [List.ext_getElem?_iff]
  refine forall_congr' fun k => ?_
  rw [hget, hget]
  by_cases ha : k < a
  · rw [if_pos ha, if_pos (by omega)]
    exact iff_of_true rfl fun h => by omega
  · by_cases hb : k < b
    · rw [if_neg ha, if_pos hb]
      exact ⟨fun h _ _ => h, fun h => h (by omega) hb⟩
    · rw [if_neg ha, if_neg hb]
      exact iff_of_true rfl fun _ h => by omega

namespace Marking.Session

variable {σ : Type}

/-- If one of the edits is made, the first that is made lies furthest right. -/
theorem exists_firstEdit {f g : FoldedText} {es : List Edit}
    (hes : es.Pairwise fun e e' => e'.start < e.start) {e : Edit} (he : e ∈ es)
    (hg : f.edit e.start e.stop e.inserted = .ok g) :
    ∃ e' ∈ es, ∃ f', f.edit e'.start e'.stop e'.inserted = .ok f' ∧
      firstEdit f es = some (.ok f') ∧
        ∀ d ∈ es, ∀ g, f.edit d.start d.stop d.inserted = .ok g → d.start ≤ e'.start := by
  induction es with
  | nil => cases he
  | cons first es ih =>
    obtain ⟨hfirst, hes⟩ := List.pairwise_cons.1 hes
    rw [firstEdit]
    cases hmade : f.edit first.start first.stop first.inserted with
    | ok f' =>
      refine ⟨first, List.mem_cons_self .., f', hmade, rfl, fun d hd _ _ => ?_⟩
      rcases List.mem_cons.1 hd with rfl | hd
      · exact Nat.le_refl _
      · exact Nat.le_of_lt (hfirst d hd)
    | error r =>
      have hmem : e ∈ es := by
        rcases List.mem_cons.1 he with rfl | he
        · rw [hmade] at hg
          cases hg
        · exact he
      obtain ⟨e', he', f', hf', hfirstEdit, hright⟩ := ih hes hmem
      refine ⟨e', List.mem_cons_of_mem _ he', f', hf', by rw [hfirstEdit], fun d hd g hd' => ?_⟩
      rcases List.mem_cons.1 hd with rfl | hd
      · rw [hmade] at hd'
        cases hd'
      · exact hright d hd g hd'

variable [Surface σ]

/-- If an edit that only puts in or only takes out is made, then one is that leads to the same text,
takes out and puts in as much, and lies furthest right of all these. -/
theorem type_taken (s : Session σ) {a b : Nat} {t : Text} {f' : FoldedText}
    (hone : a = b ∨ t = []) (hne : b - a ≠ t.length)
    (hturns : (⟨a, b, t⟩ : Edit).Turns s.state.buffer f'.buffer)
    (h : s.state.edit a b t = .ok f') :
    ∃ c u g, a ≤ c ∧ u.length = t.length ∧ s.state.edit c (c + (b - a) : Nat) u = .ok g ∧
      g.buffer = f'.buffer ∧ s.type f'.buffer = ({ s with state := g, error := none }, true) ∧
      ∀ (d : Nat) v g', v.length = t.length → s.state.edit d (d + (b - a) : Nat) v = .ok g' →
        g'.buffer = f'.buffer → d ≤ c := by
  have hmem := hturns.mem_alignments hone
  obtain ⟨⟨c, stop, u⟩, hmem', g, hg, hfirst, hright⟩ :=
    exists_firstEdit (Edit.alignments_pairwise ..) hmem h
  obtain ⟨hout, hin⟩ : stop - c = b - a ∧ u.length = t.length :=
    Edit.alignments_sizes hmem' hmem
  have hle : c ≤ stop := (Edit.turns_of_mem_alignments hmem').start_le
  have hlength : f'.buffer.length + (b - a) = s.state.buffer.length + t.length :=
    hturns.length_eq
  have hother : f'.buffer ≠ s.state.buffer := fun hsame => by
    rw [hsame] at hlength
    omega
  obtain rfl : stop = c + (b - a) := by omega
  refine ⟨c, u, g, hright ⟨a, b, t⟩ hmem f' h, hin, hg, firstEdit_buffer hfirst, ?_,
    fun d v g' hv hg' hsame => ?_⟩
  · rw [type, if_neg hother, hfirst]
  · obtain ⟨d', stop, hd, hstop, hturns', hg''⟩ := FoldedText.edit_turns hg'
    have hone' : d' = stop ∨ v = [] := by
      rcases hone with rfl | rfl
      · exact .inl (by omega)
      · exact .inr (List.eq_nil_of_length_eq_zero hv)
    rw [hsame] at hturns'
    have hle' : d' ≤ c := hright ⟨d', stop, v⟩ (hturns'.mem_alignments hone') g' hg''
    omega

/-- **What an author types is taken.** If the buffer takes an edit that puts text in at one place,
or one that takes a stretch out, then the session takes the text it leads to, and there is no error.
What is put in leaves the fold table as it is, and the expanded text is that of the edit itself. -/
theorem type_accepted (s : Session σ) {start stop : Int} {t : Text} {f' : FoldedText}
    (hone : (start = stop ∧ t ≠ []) ∨ (start ≠ stop ∧ t = []))
    (h : s.state.edit start stop t = .ok f') :
    let typed := s.type f'.buffer
    typed.2 = true ∧ typed.1.state.buffer = f'.buffer ∧ typed.1.error = none ∧
      (start = stop → typed.1.state.pieces = s.state.pieces ∧
        typed.1.state.expanded = f'.expanded) := by
  obtain ⟨a, b, ha, hb, hturns, he⟩ := FoldedText.edit_turns h
  have hone' : a = b ∨ t = [] := by
    rcases hone with ⟨heq, -⟩ | ⟨-, hnil⟩
    · exact .inl (by omega)
    · exact .inr hnil
  have hne : b - a ≠ t.length := by
    rcases hone with ⟨heq, hpos⟩ | ⟨hneq, rfl⟩
    · have hpos := List.length_pos_iff.2 hpos
      omega
    · rw [List.length_nil]
      omega
  obtain ⟨c, u, g, -, -, hg, hbuffer, htype, -⟩ := s.type_taken hone' hne hturns he
  rw [htype]
  refine ⟨rfl, hbuffer, rfl, fun heq => ?_⟩
  -- both edits put text in at one place, so neither removes a token
  obtain rfl : a = b := by omega
  rw [Nat.sub_self, Nat.add_zero] at hg
  have hpieces := FoldedText.pieces_edit_empty hg
  have hpieces' := FoldedText.pieces_edit_empty he
  refine ⟨hpieces, ?_⟩
  rw [FoldedText.expanded, FoldedText.expanded, hbuffer, hpieces, hpieces']

/-- A bracket is put in before a token, where it could also be the second of the two and cut the
token. A star and a bracket are taken out behind it, and are not the ones of the token. -/
theorem type_accepted_beside_token :
    let f : FoldedText := ⟨"a[*]*]".toList, ["(x)".toList], []⟩
    let more : FoldedText := ⟨"a[[*]*]".toList, ["(x)".toList], []⟩
    let less : FoldedText := ⟨"a[*]".toList, ["(x)".toList], []⟩
    let s : Session TextBox := ⟨f, none, none⟩
    f.edit 1 1 "[".toList = .ok more ∧ f.edit 6 4 [] = .ok less ∧
      (s.type more.buffer).2 = true ∧ (s.type more.buffer).1.state.pieces = f.pieces ∧
      (s.type less.buffer).2 = true ∧ (s.type less.buffer).1.state.buffer = less.buffer := by
  intro f more less s
  have hmore : f.edit 1 1 "[".toList = .ok more := by rfl
  have hless : f.edit 6 4 [] = .ok less := by rfl
  obtain ⟨hdone, -, -, hkept⟩ := s.type_accepted (.inl ⟨rfl, by decide⟩) hmore
  obtain ⟨hdone', hbuffer, -, -⟩ := s.type_accepted (.inr ⟨by decide, rfl⟩) hless
  exact ⟨hmore, hless, hdone, (hkept rfl).1, hdone', hbuffer⟩

/-- **Which folds go with what an author takes out.** If the buffer takes an edit that takes a
stretch out, then the session takes out the stretch of this length that lies furthest right, of all
that the buffer can do without and that leave the same text. The fold table is then that of the edit
itself just if each piece from the first that goes by the edit to before the first that goes instead
is the same as the one so many places on as pieces go. So it is if no token goes, or if no such
stretch lies further right. -/
theorem type_removed (s : Session σ) {start stop : Int} {f' : FoldedText} (hne : start ≠ stop)
    (h : s.state.edit start stop [] = .ok f') :
    let f := s.state
    let typed := (s.type f'.buffer).1.state
    let a := (min start stop).toNat
    let b := (max start stop).toNat
    ∃ c : Nat, a ≤ c ∧ f.edit c (c + (b - a) : Nat) [] = .ok typed ∧ typed.buffer = f'.buffer ∧
      (∀ (d : Nat) g, c < d → f.edit d (d + (b - a) : Nat) [] = .ok g → g.buffer ≠ f'.buffer) ∧
      (typed.pieces = f'.pieces ↔ ∀ k, f.tokensBefore a ≤ k → k < f.tokensBefore c →
        f.pieces[k]? = f.pieces[k + (f.tokensBefore b - f.tokensBefore a)]?) ∧
      (typed.pieces = f'.pieces → typed.expanded = f'.expanded) := by
  intro f typed a b
  obtain ⟨a', b', ha, hb, hturns, he⟩ := FoldedText.edit_turns h
  obtain rfl : a = a' := by omega
  obtain rfl : b = b' := by omega
  obtain ⟨c, u, g, hright, hnil, hg, hbuffer, htype, hlast⟩ :=
    s.type_taken (.inr rfl) (by rw [List.length_nil]; omega) hturns he
  obtain rfl : u = [] := List.eq_nil_of_length_eq_zero hnil
  have htyped : typed = g := congrArg (fun typed => typed.1.state) htype
  replace he : f.edit a b [] = .ok f' := he
  replace hg : f.edit c (c + (b - a) : Nat) [] = .ok g := hg
  have hab : a ≤ b := hturns.start_le
  obtain ⟨hle, hcount, hpieces⟩ := FoldedText.edit_places hab he
  obtain ⟨hle', hcount', hpieces'⟩ := FoldedText.edit_places (Nat.le_add_right ..) hg
  -- as many tokens are left, so as many have gone
  have hsame : g.foldCount = f'.foldCount := congrArg Fold.tokenCount hbuffer
  have hgone : f.tokensBefore b = f.tokensBefore a + (f.tokensBefore b - f.tokensBefore a) := by
    omega
  have hgone' : f.tokensBefore (c + (b - a)) =
      f.tokensBefore c + (f.tokensBefore b - f.tokensBefore a) := by
    omega
  rw [htyped]
  refine ⟨c, hright, hg, hbuffer, fun d g' hd hg' hsame => ?_, ?_, fun hpieces => ?_⟩
  · have := hlast d [] g' rfl hg' hsame
    omega
  · rw [hpieces, hpieces', hgone', hgone, Nat.add_sub_cancel_left]
    exact take_append_drop_eq_iff f.pieces (f.tokensBefore_mono hright) _
  · rw [FoldedText.expanded, FoldedText.expanded, hbuffer, hpieces]

/-- Two tokens side by side that stand for the same text. The first is taken out, and the second
goes instead. -/
theorem type_removed_alike :
    let s : Session TextBox := ⟨⟨"[*][*]".toList, ["x".toList, "x".toList], []⟩, none, none⟩
    let f' : FoldedText := ⟨"[*]".toList, ["x".toList], []⟩
    let typed := (s.type f'.buffer).1.state
    s.state.edit 0 3 [] = .ok f' ∧ s.state.edit 3 6 [] = .ok typed ∧ typed.pieces = f'.pieces ∧
      typed.expanded = "x".toList := by
  intro s f' typed
  have h : s.state.edit 0 3 [] = .ok f' := by rfl
  have hsecond : s.state.edit 3 6 [] = .ok f' := by rfl
  obtain ⟨c, -, hedit, -, hlast, hpieces, hexpanded⟩ := s.type_removed (by decide) h
  -- the second token is there to be taken out, and there is nothing behind it
  have hright : 3 ≤ c := Nat.le_of_not_lt fun hc => hlast 3 f' hc hsecond rfl
  obtain ⟨a, b, ha, hb, hturns, -⟩ := FoldedText.edit_turns hedit
  have hstop : b ≤ 6 := hturns.stop_le
  obtain rfl : c = 3 := by omega
  have hsame : typed.pieces = f'.pieces := hpieces.2 fun k _ hk => by
    obtain rfl : k = 0 := Nat.lt_one_iff.1 hk
    rfl
  exact ⟨h, hedit, hsame, hexpanded hsame⟩

/-- Tokens look alike, whatever they stand for. Of two side by side the first is taken out, but it
is the piece of the second that goes. -/
theorem not_type_removed :
    ¬ ∀ (seed : Text) (actions : List (Action TextBox)) (start stop : Int) (f' : FoldedText),
      let s := (new none seed).run actions
      start ≠ stop → s.state.edit start stop [] = .ok f' →
        (s.type f'.buffer).1.state.pieces = f'.pieces := by
  intro h
  have hf := h "ab".toList [.fold (some (0, 1)), .fold (some (3, 4))] 0 3
    ⟨"[*]".toList, ["b".toList], []⟩ (by decide) (by rfl)
  exact absurd hf (by decide)

end Marking.Session

end CitationStudio

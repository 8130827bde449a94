import CitationStudio.Proofs.Lab.Following
import CitationStudio.Proofs.Tagging.Rendered
import CitationStudio.Tagging.Bench

/-! # A lab beside a session

A step of a session publishes what it changes (`Session.Effect`), so a lab that listens has the
session's output for its template and the names of its slots for its arguments, as far as these
are not blank (`InStep`). With a name for every slot the lab shows the parts of the session, each
slot under its stripped name. -/

namespace CitationStudio.Tagging

open Part (namelessAll slotsAll displayAll solidAll)

variable {σ : Type}

namespace Session

theorem Coherent.solid {template : Template} {input : Text} (h : Coherent template input) :
    solidAll template.parts = true := by
  obtain ⟨-, ⟨-, he, -⟩ | ha⟩ := h
  · rw [Template.parts, he]
    rfl
  · exact (ha template.entries (List.mem_cons_self ..)).2

/-- A feed has the session's output and the names of its slots. -/
def Published (s : Session σ) : Prop := s.feed.names = s.template.slots ∧ s.feed.template = s.output

/-- A step keeps this, since the feed is told of every change. -/
theorem Effect.published {s s' : Session σ} (he : Effect s s') (h : s.Published) :
    s'.Published := by
  cases he with
  | nothing htemplate _ hfeed => rwa [Published, output, htemplate, hfeed]
  | settled _ hfeed =>
    rw [Published, hfeed]
    exact ⟨rfl, rfl⟩

variable [Surface σ]

theorem run_published (actions : List (Action σ)) {s : Session σ} (h : s.Published) :
    (s.run actions).Published := by
  induction actions generalizing s with
  | nil => exact h
  | cons a actions ih => exact ih ((act_effect s a).published h)

end Session

namespace Bench

/-- What can happen on a bench: the author does something, or an argument of the lab is selected
or deselected. -/
inductive Action (σ : Type) where
  | edit (a : Tagging.Action σ)
  | toggle (index : Int)

/-- A session that begins on a feed that a lab listens to already. -/
def awaited (surface : Option σ) (feed : Feed) (limit : Option Int) (lab : Lab) : Bench σ :=
  let follower := Lab.Follower.attach lab feed
  let session := Session.new surface follower.feed limit
  ⟨session, follower.lab.catchUp session.feed follower.feed.delivered.length⟩

/-- The lab has the session's names and template, and keeps listening. -/
structure InStep (b : Bench σ) : Prop where
  listens : Lab.listenerName ∈ b.session.feed.turns
  holds : b.lab.Holds b.session.template.slots b.session.output
  coherent : Session.Coherent b.session.template b.session.input

/-- The lab shows the parts `ps`, which are those of the session with its own names. -/
structure Shows (b : Bench σ) (ps : List Part) : Prop where
  shape : namelessAll ps = namelessAll b.session.template.parts
  slots : slotsAll ps = b.lab.names
  read : Compiled.parse b.lab.names b.lab.template = .ok ps
  rendered : Render.format b.lab.template (b.lab.names.map some) = .ok b.lab.result
  result : b.lab.result = displayAll ps

/-- A lab with a name for every slot shows the session's parts. -/
theorem InStep.shows {b : Bench σ} (h : b.InStep) (hr : b.lab.renderer = .bracket)
    (hcount : b.lab.names.length = b.session.template.slots.length) :
    b.Shows (Compiled.relabelAll (namelessAll b.session.template.parts) b.lab.names).1 := by
  have hsolid := h.coherent.solid
  have htemplate : b.lab.template = Part.compiledAll b.session.template.parts := h.holds.template
  have hformat := Render.format_named hsolid hcount
  have hresult : b.lab.result =
      displayAll (Compiled.relabelAll (namelessAll b.session.template.parts) b.lab.names).1 := by
    unfold Lab.result
    split
    · -- a blank template has no parts
      rename_i hblank
      rw [htemplate, Part.isBlank_compiledAll] at hblank
      rw [hblank]
      rfl
    · rw [Lab.render, hr, Renderer.bracket, htemplate, hformat]
  refine ⟨?_, ?_, ?_, ?_, hresult⟩
  · rw [Compiled.namelessAll_relabelAll, Compiled.namelessAll_namelessAll]
  · exact Compiled.slotsAll_relabelAll
      (hcount.trans (Part.slotsAll_nameless_length b.session.template.parts).symm)
  · rw [htemplate, Compiled.parse_compiled hsolid]
    have hself := Compiled.slotNames_self b.lab.names
    rw [hcount] at hself
    exact congrArg (fun names => Except.ok
      (Compiled.relabelAll (namelessAll b.session.template.parts) names).1) hself
  · rw [htemplate, hformat, hresult]

theorem advance_inStep {b : Bench σ} {s : Session σ} (h : b.InStep)
    (he : Session.Effect b.session s) : (b.advance s).InStep := by
  have hcoherent := he.change.coherent h.coherent
  cases he with
  | nothing htemplate _ hfeed =>
    refine ⟨hfeed ▸ h.listens, ?_, hcoherent⟩
    rw [advance, hfeed, Lab.catchUp_delivered, Session.output, htemplate]
    exact h.holds
  | settled _ hfeed =>
    refine ⟨hfeed ▸ h.listens, ?_, hcoherent⟩
    rw [advance, hfeed]
    exact Lab.catchUp_publish_holds b.lab h.listens _ _

variable [Surface σ]

def act (b : Bench σ) : Action σ → Bench σ
  | .edit a => b.advance (b.session.act a)
  | .toggle index =>
    match b.lab.toggle? index with
    | some lab => { b with lab }
    | none => b

def run (b : Bench σ) (actions : List (Action σ)) : Bench σ := actions.foldl act b

/-- How a lab comes to a session: it joins it, or it was there before. -/
inductive Start (lab : Lab) : Bench σ → Prop
  | joined (surface : Option σ) (feed : Feed) (limit : Option Int)
      (before : List (Tagging.Action σ)) :
      Start lab (new ((Session.new surface feed limit).run before) lab)
  | awaited (surface : Option σ) (feed : Feed) (limit : Option Int) :
      Start lab (awaited surface feed limit lab)

theorem Start.renderer {lab : Lab} {b : Bench σ} (h : Start lab b) :
    b.lab.renderer = lab.renderer := by
  cases h with
  | joined => rw [new, Lab.attach_lab, Lab.renderer_follow]
  | awaited => rw [Bench.awaited, Lab.renderer_catchUp, Lab.attach_lab, Lab.renderer_follow]

theorem Start.inStep {lab : Lab} {b : Bench σ} (h : Start lab b) : b.InStep := by
  cases h with
  | joined surface feed limit before =>
    have hpublished := Session.run_published before
      (s := Session.new surface feed limit) ⟨rfl, rfl⟩
    have hcoherent := Session.run_coherent before
      (s := Session.new surface feed limit) (Session.new_coherent limit)
    refine ⟨List.mem_append_right _ (List.mem_singleton_self _), ?_, hcoherent⟩
    rw [new, Lab.attach_lab]
    -- what the lab is told on joining is what was published last
    obtain ⟨hnames, htemplate⟩ := Lab.follow_holds lab
      (((Session.new surface feed limit).run before).feed.notice Lab.listenerName)
    exact ⟨hnames.trans (congrArg Lab.arguments hpublished.1), htemplate.trans hpublished.2⟩
  | awaited surface feed limit =>
    have hturns : Lab.listenerName ∈ (Lab.Follower.attach lab feed).feed.turns :=
      List.mem_append_right _ (List.mem_singleton_self _)
    exact ⟨hturns, Lab.catchUp_publish_holds _ hturns _ _, Session.new_coherent limit⟩

/-- Nothing that happens gives the lab another renderer, or leaves it behind the session. -/
theorem act_inStep {b : Bench σ} (h : b.InStep) (a : Action σ) :
    (b.act a).InStep ∧ (b.act a).lab.renderer = b.lab.renderer := by
  cases a with
  | edit a =>
    exact ⟨advance_inStep h (Session.act_effect b.session a), Lab.renderer_catchUp ..⟩
  | toggle index =>
    unfold act
    dsimp only
    split
    · rename_i lab hlab
      obtain ⟨i, -, rfl⟩ := Option.map_eq_some_iff.1 hlab
      exact ⟨⟨h.listens, ⟨h.holds.names, h.holds.template⟩, h.coherent⟩, rfl⟩
    · exact ⟨h, rfl⟩

theorem run_inStep {b : Bench σ} (h : b.InStep) (actions : List (Action σ)) :
    (b.run actions).InStep ∧ (b.run actions).lab.renderer = b.lab.renderer := by
  induction actions generalizing b with
  | nil => exact ⟨h, rfl⟩
  | cons a actions ih =>
    obtain ⟨hstep, hr⟩ := act_inStep h a
    obtain ⟨hrun, hr'⟩ := ih hstep
    exact ⟨hrun, hr'.trans hr⟩

/-- **A lab has an argument for every slot with a name.** Whatever an author does beside a lab
that listens, the lab's template is the output and its arguments are the names of the slots, in
order and stripped, without the blank ones: one for each slot exactly if no name is blank. In
that case a lab that renders the compiled form shows the session's parts, each slot as its own
argument. -/
theorem run_names_slots {lab : Lab} {b : Bench σ} (h : Start lab b) (actions : List (Action σ)) :
    let c := b.run actions
    let slots := c.session.template.slots
    c.lab.template = c.session.output ∧
      c.lab.names = (slots.filter fun n => !n.isBlank).map Text.strip ∧
      (c.lab.names.length = slots.length ↔ ∀ n ∈ slots, n.isBlank = false) ∧
      ((∀ n ∈ slots, n.isBlank = false) →
        c.lab.names = slots.map Text.strip ∧ (lab.renderer = .bracket → ∃ ps, c.Shows ps)) := by
  intro c slots
  obtain ⟨hin, hr⟩ := run_inStep h.inStep actions
  have hnames : c.lab.names = Lab.arguments slots := hin.holds.names
  refine ⟨hin.holds.template, hnames, ?_, fun hvisible => ?_⟩
  · rw [hnames]
    exact Lab.arguments_length_iff
  · rw [Lab.arguments_eq_map hvisible] at hnames
    refine ⟨hnames, fun hbracket => ⟨_, hin.shows ?_ ?_⟩⟩
    · exact hr.trans (h.renderer.trans hbracket)
    · exact (congrArg List.length hnames).trans (List.length_map ..)

/-- The name of a slot that was cut out with the blank before it. -/
theorem run_names_slots_stripped :
    let lab := Lab.new .bracket 8 .refuse 8
    let b : Bench TextBox := new (Session.new none .empty none) lab
    let c := b.run [.edit (.apply ['x', ' ', 'y']),
      .edit (.convert "variable".toList (some (1, 3)))]
    Start lab b ∧ c.session.template.slots = [[' ', 'y']] ∧
      (∀ n ∈ c.session.template.slots, n.isBlank = false) ∧ c.lab.names = [['y']] ∧
      c.lab.result = ['x', 'y'] ∧ ∃ ps, c.Shows ps := by
  intro lab b c
  have hstart : Start lab b := .joined none .empty none []
  have hslots : c.session.template.slots = [[' ', 'y']] := by decide
  have hvisible : ∀ n ∈ c.session.template.slots, n.isBlank = false := by
    rw [hslots]
    decide
  obtain ⟨-, -, -, hnamed⟩ := run_names_slots hstart [.edit (.apply ['x', ' ', 'y']),
    .edit (.convert "variable".toList (some (1, 3)))]
  obtain ⟨hnames, hshown⟩ := hnamed hvisible
  exact ⟨hstart, hslots, hvisible, hnames.trans (by rw [hslots]; decide), by decide +kernel,
    hshown rfl⟩

/-- A slot may have a blank name, and the lab has no argument for it. -/
theorem not_run_names_every_slot :
    ¬ ∀ (lab : Lab) (b : Bench TextBox) (actions : List (Action TextBox)), Start lab b →
      (b.run actions).lab.names = (b.run actions).session.template.slots.map Text.strip := by
  intro h
  have hload := h (Lab.new .bracket 8 .refuse 8) _ [.edit (.load ['[', ']'])]
    (.joined none .empty none [])
  exact absurd hload (by decide +kernel)

end Bench

end CitationStudio.Tagging

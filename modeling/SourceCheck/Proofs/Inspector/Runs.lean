import Mathlib.Data.List.Induction
import SourceCheck.Inspector.Session

/-!
# Inspector — what can happen to an inspector

An inspector is given keys and drawn on screens of any size, in any order (`Act`).

* `Change i j`: what one act can make of an inspector (`act_change`).  It moves the line or the
  token, goes to the error, settles the scroll offsets, or leaves all of these alone.
* `after_induction`: what a fresh inspector has, and every change keeps, an inspector always has.
* `Session.exists_after`: the inspector of a session is a fresh one after some acts.
-/

namespace SourceCheck

namespace Inspector

/-- A key is pressed, or the inspector is drawn on a screen of some height; the width plays no part
in what drawing changes. -/
inductive Act where
  | press (k : Key)
  | draw (height : Nat)

def act (i : Inspector) : Act → Inspector
  | .press k => i.press k
  | .draw height => i.settle height

/-- The inspector after some acts, the first of them first. -/
def after (i : Inspector) (acts : List Act) : Inspector :=
  acts.foldl act i

theorem after_append (i : Inspector) (acts more : List Act) :
    i.after (acts ++ more) = (i.after acts).after more :=
  List.foldl_append

/-! ### One act -/

/-- What one act can make of an inspector. -/
inductive Change (i : Inspector) : Inspector → Prop where
  | stay (focus : Focus) (quit : Bool) : Change i { i with focus := focus, quit := quit }
  | line (d : Direction) : Change i (i.moveLine d)
  | token (d : Direction) : Change i (i.moveToken d)
  | error : Change i i.jumpToError
  | settle (height : Nat) : Change i (i.settle height)

theorem move_change (i : Inspector) (d : Direction) : i.Change (i.move d) := by
  unfold move
  split
  · exact .line d
  · exact .token d

theorem act_change (i : Inspector) (a : Act) : i.Change (i.act a) := by
  cases a with
  | draw height => exact .settle height
  | press k =>
      simp only [act]
      unfold press
      split
      · exact move_change i .up
      · exact move_change i .down
      · exact .stay i.focus.other i.quit
      · exact .stay i.focus true
      · exact .stay i.focus true
      · exact .stay i.focus true
      · exact .error
      · exact .stay i.focus i.quit
      · exact .stay i.focus i.quit

/-! ### Moves, field by field -/

section

variable (i : Inspector) (d : Direction)

@[simp] theorem moveToken_token :
    (i.moveToken d).token = min (d.step i.token) (i.inspection.tokens.length - 1) := by
  simp only [moveToken]
  split <;> rfl

/-- The line goes along with the token. -/
theorem moveToken_line :
    (i.moveToken d).line =
      (i.inspection.tokens[(i.moveToken d).token]?).elim i.line (·.location.line) := by
  rw [moveToken_token]
  simp only [moveToken]
  split <;> simp_all

/-- Only these two fields change. -/
theorem moveToken_eq :
    i.moveToken d = { i with token := (i.moveToken d).token, line := (i.moveToken d).line } := by
  simp only [moveToken]
  split <;> rfl

end

section

variable {i : Inspector}

theorem jumpToError_of_none (h : i.inspection.errorLocation? = none) : i.jumpToError = i := by
  simp [jumpToError, h]

theorem jumpToError_of_some {p : Position} (h : i.inspection.errorLocation? = some p) :
    i.jumpToError = { i with
      line := p.line
      token := (lastIdx? (fun t => t.location ≤ p) i.inspection.tokens).getD 0 } := by
  simp [jumpToError, h]

end

/-! ### Any acts -/

/-- What every change keeps, any acts keep. -/
theorem after_induction {P : Inspector → Prop} {i : Inspector} (hi : P i)
    (hchange : ∀ {i j}, Change i j → P i → P j) (acts : List Act) : P (i.after acts) := by
  induction acts generalizing i with
  | nil => exact hi
  | cons a acts ih => exact ih (hchange (act_change i a) hi)

/-- An inspector shows one text and what there is to show about it. -/
def About (source : String) (i : Inspector) : Prop :=
  i.source = source ∧ i.inspection = .ofString source

theorem About.change {source : String} {i j : Inspector} (h : Change i j) (hi : About source i) :
    About source j := by
  cases h with
  | stay focus quit => exact hi
  | line d => exact hi
  | token d =>
      rw [moveToken_eq]
      exact hi
  | settle height => exact hi
  | error =>
      cases he : i.inspection.errorLocation? with
      | none => rwa [jumpToError_of_none he]
      | some p =>
          rw [jumpToError_of_some he]
          exact hi

/-- An inspector that has not yet gone to the error. -/
def start (source : String) : Inspector where
  source := source
  inspection := .ofString source

theorem ofString_eq (source : String) : ofString source = (start source).jumpToError := rfl

theorem about_start (source : String) : About source (start source) :=
  ⟨rfl, rfl⟩

theorem about_after (source : String) (acts : List Act) :
    About source ((ofString source).after acts) :=
  after_induction (About.change .error (about_start source)) About.change acts

end Inspector

/-! ### Sessions -/

/-- Drawing again is drawing or nothing. -/
theorem Session.exists_redraw (s : Session) :
    ∃ acts, s.redraw.inspector = s.inspector.after acts := by
  unfold redraw
  split
  · exact ⟨[], rfl⟩
  · exact ⟨[.draw s.size.height], rfl⟩

theorem Session.exists_step (s : Session) (input : Input) :
    ∃ acts, (s.step input).inspector = s.inspector.after acts := by
  cases input with
  | press k =>
      obtain ⟨acts, h⟩ := exists_redraw { s.draw with inspector := s.draw.inspector.press k }
      exact ⟨.draw s.size.height :: .press k :: acts, h⟩
  | idle =>
      obtain ⟨acts, h⟩ := exists_redraw s.draw
      exact ⟨.draw s.size.height :: acts, h⟩
  | resize size => exact ⟨[.draw size.height], rfl⟩

/-- **Sessions.**  The inspector of a session is a fresh one after some acts. -/
theorem Session.exists_after (source : String) (size : Screen.Size) (inputs : List Input) :
    ∃ acts, (inputs.foldl step (ofString source size)).inspector =
      (Inspector.ofString source).after acts := by
  induction inputs using List.reverseRecOn with
  | nil => exact ⟨[], rfl⟩
  | append_singleton inputs input ih =>
      obtain ⟨acts, h⟩ := ih
      obtain ⟨more, h'⟩ := exists_step (inputs.foldl step (ofString source size)) input
      refine ⟨acts ++ more, ?_⟩
      rw [List.foldl_append, List.foldl_cons, List.foldl_nil, h', h, Inspector.after_append]

end SourceCheck

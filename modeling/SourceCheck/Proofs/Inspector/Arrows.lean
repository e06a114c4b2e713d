import SourceCheck.Proofs.Inspector.Bounds

/-!
# Inspector — what the arrow keys do

An arrow key moves by one, in the pane that has the focus, and stops at the ends.

* `StepsUp`, `StepsDown`: what it is to move by one.
* `InBounds.stepsDown_moveLine`: from a line of the text, a key goes to the next one.
* `InBounds.moveLine_down_of_pastEnd`: but an inspector can stand one line past the text, at the end
  of a string or a comment that is never closed, and from there it only goes back, even if it is
  told to go on.
* `arrow_keys_step`: all that the two keys do, after any keys and drawings.
-/

namespace SourceCheck

/-- One step up to a smaller number, or none from the first one. -/
def StepsUp (first old new : Nat) : Prop :=
  first < old ∧ new + 1 = old ∨ old = first ∧ new = old

/-- One step down to a greater number, or none from the last one. -/
def StepsDown (last old new : Nat) : Prop :=
  old < last ∧ new = old + 1 ∨ old = last ∧ new = old

/-- A text that a line feed ends has lines. -/
theorem PastEnd.one_le_lineCount {source : String} {line : Nat} (h : PastEnd source line) :
    1 ≤ lineCount source := by
  obtain ⟨-, hlast, -⟩ := h
  refine Nat.one_le_iff_ne_zero.mpr fun hzero => ?_
  have hnil := Text.eq_nil_of_lines (List.eq_nil_of_length_eq_zero hzero)
  rw [hnil] at hlast
  cases hlast

namespace Inspector

variable {source : String} {i : Inspector}

/-! ### Lines -/

section

variable (h : i.InBounds source)
include h

theorem InBounds.line_moveLine (d : Direction) :
    (i.moveLine d).line = max 1 (min (d.step i.line) (max 1 (lineCount source))) := by
  rw [lineCount, ← h.about.1]
  rfl

/-- **Up.**  One line past the text is one step from its last line too. -/
theorem InBounds.stepsUp_moveLine : StepsUp 1 i.line (i.moveLine .up).line := by
  have hone := h.stands.one_le_line
  have hle : i.line ≤ max 1 (lineCount source) + 1 := by
    rcases h.stands.line_le with hle | ⟨hpast, -⟩ <;> omega
  rw [StepsUp, h.line_moveLine, Direction.step]
  omega

/-- **Down**, from a line of the text. -/
theorem InBounds.stepsDown_moveLine (hin : ¬ PastEnd source i.line) :
    StepsDown (max 1 (lineCount source)) i.line (i.moveLine .down).line := by
  have hone := h.stands.one_le_line
  have hle := h.stands.line_le.resolve_right hin
  rw [StepsDown, h.line_moveLine, Direction.step]
  omega

/-- **Down, past the end.**  The step is cut off at the last line, which is above. -/
theorem InBounds.moveLine_down_of_pastEnd (hpast : PastEnd source i.line) :
    (i.moveLine .down).line + 1 = i.line := by
  have hone := hpast.one_le_lineCount
  have hline := hpast.1
  rw [h.line_moveLine, Direction.step]
  omega

/-! ### Tokens -/

theorem InBounds.stepsUp_moveToken : StepsUp 0 i.token (i.moveToken .up).token := by
  have hselects := h.stands.selects
  rw [Selects] at hselects
  rw [StepsUp, moveToken_token, h.about.2, Direction.step]
  omega

theorem InBounds.stepsDown_moveToken :
    StepsDown ((Inspection.ofString source).tokens.length - 1) i.token
      (i.moveToken .down).token := by
  have hselects := h.stands.selects
  rw [Selects] at hselects
  rw [StepsDown, moveToken_token, h.about.2, Direction.step]
  omega

/-- The current line is that of the token gone to. -/
theorem InBounds.moveToken_follows (hne : (Inspection.ofString source).tokens ≠ [])
    (d : Direction) :
    ∃ t, (Inspection.ofString source).tokens[(i.moveToken d).token]? = some t ∧
      (i.moveToken d).line = t.location.line := by
  have hlt : (i.moveToken d).token < (Inspection.ofString source).tokens.length := by
    have hpos := List.length_pos_of_ne_nil hne
    rw [moveToken_token, h.about.2]
    omega
  refine ⟨_, List.getElem?_eq_getElem hlt, ?_⟩
  rw [moveToken_line, h.about.2, List.getElem?_eq_getElem hlt]
  rfl

end

/-! ### Keys -/

theorem move_of_source (hf : i.focus = .source) (d : Direction) : i.move d = i.moveLine d := by
  rw [move, hf]

theorem move_of_tokens (hf : i.focus = .tokens) (d : Direction) : i.move d = i.moveToken d := by
  rw [move, hf]

end Inspector

/-- **The arrow keys**, after any keys and drawings at any sizes.

* In the source pane, a key goes one line up or down, or stays at the first or the last one, and the
  selected token stays.  There is one exception: past the end of a string or a comment that is never
  closed, the key to go down goes up.
* In the token pane, a key goes one token up or down, or stays at the first or the last one, and if
  there are tokens, the current line is then that of the selected one. -/
theorem arrow_keys_step (source : String) (acts : List Inspector.Act) :
    let n := Inspection.ofString source
    let lines := (Text.lines source.toList).length
    let i := (Inspector.ofString source).after acts
    (i.focus = .source →
      ((i.press .up).token = i.token ∧ (i.press .down).token = i.token) ∧
      StepsUp 1 i.line (i.press .up).line ∧
      (¬ PastEnd source i.line → StepsDown (max 1 lines) i.line (i.press .down).line) ∧
      (PastEnd source i.line → (i.press .down).line + 1 = i.line)) ∧
    (i.focus = .tokens →
      StepsUp 0 i.token (i.press .up).token ∧
      StepsDown (n.tokens.length - 1) i.token (i.press .down).token ∧
      (n.tokens ≠ [] → ∀ k, k = .up ∨ k = .down →
        ∃ t, n.tokens[(i.press k).token]? = some t ∧ (i.press k).line = t.location.line)) := by
  intro n lines i
  have h : i.InBounds source := Inspector.inBounds_after source acts
  have hkey : i.press .up = i.move .up ∧ i.press .down = i.move .down := ⟨rfl, rfl⟩
  refine ⟨fun hf => ?_, fun hf => ?_⟩
  · rw [hkey.1, hkey.2, Inspector.move_of_source hf, Inspector.move_of_source hf]
    exact ⟨⟨rfl, rfl⟩, h.stepsUp_moveLine, h.stepsDown_moveLine, h.moveLine_down_of_pastEnd⟩
  · rw [hkey.1, hkey.2, Inspector.move_of_tokens hf, Inspector.move_of_tokens hf]
    refine ⟨h.stepsUp_moveToken, h.stepsDown_moveToken, fun hne k hk => ?_⟩
    rcases hk with rfl | rfl
    · rw [hkey.1, Inspector.move_of_tokens hf]
      exact h.moveToken_follows hne .up
    · rw [hkey.2, Inspector.move_of_tokens hf]
      exact h.moveToken_follows hne .down

/-- From the first of two lines to the second, by line and by token. -/
theorem arrow_keys_step_down :
    (let i := Inspector.ofString "a\nb";
      i.focus = .source ∧ i.line = 1 ∧ (i.press .down).line = 2 ∧ (i.press .down).token = i.token) ∧
    (let i := (Inspector.ofString "a\nb").after [.press .tab];
      i.focus = .tokens ∧ i.line = 1 ∧ (i.press .down).token = 1 ∧ (i.press .down).line = 2) := by
  have hlines : (Text.lines "a\nb".toList).length = 2 := by cbv
  have htokens : (Inspection.ofString "a\nb").tokens =
      [⟨.identifier, "a", ⟨1, 1⟩⟩, ⟨.identifier, "b", ⟨2, 1⟩⟩] := by cbv
  refine ⟨⟨by cbv, by cbv, ?_⟩, ⟨by cbv, by cbv, ?_⟩⟩
  · have hline : (Inspector.ofString "a\nb").line = 1 := by cbv
    obtain ⟨⟨-, htoken⟩, -, hdown, -⟩ := (arrow_keys_step "a\nb" []).1 (by cbv)
    have hin : ¬ PastEnd "a\nb" (Inspector.ofString "a\nb").line := by
      rintro ⟨hpast, -⟩
      rw [lineCount, hlines, hline] at hpast
      cases hpast
    rcases hdown hin with ⟨-, hnext⟩ | ⟨hlast, -⟩
    · exact ⟨hnext.trans (by rw [Inspector.after, List.foldl_nil, hline]), htoken⟩
    · rw [hlines] at hlast
      cases hline.symm.trans hlast
  · have htoken : ((Inspector.ofString "a\nb").after [.press .tab]).token = 0 := by cbv
    obtain ⟨-, hdown, hfollows⟩ := (arrow_keys_step "a\nb" [.press .tab]).2 (by cbv)
    rw [htokens] at hdown hfollows
    obtain ⟨t, hget, hline⟩ := hfollows (List.cons_ne_nil _ _) .down (Or.inr rfl)
    rcases hdown with ⟨-, hnext⟩ | ⟨hlast, -⟩
    · rw [htoken] at hnext
      rw [hnext] at hget
      obtain rfl := Option.some.inj hget
      exact ⟨hnext, hline⟩
    · cases htoken.symm.trans hlast

/-- A string that is open at the end of its line: the inspector stands past the only line, and the
key to go down takes it up to that line. -/
theorem arrow_down_goes_up :
    let s := Session.ofString "\x22\n" (.limited 40 6)
    s.inspector.focus = .source ∧ s.inspector.line = 2 ∧
      (s.step (.press .down)).inspector.line = 1 := by
  cbv

end SourceCheck

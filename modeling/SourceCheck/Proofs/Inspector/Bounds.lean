import SourceCheck.Proofs.Inspector.AtError

/-!
# Inspector — the bounds of an inspector

* `Stands`: the lines and the tokens that an inspector can stand at.  The line is one of the text,
  or the first of a text without lines, or one further, at the end of a string or a comment that is
  never closed, if a line feed ends the text (`PastEnd`).
* `error_line`: an error is on a line of the text or past its end, because tokens and flaws are at
  characters of the text or at its end (`stream_ordered`).
* `InBounds.change`: what every act keeps, and with it `inspector_in_bounds`.
-/

namespace SourceCheck

open Position (origin)

/-- The number of lines of a text. -/
def lineCount (source : String) : Nat :=
  (Text.lines source.toList).length

/-- The number of entries in the list of its tokens. -/
def entryCount (source : String) : Nat :=
  (Inspection.ofString source).tokens.length +
    if (Inspection.ofString source).stoppedEarly then 1 else 0

/-- The line behind the last one of a text, if the error there is the end of a string or a comment
that is never closed, and a line feed ends the text. -/
def PastEnd (source : String) (line : Nat) : Prop :=
  line = lineCount source + 1 ∧ source.toList.getLast? = some '\n' ∧
    ∃ e, check source = .error (.lexical e) ∧
      (e.flaw = .unterminatedString ∨ e.flaw = .unterminatedComment) ∧ e.location.line = line

theorem Position.Within.one_le_line {before text : List Char} {p : Position}
    (h : Within before text p) : 1 ≤ p.line := by
  obtain ⟨a, c, b, -, rfl⟩ := h
  exact (one_le_after_origin _).1

/-- **Where an error can be.** -/
theorem error_line {source : String} {p : Position}
    (hp : (Inspection.ofString source).errorLocation? = some p) :
    1 ≤ p.line ∧ (p.line ≤ lineCount source ∨ PastEnd source p.line) := by
  have hd := check_decided source
  obtain ⟨hwithin, -, hfault⟩ := ordered_ofString source
  simp only [Inspection.ofString, Inspection.errorLocation?] at hp
  generalize hv : check source = verdict at hp hd
  cases hd with
  | accepted h => cases hp
  | ended h => cases hp
  | @refused x t front back h =>
      obtain rfl := Option.some.inj hp
      have hw := hwithin t (by simp [h])
      exact ⟨hw.one_le_line, Or.inl hw.line_le⟩
  | @flaw e h =>
      obtain rfl := Option.some.inj hp
      rcases (hfault e h).1 with hw | ⟨hf, hne, hl⟩
      · exact ⟨hw.one_le_line, Or.inl hw.line_le⟩
      · rw [List.nil_append] at hl
        refine ⟨hl ▸ (Position.one_le_after_origin _).1, ?_⟩
        rcases Position.line_after_cases hne with hin | ⟨hpast, hlast⟩
        · exact Or.inl (hl ▸ hin)
        · exact Or.inr ⟨hl ▸ hpast, hlast, e, hv, hf, rfl⟩

/-- An index into a list of some length; it is zero if the list is empty. -/
def Selects (length index : Nat) : Prop :=
  index < length ∨ index = 0 ∧ length = 0

theorem selects_min (length index : Nat) : Selects length (min index (length - 1)) := by
  unfold Selects
  omega

theorem lt_of_lastIdx? {α : Type} {p : α → Bool} {as : List α} {k : Nat}
    (h : lastIdx? p as = some k) : k < as.length := by
  induction as generalizing k with
  | nil => cases h
  | cons a as ih =>
      rw [lastIdx?] at h
      split at h
      · next j hj =>
          obtain rfl := Option.some.inj h
          exact Nat.succ_lt_succ (ih hj)
      · split at h <;> cases h
        exact Nat.zero_lt_succ _

theorem selects_lastIdx? {α : Type} (p : α → Bool) (as : List α) :
    Selects as.length ((lastIdx? p as).getD 0) := by
  cases h : lastIdx? p as with
  | none => exact selects_min _ 0
  | some k => exact Or.inl (lt_of_lastIdx? h)

/-- A line and a token that an inspector about a text can stand at. -/
structure Stands (source : String) (line token : Nat) : Prop where
  one_le_line : 1 ≤ line
  line_le : line ≤ max 1 (lineCount source) ∨ PastEnd source line
  selects : Selects (Inspection.ofString source).tokens.length token

theorem max_visibleRows (height : Nat) : max (visibleRows height) 1 = visibleRows height :=
  max_eq_left (le_max_right _ _)

theorem reveal_visibleRows_le (offset row height total : Nat) :
    reveal offset row (visibleRows height) total ≤ total - visibleRows height := by
  have h := reveal_le offset row (visibleRows height) total
  rwa [max_visibleRows] at h

theorem TokenPane.size_of_isEmpty {pane : TokenPane} (h : pane.isEmpty = true) :
    pane.size = 0 := by
  simp only [isEmpty, Bool.and_eq_true, List.isEmpty_iff, Bool.not_eq_true'] at h
  simp [size, h]

namespace Inspector

/-- The bounds of an inspector about a text. -/
structure InBounds (source : String) (i : Inspector) : Prop where
  about : i.About source
  stands : Stands source i.line i.token
  sourceScroll : i.sourceScroll ≤ lineCount source - 1
  tokenScroll : i.tokenScroll ≤ entryCount source - 1

section

variable {source : String} {i : Inspector}

theorem About.size_tokenPane (h : i.About source) : i.tokenPane.size = entryCount source := by
  rw [TokenPane.size, tokenPane, h.2, entryCount]

theorem About.settle_sourceScroll (h : i.About source) (height : Nat) :
    (i.settle height).sourceScroll =
      reveal i.sourceScroll (i.line - 1) (visibleRows (height - 1)) (lineCount source) := by
  rw [lineCount, ← h.1]
  rfl

theorem About.settle_tokenScroll (h : i.About source) (height : Nat) :
    (i.settle height).tokenScroll =
      if i.tokenPane.isEmpty then i.tokenScroll
      else reveal i.tokenScroll i.token (visibleRows (height - 1)) (entryCount source) := by
  rw [← h.size_tokenPane]
  rfl

end

namespace InBounds

variable {source : String} {i : Inspector}

theorem start (source : String) : (start source).InBounds source where
  about := about_start source
  stands := ⟨le_rfl, Or.inl (le_max_left _ _), selects_min _ 0⟩
  sourceScroll := Nat.zero_le _
  tokenScroll := Nat.zero_le _

theorem moveLine (h : i.InBounds source) (d : Direction) : (i.moveLine d).InBounds source := by
  have hlast : i.lastLine = max 1 (lineCount source) := by rw [lastLine, h.about.1, lineCount]
  refine ⟨h.about, ⟨le_max_left _ _, Or.inl ?_, h.stands.selects⟩, h.sourceScroll, h.tokenScroll⟩
  rw [← hlast]
  exact max_le (le_max_left _ _) (min_le_right _ _)

theorem moveToken (h : i.InBounds source) (d : Direction) : (i.moveToken d).InBounds source := by
  have hstands : Stands source (i.moveToken d).line (i.moveToken d).token := by
    rw [moveToken_line, moveToken_token, h.about.2]
    have htoken := selects_min (Inspection.ofString source).tokens.length (d.step i.token)
    generalize min (d.step i.token) _ = token at htoken ⊢
    cases hget : (Inspection.ofString source).tokens[token]? with
    | none => exact ⟨h.stands.one_le_line, h.stands.line_le, htoken⟩
    | some t =>
        have hw := (ordered_ofString source).within t (List.mem_of_getElem? hget)
        exact ⟨hw.one_le_line, Or.inl (hw.line_le.trans (le_max_right _ _)), htoken⟩
  refine ⟨h.about.change (.token d), hstands, ?_, ?_⟩
  · rw [moveToken_eq]
    exact h.sourceScroll
  · rw [moveToken_eq]
    exact h.tokenScroll

theorem jumpToError (h : i.InBounds source) : i.jumpToError.InBounds source := by
  cases he : i.inspection.errorLocation? with
  | none => rwa [jumpToError_of_none he]
  | some p =>
      obtain ⟨hone, hline⟩ := error_line (h.about.2 ▸ he)
      have hstands : Stands source i.jumpToError.line i.jumpToError.token := by
        rw [jumpToError_of_some he, h.about.2]
        exact ⟨hone, hline.imp_left fun hl => hl.trans (le_max_right _ _), selects_lastIdx? _ _⟩
      rw [jumpToError_of_some he] at hstands ⊢
      exact ⟨h.about, hstands, h.sourceScroll, h.tokenScroll⟩

/-- Drawing scrolls each pane so that it is filled, as far as there are rows. -/
theorem settle_scroll (h : i.InBounds source) (height : Nat) :
    (i.settle height).sourceScroll ≤ lineCount source - visibleRows (height - 1) ∧
      (i.settle height).tokenScroll ≤ entryCount source - visibleRows (height - 1) := by
  rw [h.about.settle_sourceScroll, h.about.settle_tokenScroll]
  refine ⟨reveal_visibleRows_le _ _ _ _, ?_⟩
  split
  · next he =>
      -- an empty pane keeps its offset, which was zero all along
      have hscroll := h.tokenScroll
      rw [← h.about.size_tokenPane, TokenPane.size_of_isEmpty he] at hscroll ⊢
      omega
  · exact reveal_visibleRows_le _ _ _ _

theorem settle (h : i.InBounds source) (height : Nat) : (i.settle height).InBounds source := by
  obtain ⟨hs, ht⟩ := h.settle_scroll height
  have hrows : 1 ≤ visibleRows (height - 1) := le_max_right _ _
  exact ⟨h.about, h.stands, by omega, by omega⟩

/-- **Every act keeps the bounds.** -/
theorem change {j : Inspector} (hc : Change i j) (h : i.InBounds source) : j.InBounds source := by
  cases hc with
  | stay focus quit => exact ⟨h.about, h.stands, h.sourceScroll, h.tokenScroll⟩
  | line d => exact h.moveLine d
  | token d => exact h.moveToken d
  | error => exact h.jumpToError
  | settle height => exact h.settle height

end InBounds

theorem inBounds_after (source : String) (acts : List Act) :
    ((ofString source).after acts).InBounds source :=
  after_induction (InBounds.start source).jumpToError InBounds.change acts

end Inspector

/-- **The bounds of an inspector**, after any keys and drawings at any sizes.

* The selected token is one of the tokens, if there are any.
* The current line is one of the text, or the first of a text without lines, or one line further
  past the end of a string or a comment that is never closed.
* The scroll offsets are those of a row, and right behind a drawing those of a window that is filled
  as far as there are rows. -/
theorem inspector_in_bounds (source : String) (acts : List Inspector.Act) (height : Nat) :
    let n := Inspection.ofString source
    let lines := (Text.lines source.toList).length
    let entries := n.tokens.length + if n.stoppedEarly then 1 else 0
    let i := (Inspector.ofString source).after acts
    (i.token < n.tokens.length ∨ i.token = 0 ∧ n.tokens.length = 0) ∧
      1 ≤ i.line ∧
      (i.line ≤ max 1 lines ∨
        i.line = lines + 1 ∧ source.toList.getLast? = some '\n' ∧
          ∃ e, n.verdict = .error (.lexical e) ∧
            (e.flaw = .unterminatedString ∨ e.flaw = .unterminatedComment) ∧
            e.location.line = i.line) ∧
      i.sourceScroll ≤ lines - 1 ∧ i.tokenScroll ≤ entries - 1 ∧
      (i.settle height).sourceScroll ≤ lines - visibleRows (height - 1) ∧
      (i.settle height).tokenScroll ≤ entries - visibleRows (height - 1) := by
  intro n lines entries i
  have h : i.InBounds source := Inspector.inBounds_after source acts
  exact ⟨h.stands.selects, h.stands.one_le_line, h.stands.line_le, h.sourceScroll, h.tokenScroll,
    h.settle_scroll height⟩

/-- A string that is open at the end of its line. -/
example : (Inspector.ofString "\x22\n").line = 2 ∧ lineCount "\x22\n" = 1 := by cbv

end SourceCheck

import SourceCheck.Proofs.Inspector.CurrentLine
import SourceCheck.Proofs.Inspector.TokenRows

/-!
# Inspector — the selected token is on the screen

The token pane lists one entry a row, so unlike the source pane it shows the rows it scrolls to.

* `style_eq_selection_iff`: of all entries, only that of the selected token has its style.
* `getElem?_visible`, `length_visible`: the rows shown are consecutive entries, as many as fit.
* `drawsToken_visible`, `on_visible`: the rows show their tokens, and only the cells of the selected
  one have the look of the selection.
* `Inspector.getElem?_picture`: they are what is inside the border of the pane, from the top on.
* `InBounds.settle_selects`: drawing moves the selected token into the window; the last entry, that
  the scan stopped, counts as one to be shown but is never the one selected.
* `selected_token_shown`: so it is after any keys and drawings.
-/

namespace SourceCheck

open Screen (Cell inCells)

namespace TokenPane

variable {pane : TokenPane}

/-! ### Entries -/

theorem getElem?_entries_token {k : Nat} {t : Token} (h : pane.tokens[k]? = some t) :
    pane.entries[k]? = some (pane.tokenEntry k t) := by
  obtain ⟨hlt, -⟩ := List.getElem?_eq_some_iff.mp h
  rw [entries, List.getElem?_append_left (by rwa [List.length_mapIdx]), List.getElem?_mapIdx, h,
    Option.map_some]

theorem tokenEntry_selected (pane : TokenPane) (t : Token) :
    pane.tokenEntry pane.selected t = ⟨tokenLine t, selection⟩ := by
  rw [tokenEntry, if_pos rfl]

/-- Behind the tokens there is no entry but the one that says why the list ends. -/
theorem eq_stoppedEntry {k : Nat} {e : Entry} (hk : pane.tokens.length ≤ k)
    (h : pane.entries[k]? = some e) : e = stoppedEntry := by
  rw [entries, List.getElem?_append_right (by rwa [List.length_mapIdx])] at h
  split at h
  · exact List.mem_singleton.mp (List.mem_of_getElem? h)
  · cases h

/-- **One entry has the style of the selection.** -/
theorem style_eq_selection_iff (hs : pane.selected < pane.tokens.length) {k : Nat} {e : Entry}
    (h : pane.entries[k]? = some e) : e.style = selection ↔ k = pane.selected := by
  by_cases hk : k < pane.tokens.length
  · rw [getElem?_entries_token (List.getElem?_eq_getElem hk)] at h
    obtain rfl := Option.some.inj h
    rw [tokenEntry]
    split
    · next heq => simp [heq]
    · next hne => simp only [hne, iff_false]; decide
  · obtain rfl := eq_stoppedEntry (Nat.not_lt.mp hk) h
    have hne : k ≠ pane.selected := fun heq => hk (heq ▸ hs)
    simp only [hne, iff_false]
    decide

theorem map_line_entries (pane : TokenPane) :
    pane.entries.map Entry.line =
      pane.tokens.map tokenLine ++ if pane.stoppedEarly then [stoppedEntry.line] else [] := by
  have htokens :
      (pane.tokens.mapIdx pane.tokenEntry).map Entry.line = pane.tokens.map tokenLine := by
    refine List.ext_getElem? fun k => ?_
    rw [List.getElem?_map, List.getElem?_mapIdx, List.getElem?_map, Option.map_map]
    rfl
  rw [entries, List.map_append, htokens]
  split <;> rfl

/-! ### What is shown -/

variable {height offset : Nat}

theorem getElem?_visible {k : Nat} (h : k < visibleRows height) :
    (pane.visible height offset)[k]? = pane.entries[offset + k]? := by
  rw [visible, List.getElem?_take_of_lt h, List.getElem?_drop]

theorem getElem?_entries_of_visible {k : Nat} {e : Entry}
    (h : (pane.visible height offset)[k]? = some e) : pane.entries[offset + k]? = some e := by
  obtain ⟨hlt, -⟩ := List.getElem?_eq_some_iff.mp h
  rwa [getElem?_visible (hlt.trans_le (List.length_take_le _ _))] at h

/-- **In a window that reaches the selected token**, its row is as far down as it is behind the
first one. -/
theorem getElem?_visible_selected {t : Token} (h : pane.tokens[pane.selected]? = some t)
    (hle : offset ≤ pane.selected) (hreach : pane.selected < offset + visibleRows height) :
    (pane.visible height offset)[pane.selected - offset]? = some ⟨tokenLine t, selection⟩ := by
  rw [getElem?_visible (by omega), Nat.add_sub_cancel' hle, getElem?_entries_token h,
    tokenEntry_selected]

theorem style_visible_iff (hs : pane.selected < pane.tokens.length) (hle : offset ≤ pane.selected)
    {k : Nat} {e : Entry} (h : (pane.visible height offset)[k]? = some e) :
    e.style = selection ↔ k = pane.selected - offset := by
  rw [style_eq_selection_iff hs (getElem?_entries_of_visible h)]
  omega

/-- **The row of a token draws it**, on the look of the selection if it is the selected one. -/
theorem drawsToken_visible (hl : ∀ t ∈ pane.tokens, Scan.Lexeme t.kind t.lexeme.toList)
    (hle : offset ≤ pane.selected) {k : Nat} {e : Entry}
    (h : (pane.visible height offset)[k]? = some e) {t : Token}
    (ht : pane.tokens[offset + k]? = some t) (width : Nat) :
    DrawsToken t (if k = pane.selected - offset then selection.apply {} else {}) width
      (e.row width) := by
  have hlexeme := hl t (List.mem_of_getElem? ht)
  have he := getElem?_entries_of_visible h
  rw [getElem?_entries_token ht, tokenEntry] at he
  obtain rfl := Option.some.inj he
  split
  · next hk =>
      rw [if_pos (by omega)]
      exact drawsToken_row selection width hlexeme
  · next hk =>
      rw [if_neg (by omega)]
      exact drawsToken_row .plain width hlexeme

/-- **No other row** has a cell with the look of the selection. -/
theorem on_visible (hl : ∀ t ∈ pane.tokens, Scan.Lexeme t.kind t.lexeme.toList)
    (hle : offset ≤ pane.selected) {k : Nat} {e : Entry}
    (h : (pane.visible height offset)[k]? = some e) (hk : k ≠ pane.selected - offset)
    {width : Nat} {c : Cell} (hc : c ∈ e.row width) : c.On {} := by
  rcases Nat.lt_or_ge (offset + k) pane.tokens.length with hlt | hge
  · have hdraws := drawsToken_visible hl hle h (List.getElem?_eq_getElem hlt) width
    rw [if_neg hk] at hdraws
    exact hdraws.on_of_bare hc
  · rw [eq_stoppedEntry hge (getElem?_entries_of_visible h)] at hc
    exact on_of_mem_row_stoppedEntry hc

theorem map_line_visible :
    (pane.visible height offset).map Entry.line =
      ((pane.tokens.map tokenLine ++
        if pane.stoppedEarly then [stoppedEntry.line] else []).drop offset).take
          (visibleRows height) := by
  rw [visible, List.map_take, List.map_drop, map_line_entries]

/-- A window that does not reach past the end is filled, as far as there are entries. -/
theorem length_visible (h : offset ≤ pane.size - visibleRows height) :
    (pane.visible height offset).length = min (visibleRows height) pane.size := by
  rw [visible, List.length_take, List.length_drop, length_entries]
  omega

/-- **Inside the border** there are the entries shown, from the top on, and blank rows below. -/
theorem getElem?_picture {width k : Nat} (h : pane.isEmpty = false) (hwidth : 2 ≤ width)
    (hk : k < height - 2) (offset : Nat) :
    (pane.picture width height offset)[k + 1]? =
      some (.glyph ['│'] ((Palette.border pane.focused).apply {}) ::
        (((pane.visible height offset)[k]?.map (Entry.row (width - 2))).getD
          (List.replicate (width - 2) (.glyph [' '] {})) ++
        [.glyph ['│'] ((Palette.border pane.focused).apply {})])) := by
  rw [picture, h, if_neg Bool.false_ne_true,
    Screen.getElem?_boxed (by omega) (getElem?_list hk (width - 2) _),
    Screen.edged_of_two_le hwidth]
  rfl

end TokenPane

/-- The source pane is as wide in each row. -/
theorem SourcePane.exists_row (pane : SourcePane) {height k : Nat} (hk : k < height - 2)
    (width offset : Nat) :
    ∃ row, row.length = width ∧ (pane.picture width height offset)[k + 1]? = some row := by
  have hlt : k < (Screen.paragraph (width - 2) (height - 2) .plain .left
      (pane.visible height offset)).length := by
    rwa [Screen.length_paragraph]
  have hrow := List.getElem?_eq_getElem hlt
  refine ⟨_, Screen.length_edged ?_ _ _ _, Screen.getElem?_boxed (by omega) hrow _ _⟩
  exact Screen.length_of_mem_paragraph (List.mem_of_getElem? hrow)

namespace Inspector

variable {source : String} {i : Inspector}

/-- The pane of an inspector about a text. -/
theorem About.tokenPane_eq (h : i.About source) :
    i.tokenPane = { tokens := (Inspection.ofString source).tokens
                    selected := i.token
                    stoppedEarly := (Inspection.ofString source).stoppedEarly
                    focused := i.focus == .tokens } := by
  rw [tokenPane, h.2]

theorem About.isEmpty_tokenPane (h : i.About source)
    (hne : (Inspection.ofString source).tokens ≠ []) : i.tokenPane.isEmpty = false := by
  rw [h.tokenPane_eq, TokenPane.isEmpty, List.isEmpty_eq_false_iff.mpr hne, Bool.false_and]

/-- **On the screen** the rows of the token pane are to the right of the source pane. -/
theorem getElem?_picture {width height k : Nat} (h : i.tokenPane.isEmpty = false)
    (hwidth : 2 ≤ width - leftShare width) (hk : k < height - 3) :
    let entry := (i.tokenPane.visible (height - 1) i.tokenScroll)[k]?
    let inner := width - leftShare width - 2
    let edge := Cell.glyph ['│'] ((Palette.border i.tokenPane.focused).apply {})
    ∃ left, left.length = leftShare width ∧ (i.picture width height)[k + 1]? =
      some (left ++ edge :: ((entry.map (TokenPane.Entry.row inner)).getD
        (List.replicate inner (.glyph [' '] {})) ++ [edge])) := by
  intro entry inner edge
  have hk' : k < height - 1 - 2 := by omega
  obtain ⟨left, hleft, hsource⟩ :=
    i.sourcePane.exists_row hk' (leftShare width) i.sourceScroll
  have htokens := TokenPane.getElem?_picture h hwidth hk' i.tokenScroll
  have hpanes := Screen.getElem?_beside hsource htokens
  refine ⟨left, hleft, ?_⟩
  rw [picture, List.getElem?_append_left (List.getElem?_eq_some_iff.mp hpanes).1]
  exact hpanes

/-- **Drawing moves the selected token into the window.** -/
theorem InBounds.settle_selects (h : i.InBounds source)
    (hne : (Inspection.ofString source).tokens ≠ []) (height : Nat) :
    (i.settle height).token < (Inspection.ofString source).tokens.length ∧
      (i.settle height).tokenScroll ≤ (i.settle height).token ∧
      (i.settle height).token < (i.settle height).tokenScroll + visibleRows (height - 1) := by
  have hlt : i.token < (Inspection.ofString source).tokens.length :=
    h.stands.selects.resolve_right fun hz => hne (List.eq_nil_of_length_eq_zero hz.2)
  have hrow : i.token < entryCount source := hlt.trans_le (Nat.le_add_right _ _)
  have hr := reveal_shows hrow i.tokenScroll (visibleRows (height - 1))
  rw [max_visibleRows] at hr
  rw [h.about.settle_tokenScroll, h.about.isEmpty_tokenPane hne, if_neg Bool.false_ne_true]
  exact ⟨hlt, hr⟩

end Inspector

open TokenPane (Entry DrawsToken tokenLine selection stoppedEntry)

/-- **The selected token on the screen.**  Let a text have tokens.  Right behind a drawing on a
screen whose token pane has a row for entries, after any keys and drawings before:

* The row of the selected token is shown, as many rows down as it is behind the first one shown.  It
  has the position of the token, the name of its kind, and its escaped lexeme.
* The rows shown are those of consecutive tokens, behind which there is one more if the scan stopped
  early, and they fill the pane if there are so many.
* They are on the screen inside the border of the pane, from the top on, and below them it is blank.
* Of the rows shown, only that of the selected token has the style of the selection.  Each row draws
  its token, that of the selected one shaded and bold; no cell of another is shaded or bold. -/
theorem selected_token_shown (source : String) (acts : List Inspector.Act) (width height : Nat)
    (hrow : 4 ≤ height) (hne : (Inspection.ofString source).tokens ≠ []) :
    let n := Inspection.ofString source
    let i := ((Inspector.ofString source).after acts).settle height
    let shown := i.tokenPane.visible (height - 1) i.tokenScroll
    let inner := width - leftShare width - 2
    let edge := Cell.glyph ['│'] ((Palette.border i.tokenPane.focused).apply {})
    (i.tokenScroll ≤ i.token ∧ ∃ t, n.tokens[i.token]? = some t ∧
        shown[i.token - i.tokenScroll]? = some ⟨tokenLine t, selection⟩ ∧
        (tokenLine t).text =
          (Nat.toDigits 10 t.location.line).leftpad 4 ' ' ++ [':'] ++
            (Nat.toDigits 10 t.location.column).rightpad 3 ' ' ++ [' '] ++
            (t.kind.name.toList.rightpad 10 ' ' ++ [' ']) ++ Text.escape t.lexeme.toList) ∧
      (shown.map Entry.line =
          ((n.tokens.map tokenLine ++ if n.stoppedEarly then [stoppedEntry.line] else []).drop
            i.tokenScroll).take (height - 3) ∧
        shown.length = min (height - 3) (n.tokens.length + if n.stoppedEarly then 1 else 0)) ∧
      (2 ≤ width - leftShare width → ∀ k < height - 3, ∃ left, left.length = leftShare width ∧
        (i.picture width height)[k + 1]? =
          some (left ++ edge :: ((shown[k]?.map (Entry.row inner)).getD
            (List.replicate inner (.glyph [' '] {})) ++ [edge]))) ∧
      ∀ k e, shown[k]? = some e →
        (e.style = selection ↔ k = i.token - i.tokenScroll) ∧
        (∀ t, n.tokens[i.tokenScroll + k]? = some t →
          DrawsToken t (if k = i.token - i.tokenScroll
            then { background := Palette.shade, bold := true } else {}) inner (e.row inner)) ∧
        (n.tokens.length ≤ i.tokenScroll + k → e.row inner =
          ((inCells { foreground := Palette.red } "  scanning stopped: lexical error".toList).take
            inner).rightpad inner (.glyph [' '] { foreground := Palette.red })) ∧
        (k ≠ i.token - i.tokenScroll →
          ∀ c ∈ e.row inner, c.look.background = .reset ∧ c.look.bold = false) := by
  intro n i shown inner edge
  have h : ((Inspector.ofString source).after acts).InBounds source :=
    Inspector.inBounds_after source acts
  have hrows := visibleRows_sub_one hrow
  have hpane := (h.settle height).about.tokenPane_eq
  have htokens : i.tokenPane.tokens = n.tokens := congrArg TokenPane.tokens hpane
  have hstopped : i.tokenPane.stoppedEarly = n.stoppedEarly := congrArg TokenPane.stoppedEarly hpane
  have hlexemes : ∀ t ∈ i.tokenPane.tokens, Scan.Lexeme t.kind t.lexeme.toList := by
    rw [htokens]
    exact fun t => Scan.lexeme_of_mem_tokens
  obtain ⟨hlt, hle, hreach⟩ := h.settle_selects hne height
  obtain ⟨t, ht⟩ : ∃ t, n.tokens[i.token]? = some t := ⟨_, List.getElem?_eq_getElem hlt⟩
  refine ⟨⟨hle, t, ht, ?_, TokenPane.text_tokenLine t⟩, ⟨?_, ?_⟩, fun hwidth k hk => ?_,
    fun k e hk => ⟨?_, fun t ht => ?_, fun hend => ?_, fun hother c hc => ?_⟩⟩
  · exact TokenPane.getElem?_visible_selected ((congrArg (·[i.token]?) htokens).trans ht) hle hreach
  · rw [TokenPane.map_line_visible, htokens, hstopped, hrows]
  · have hscroll := (h.settle_scroll height).2
    rw [← (h.settle height).about.size_tokenPane] at hscroll
    rw [TokenPane.length_visible hscroll, hrows, TokenPane.size, htokens, hstopped]
  · exact Inspector.getElem?_picture ((h.settle height).about.isEmpty_tokenPane hne) hwidth hk
  · exact TokenPane.style_visible_iff (hlt.trans_eq (congrArg List.length htokens.symm)) hle hk
  · rw [← htokens] at ht
    exact TokenPane.drawsToken_visible hlexemes hle hk ht inner
  · rw [← htokens] at hend
    rw [TokenPane.eq_stoppedEntry hend (TokenPane.getElem?_entries_of_visible hk)]
    exact TokenPane.row_stoppedEntry inner
  · exact TokenPane.on_visible hlexemes hle hk hother hc

/-- In a pane of one row, the second of two tokens in front of a flaw.  It is in the row below the
upper border, with its lexeme in the column behind its kind, shaded and bold. -/
theorem selected_token_shown_alone :
    let acts : List Inspector.Act := [.press .tab, .press .up, .draw 9, .press .down]
    let i := ((Inspector.ofString "main\x7b@").after acts).settle 4
    let e : Entry := ⟨tokenLine ⟨.leftBrace, "\x7b", ⟨1, 5⟩⟩, selection⟩
    let edge := Cell.glyph ['│'] ⟨Palette.yellow, .reset, true⟩
    i.token = 1 ∧ i.tokenScroll = 1 ∧ (i.tokenPane.visible 3 i.tokenScroll).length = 1 ∧
      e.line.text = "   1:5   LBRACE     \x7b".toList ∧
      (∃ left, left.length = 39 ∧
        (i.picture 65 4)[1]? = some (left ++ edge :: (e.row 24 ++ [edge]))) ∧
      (e.row 24)[20]? = some (.glyph ['\x7b'] ⟨Palette.ink, Palette.shade, true⟩) := by
  intro acts i e edge
  have htokens : (Inspection.ofString "main\x7b@").tokens =
      [⟨.main, "main", ⟨1, 1⟩⟩, ⟨.leftBrace, "\x7b", ⟨1, 5⟩⟩] := by cbv
  have htoken : i.token = 1 := by cbv
  have hscroll : i.tokenScroll = 1 := by cbv
  obtain ⟨⟨-, t, ht, hrow, htext⟩, ⟨-, hlen⟩, hscreen, hrows⟩ :=
    selected_token_shown "main\x7b@" acts 65 4 (by decide) (by rw [htokens]; decide)
  change (Inspection.ofString "main\x7b@").tokens[i.token]? = some t at ht
  change (i.tokenPane.visible 3 i.tokenScroll)[i.token - i.tokenScroll]? = _ at hrow
  rw [htokens, htoken] at ht
  obtain rfl := Option.some.inj ht
  rw [htoken, hscroll] at hrow
  have hfirst : (i.tokenPane.visible 3 i.tokenScroll)[0]? = some e := by rwa [hscroll]
  refine ⟨htoken, hscroll, hlen.trans ?_, htext.trans (by decide +kernel), ?_, ?_⟩
  · rw [htokens]
    cbv
  · obtain ⟨left, hleft, hpicture⟩ := hscreen (by decide) 0 (by decide)
    have hfocused : i.tokenPane.focused = true := by cbv
    change (i.picture 65 4)[1]? = some (left ++
      Cell.glyph ['│'] ((Palette.border i.tokenPane.focused).apply {}) ::
        ((((i.tokenPane.visible 3 i.tokenScroll)[0]?.map (Entry.row 24)).getD _) ++
          [Cell.glyph ['│'] ((Palette.border i.tokenPane.focused).apply {})])) at hpicture
    rw [hfirst, hfocused] at hpicture
    exact ⟨left, hleft, hpicture⟩
  · obtain ⟨-, hdraws, -, -⟩ := hrows 0 e hfirst
    have hdraw := hdraws ⟨.leftBrace, "\x7b", ⟨1, 5⟩⟩ (by
      change (Inspection.ofString "main\x7b@").tokens[i.tokenScroll + 0]? = _
      rw [hscroll, htokens]
      rfl)
    change DrawsToken _ (if 0 = i.token - i.tokenScroll then _ else _) 24 _ at hdraw
    rw [htoken, hscroll, if_pos rfl] at hdraw
    exact hdraw.lexeme [] ['\x7b'] [] (by decide +kernel) (by decide) (by decide)

end SourceCheck

import SourceCheck.Inspector.TokenPane
import SourceCheck.Proofs.CommandLine.Listing
import SourceCheck.Proofs.Scan.LineEnds
import SourceCheck.Proofs.Screen.Entries

/-!
# Inspector — what a row of the token pane shows

The row of a token holds its position, the name of its kind and its escaped lexeme, on what the
style of its entry makes of the row.

* `columns`: the position and the name, which are printable ASCII, in cells.
* `DrawsToken`: what there is in each cell of the row.
* `row_tokenLine`: the row of a token is its columns, its lexeme and blanks (`tokenCells`).
* `drawsToken_row`: so it draws the token.
* `DrawsToken.on_of_bare`: on a ground without background and weight, no cell has any.
-/

namespace SourceCheck

open Screen (Look Cell Row inCells extent Covered Flow)

namespace TokenPane

/-- The position of a token and the name of its kind, in cells on a ground. -/
def columns (t : Token) (ground : Look) : Row :=
  inCells { ground with foreground := Palette.grey }
      ((Nat.toDigits 10 t.location.line).leftpad 4 ' ' ++ [':'] ++
        (Nat.toDigits 10 t.location.column).rightpad 3 ' ' ++ [' ']) ++
    inCells { ground with foreground := Palette.ofRole (.ofKind t.kind) }
      (t.kind.name.toList.rightpad 10 ' ' ++ [' '])

/-- The clusters of an escaped lexeme. -/
def lexemeClusters (t : Token) : List (List Char) :=
  Text.clusters (Text.escape t.lexeme.toList)

/-- A row of some width shows a token on a ground. -/
structure DrawsToken (t : Token) (ground : Look) (width : Nat) (row : Row) : Prop where
  length : row.length = width
  /-- Position and kind come first, as far as there is room. -/
  front : (columns t ground).take width <+: row
  /-- The lexeme comes behind them: each cluster that takes room, and that there is room for, is
  behind those before it.  What takes no room shares the cell of the cluster before it, unless that
  is a wide one. -/
  lexeme : ∀ before g after, lexemeClusters t = before ++ g :: after → 0 < Text.width g →
    (columns t ground).length + extent before + Text.width g ≤ width →
    row[(columns t ground).length + extent before]? =
      some (.glyph (g ++ if Text.width g = 1 then Screen.leadingMarks after else [])
        { ground with foreground := Palette.ink })
  /-- Behind the lexeme the row is blank. -/
  blank : ∀ j, (columns t ground).length + extent (lexemeClusters t) ≤ j → j < width →
    row[j]? = some (.glyph [' '] ground)
  /-- All of the row is on the ground, but for what a wide cluster covers. -/
  on : ∀ j c, row[j]? = some c → c.On ground ∨
    (∃ i, j = (columns t ground).length + i ∧ Covered (lexemeClusters t) i) ∧ c.On {}

/-! ### The texts of a row -/

theorem plain_toDigits (n : Nat) : Text.Plain (Nat.toDigits 10 n) := by
  intro c h
  exact CommandLine.isPlainAscii_of_isDigit (CommandLine.isDigit_of_mem h)

theorem plain_position (p : Position) :
    Text.Plain ((Nat.toDigits 10 p.line).leftpad 4 ' ' ++ [':'] ++
      (Nat.toDigits 10 p.column).rightpad 3 ' ' ++ [' ']) :=
  ((((plain_toDigits p.line).leftpad 4).append (.singleton rfl)).append
    ((plain_toDigits p.column).rightpad 3)).append (.singleton rfl)

theorem plain_name (k : Kind) : Text.Plain (k.name.toList.rightpad 10 ' ' ++ [' ']) :=
  ((Text.Plain.of_all k.all_plain_name).rightpad 10).append (.singleton rfl)

theorem isPlainAscii_of_isCodePart {c : Char} (h : Scan.isCodePart c = true) :
    Text.isPlainAscii c = true := by
  rw [Scan.isCodePart, Bool.or_eq_true] at h
  rcases h with h | h
  · simp only [Text.isWordPart, Text.isLetter, Text.isDigit, Char.isAlpha, Char.isUpper,
      Char.isLower, Char.isDigit, Bool.or_eq_true, Bool.and_eq_true, decide_eq_true_eq,
      beq_iff_eq, ge_iff_le, UInt32.le_iff_toNat_le] at h
    simp only [Text.isPlainAscii, Bool.and_eq_true, decide_eq_true_eq]
    rcases h with ((h | h) | h) | rfl
    · exact ⟨Nat.le_trans (by decide) h.1, Nat.le_trans h.2 (by decide)⟩
    · exact ⟨Nat.le_trans (by decide) h.1, Nat.le_trans h.2 (by decide)⟩
    · exact ⟨Nat.le_trans (by decide) h.1, Nat.le_trans h.2 (by decide)⟩
    · decide
  · exact List.all_eq_true.mp (by decide) c (List.contains_iff_mem.mp h)

/-- An escaped lexeme begins with a cell of its own: it is printable ASCII, or it is a string, and
the quote in front of that has a backslash. -/
theorem firm_escape {k : Kind} {l : List Char} (h : Scan.Lexeme k l) :
    Flow.Firm (Text.escape l) := by
  by_cases hk : k = .stringLiteral
  · subst hk
    have hn : '\n' ∉ Text.escape l := Text.newline_notMem_escape l
    cases h with
    | spelled h => cases h
    | @string body h =>
        have hmark : Text.isMark '\x22' = false := by decide +kernel
        rw [Text.escape, hmark] at hn ⊢
        exact .of_backslash hn
  · exact .of_plain (Text.plain_escape fun c hc =>
      isPlainAscii_of_isCodePart (h.isCodePart hk c hc))

/-! ### The cells of a row -/

variable {t : Token} {ground : Look} {width : Nat}

/-- The cells of a lexeme, in the room that the columns leave. -/
def lexemeCells (t : Token) (ground : Look) (width : Nat) : List Cell :=
  (Flow.entry.layClusters ground (.color Palette.ink) width (width - (columns t ground).length)
    (lexemeClusters t)).1

/-- The cells of a token: its columns, its lexeme, and blanks. -/
def tokenCells (t : Token) (ground : Look) (width : Nat) : Row :=
  ((columns t ground).take width ++ lexemeCells t ground width).rightpad width (.blank ground)

theorem length_columns (t : Token) (ground : Look) :
    (columns t ground).length =
      ((Nat.toDigits 10 t.location.line).leftpad 4 ' ' ++ [':'] ++
        (Nat.toDigits 10 t.location.column).rightpad 3 ' ' ++ [' ']).length +
      (t.kind.name.toList.rightpad 10 ' ' ++ [' ']).length := by
  rw [columns, List.length_append, Screen.length_inCells, Screen.length_inCells]

theorem on_of_mem_columns {c : Cell} (h : c ∈ columns t ground) : c.On ground := by
  rcases List.mem_append.mp h with h | h
  · have hc : c.On { ground with foreground := Palette.grey } := Screen.on_of_mem_inCells h
    exact hc
  · have hc : c.On { ground with foreground := Palette.ofRole (.ofKind t.kind) } :=
      Screen.on_of_mem_inCells h
    exact hc

theorem length_lexemeCells_le : (lexemeCells t ground width).length ≤ extent (lexemeClusters t) :=
  Flow.length_layClusters_le _

/-- **The row of a token** has the cells of the token, on what the style makes of the row. -/
theorem row_tokenLine (style : Screen.Style) (width : Nat)
    (h : Scan.Lexeme t.kind t.lexeme.toList) :
    (⟨tokenLine t, style⟩ : Entry).row width = tokenCells t (style.apply {}) width := by
  have hcells : Flow.entry.layLine (style.apply {}) width width (tokenLine t) =
      (columns t (style.apply {})).take width ++ lexemeCells t (style.apply {}) width := by
    rw [tokenLine, Flow.layLine_cons_plain (plain_position t.location),
      Flow.layLine_cons_plain (plain_name t.kind), Flow.layLine_singleton (firm_escape h),
      lexemeCells, length_columns, columns, List.take_append, Screen.length_inCells, Nat.sub_sub,
      Screen.Style.apply_color, Screen.Style.apply_color]
    exact (List.append_assoc _ _ _).symm
  rw [Entry.row, Screen.Line.row, hcells]
  rfl

/-- In the columns, as far as there is room. -/
theorem getElem?_tokenCells_of_lt {j : Nat} (hj : j < (columns t ground).length) (hlt : j < width) :
    (tokenCells t ground width)[j]? = (columns t ground)[j]? := by
  have htake : j < ((columns t ground).take width).length := by
    rw [List.length_take]
    exact lt_min hlt hj
  rw [tokenCells, List.rightpad, List.append_assoc, List.getElem?_append_left htake,
    List.getElem?_take_of_lt hlt]

/-- Behind the columns, in the lexeme. -/
theorem getElem?_tokenCells_lexeme (hle : (columns t ground).length ≤ width) {j : Nat}
    (hj : j < (lexemeCells t ground width).length) :
    (tokenCells t ground width)[(columns t ground).length + j]? =
      (lexemeCells t ground width)[j]? := by
  rw [tokenCells, List.rightpad, List.take_of_length_le hle, List.append_assoc,
    List.getElem?_append_right (Nat.le_add_right _ _), Nat.add_sub_cancel_left,
    List.getElem?_append_left hj]

/-- Behind the lexeme. -/
theorem getElem?_tokenCells_blank (hle : (columns t ground).length ≤ width) {j : Nat}
    (hj : (lexemeCells t ground width).length ≤ j) (hlt : (columns t ground).length + j < width) :
    (tokenCells t ground width)[(columns t ground).length + j]? = some (.blank ground) := by
  rw [tokenCells, List.rightpad, List.take_of_length_le hle, List.append_assoc,
    List.getElem?_append_right (Nat.le_add_right _ _), Nat.add_sub_cancel_left,
    List.getElem?_append_right hj, List.getElem?_replicate, List.length_append, if_pos (by omega)]

/-- A cell is on the ground, or a wide cluster of the lexeme covers it. -/
theorem on_getElem?_tokenCells {j : Nat} {c : Cell} (hlt : j < width)
    (hc : (tokenCells t ground width)[j]? = some c) :
    c.On ground ∨
      (∃ i, j = (columns t ground).length + i ∧ Covered (lexemeClusters t) i) ∧ c.On {} := by
  rcases Nat.lt_or_ge j (columns t ground).length with hj | hj
  · rw [getElem?_tokenCells_of_lt hj hlt] at hc
    exact Or.inl (on_of_mem_columns (List.mem_of_getElem? hc))
  obtain ⟨i, rfl⟩ := Nat.exists_eq_add_of_le hj
  have hle : (columns t ground).length ≤ width := hj.trans hlt.le
  rcases Nat.lt_or_ge i (lexemeCells t ground width).length with hi | hi
  · rw [getElem?_tokenCells_lexeme hle hi] at hc
    exact (Flow.on_layClusters hc).imp_right fun ⟨hi, hc⟩ => ⟨⟨i, rfl, hi⟩, hc⟩
  · rw [getElem?_tokenCells_blank hle hi hlt] at hc
    obtain rfl := Option.some.inj hc
    exact Or.inl ⟨rfl, rfl⟩

/-- **The row of an entry draws its token.** -/
theorem drawsToken_row (style : Screen.Style) (width : Nat)
    (h : Scan.Lexeme t.kind t.lexeme.toList) :
    DrawsToken t (style.apply {}) width ((⟨tokenLine t, style⟩ : Entry).row width) := by
  have hlength := Entry.length_row width ⟨tokenLine t, style⟩
  rw [row_tokenLine style width h] at hlength ⊢
  generalize style.apply {} = ground at hlength ⊢
  refine ⟨hlength, ?_, fun before g after ht hg hle => ?_, fun j hj hlt => ?_, fun j c hc => ?_⟩
  · exact (List.prefix_append _ _).trans (List.prefix_append _ _)
  · have hcell : (lexemeCells t ground width)[extent before]? =
        some (.glyph (g ++ if Text.width g = 1 then Screen.leadingMarks after else [])
          { ground with foreground := Palette.ink }) := by
      rw [lexemeCells, ht]
      exact Flow.getElem?_layClusters before after hg (by omega)
    rw [getElem?_tokenCells_lexeme (by omega) (List.getElem?_eq_some_iff.mp hcell).1, hcell]
  · obtain ⟨i, rfl⟩ := Nat.exists_eq_add_of_le ((Nat.le_add_right _ _).trans hj)
    have hi : (lexemeCells t ground width).length ≤ i :=
      length_lexemeCells_le.trans (Nat.le_of_add_le_add_left hj)
    rw [getElem?_tokenCells_blank (by omega) hi hlt]
    rfl
  · exact on_getElem?_tokenCells ((List.getElem?_eq_some_iff.mp hc).1.trans_eq hlength) hc

/-- **On a bare ground**, no cell has a background or weight. -/
theorem DrawsToken.on_of_bare {row : Row} (h : DrawsToken t {} width row) {c : Cell}
    (hc : c ∈ row) : c.On {} := by
  obtain ⟨j, hj⟩ := List.getElem?_of_mem hc
  rcases h.on j c hj with hon | ⟨-, hon⟩
  · exact hon
  · exact hon

/-- The row of the entry behind the tokens. -/
theorem row_stoppedEntry (width : Nat) :
    stoppedEntry.row width =
      ((inCells { foreground := Palette.red } "  scanning stopped: lexical error".toList).take
        width).rightpad width (.blank { foreground := Palette.red }) := by
  have hplain : Text.Plain "  scanning stopped: lexical error".toList := .of_all (by decide)
  rw [Entry.row, Screen.Line.row, stoppedEntry, Screen.Span.ofString,
    Flow.layLine_cons_plain hplain]
  simp only [Flow.layLine, List.append_nil]
  rfl

theorem on_of_mem_row_stoppedEntry {c : Cell} (h : c ∈ stoppedEntry.row width) : c.On {} := by
  rw [row_stoppedEntry] at h
  rcases List.mem_append.mp h with h | h
  · have hc : c.On { foreground := Palette.red } :=
      Screen.on_of_mem_inCells (List.mem_of_mem_take h)
    exact hc
  · rw [List.eq_of_mem_replicate h]
    exact ⟨rfl, rfl⟩

end TokenPane

end SourceCheck

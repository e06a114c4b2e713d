import Mathlib
import SourceCheck.Proofs.Text.Ascii
import SourceCheck.Screen.Layout

/-!
# Screen — entries, cell by cell

What the cells of an entry show, for spans that set no more than a colour.

* `Cell.On`: the cell has the background and the weight of a look, whatever its colour.
* `extent`, `Covered`: the cells that clusters take, and those among them that a wide cluster
  covers.
* `getElem?_layClusters`: a cluster that there is room for is shown right behind those before it.
* `on_layClusters`: its cells have the background and the weight of what they lie on, and the ones
  that it covers have none.
* `layLine_cons_plain`: a span of printable ASCII is shown character by character.
-/

namespace SourceCheck.Screen

/-- The cell has the background and the weight of a look. -/
def Cell.On (ground : Look) (c : Cell) : Prop :=
  c.look.background = ground.background ∧ c.look.bold = ground.bold

/-- How many cells some clusters take. -/
def extent (clusters : List (List Char)) : Nat :=
  (clusters.map Text.width).sum

/-- A cluster that begins in a column further left covers this one. -/
def Covered (clusters : List (List Char)) (column : Nat) : Prop :=
  ∃ before g after, clusters = before ++ g :: after ∧
    extent before < column ∧ column < extent before + Text.width g

/-- The cells of a text, one for each character. -/
def inCells (look : Look) (text : List Char) : Row :=
  text.map fun c => .glyph [c] look

theorem extent_cons (g : List Char) (gs : List (List Char)) :
    extent (g :: gs) = Text.width g + extent gs := by
  rw [extent, List.map_cons, List.sum_cons]
  rfl

theorem Covered.cons {gs : List (List Char)} {j : Nat} (h : Covered gs j) (g : List Char) :
    Covered (g :: gs) (Text.width g + j) := by
  obtain ⟨before, b, after, rfl, hlt, hle⟩ := h
  refine ⟨g :: before, b, after, rfl, ?_, ?_⟩
  · rw [extent_cons]
    omega
  · rw [extent_cons]
    omega

@[simp] theorem length_inCells (look : Look) (text : List Char) :
    (inCells look text).length = text.length :=
  List.length_map _

theorem on_of_mem_inCells {look : Look} {text : List Char} {c : Cell}
    (h : c ∈ inCells look text) : c.On look := by
  obtain ⟨_, _, rfl⟩ := List.mem_map.mp h
  exact ⟨rfl, rfl⟩

namespace Flow

variable {base ground : Look} {k : Color} {style : Style} {line room : Nat}

/-! ### One cluster -/

/-- Marks that are added to cells leave their background and weight. -/
theorem on_appendMarks {marks : List Char} {cells : List Cell} (h : ∀ c ∈ cells, c.On ground) :
    ∀ c ∈ appendMarks marks (.color k) cells, c.On ground := by
  fun_induction appendMarks marks (.color k) cells with
  | case1 => exact h
  | case2 cell =>
      have hcell : cell.On ground := h cell List.mem_cons_self
      intro c hc
      obtain rfl := List.mem_singleton.mp hc
      split
      · exact hcell
      · cases cell with
        | glyph symbol look => exact hcell
        | covered => exact hcell
  | case3 cell cells _ ih =>
      obtain ⟨hcell, hcells⟩ := List.forall_mem_cons.mp h
      exact List.forall_mem_cons.mpr ⟨hcell, ih hcells⟩

theorem appendMarks_cons_cons (marks : List Char) (style : Style) (a b : Cell)
    (cells : List Cell) :
    appendMarks marks style (a :: b :: cells) = a :: appendMarks marks style (b :: cells) :=
  rfl

/-- The first cell shows the cluster. -/
theorem getElem?_cells_zero {g : List Char} (hg : 0 < Text.width g) (after : List (List Char)) :
    (entry.cells base (.color k) g after)[0]? =
      some (.glyph (g ++ if Text.width g = 1 then leadingMarks after else [])
        { base with foreground := k }) := by
  rw [cells, Style.apply_color]
  generalize Text.width g = w at hg ⊢
  cases w with
  | zero => exact absurd hg (lt_irrefl 0)
  | succ w =>
      cases w with
      | zero =>
          rw [clusterCells, appendMarks, if_pos rfl]
          split
          · next hm =>
              rw [List.isEmpty_iff.mp hm, List.append_nil]
              rfl
          · rw [Cell.append, Style.apply_color]
            rfl
      | succ w =>
          rw [clusterCells, appendMarks_cons_cons, if_neg (Nat.succ_succ_ne_one w),
            List.append_nil]
          rfl

/-- The cells that it covers have no background and no weight. -/
theorem on_getElem?_cells_succ {g : List Char} {after : List (List Char)} {j : Nat} {c : Cell}
    (h : (entry.cells base (.color k) g after)[j + 1]? = some c) : c.On {} := by
  rw [cells, Style.apply_color] at h
  generalize Text.width g = w at h
  cases w with
  | zero => cases h
  | succ w =>
      cases w with
      | zero => cases h
      | succ w =>
          rw [clusterCells, appendMarks_cons_cons, List.getElem?_cons_succ] at h
          refine on_appendMarks (fun d hd => ?_) c (List.mem_of_getElem? h)
          rcases List.mem_cons.mp hd with rfl | hd
          · exact ⟨rfl, rfl⟩
          · rw [List.eq_of_mem_replicate hd]
            exact ⟨rfl, rfl⟩

/-! ### Clusters one behind the other -/

/-- An entry leaves out no cluster that has some width. -/
theorem entry_passes_of_pos {w : Nat} (h : 0 < w) : entry.passes line w = false := by
  rw [passes, beq_eq_false_iff_ne.mpr h.ne']
  rfl

theorem layClusters_of_eq_zero {g : List Char} (h : Text.width g = 0) (gs : List (List Char)) :
    entry.layClusters base style line room (g :: gs) =
      entry.layClusters base style line room gs := by
  rw [layClusters, passes, h]
  rfl

theorem layClusters_of_le {g : List Char} (hg : 0 < Text.width g) (h : Text.width g ≤ room)
    (gs : List (List Char)) :
    entry.layClusters base style line room (g :: gs) =
      (entry.cells base style g gs ++
          (entry.layClusters base style line (room - Text.width g) gs).1,
        (entry.layClusters base style line (room - Text.width g) gs).2) := by
  rw [layClusters, entry_passes_of_pos hg, if_neg Bool.false_ne_true, if_pos h]

theorem layClusters_of_lt {g : List Char} (h : room < Text.width g) (gs : List (List Char)) :
    entry.layClusters base style line room (g :: gs) = ([], none) := by
  have hg : 0 < Text.width g := (Nat.zero_le room).trans_lt h
  rw [layClusters, entry_passes_of_pos hg, if_neg Bool.false_ne_true, if_neg h.not_ge]

/-- **A cluster that there is room for** is shown behind those before it.  What has no width behind
it is shown in the same cell, unless the cluster is a wide one. -/
theorem getElem?_layClusters {g : List Char} (before after : List (List Char))
    (hg : 0 < Text.width g) (hroom : extent before + Text.width g ≤ room) :
    (entry.layClusters base (.color k) line room (before ++ g :: after)).1[extent before]? =
      some (.glyph (g ++ if Text.width g = 1 then leadingMarks after else [])
        { base with foreground := k }) := by
  induction before generalizing room with
  | nil =>
      have hle : Text.width g ≤ room := by
        rwa [extent, List.map_nil, List.sum_nil, Nat.zero_add] at hroom
      rw [List.nil_append, layClusters_of_le hg hle, ← getElem?_cells_zero hg after]
      exact List.getElem?_append_left (by rwa [length_cells])
  | cons b before ih =>
      rw [extent_cons] at hroom ⊢
      rw [List.cons_append]
      rcases Nat.eq_zero_or_pos (Text.width b) with hb | hb
      · rw [layClusters_of_eq_zero hb, hb, Nat.zero_add]
        exact ih (by omega)
      · rw [layClusters_of_le hb (by omega), List.getElem?_append_right (by simp), length_cells,
          Nat.add_sub_cancel_left]
        exact ih (by omega)

/-- **A cell has the background and the weight of what it lies on**, or is covered and has none. -/
theorem on_layClusters {gs : List (List Char)} {j : Nat} {c : Cell}
    (h : (entry.layClusters base (.color k) line room gs).1[j]? = some c) :
    c.On base ∨ Covered gs j ∧ c.On {} := by
  induction gs generalizing room j with
  | nil => cases h
  | cons g gs ih =>
      rcases Nat.eq_zero_or_pos (Text.width g) with hg | hg
      · rw [layClusters_of_eq_zero hg] at h
        refine (ih h).imp_right fun ⟨hj, hc⟩ => ⟨?_, hc⟩
        have hcons := hj.cons g
        rwa [hg, Nat.zero_add] at hcons
      rcases Nat.lt_or_ge room (Text.width g) with hroom | hroom
      · rw [layClusters_of_lt hroom] at h
        cases h
      rw [layClusters_of_le hg hroom] at h
      rcases Nat.lt_or_ge j (Text.width g) with hj | hj
      · rw [List.getElem?_append_left (by rwa [length_cells])] at h
        cases j with
        | zero =>
            rw [getElem?_cells_zero hg] at h
            obtain rfl := Option.some.inj h
            exact Or.inl ⟨rfl, rfl⟩
        | succ j =>
            refine Or.inr ⟨⟨[], g, gs, rfl, Nat.succ_pos j, ?_⟩, on_getElem?_cells_succ h⟩
            exact hj.trans_eq (Nat.zero_add _).symm
      · rw [List.getElem?_append_right (by rwa [length_cells]), length_cells] at h
        refine (ih h).imp_right fun ⟨hcovered, hc⟩ => ⟨?_, hc⟩
        have hcons := hcovered.cons g
        rwa [Nat.add_sub_cancel' hj] at hcons

/-- Clusters take no more cells than they are wide. -/
theorem length_layClusters_le (gs : List (List Char)) :
    (entry.layClusters base style line room gs).1.length ≤ extent gs := by
  induction gs generalizing room with
  | nil => exact le_rfl
  | cons g gs ih =>
      rw [extent_cons]
      rcases Nat.eq_zero_or_pos (Text.width g) with hg | hg
      · rw [layClusters_of_eq_zero hg, hg, Nat.zero_add]
        exact ih
      rcases Nat.lt_or_ge room (Text.width g) with hroom | hroom
      · rw [layClusters_of_lt hroom]
        exact Nat.zero_le _
      · rw [layClusters_of_le hg hroom, List.length_append, length_cells]
        exact Nat.add_le_add_left ih _

/-! ### Texts -/

/-- A text on one line that has room for what it begins with. -/
structure Firm (text : List Char) : Prop where
  newline_notMem : '\n' ∉ text
  width_pos : text ≠ [] → 0 < Text.width text
  head_pos : ∀ g ∈ (Text.clusters text).head?, 0 < Text.width g

theorem Firm.of_plain {text : List Char} (h : Text.Plain text) : Firm text where
  newline_notMem hn := absurd (h _ hn) (by decide)
  width_pos hne := by
    rw [Text.width_of_plain h]
    exact List.length_pos_of_ne_nil hne
  head_pos g hg := by
    rw [Text.clusters_of_plain h, List.head?_map] at hg
    obtain ⟨c, hc, rfl⟩ := Option.map_eq_some_iff.mp hg
    rw [Text.width_of_plain (Text.Plain.singleton (h c (List.mem_of_mem_head? hc)))]
    exact Nat.one_pos

theorem Firm.of_backslash {text : List Char} (h : '\n' ∉ '\x5c' :: text) :
    Firm ('\x5c' :: text) where
  newline_notMem := h
  width_pos _ := Text.width_backslash_pos text
  head_pos g hg := by
    obtain rfl := Option.some.inj hg
    exact Text.width_backslash_pos _

theorem leadingMarks_of_head_pos {gs : List (List Char)} (h : ∀ g ∈ gs.head?, 0 < Text.width g) :
    leadingMarks gs = [] ∧ gs.dropWhile (fun g => Text.width g == 0) = gs := by
  cases gs with
  | nil => exact ⟨rfl, rfl⟩
  | cons g gs =>
      have hg : (Text.width g == 0) = false := beq_eq_false_iff_ne.mpr (h g rfl).ne'
      refine ⟨?_, List.dropWhile_cons_of_neg (by rw [hg]; exact Bool.false_ne_true)⟩
      rw [leadingMarks, List.takeWhile_cons_of_neg (by rw [hg]; exact Bool.false_ne_true),
        List.flatten_nil]

theorem shown_of_newline_notMem {text : List Char} (h : '\n' ∉ text) :
    shown text = Text.clusters text := by
  refine List.filter_eq_self.mpr fun g hg => decide_eq_true ?_
  rintro rfl
  rw [← Text.flatten_clusters text] at h
  exact h (List.mem_flatten.mpr ⟨_, hg, List.mem_singleton_self _⟩)

/-- Nothing comes before the first cluster of a firm text. -/
theorem layText_of_firm {text : List Char} (h : Firm text) :
    entry.layText base style line room text =
      entry.layClusters base style line room (Text.clusters text) := by
  cases text with
  | nil => rfl
  | cons c cs =>
      have hwidth := h.width_pos (List.cons_ne_nil c cs)
      obtain ⟨hmarks, hclusters⟩ := leadingMarks_of_head_pos h.head_pos
      rw [layText, if_neg hwidth.ne', shown_of_newline_notMem h.newline_notMem, layFirst, hmarks,
        hclusters]
      split
      · next hnil =>
          rw [hnil]
          rfl
      · next g gs hcons =>
          rw [hcons]
          exact if_neg fun hroom => hroom.2.2 rfl

/-! ### Printable ASCII -/

theorem layClusters_of_plain {text : List Char} (h : Text.Plain text) :
    entry.layClusters base style line room (text.map ([·])) =
      ((inCells (style.apply base) text).take room,
        if text.length ≤ room then some (room - text.length) else none) := by
  induction text generalizing room with
  | nil => simp [layClusters, inCells]
  | cons c text ih =>
      obtain ⟨hc, htext⟩ := List.forall_mem_cons.mp h
      have hwidth : Text.width [c] = 1 := Text.width_of_plain (.singleton hc)
      rw [List.map_cons]
      cases room with
      | zero =>
          rw [layClusters_of_lt (by rw [hwidth]; exact Nat.one_pos)]
          rfl
      | succ room =>
          have hmarks : leadingMarks (text.map ([·])) = [] := by
            rw [← Text.clusters_of_plain htext]
            exact (leadingMarks_of_head_pos (Firm.of_plain htext).head_pos).1
          have hcell : entry.cells base style [c] (text.map ([·])) =
              [.glyph [c] (style.apply base)] := by
            rw [cells, hwidth, hmarks]
            rfl
          rw [layClusters_of_le (by rw [hwidth]; exact Nat.one_pos) (by rw [hwidth]; omega), hcell,
            hwidth, Nat.add_sub_cancel, ih htext, List.length_cons, Nat.add_sub_add_right]
          simp only [Nat.add_le_add_iff_right]
          rfl

theorem layText_of_plain {text : List Char} (h : Text.Plain text) :
    entry.layText base style line room text =
      ((inCells (style.apply base) text).take room,
        if text.length ≤ room then some (room - text.length) else none) := by
  rw [layText_of_firm (Firm.of_plain h), Text.clusters_of_plain h, layClusters_of_plain h]

/-- Where there is no room, nothing is shown. -/
theorem layLine_zero (flow : Flow) (spans : Line) : flow.layLine base line 0 spans = [] :=
  List.eq_nil_of_length_eq_zero (Nat.le_zero.mp (flow.length_layLine base line 0 spans))

/-- **Printable ASCII** is shown character by character, and the spans behind it in the room that
is left. -/
theorem layLine_cons_plain {text : List Char} (h : Text.Plain text) (style : Style)
    (spans : Line) :
    entry.layLine base line room (⟨text, style⟩ :: spans) =
      (inCells (style.apply base) text).take room ++
        entry.layLine base line (room - text.length) spans := by
  rw [layLine, layText_of_plain h]
  rcases Nat.lt_or_ge room text.length with hroom | hroom
  · rw [if_neg hroom.not_ge, Nat.sub_eq_zero_of_le hroom.le, layLine_zero, List.append_nil]
  · rw [if_pos hroom]

/-- A last span of firm text. -/
theorem layLine_singleton {text : List Char} (h : Firm text) (style : Style) :
    entry.layLine base line room [⟨text, style⟩] =
      (entry.layClusters base style line room (Text.clusters text)).1 := by
  rw [layLine, layText_of_firm h]
  split
  · next heq => rw [heq, layLine, List.append_nil]
  · next heq => rw [heq]

end Flow

end SourceCheck.Screen

import SourceCheck.Proofs.Text.Unescape
import SourceCheck.Text.Cluster
import SourceCheck.Text.Width

/-!
# Text — printable ASCII on a character grid

Characters from the blank to the tilde neither join nor cover each other.

* `clusters_of_plain`: each is a cluster of its own.
* `width_of_plain`: each takes one cell.
* `plain_escape`: escapes of such a text are such a text.
* `width_backslash_pos`: a text behind a backslash, such as an escaped string, takes some room
  whatever else it holds.
-/

namespace SourceCheck.Text

/-- All characters of the text are from the blank to the tilde. -/
def Plain (text : List Char) : Prop :=
  ∀ c ∈ text, isPlainAscii c = true

theorem isPlainAscii_iff {c : Char} : isPlainAscii c = true ↔ ' ' ≤ c ∧ c ≤ '~' := by
  rw [Char.le_def, Char.le_def, UInt32.le_iff_toNat_le, UInt32.le_iff_toNat_le, isPlainAscii,
    Bool.and_eq_true, decide_eq_true_eq, decide_eq_true_eq]
  rfl

namespace Plain

variable {c : Char} {text more : List Char}

theorem singleton (h : isPlainAscii c = true) : Plain [c] :=
  List.forall_mem_singleton.mpr h

theorem append (h : Plain text) (h' : Plain more) : Plain (text ++ more) :=
  List.forall_mem_append.mpr ⟨h, h'⟩

theorem of_all (h : text.all isPlainAscii = true) : Plain text :=
  List.all_eq_true.mp h

theorem leftpad (h : Plain text) (n : Nat) : Plain (text.leftpad n ' ') := by
  intro c hc
  rcases List.mem_append.mp hc with hc | hc
  · rw [List.eq_of_mem_replicate hc]
    rfl
  · exact h c hc

theorem rightpad (h : Plain text) (n : Nat) : Plain (text.rightpad n ' ') := by
  intro c hc
  rcases List.mem_append.mp hc with hc | hc
  · exact h c hc
  · rw [List.eq_of_mem_replicate hc]
    rfl

end Plain

/-! ### Clusters -/

theorem joining_of_isPlainAscii {c : Char} (h : isPlainAscii c = true) : joining c = .other := by
  have hreturn : c ≠ '\r' := by
    rintro rfl
    cases h
  have hnewline : c ≠ '\n' := by
    rintro rfl
    cases h
  rw [joining, if_neg hreturn, if_neg hnewline, if_pos (isPlainAscii_iff.mp h)]

theorem clustersFrom_of_plain {text : List Char} (h : Plain text) :
    clustersFrom .other text = ([], text.map ([·])) := by
  induction text with
  | nil => rfl
  | cons c text ih =>
      obtain ⟨hc, htext⟩ := List.forall_mem_cons.mp h
      have hnext : Tail.next? .other .other = none := rfl
      have hstart : Tail.start .other = .other := rfl
      rw [clustersFrom, joining_of_isPlainAscii hc, hnext, hstart, ih htext, List.map_cons]

/-- **Each character is a cluster.** -/
theorem clusters_of_plain {text : List Char} (h : Plain text) :
    clusters text = text.map ([·]) := by
  cases text with
  | nil => rfl
  | cons c text =>
      obtain ⟨hc, htext⟩ := List.forall_mem_cons.mp h
      have hstart : Tail.start .other = .other := rfl
      rw [clusters, joining_of_isPlainAscii hc, hstart, clustersFrom_of_plain htext, List.map_cons]

/-! ### Width -/

theorem push_of_isPlainAscii {c : Char} (h : isPlainAscii c = true) (w : Nat) :
    Measured.push c ⟨w, .plain, none⟩ = ⟨w + 1, .plain, none⟩ := by
  have hrange := isPlainAscii_iff.mp h
  have hemoji : c ≠ emojiSelector := by
    rintro rfl
    cases h
  have htext : c ≠ textSelector := by
    rintro rfl
    cases h
  have hnewline : c ≠ '\n' := by
    rintro rfl
    cases h
  have hwidth : charWidth c = 1 := if_pos hrange
  have hopening : Opening.ofChar c = .plain := by
    rw [Opening.ofChar, if_neg hnewline, if_pos hrange]
  have hplain : Measured.unselected c ⟨w, .plain, none⟩ = ⟨w + 1, .plain, none⟩ := by
    rw [Measured.unselected, Measured.plain, hwidth, hopening]
  rw [← hplain]
  simp [Measured.push, hemoji, htext]

theorem foldr_push_of_plain {text : List Char} (h : Plain text) :
    text.foldr Measured.push {} = ⟨text.length, .plain, none⟩ := by
  induction text with
  | nil => rfl
  | cons c text ih =>
      obtain ⟨hc, htext⟩ := List.forall_mem_cons.mp h
      rw [List.foldr_cons, ih htext, push_of_isPlainAscii hc, List.length_cons]

/-- **Each character takes one cell.** -/
theorem width_of_plain {text : List Char} (h : Plain text) : width text = text.length := by
  rw [width, foldr_push_of_plain h]

/-- A backslash has its own room, whatever it stands in front of. -/
theorem width_backslash_pos (text : List Char) : 0 < width ('\x5c' :: text) := by
  rw [width, List.foldr_cons]
  generalize text.foldr Measured.push {} = m
  have hown (m : Measured) : 0 < (m.unselected '\x5c').width := by
    have hpeople : people.has '\x5c' = false := by decide +kernel
    have hemoji : emojiStyle.has '\x5c' = false := by decide +kernel
    have hmark : isStackMark '\x5c' = false := by decide +kernel
    have hplain : 0 < (m.plain '\x5c').width := Nat.succ_pos m.width
    unfold Measured.unselected
    split
    case h_4 =>
      rw [hpeople]
      exact hplain
    case h_7 =>
      rw [hemoji]
      exact hplain
    case h_9 =>
      rw [hmark]
      exact hplain
    all_goals exact hplain
  have hselected (s : Selector) : m.selected s '\x5c' = none := by
    have hboth : bothStyles.has '\x5c' = false := by decide +kernel
    cases s <;> simp only [Measured.selected, hboth] <;> rfl
  have hnone : (m.selector.bind fun s => m.selected s '\x5c') = none := by
    cases m.selector with
    | none => rfl
    | some s => exact hselected s
  rw [Measured.push]
  simp only [hnone]
  exact hown _

/-! ### Escapes -/

theorem plain_numericEscape (c : Char) : Plain (numericEscape c) := by
  refine ((Plain.of_all (by decide)).append fun d hd => ?_).append (Plain.of_all (by decide))
  obtain ⟨n, hn, rfl⟩ := mem_toDigits hd
  exact (by decide : ∀ n < 16, isPlainAscii (Nat.digitChar n) = true) n hn

theorem plain_letterEscape {c : Char} {e : List Char} (h : letterEscape? c = some e) :
    Plain e := by
  unfold letterEscape? at h
  split at h <;> cases h <;> exact .of_all (by decide)

theorem plain_printableEscape {c : Char} (h : isPlainAscii c = true) :
    Plain (printableEscape c) := by
  unfold printableEscape
  split
  · exact .of_all (by decide)
  · split
    · next e he => exact plain_letterEscape he
    · rw [if_pos (isPrintable_of_isPlainAscii h)]
      exact .singleton h

/-- **Escapes of printable ASCII** are printable ASCII. -/
theorem plain_escape {text : List Char} (h : Plain text) : Plain (escape text) := by
  cases text with
  | nil => exact h
  | cons c text =>
      obtain ⟨hc, htext⟩ := List.forall_mem_cons.mp h
      rw [escape]
      refine Plain.append ?_ fun d hd => ?_
      · split
        · exact plain_numericEscape c
        · exact plain_printableEscape hc
      · obtain ⟨b, hb, hd⟩ := List.mem_flatMap.mp hd
        exact plain_printableEscape (htext b hb) d hd

theorem newline_notMem_escape (text : List Char) : '\n' ∉ escape text := by
  intro h
  exact absurd (isPrintable_of_mem_escape h) (by decide)

end SourceCheck.Text

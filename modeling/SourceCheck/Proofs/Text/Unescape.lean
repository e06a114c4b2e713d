import SourceCheck.Text.Escape
import Mathlib.Data.List.Basic

/-!
# Text — reading escapes back

`escape` writes a lexeme with printable characters only, and nothing of it is lost.

* `unescape`: the reader of escapes.  It takes what stands behind a backslash for a letter, or for
  a number in braces, and every other character for itself.
* `unescape_escape`: it undoes `escape` on every text, also on one that looks like an escape.
* `isPrintable_of_mem_escape`: the writing stays on one line.
-/

namespace SourceCheck.Text

/-! ### Hexadecimal numbers -/

def hexValue (c : Char) : Nat :=
  if c.isDigit then c.toNat - '0'.toNat else c.toNat - 'a'.toNat + 10

/-- The number that hexadecimal digits stand for. -/
def hexNumber (digits : List Char) : Nat :=
  digits.foldl (fun n c => 16 * n + hexValue c) 0

theorem hexValue_digitChar : ∀ d < 16, hexValue d.digitChar = d := by
  decide

theorem hexNumber_append_digit (digits : List Char) (c : Char) :
    hexNumber (digits ++ [c]) = 16 * hexNumber digits + hexValue c := by
  rw [hexNumber, hexNumber, List.foldl_append, List.foldl_cons, List.foldl_nil]

theorem hexNumber_toDigits (n : Nat) : hexNumber (Nat.toDigits 16 n) = n := by
  induction n using Nat.strongRecOn with
  | ind n ih =>
      rw [Nat.toDigits_eq_if (by decide)]
      split
      · next h => simp [hexNumber, hexValue_digitChar n h]
      · next h =>
          have hd := hexValue_digitChar (n % 16) (Nat.mod_lt _ (by decide))
          rw [hexNumber_append_digit, ih (n / 16) (by omega), hd]
          omega

theorem mem_toDigits {n : Nat} {c : Char} (h : c ∈ Nat.toDigits 16 n) :
    ∃ d < 16, c = Nat.digitChar d := by
  induction n using Nat.strongRecOn with
  | ind n ih =>
      rw [Nat.toDigits_eq_if (by decide)] at h
      split at h
      · next hn => exact ⟨n, hn, List.mem_singleton.mp h⟩
      · next hn =>
          rcases List.mem_append.mp h with h | h
          · exact ih (n / 16) (by omega) h
          · exact ⟨n % 16, Nat.mod_lt _ (by decide), List.mem_singleton.mp h⟩

theorem ne_brace_of_mem_toDigits {n : Nat} {c : Char} (h : c ∈ Nat.toDigits 16 n) :
    c ≠ '\x7d' := by
  obtain ⟨d, hd, rfl⟩ := mem_toDigits h
  exact (by decide : ∀ d < 16, Nat.digitChar d ≠ '\x7d') d hd

/-! ### The reader -/

/-- The character that a letter behind a backslash stands for. -/
def ofEscapeLetter : Char → Char
  | 't' => '\t'
  | 'r' => '\r'
  | 'n' => '\n'
  | '0' => '\x00'
  | c => c

/-- The character that the text behind a backslash starts with, and the rest. -/
def readEscape : List Char → Char × List Char
  | 'u' :: '\x7b' :: cs =>
    (Char.ofNat (hexNumber (cs.takeWhile (· != '\x7d'))), (cs.dropWhile (· != '\x7d')).tail)
  | c :: cs => (ofEscapeLetter c, cs)
  | [] => ('\x5c', [])

theorem length_readEscape_le (cs : List Char) : (readEscape cs).2.length ≤ cs.length := by
  fun_cases readEscape cs with
  | case1 cs =>
      have h := (List.dropWhile_suffix (l := cs) (· != '\x7d')).length_le
      simp only [List.length_tail, List.length_cons]
      omega
  | case2 c cs => simp
  | case3 => simp

/-- The text that an escaped one stands for. -/
def unescape : List Char → List Char
  | [] => []
  | c :: cs =>
    if c = '\x5c' then
      have := length_readEscape_le cs
      (readEscape cs).1 :: unescape (readEscape cs).2
    else c :: unescape cs
termination_by cs => cs.length

@[simp] theorem unescape_nil : unescape [] = [] := by
  rw [unescape]

theorem unescape_backslash (cs : List Char) :
    unescape ('\x5c' :: cs) = (readEscape cs).1 :: unescape (readEscape cs).2 := by
  rw [unescape, if_pos rfl]

theorem unescape_of_ne {c : Char} (h : c ≠ '\x5c') (cs : List Char) :
    unescape (c :: cs) = c :: unescape cs := by
  rw [unescape, if_neg h]

/-! ### Every escape reads back -/

theorem readEscape_number (c : Char) (rest : List Char) :
    readEscape ('u' :: '\x7b' :: (Nat.toDigits 16 c.toNat ++ '\x7d' :: rest)) = (c, rest) := by
  have hd : ∀ d ∈ Nat.toDigits 16 c.toNat, (d != '\x7d') = true := fun d h =>
    bne_iff_ne.mpr (ne_brace_of_mem_toDigits h)
  simp [readEscape, List.takeWhile_append_of_pos hd, List.dropWhile_append_of_pos hd,
    hexNumber_toDigits, Char.ofNat_toNat]

theorem unescape_numericEscape (c : Char) (rest : List Char) :
    unescape (numericEscape c ++ rest) = c :: unescape rest := by
  have h : numericEscape c ++ rest =
      '\x5c' :: 'u' :: '\x7b' :: (Nat.toDigits 16 c.toNat ++ '\x7d' :: rest) := by
    simp [numericEscape]
  rw [h, unescape_backslash, readEscape_number]

theorem unescape_letterEscape {c : Char} {e : List Char} (h : letterEscape? c = some e)
    (rest : List Char) : unescape (e ++ rest) = c :: unescape rest := by
  unfold letterEscape? at h
  split at h <;> cases h <;> exact unescape_backslash _

theorem ne_backslash_of_letterEscape? {c : Char} (h : letterEscape? c = none) : c ≠ '\x5c' := by
  rintro rfl
  cases h

theorem unescape_printableEscape (c : Char) (rest : List Char) :
    unescape (printableEscape c ++ rest) = c :: unescape rest := by
  unfold printableEscape
  split
  · next h =>
      subst h
      exact unescape_backslash _
  · split
    · next e h => exact unescape_letterEscape h rest
    · next h =>
        split
        · exact unescape_of_ne (ne_backslash_of_letterEscape? h) rest
        · exact unescape_numericEscape c rest

theorem unescape_flatMap (cs : List Char) : unescape (cs.flatMap printableEscape) = cs := by
  induction cs with
  | nil => exact unescape_nil
  | cons c cs ih => rw [List.flatMap_cons, unescape_printableEscape, ih]

/-- **Escapes read back**, whatever the text. -/
theorem unescape_escape (cs : List Char) : unescape (escape cs) = cs := by
  cases cs with
  | nil => exact unescape_nil
  | cons c cs =>
      rw [escape]
      split
      · rw [unescape_numericEscape, unescape_flatMap]
      · rw [unescape_printableEscape, unescape_flatMap]

theorem escape_injective : Function.Injective escape :=
  Function.LeftInverse.injective unescape_escape

/-! ### Escapes are printable -/

/-- The characters of ASCII from the blank to the tilde. -/
def isPlainAscii (c : Char) : Bool :=
  0x20 ≤ c.toNat && c.toNat ≤ 0x7E

/-- No range of either table meets plain ASCII. -/
theorem isPrintable_of_isPlainAscii {c : Char} (h : isPlainAscii c = true) :
    isPrintable c = true := by
  simp only [isPlainAscii, Bool.and_eq_true, decide_eq_true_eq] at h
  have hi : ∀ range ∈ ignorable, 0x7E < range.1 := by decide
  have hn : ∀ range ∈ unprintable, range.2 < 0x20 ∨ 0x7E < range.1 := by decide +kernel
  simp only [isPrintable, isIgnorable, Bool.and_eq_true, Bool.not_eq_true',
    Bool.eq_false_iff, ne_eq, Ranges.has_iff, not_exists, not_and]
  refine ⟨fun range hr _ => ?_, fun range hr _ => ?_⟩
  · have := hi range hr
    omega
  · have := hn range hr
    omega

theorem isPrintable_of_mem {cs : List Char} (h : cs.all isPlainAscii = true) {c : Char}
    (hc : c ∈ cs) : isPrintable c = true :=
  isPrintable_of_isPlainAscii (List.all_eq_true.mp h c hc)

theorem isPrintable_of_mem_toDigits {n : Nat} {c : Char} (h : c ∈ Nat.toDigits 16 n) :
    isPrintable c = true := by
  obtain ⟨d, hd, rfl⟩ := mem_toDigits h
  exact isPrintable_of_isPlainAscii
    ((by decide : ∀ d < 16, isPlainAscii (Nat.digitChar d) = true) d hd)

theorem isPrintable_of_mem_numericEscape {c d : Char} (h : d ∈ numericEscape c) :
    isPrintable d = true := by
  rw [numericEscape, List.append_assoc, List.mem_append, List.mem_append] at h
  rcases h with h | h | h
  · exact isPrintable_of_mem (by decide) h
  · exact isPrintable_of_mem_toDigits h
  · exact isPrintable_of_mem (by decide) h

theorem isPrintable_of_mem_letterEscape {c d : Char} {e : List Char}
    (h : letterEscape? c = some e) (hd : d ∈ e) : isPrintable d = true := by
  unfold letterEscape? at h
  split at h <;> cases h <;> exact isPrintable_of_mem (by decide) hd

theorem isPrintable_of_mem_printableEscape {c d : Char} (h : d ∈ printableEscape c) :
    isPrintable d = true := by
  unfold printableEscape at h
  split at h
  · exact isPrintable_of_mem (by decide) h
  · split at h
    · next e he => exact isPrintable_of_mem_letterEscape he h
    · split at h
      · next hp => rwa [List.mem_singleton.mp h]
      · exact isPrintable_of_mem_numericEscape h

theorem isPrintable_of_mem_escape {cs : List Char} {d : Char} (h : d ∈ escape cs) :
    isPrintable d = true := by
  cases cs with
  | nil => cases h
  | cons c cs =>
      rw [escape, List.mem_append] at h
      rcases h with h | h
      · split at h
        · exact isPrintable_of_mem_numericEscape h
        · exact isPrintable_of_mem_printableEscape h
      · obtain ⟨b, -, hb⟩ := List.mem_flatMap.mp h
        exact isPrintable_of_mem_printableEscape hb

end SourceCheck.Text

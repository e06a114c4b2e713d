import SourceCheck.Proofs.Text.Places

/-!
# Text — the bookkeeping of a reader

A reader can be asked for the next character in two ways (`Call`): `peek` leaves the character where
it is, `advance` takes it.

* `after_calls`: behind any calls the reader is between what they have taken and the rest.
* `compare_after_take`: of two places in a text, the one behind more characters has the greater
  position.
* `reader_bookkeeping`: so where a reader is, and where the last character was, follow from the
  number of characters that it has taken, and no two numbers give the same position.
-/

namespace SourceCheck

open Position (origin)

/-! ### Places in their order -/

namespace Position

/-- Further in a text is further in the order. -/
theorem after_take_lt {text : List Char} {m n : Nat} (h : m < n) (hn : n ≤ text.length) :
    origin.after (text.take m) < origin.after (text.take n) := by
  have hsplit : text.take n = text.take m ++ (text.drop m).take (n - m) := by
    rw [← List.take_add, Nat.add_sub_cancel' h.le]
  have hmore : (text.drop m).take (n - m) ≠ [] := by
    intro hnil
    have hl := congrArg List.length hnil
    rw [List.length_take, List.length_drop, List.length_nil] at hl
    omega
  rw [hsplit, after_append]
  exact lt_after _ hmore

/-- **Positions are ordered as the numbers of characters before them.** -/
theorem compare_after_take {text : List Char} {m n : Nat} (hm : m ≤ text.length)
    (hn : n ≤ text.length) :
    compare (origin.after (text.take m)) (origin.after (text.take n)) = compare m n := by
  rcases Nat.lt_trichotomy m n with h | rfl | h
  · rw [Nat.compare_eq_lt.mpr h]
    exact if_pos (after_take_lt h hn)
  · rw [Nat.compare_eq_eq.mpr rfl]
    exact (if_neg (lt_irrefl _)).trans (if_pos rfl)
  · have hlt := after_take_lt h hm
    rw [Nat.compare_eq_gt.mpr h]
    exact (if_neg hlt.asymm).trans (if_neg hlt.ne')

end Position

/-! ### Calls -/

namespace Reader

/-- The two ways to ask for a character. -/
inductive Call where
  | peek
  | advance
deriving DecidableEq

/-- What a call returns, and the reader behind it. -/
def call (r : Reader) : Call → Option Char × Reader
  | .peek => (r.peek, r)
  | .advance => (r.peek, r.advance)

/-- The reader behind some calls. -/
def after (r : Reader) : List Call → Reader
  | [] => r
  | c :: calls => (r.call c).2.after calls

/-- The characters that a call takes: the one that `advance` returns, if there is one. -/
def piece (r : Reader) : Call → List Char
  | .peek => []
  | .advance => (r.call .advance).1.toList

/-- The characters that some calls take. -/
def taken (r : Reader) : List Call → List Char
  | [] => []
  | c :: calls => r.piece c ++ (r.call c).2.taken calls

/-- Either call returns the first of the characters ahead. -/
theorem call_fst (r : Reader) (c : Call) : (r.call c).1 = r.rest.head? := by
  cases c <;> rfl

/-- At the end of the text a call does nothing. -/
theorem call_of_rest_eq_nil {r : Reader} (h : r.rest = []) (c : Call) : r.call c = (none, r) := by
  obtain ⟨rest, here, last⟩ := r
  obtain rfl : rest = [] := h
  cases c <;> rfl

/-- **One call** leaves the reader between what is taken and the rest. -/
theorem call_between (before rest : List Char) (c : Call) :
    ∃ rest', rest = (between before rest).piece c ++ rest' ∧
      ((between before rest).call c).2 =
        between (before ++ (between before rest).piece c) rest' := by
  cases c with
  | peek =>
      refine ⟨rest, rfl, ?_⟩
      rw [piece, List.append_nil]
      rfl
  | advance =>
      cases rest with
      | nil =>
          refine ⟨[], rfl, ?_⟩
          rw [call_of_rest_eq_nil rfl]
          exact (congrArg (between · []) (List.append_nil before)).symm
      | cons d rest => exact ⟨rest, rfl, advance_between before rest d⟩

/-- **Any calls** do. -/
theorem after_calls (before rest : List Char) (calls : List Call) :
    ∃ rest', rest = (between before rest).taken calls ++ rest' ∧
      (between before rest).after calls =
        between (before ++ (between before rest).taken calls) rest' := by
  induction calls generalizing before rest with
  | nil =>
      refine ⟨rest, rfl, ?_⟩
      rw [taken, List.append_nil]
      rfl
  | cons c calls ih =>
      obtain ⟨mid, hmid, hcall⟩ := call_between before rest c
      obtain ⟨rest', hrest, hafter⟩ := ih (before ++ (between before rest).piece c) mid
      rw [taken, after, hcall]
      refine ⟨rest', ?_, ?_⟩
      · rw [List.append_assoc, ← hrest]
        exact hmid
      · rw [← List.append_assoc]
        exact hafter

/-- A reader of a text is behind as many characters of it as were taken. -/
theorem after_eq_between (source : String) (calls : List Call) :
    let n := ((ofString source).taken calls).length
    n ≤ source.toList.length ∧ (ofString source).taken calls = source.toList.take n ∧
      (ofString source).after calls = between (source.toList.take n) (source.toList.drop n) := by
  obtain ⟨rest, htext, hafter⟩ := after_calls [] source.toList calls
  rw [← ofString_eq_between] at htext hafter
  intro n
  have htake : source.toList.take n = (ofString source).taken calls := by
    rw [htext]
    exact List.take_left
  have hdrop : source.toList.drop n = rest := by
    rw [htext]
    exact List.drop_left
  refine ⟨?_, htake.symm, ?_⟩
  · rw [htext, List.length_append]
    exact Nat.le_add_right n rest.length
  · rw [hafter, htake, hdrop, List.nil_append]

/-- The last of some first characters of a text is behind all but one of them. -/
theorem lastRead_between_take {text : List Char} {m : Nat} (h : m < text.length)
    (rest : List Char) :
    (between (text.take (m + 1)) rest).lastRead = origin.after (text.take m) := by
  rw [List.take_succ_eq_append_getElem h]
  exact lastRead_between (text.take m) rest text[m]

end Reader

open Reader

/-- **The bookkeeping of a reader.**  Let some calls be made of a reader of a text, in any order,
and let them take `n` characters.

* These are the first `n` of the text, in order, and the next call returns the one behind them.
* The reader is at the position that counts the line feeds among them and the characters behind the
  last of these.
* The last character read is where the reader was when it had taken one less, and at the first
  position if none was taken.
* At the end of the text a call returns nothing and changes nothing.
* The order of positions is that of the numbers of characters, so different numbers have different
  positions. -/
theorem reader_bookkeeping (source : String) (calls : List Reader.Call) :
    let r := (Reader.ofString source).after calls
    let n := ((Reader.ofString source).taken calls).length
    (Reader.ofString source).taken calls = source.toList.take n ∧
    (∀ c, (r.call c).1 = source.toList[n]?) ∧
    r.here = ⟨1 + (source.toList.take n).count '\n',
      1 + ((source.toList.take n).rtakeWhile (· ≠ '\n')).length⟩ ∧
    (n = 0 → r.lastRead = ⟨1, 1⟩) ∧
    (∀ earlier, ((Reader.ofString source).taken earlier).length + 1 = n →
      r.lastRead = ((Reader.ofString source).after earlier).here) ∧
    (n = source.toList.length → ∀ c, r.call c = (none, r)) ∧
    ∀ calls', compare r.here ((Reader.ofString source).after calls').here =
      compare n ((Reader.ofString source).taken calls').length := by
  intro r n
  obtain ⟨hn, htaken, hr⟩ : n ≤ source.toList.length ∧ _ ∧
      r = between (source.toList.take n) (source.toList.drop n) := after_eq_between source calls
  have hhere : r.here = origin.after (source.toList.take n) := congrArg Reader.here hr
  refine ⟨htaken, fun c => ?_, ?_, fun hzero => ?_, fun earlier he => ?_, fun hend c => ?_,
    fun calls' => ?_⟩
  · rw [call_fst, hr, rest_between, List.head?_drop]
  · rw [hhere, Position.after_origin, Position.counted]
  · rw [hr, hzero, List.take_zero]
    rfl
  · obtain ⟨-, -, hearlier⟩ := after_eq_between source earlier
    rw [hr, hearlier, here_between, ← he]
    exact lastRead_between_take (he.trans_le hn) _
  · refine call_of_rest_eq_nil ?_ c
    rw [hr, rest_between, hend, List.drop_length]
  · obtain ⟨hn', -, hr'⟩ := after_eq_between source calls'
    rw [hhere, hr', here_between]
    exact Position.compare_after_take hn hn'

/-- Behind a line feed: the reader is on the next line, the line feed is at the end of the line
before, and the character behind it ends the text. -/
theorem reader_bookkeeping_newline :
    let r := (Reader.ofString "a\nb").after [.advance, .peek, .advance]
    r.here = ⟨2, 1⟩ ∧ r.lastRead = ⟨1, 2⟩ ∧ (r.call .peek).1 = some 'b' ∧
      ∀ c, (r.advance).call c = (none, r.advance) := by
  intro r
  obtain ⟨-, hnext, hhere, -, hlast, -, -⟩ :=
    reader_bookkeeping "a\nb" [.advance, .peek, .advance]
  obtain ⟨-, -, -, -, -, hend, -⟩ :=
    reader_bookkeeping "a\nb" [.advance, .peek, .advance, .advance]
  exact ⟨hhere, hlast [.advance] rfl, hnext .peek, hend rfl⟩

end SourceCheck

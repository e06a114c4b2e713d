import SourceCheck.Proofs.Scan.Decomposition

/-!
# Scan — calls of a scanner

A scanner can be asked for the next token in two ways (`Call`), and in any order.  A scanner that
has been asked stands somewhere in its text (`standing`).

* `call_standing`: what one call can do.  It takes some text, not empty if it finds a token or a
  flaw, and looks at one character more; its answer depends on this much only, up to the place
  where the text begins.
* `calls_standing`: what any calls can do, by induction from it.
* `calls_of_scanner`: the text is taken piece by piece, so there are no more finds than
  characters; the end of the input is final, and so is a flaw for `next`; behind a flaw
  `nextToken` goes on as on a text of its own.
-/

namespace SourceCheck.Scan

/-! ### One character of lookahead -/

section

variable {rest rest' : List Char} (hh : rest'.head? = rest.head?)
include hh

theorem Ends.of_head? {k : Kind} {l : List Char} (h : Ends k l rest) : Ends k l rest' := by
  rw [Ends, hh]
  exact h

theorem Flawed.of_head? {f : Flaw} {upto taken : List Char} (h : Flawed f upto taken rest) :
    Flawed f upto taken rest' := by
  cases h with
  | stray h => exact .stray h
  | point hd hr => exact .point hd (hh ▸ hr)
  | secondPoint hd hf hn => exact .secondPoint hd hf hn
  | string h =>
      obtain rfl := List.head?_eq_none_iff.mp hh
      exact .string h
  | comment h =>
      obtain rfl := List.head?_eq_none_iff.mp hh
      exact .comment h

end

theorem Flawed.taken_ne_nil {f : Flaw} {upto taken rest : List Char}
    (h : Flawed f upto taken rest) : taken ≠ [] := by
  cases h <;> simp

end SourceCheck.Scan

namespace SourceCheck

/-! ### Calls and answers -/

/-- The two ways to ask for a token. -/
inductive Call where
  | nextToken
  | next
deriving DecidableEq

/-- What a call returns: a token, the end of the input, or a flaw. -/
abbrev Answer := Except LexicalError (Option Token)

namespace Answer

/-- The answer is a token or a flaw. -/
def isFind : Answer → Bool
  | .ok none => false
  | .ok (some _) | .error _ => true

/-- Whether the scan is over with this answer to the call. -/
def ends (c : Call) : Answer → Bool
  | .ok none => true
  | .ok (some _) => false
  | .error _ => c = .next

/-- The same answer about a text that begins at `p`. -/
def shift (p : Position) : Answer → Answer
  | .ok none => .ok none
  | .ok (some t) => .ok (some { t with location := p.shift t.location })
  | .error e => .error { e with location := p.shift e.location }

/-- A part that begins behind `taken` of a part that begins behind `before`. -/
theorem shift_shift (before taken : List Char) (a : Answer) :
    (a.shift (Position.origin.after taken)).shift (Position.origin.after before) =
      a.shift (Position.origin.after (before ++ taken)) := by
  have hs : ∀ q, (Position.origin.after before).shift ((Position.origin.after taken).shift q) =
      (Position.origin.after (before ++ taken)).shift q := by
    intro q
    rw [Position.shift_shift _ (Position.one_le_after_origin taken), Position.shift_after,
      Position.after_append]
  rcases a with e | _ | t
  · simp only [shift, hs]
  · rfl
  · simp only [shift, hs]

theorem ends_shift (p : Position) (c : Call) (a : Answer) : (a.shift p).ends c = a.ends c := by
  rcases a with e | _ | t <;> rfl

@[simp] theorem isFind_shift (p : Position) (a : Answer) : (a.shift p).isFind = a.isFind := by
  rcases a with e | _ | t <;> rfl

end Answer

namespace Scanner

open Reader (between)
open Scan

def call (s : Scanner) : Call → Answer × Scanner
  | .nextToken => s.nextToken
  | .next => s.next

/-- The scanner behind some calls. -/
def after (s : Scanner) : List Call → Scanner
  | [] => s
  | c :: calls => (s.call c).2.after calls

/-- What each of the calls returns. -/
def answers (s : Scanner) : List Call → List Answer
  | [] => []
  | c :: calls => (s.call c).1 :: (s.call c).2.answers calls

/-- The characters that were ahead before a call and no longer are. -/
def piece (s : Scanner) (c : Call) : List Char :=
  s.reader.rest.take (s.reader.rest.length - (s.call c).2.reader.rest.length)

/-- What each of the calls takes. -/
def pieces (s : Scanner) : List Call → List (List Char)
  | [] => []
  | c :: calls => s.piece c :: (s.call c).2.pieces calls

/-! ### One call -/

/-- The scanner that has taken `before` and has `rest` ahead. -/
def standing (before rest : List Char) (finished : Bool) : Scanner :=
  ⟨between before rest, finished⟩

theorem ofString_eq_standing (source : String) :
    ofString source = standing [] source.toList false := rfl

@[simp] theorem rest_standing (before rest : List Char) (finished : Bool) :
    (standing before rest finished).reader.rest = rest := rfl

@[simp] theorem location_standing (before rest : List Char) (finished : Bool) :
    (standing before rest finished).location = Position.origin.after before := rfl

theorem call_finished (before rest : List Char) (c : Call) :
    (standing before rest true).call c = (.ok none, standing before rest true) := by
  cases c <;> simp [call, standing]

section

variable {before text : List Char} {r : Reader} (c : Call)

theorem call_of_scan_finish (h : (between before text).scan = .finish r) :
    (standing before text false).call c = (.ok none, ⟨r, true⟩) := by
  cases c <;> simp [call, next, nextToken, standing, h]

theorem call_of_scan_token {t : Token} (h : (between before text).scan = .token t r) :
    (standing before text false).call c = (.ok (some t), ⟨r, false⟩) := by
  cases c <;> simp [call, next, nextToken, standing, h]

theorem call_of_scan_flaw {e : LexicalError} (h : (between before text).scan = .flaw e r) :
    (standing before text false).call c = (.error e, ⟨r, c = .next⟩) := by
  cases c <;> simp [call, next, nextToken, standing, h]

end

/-- **One call.**  It takes some text and looks at one character more.  The answer is that to a
text of its own, about the place where the text begins; unless it is the end of the input, some
text is taken. -/
theorem call_standing (text : List Char) (finished : Bool) (c : Call) :
    ∃ (answer : Answer) (taken rest : List Char), text = taken ++ rest ∧
      (answer.isFind = true → taken ≠ []) ∧
      ∀ before rest', rest'.head? = rest.head? →
        (standing before (taken ++ rest') finished).call c =
          (answer.shift (Position.origin.after before),
            standing (before ++ taken) rest' (answer.ends c)) := by
  cases finished with
  | true =>
      refine ⟨.ok none, [], text, rfl, by simp [Answer.isFind], fun before rest' _ => ?_⟩
      rw [List.nil_append, List.append_nil, call_finished]
      rfl
  | false =>
      -- what a text begins with is the same wherever the text stands
      obtain ⟨found, h⟩ := met [] text
      cases h with
      | finish hg =>
          refine ⟨.ok none, text, [], by simp, by simp [Answer.isFind], fun before rest' hh => ?_⟩
          obtain rfl := List.head?_eq_none_iff.mp hh
          rw [List.append_nil, call_of_scan_finish c (scan_lastGap hg before)]
          rfl
      | @token g l rest k hg hl he =>
          refine ⟨.ok (some ⟨k, String.ofList l, Position.origin.after g⟩), g ++ l, rest, by simp,
            by simp [hl.ne_nil], fun before rest' hh => ?_⟩
          have hs : (between before (g ++ (l ++ rest'))).scan = _ :=
            (scan_gap hg before _).trans (scan_lexeme hl _ _ (he.of_head? hh))
          rw [List.append_assoc, call_of_scan_token c hs, Answer.shift, Position.shift_after,
            ← Position.after_append, ← List.append_assoc]
          rfl
      | @flaw g upto taken rest f hg hf =>
          refine ⟨.error ⟨f, Position.origin.after (g ++ upto)⟩, g ++ taken, rest, by simp,
            by simp [hf.taken_ne_nil], fun before rest' hh => ?_⟩
          have hs : (between before (g ++ (taken ++ rest'))).scan = _ :=
            (scan_gap hg before _).trans (scan_flawed (hf.of_head? hh) _)
          rw [List.append_assoc, call_of_scan_flaw c hs, Answer.shift, Position.shift_after,
            ← Position.after_append, ← List.append_assoc, ← List.append_assoc]
          rfl

theorem piece_of_call {before taken rest : List Char} {finished : Bool} {c : Call} {s : Scanner}
    {a : Answer} (h : (standing before (taken ++ rest) finished).call c = (a, s))
    (hr : s.reader.rest = rest) : (standing before (taken ++ rest) finished).piece c = taken := by
  simp [piece, h, hr]

/-! ### Many calls -/

/-- A find has some text to itself. -/
def Paid (a : Answer) (piece : List Char) : Prop :=
  a.isFind = true → piece ≠ []

theorem paid_shift (p : Position) {answers : List Answer} {pieces : List (List Char)}
    (h : List.Forall₂ Paid answers pieces) :
    List.Forall₂ Paid (answers.map (Answer.shift p)) pieces := by
  rw [List.forall₂_map_left_iff]
  exact h.imp fun a piece ha hf => ha (by simpa using hf)

/-- There are no more finds than characters to pay for them. -/
theorem countP_isFind_le {answers : List Answer} {pieces : List (List Char)}
    (h : List.Forall₂ Paid answers pieces) :
    answers.countP Answer.isFind ≤ pieces.flatten.length := by
  induction h with
  | nil => simp
  | @cons a piece answers pieces hp _ ih =>
      rw [List.flatten_cons, List.length_append]
      by_cases hf : a.isFind = true
      · have hl := List.length_pos_iff.mpr (hp hf)
        rw [List.countP_cons_of_pos hf]
        omega
      · rw [List.countP_cons_of_neg hf]
        omega

/-- **Many calls.**  They take text piece by piece, and their answers are those to a text of its
own, about the place where the text begins. -/
theorem calls_standing (calls : List Call) (text : List Char) (finished : Bool) :
    ∃ (answers : List Answer) (pieces : List (List Char)) (rest : List Char) (finished' : Bool),
      text = pieces.flatten ++ rest ∧ List.Forall₂ Paid answers pieces ∧
      ∀ before,
        (standing before text finished).answers calls =
          answers.map (Answer.shift (Position.origin.after before)) ∧
        (standing before text finished).pieces calls = pieces ∧
        (standing before text finished).after calls =
          standing (before ++ pieces.flatten) rest finished' := by
  induction calls generalizing text finished with
  | nil =>
      refine ⟨[], [], text, finished, rfl, .nil, fun before => ⟨rfl, rfl, ?_⟩⟩
      rw [List.flatten_nil, List.append_nil, after]
  | cons c calls ih =>
      obtain ⟨answer, taken, mid, rfl, hfind, hcall⟩ := call_standing text finished c
      obtain ⟨answers, pieces, rest, finished', rfl, hpaid, hcalls⟩ := ih mid (answer.ends c)
      -- the later answers are about what is behind `taken`
      refine ⟨answer :: answers.map (Answer.shift (Position.origin.after taken)),
        taken :: pieces, rest, finished', by simp, .cons hfind (paid_shift _ hpaid),
        fun before => ?_⟩
      have hc := hcall before _ rfl
      obtain ⟨ha, hp, hs⟩ := hcalls (before ++ taken)
      refine ⟨?_, ?_, ?_⟩
      · rw [Scanner.answers, hc, ha, List.map_cons, List.map_map]
        simp only [Function.comp_def, Answer.shift_shift]
      · rw [Scanner.pieces, piece_of_call hc rfl, hc, hp]
      · rw [after, hc, hs, List.flatten_cons, List.append_assoc]

/-- The end is final: a scanner that has finished gives nothing more and stays where it is. -/
theorem calls_finished (before rest : List Char) (calls : List Call) :
    (∀ a ∈ (standing before rest true).answers calls, a = .ok none) ∧
      ((standing before rest true).after calls).location =
        (standing before rest true).location := by
  induction calls with
  | nil => exact ⟨by simp [answers], rfl⟩
  | cons c calls ih =>
      simp only [answers, after, call_finished, List.mem_cons, forall_eq_or_imp, true_and]
      exact ih

/-- A scanner that has not finished goes on as a new one on the text that is left. -/
theorem calls_unfinished (before rest : List Char) (calls : List Call) :
    (standing before rest false).answers calls =
        ((ofString (String.ofList rest)).answers calls).map
          (Answer.shift (Position.origin.after before)) ∧
      ((standing before rest false).after calls).location =
        (Position.origin.after before).shift
          ((ofString (String.ofList rest)).after calls).location := by
  obtain ⟨answers, pieces, rest', finished', -, -, hcalls⟩ := calls_standing calls rest false
  obtain ⟨ha, -, hs⟩ := hcalls before
  obtain ⟨ha₀, -, hs₀⟩ := hcalls []
  rw [ofString_eq_standing, String.toList_ofList, ha, ha₀, hs, hs₀, List.map_map]
  refine ⟨?_, ?_⟩
  · simp only [Function.comp_def, Answer.shift_shift, List.append_nil]
  · rw [location_standing, location_standing, Position.shift_after, List.nil_append,
      Position.after_append]

end Scanner

open Scanner

/-- **The protocol of a scanner.**  Let some calls be made of a scanner, in any order.

* What they take is a first part of the text, in order and without a break, and the scanner stands
  right behind it.  A token and a flaw take at least one character, so there are no more of them
  than characters.
* Behind the end of the input, and for `next` behind a flaw, every further call finds the end of
  the input and the scanner does not move.
* Behind a flaw that `nextToken` found, further calls go as on a new scanner of the text that is
  left, at positions shifted to where it begins. -/
theorem calls_of_scanner (source : String) (calls : List Call) :
    let s := Scanner.ofString source
    (s.pieces calls).flatten ++ (s.after calls).reader.rest = source.toList ∧
    (s.after calls).location = .counted (s.pieces calls).flatten ∧
    List.Forall₂ Paid (s.answers calls) (s.pieces calls) ∧
    (s.answers calls).countP Answer.isFind ≤ source.toList.length ∧
    ∀ c answer s', (s.after calls).call c = (answer, s') → ∀ more,
      (answer = .ok none ∨ c = .next ∧ (∃ e, answer = .error e) →
        (∀ a ∈ s'.answers more, a = .ok none) ∧ (s'.after more).location = s'.location) ∧
      (c = .nextToken → (∃ e, answer = .error e) →
        let s₀ := Scanner.ofString (String.ofList s'.reader.rest)
        s'.answers more = (s₀.answers more).map (Answer.shift s'.location) ∧
        (s'.after more).location = s'.location.shift (s₀.after more).location) := by
  intro s
  obtain ⟨answers, pieces, rest, finished, htext, hpaid, hcalls⟩ :=
    calls_standing calls source.toList false
  obtain ⟨ha, hp, hs⟩ := hcalls []
  rw [← ofString_eq_standing] at ha hp hs
  have hpaid' : List.Forall₂ Paid (s.answers calls) (s.pieces calls) := by
    rw [ha, hp]
    exact paid_shift _ hpaid
  refine ⟨?_, ?_, hpaid', ?_, fun c answer s' hc more => ?_⟩
  · rw [hp, hs, rest_standing, htext]
  · rw [hp, hs, location_standing, List.nil_append, Position.after_origin]
  · have hle := countP_isFind_le hpaid'
    rw [hp] at hle
    rw [htext, List.length_append]
    omega
  · obtain ⟨found, taken, rest', rfl, -, hcall⟩ := call_standing rest finished c
    rw [hs, hcall _ rest' rfl] at hc
    obtain ⟨rfl, rfl⟩ := Prod.mk.inj hc
    refine ⟨fun hend => ?_, fun hn herr => ?_⟩
    · have he : found.ends c = true := by
        rcases hend with h | ⟨rfl, e, h⟩ <;> rw [← Answer.ends_shift, h] <;> rfl
      rw [he]
      exact calls_finished ..
    · have he : found.ends c = false := by
        obtain ⟨e, h⟩ := herr
        subst hn
        rw [← Answer.ends_shift, h]
        rfl
      rw [he]
      exact calls_unfinished ..

/-- A number that goes wrong on the second line: `nextToken` goes on behind it, `next` does not. -/
theorem calls_of_scanner_number :
    let s := Scanner.ofString "a\n1..5"
    let e : LexicalError := ⟨.missingDigitAfterPoint, ⟨2, 2⟩⟩
    (∃ s', (s.after [.nextToken]).call .nextToken = (.error e, s') ∧
      s'.answers [.nextToken, .next] =
        ((Scanner.ofString ".5").answers [.nextToken, .next]).map (Answer.shift ⟨2, 3⟩)) ∧
    ∃ s', (s.after [.nextToken]).call .next = (.error e, s') ∧
      ∀ a ∈ s'.answers [.nextToken, .next], a = .ok none := by
  intro s e
  obtain ⟨-, -, -, -, h⟩ := calls_of_scanner "a\n1..5" [.nextToken]
  have hc : (s.after [.nextToken]).call .nextToken =
      (.error e, ⟨⟨['.', '5'], ⟨2, 3⟩, some ⟨2, 2⟩⟩, false⟩) := by cbv
  have hc' : (s.after [.nextToken]).call .next =
      (.error e, ⟨⟨['.', '5'], ⟨2, 3⟩, some ⟨2, 2⟩⟩, true⟩) := by cbv
  exact ⟨⟨_, hc, ((h _ _ _ hc _).2 rfl ⟨e, rfl⟩).1⟩, _, hc',
    ((h _ _ _ hc' _).1 (Or.inr ⟨rfl, e, rfl⟩)).1⟩

end SourceCheck

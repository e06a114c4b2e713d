import SourceCheck.Inspector.Highlight
import SourceCheck.Proofs.Scan.Lexeme
import SourceCheck.Proofs.Text.LinePlaces

/-!
# Inspector — the tones of a text

Of the roles that a character can have, two are told apart here from all others: comment and string
(`Tone`).  The tones of a line follow it character by character (`tones_code`, `tones_inside`), and
those of all lines make a painting (`paint`).

* `Shaded`: some characters of one line have a tone, and leave a block comment open or not.
* `Walk`: some text does, which can have line breaks.  Along a walk every character has the tone
  (`Walk.tone`), a block comment is open or not at each line feed (`Walk.flag`), and the text behind
  it is painted as it is alone (`Walk.passes`).
-/

namespace SourceCheck

open Position (origin)
open Text (isLineEnd)

/-- What a character is, as far as comments and strings go. -/
inductive Tone where
  | code | comment | string
deriving DecidableEq

def Role.tone : Role → Tone
  | comment => .comment
  | string => .string
  | _ => .code

namespace Highlight

/-! ### Lines -/

/-- The tones of the characters of a piece. -/
def Piece.tones (p : Piece) : List Tone :=
  List.replicate p.text.length p.role.tone

/-- The tones of a line, and whether a block comment is open at its end. -/
def tones (inside : Bool) (l : List Char) : List Tone × Bool :=
  ((line inside l).1.flatMap Piece.tones, (line inside l).2)

/-- Some tones in front of those of a line. -/
def behind (ts : List Tone) (line : List Tone × Bool) : List Tone × Bool :=
  (ts ++ line.1, line.2)

theorem tones_nil (inside : Bool) : tones inside [] = ([], inside) := by
  simp [tones, line]

theorem tones_cons (inside : Bool) (c : Char) (cs : List Char) :
    tones inside (c :: cs) =
      behind (cut inside c cs).piece.tones (tones (cut inside c cs).inside (cut inside c cs).rest) := by
  simp [tones, behind, line]

theorem tone_ofWord (word : List Char) : (Role.ofWord word).tone = .code := by
  unfold Role.ofWord
  split
  · rfl
  split
  · next k hk =>
      have hs : Kind.keywords.all (fun k => (Role.ofKind k).tone = .code) = true := by decide
      simpa using List.all_eq_true.mp hs k (Kind.ofWord?_eq_some_iff.mp hk).1
  · rfl

theorem tone_ofChar (c : Char) : (Role.ofChar c).tone = .code := by
  unfold Role.ofChar
  split
  · rfl
  · split <;> rfl

/-- A character that opens neither a comment nor a string. -/
structure Plain (c : Char) (cs : List Char) : Prop where
  ne_hash : c ≠ '#'
  ne_quote : c ≠ '\x22'
  not_open : c = '/' → cs.head? ≠ some '*'

theorem cut_plain {c : Char} {cs : List Char} (h : Plain c cs) :
    cut false c cs =
      if isRunPart c then
        ⟨⟨c :: cs.takeWhile isRunPart, .ofWord (c :: cs.takeWhile isRunPart)⟩,
          cs.dropWhile isRunPart, false⟩
      else ⟨⟨[c], .ofChar c⟩, cs, false⟩ := by
  have hopen : ¬ (c = '/' ∧ cs.head? = some '*') := fun ho => h.not_open ho.1 ho.2
  simp [cut, cutCode, hopen, h.ne_hash, h.ne_quote]

theorem plain_of_isRunPart {c : Char} (h : isRunPart c = true) (cs : List Char) : Plain c cs := by
  refine ⟨?_, ?_, ?_⟩ <;> rintro rfl <;> exact absurd h (by decide)

/-- **Code.**  A run that is cut as one piece has the same tone all along. -/
theorem tones_code {c : Char} {cs : List Char} (h : Plain c cs) :
    tones false (c :: cs) = behind [.code] (tones false cs) := by
  rw [tones_cons, cut_plain h]
  split
  · cases cs with
    | nil => simp [Piece.tones, tone_ofWord, behind, tones_nil]
    | cons d ds =>
        by_cases hd : isRunPart d = true
        · rw [tones_cons false d, cut_plain (plain_of_isRunPart hd ds)]
          simp [hd, Piece.tones, tone_ofWord, behind, List.replicate_succ]
        · simp [hd, Piece.tones, tone_ofWord, behind]
  · simp [Piece.tones, tone_ofChar]

theorem tones_lineComment (cs : List Char) :
    tones false ('#' :: cs) = (List.replicate (cs.length + 1) .comment, false) := by
  rw [tones_cons]
  simp [cut, cutCode, Piece.tones, Role.tone, behind, tones_nil]

theorem tones_string {body : List Char} (h : '\x22' ∉ body) (cs : List Char) :
    tones false ('\x22' :: (body ++ '\x22' :: cs)) =
      behind (List.replicate (body.length + 2) .string) (tones false cs) := by
  have hbody : ∀ c ∈ body, (c != '\x22') = true := fun c hc => by
    simpa using ne_of_mem_of_not_mem hc h
  rw [tones_cons]
  simp [cut, cutCode, Piece.tones, Role.tone, List.takeWhile_append_of_pos hbody,
    List.dropWhile_append_of_pos hbody]

/-- Inside a block comment the first end of one decides. -/
theorem tones_true (cs : List Char) :
    tones true cs =
      match splitComment? cs with
      | some (body, rest) => behind (List.replicate body.length .comment) (tones false rest)
      | none => (List.replicate cs.length .comment, true) := by
  cases cs with
  | nil => simp [tones_nil, splitComment?]
  | cons c cs =>
      rw [tones_cons, cut, if_pos rfl, cutComment]
      cases splitComment? (c :: cs) <;> simp [Piece.tones, Role.tone, behind, tones_nil]

theorem tones_open (cs : List Char) :
    tones false ('/' :: '*' :: cs) = behind [.comment, .comment] (tones true cs) := by
  have hcut : cut false '/' ('*' :: cs) = cutComment ['/', '*'] cs := by simp [cut, cutCode]
  rw [tones_cons, hcut, tones_true, cutComment]
  cases splitComment? cs <;> simp [Piece.tones, Role.tone, behind, tones_nil, List.replicate_succ]

theorem tones_inside {c : Char} {cs : List Char} (h : c = '*' → cs.head? ≠ some '/') :
    tones true (c :: cs) = behind [.comment] (tones true cs) := by
  have hsplit : splitComment? (c :: cs) = (splitComment? cs).map (Prod.map (c :: ·) id) := by
    rw [splitComment?]
    · rfl
    · rintro rest rfl rfl
      exact h rfl rfl
  rw [tones_true, tones_true, hsplit]
  cases splitComment? cs <;> simp [behind, List.replicate_succ]

theorem tones_close (cs : List Char) :
    tones true ('*' :: '/' :: cs) = behind [.comment, .comment] (tones false cs) := by
  rw [tones_true, splitComment?]
  simp [List.replicate_succ]

/-! ### Paintings -/

/-- For each of some lines, whether a block comment is open before it, and its tones. -/
def paintLines (inside : Bool) : List (List Char) → List (Bool × List Tone)
  | [] => []
  | l :: ls => (inside, (tones inside l).1) :: paintLines (tones inside l).2 ls

/-- The painting of a text. -/
def paint (inside : Bool) (text : List Char) : List (Bool × List Tone) :=
  paintLines inside (Text.lines text)

/-- Some tones in front of the first line of a painting. -/
def ahead (inside : Bool) (ts : List Tone) : List (Bool × List Tone) → List (Bool × List Tone)
  | [] => [(inside, ts)]
  | (_, l) :: more => (inside, ts ++ l) :: more

theorem paint_newline (inside : Bool) (rest : List Char) :
    paint inside ('\n' :: rest) = (inside, []) :: paint inside rest := by
  simp [paint, paintLines, tones_nil]

theorem paint_return (inside : Bool) (rest : List Char) :
    paint inside ('\r' :: '\n' :: rest) = (inside, []) :: paint inside rest := by
  simp [paint, paintLines, tones_nil]

/-- The tone at a position. -/
def toneAt (painting : List (Bool × List Tone)) (p : Position) : Option Tone :=
  (painting[p.line - 1]?).bind fun l => l.2[p.column - 1]?

/-- Whether a block comment is open before the line of some index. -/
def flagAt (painting : List (Bool × List Tone)) (n : Nat) : Option Bool :=
  (painting[n]?).map Prod.fst

theorem flagAt_zero {inside : Bool} {text : List Char} (h : text ≠ []) :
    flagAt (paint inside text) 0 = some inside := by
  cases hl : Text.lines text with
  | nil => exact absurd (Text.eq_nil_of_lines hl) h
  | cons l ls => simp [paint, hl, paintLines, flagAt]

/-! ### Shaded characters -/

/-- The characters of `w`, all of one line, have the tone `t`.  A block comment is open before them
if `b` says so, and behind them if `b'` does. -/
structure Shaded (t : Tone) (b : Bool) (w : List Char) (b' : Bool) (rest : List Char) : Prop where
  line : ∀ c ∈ w, isLineEnd c = false
  paint : paint b (w ++ rest) = ahead b (List.replicate w.length t) (paint b' rest)

/-- It is enough to look at the one line. -/
theorem shaded_of_tones {t : Tone} {b b' : Bool} {w rest : List Char} (hn : w ≠ [])
    (hw : ∀ c ∈ w, isLineEnd c = false)
    (h : tones b (w ++ Text.firstLine rest) =
      behind (List.replicate w.length t) (tones b' (Text.firstLine rest))) :
    Shaded t b w b' rest := by
  refine ⟨hw, ?_⟩
  rw [paint, Text.lines_append hn hw, paint]
  rw [Text.firstLine] at h
  cases hl : Text.lines rest with
  | nil =>
      rw [hl, List.headD_nil, tones_nil] at h
      rw [List.append_nil] at h
      simp [Text.inFront, paintLines, ahead, h, behind]
  | cons l ls =>
      rw [hl, List.headD_cons] at h
      simp [Text.inFront, paintLines, ahead, h, behind]

theorem isLineEnd_of_mem_singleton {c : Char} (h : isLineEnd c = false) :
    ∀ d ∈ [c], isLineEnd d = false := by
  simpa using h

theorem shaded_code {c : Char} {rest : List Char} (hc : isLineEnd c = false) (h : Plain c rest) :
    Shaded .code false [c] false rest := by
  refine shaded_of_tones (by simp) (isLineEnd_of_mem_singleton hc) ?_
  refine tones_code ⟨h.ne_hash, h.ne_quote, fun ho hs => ?_⟩
  exact h.not_open ho (Text.head?_firstLine hs)

theorem shaded_string {body : List Char} (h : '\x22' ∉ body)
    (hl : ∀ c ∈ '\x22' :: (body ++ ['\x22']), isLineEnd c = false) (rest : List Char) :
    Shaded .string false ('\x22' :: (body ++ ['\x22'])) false rest := by
  refine shaded_of_tones (by simp) hl ?_
  simpa using tones_string h (Text.firstLine rest)

theorem shaded_lineComment {body rest : List Char} (h : ∀ c ∈ body, isLineEnd c = false)
    (hr : Text.firstLine rest = []) : Shaded .comment false ('#' :: body) false rest := by
  refine shaded_of_tones (by simp) ?_ ?_
  · intro c hc
    rcases List.mem_cons.mp hc with rfl | hc
    · rfl
    · exact h c hc
  · rw [hr, List.append_nil, tones_lineComment]
    simp [behind, tones_nil]

theorem shaded_open (rest : List Char) : Shaded .comment false ['/', '*'] true rest :=
  shaded_of_tones (by simp) (by simp [isLineEnd]) (tones_open _)

theorem shaded_inside {c : Char} {rest : List Char} (hc : isLineEnd c = false)
    (h : c = '*' → rest.head? ≠ some '/') : Shaded .comment true [c] true rest := by
  refine shaded_of_tones (by simp) (isLineEnd_of_mem_singleton hc) ?_
  exact tones_inside fun hs hh => h hs (Text.head?_firstLine hh)

theorem shaded_close (rest : List Char) : Shaded .comment true Scan.commentEnd false rest :=
  shaded_of_tones (by simp [Scan.commentEnd]) (by simp [Scan.commentEnd, isLineEnd]) (tones_close _)

/-! ### What stands behind -/

/-- The text behind `w` is painted as it is alone, at the place where `w` ends. -/
structure Passes (b : Bool) (w : List Char) (b' : Bool) (rest : List Char) : Prop where
  tone : ∀ a, toneAt (paint b (w ++ rest)) (origin.after (w ++ a)) =
    toneAt (paint b' rest) (origin.after a)
  flag : ∀ n, flagAt (paint b (w ++ rest)) (w.count '\n' + (n + 1)) =
    flagAt (paint b' rest) (n + 1)

namespace Passes

variable {b b' b'' : Bool} {w v rest : List Char}

theorem nil (b : Bool) (rest : List Char) : Passes b [] b rest where
  tone a := rfl
  flag n := by simp

theorem trans (h : Passes b w b' (v ++ rest)) (h' : Passes b' v b'' rest) :
    Passes b (w ++ v) b'' rest where
  tone a := by rw [List.append_assoc, List.append_assoc, h.tone, h'.tone]
  flag n := by
    rw [List.append_assoc, List.count_append, Nat.add_assoc, ← Nat.add_assoc (v.count '\n'), h.flag,
      Nat.add_assoc, h'.flag]

theorem newline (b : Bool) (rest : List Char) : Passes b ['\n'] b rest where
  tone a := by
    obtain ⟨n, hn⟩ := Nat.exists_eq_add_of_le' (Position.one_le_after_origin a).1
    rw [List.singleton_append, List.singleton_append, paint_newline, Position.after_newline_cons]
    simp [toneAt, Position.down, hn]
  flag n := by
    rw [List.singleton_append, paint_newline]
    simp [flagAt, Nat.add_comm 1]

/-- A carriage return in front of a line feed belongs to no line. -/
theorem ret (b : Bool) (h : rest.head? = some '\n') : Passes b ['\r'] b rest := by
  obtain ⟨rest, rfl⟩ := List.head?_eq_some_iff.mp h
  refine ⟨fun a => ?_, fun n => ?_⟩
  · rw [List.singleton_append, List.singleton_append, paint_return, paint_newline,
      Position.after_cons_of_ne (by decide), Position.shift]
    split
    -- the first line is empty
    · next hl => simp [toneAt, hl]
    · simp [toneAt]
  · rw [List.singleton_append, paint_return, paint_newline]
    simp

end Passes

section

variable {b : Bool} {ts : List Tone} {painting : List (Bool × List Tone)}

/-- The new tones of the first line. -/
theorem toneAt_ahead_of_lt {i : Nat} (h : i < ts.length) :
    toneAt (ahead b ts painting) ⟨1, 1 + i⟩ = ts[i]? := by
  cases painting with
  | nil => simp [toneAt, ahead]
  | cons l painting => simp [toneAt, ahead, List.getElem?_append_left h]

/-- All other tones stay, those of the first line further on. -/
theorem toneAt_ahead_shift {q : Position} (hl : 1 ≤ q.line) (hc : 1 ≤ q.column) :
    toneAt (ahead b ts painting) ((Position.mk 1 (1 + ts.length)).shift q) =
      toneAt painting q := by
  obtain ⟨line, column⟩ := q
  obtain ⟨n, rfl⟩ := Nat.exists_eq_add_of_le' hl
  obtain ⟨j, rfl⟩ := Nat.exists_eq_add_of_le' hc
  cases n with
  | zero =>
      have hcolumn : 1 + ts.length + j - 1 = ts.length + j := by omega
      cases painting with
      | nil => simp [toneAt, ahead, Position.shift, hcolumn]
      | cons l painting =>
          have hright : (ts ++ l.2)[ts.length + j]? = l.2[j]? := by simp [List.getElem?_append_right]
          simp [toneAt, ahead, Position.shift, hcolumn, hright]
  | succ n => cases painting <;> simp [toneAt, ahead, Position.shift]

theorem flagAt_ahead_succ (n : Nat) :
    flagAt (ahead b ts painting) (n + 1) = flagAt painting (n + 1) := by
  cases painting <;> rfl

end

namespace Shaded

variable {t : Tone} {b b' : Bool} {w rest : List Char}

theorem newline_notMem (h : Shaded t b w b' rest) : '\n' ∉ w :=
  fun hn => absurd (h.line _ hn) (by decide)

theorem passes (h : Shaded t b w b' rest) : Passes b w b' rest where
  tone a := by
    obtain ⟨hl, hc⟩ := Position.one_le_after_origin a
    have hplace : origin.after w = ⟨1, 1 + (List.replicate w.length t).length⟩ := by
      rw [Position.after_of_newline_notMem h.newline_notMem, List.length_replicate]
      rfl
    rw [h.paint, Position.after_append, ← Position.shift_after, hplace, toneAt_ahead_shift hl hc]
  flag n := by
    rw [h.paint, List.count_eq_zero.mpr h.newline_notMem, Nat.zero_add, flagAt_ahead_succ]

theorem tone {a d : List Char} {c : Char} (h : Shaded t b (a ++ c :: d) b' rest) :
    toneAt (Highlight.paint b (a ++ c :: d ++ rest)) (origin.after a) = some t := by
  have ha : '\n' ∉ a := fun hm => h.newline_notMem (List.mem_append_left _ hm)
  have hlt : a.length < (List.replicate (a ++ c :: d).length t).length := by simp
  rw [h.paint, Position.after_of_newline_notMem ha]
  exact (toneAt_ahead_of_lt hlt).trans (by simp)

end Shaded

/-! ### Walks -/

/-- A walk over some text in front of `rest`, up to the state `stop`.  Its characters have the tone
`t`, and at its line feeds a block comment is open just if `inner` says so. -/
inductive Walk (t : Tone) (inner : Bool) (rest : List Char) (stop : Bool) :
    Bool → List Char → Prop where
  | nil : Walk t inner rest stop stop []
  | word {b b' : Bool} {w v : List Char} (h : Shaded t b w b' (v ++ rest))
      (hv : Walk t inner rest stop b' v) : Walk t inner rest stop b (w ++ v)
  | newline {v : List Char} (hv : Walk t inner rest stop inner v) :
      Walk t inner rest stop inner ('\n' :: v)
  | ret {b : Bool} {v : List Char} (h : (v ++ rest).head? = some '\n')
      (hv : Walk t inner rest stop b v) : Walk t inner rest stop b ('\r' :: v)

namespace Walk

variable {t : Tone} {inner stop b : Bool} {rest w : List Char}

theorem single (h : Shaded t b w stop rest) : Walk t inner rest stop b w := by
  have hw : Walk t inner rest stop b (w ++ []) := .word h .nil
  rwa [List.append_nil] at hw

/-- **Behind a walk.** -/
theorem passes (h : Walk t inner rest stop b w) : Passes b w stop rest := by
  induction h with
  | nil => exact .nil stop rest
  | word h _ ih => exact h.passes.trans ih
  | newline _ ih => exact (Passes.newline inner _).trans ih
  | ret h _ ih => exact (Passes.ret _ h).trans ih

/-- **The tone of a walk** is that of each character that is no line end. -/
theorem tone (h : Walk t inner rest stop b w) {a d : List Char} {c : Char} (hw : w = a ++ c :: d)
    (hc : isLineEnd c = false) : toneAt (paint b (w ++ rest)) (origin.after a) = some t := by
  induction h generalizing a with
  | nil => simp at hw
  | @word b b' w v h _ ih =>
      rw [List.append_assoc]
      rcases Text.mem_or_mem_of_append hw with ⟨m, rfl⟩ | ⟨a', rfl, hv⟩
      · exact h.tone
      · rw [h.passes.tone, ih hv]
  | @newline v _ ih =>
      rcases List.cons_eq_append_iff.mp hw with ⟨rfl, he⟩ | ⟨a', rfl, hv⟩
      · obtain ⟨rfl, -⟩ := List.cons.inj he
        cases hc
      · exact ((Passes.newline inner (v ++ rest)).tone a').trans (ih hv)
  | ret h _ ih =>
      rcases List.cons_eq_append_iff.mp hw with ⟨rfl, he⟩ | ⟨a', rfl, hv⟩
      · obtain ⟨rfl, -⟩ := List.cons.inj he
        cases hc
      · exact ((Passes.ret _ h).tone a').trans (ih hv)

/-- **The flag of a walk** is that before each line that begins in it. -/
theorem flag (h : Walk t inner rest stop b w) {a d : List Char} (hw : w = a ++ '\n' :: d)
    (hd : d ++ rest ≠ []) :
    flagAt (paint b (w ++ rest)) (a.count '\n' + 1) = some inner := by
  induction h generalizing a with
  | nil => simp at hw
  | @word b b' w v h _ ih =>
      rw [List.append_assoc]
      rcases Text.mem_or_mem_of_append hw with ⟨m, rfl⟩ | ⟨a', rfl, hv⟩
      · exact absurd (List.mem_append_right a List.mem_cons_self) h.newline_notMem
      · rw [List.count_append, Nat.add_assoc, h.passes.flag, ih hv]
  | @newline v _ ih =>
      rcases List.cons_eq_append_iff.mp hw with ⟨rfl, he⟩ | ⟨a', rfl, hv⟩
      · obtain ⟨-, rfl⟩ := List.cons.inj he
        rw [List.cons_append, paint_newline]
        exact flagAt_zero hd
      · rw [List.count_cons_self, Nat.add_comm (a'.count '\n') 1, Nat.add_assoc]
        exact ((Passes.newline inner (v ++ rest)).flag _).trans (ih hv)
  | @ret b v h _ ih =>
      rcases List.cons_eq_append_iff.mp hw with ⟨rfl, he⟩ | ⟨a', rfl, hv⟩
      · cases he
      · have hflag := (Passes.ret b h).flag (a'.count '\n')
        rw [List.count_eq_zero.mpr (by decide), Nat.zero_add] at hflag
        rw [List.count_cons_of_ne (by decide)]
        exact hflag.trans (ih hv)

end Walk

end Highlight

end SourceCheck

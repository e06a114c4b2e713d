import SourceCheck.Inspector.Palette
import SourceCheck.Proofs.Inspector.Tones
import SourceCheck.Proofs.Scan.LineEnds
import SourceCheck.Proofs.Scan.Parts

/-!
# Inspector — highlighting agrees with scanning

The scanner reads a text in one go, and the highlighter line by line, with one bit from each line to
the next.  On a text that has tokens they tell comments and strings alike, provided that no string
has a line feed and every carriage return is followed by one (`Tame`).

* `Part t inner w rest`: what a scan takes in front of `rest`, and the tone that it ought to have.
  The highlighter gives it that tone (`Part.walk`), one case for each kind of part.
* `Reached.passes`: so wherever a scan comes to, the rest of the text is painted as it is alone.
* `Decomposes.inPart`: every character is in a part, so its tone is that of the part
  (`InPart.tone`), and the bit before a line is that of the part which its line feed is in
  (`InPart.flag`).
* `highlight_agrees`: in terms of comments, tokens and colours.
-/

namespace SourceCheck

open Position (origin)
open Text (isLineEnd isBlank)

/-! ### Carriage returns -/

namespace Text

/-- Every carriage return is followed by a line feed. -/
def ReturnsPaired : List Char → Prop
  | [] => True
  | c :: cs => (c = '\r' → cs.head? = some '\n') ∧ ReturnsPaired cs

instance : (text : List Char) → Decidable (ReturnsPaired text)
  | [] => instDecidableTrue
  | c :: cs =>
    have := instDecidableReturnsPaired cs
    inferInstanceAs (Decidable ((c = '\r' → cs.head? = some '\n') ∧ ReturnsPaired cs))

theorem ReturnsPaired.of_append {a b : List Char} (h : ReturnsPaired (a ++ b)) :
    ReturnsPaired b := by
  induction a with
  | nil => exact h
  | cons c a ih => exact ih h.2

/-- Without a line feed there is no carriage return either. -/
theorem ReturnsPaired.return_notMem {body rest : List Char} {c : Char}
    (h : ReturnsPaired (body ++ c :: rest)) (hc : c ≠ '\n') (hb : '\n' ∉ body) : '\r' ∉ body := by
  induction body with
  | nil => exact List.not_mem_nil
  | cons d body ih =>
      rw [List.mem_cons, not_or] at hb ⊢
      refine ⟨?_, ih h.2 hb.2⟩
      rintro rfl
      have hn := h.1 rfl
      cases body with
      | nil => exact hc (Option.some.inj hn)
      | cons e body => exact hb.2 (Option.some.inj hn ▸ List.mem_cons_self)

end Text

open Text (ReturnsPaired)

namespace Scan

open Highlight (Plain Walk Passes toneAt flagAt paint)

/-! ### Parts -/

/-- A part of a text in front of `rest`: what a scan takes in one go.  The characters of a comment
and those of a string have a tone of their own, and a line that begins in the part begins in a block
comment just if `inner` says so. -/
inductive Part : Tone → Bool → List Char → List Char → Prop where
  | blank {c : Char} {rest : List Char} (h : isBlank c = true) : Part .code false [c] rest
  | code {k : Kind} {l rest : List Char} (hl : Lexeme k l) (hk : k ≠ .stringLiteral)
      (he : Ends k l rest) : Part .code false l rest
  | string {body rest : List Char} (h : '\x22' ∉ body) :
      Part .string false ('\x22' :: (body ++ ['\x22'])) rest
  | lineComment {body rest : List Char} {c : Char} (hb : ∀ d ∈ body, isLineEnd d = false)
      (hc : isLineEnd c = true) : Part .comment false ('#' :: (body ++ [c])) rest
  | lastComment {body : List Char} (hb : ∀ d ∈ body, isLineEnd d = false) :
      Part .comment false ('#' :: body) []
  | blockComment {body rest : List Char} (h : ¬ commentEnd <:+: body ++ ['*']) :
      Part .comment true ('/' :: '*' :: (body ++ commentEnd)) rest

theorem Trivium.part {a : List Char} (h : Trivium a) (rest : List Char) :
    ∃ t inner, Part t inner a rest := by
  cases h with
  | blank h => exact ⟨_, _, .blank h⟩
  | lineComment hb hc => exact ⟨_, _, .lineComment hb hc⟩
  | blockComment h => exact ⟨_, _, .blockComment h⟩

theorem Lexeme.exists_string {l : List Char} (h : Lexeme .stringLiteral l) :
    ∃ body, '\x22' ∉ body ∧ l = '\x22' :: (body ++ ['\x22']) := by
  cases h with
  | spelled h => cases h
  | @string body h => exact ⟨body, h, rfl⟩

theorem Lexeme.part {k : Kind} {l rest : List Char} (hl : Lexeme k l) (he : Ends k l rest) :
    ∃ t inner, Part t inner l rest := by
  by_cases hk : k = .stringLiteral
  · subst hk
    obtain ⟨body, hb, rfl⟩ := hl.exists_string
    exact ⟨_, _, .string hb⟩
  · exact ⟨_, _, .code hl hk he⟩

/-! ### Parts are painted with their tones -/

/-- A slash is a lexeme of its own, outside strings. -/
theorem Lexeme.eq_of_slash_mem {k : Kind} {l : List Char} (h : Lexeme k l)
    (hk : k ≠ .stringLiteral) (hs : '/' ∈ l) : k = .mathOperator ∧ l = ['/'] := by
  cases h with
  | identifier hw hr => exact absurd (hw.isWordPart _ hs) (by decide)
  | spelled h => cases k <;> cases h <;> exact absurd hs (by decide)
  | integer hd hn => exact absurd (hd _ hs) (by decide)
  | float hd hf hn =>
      rcases List.mem_append.mp hs with hs | hs
      · exact absurd (hd _ hs) (by decide)
      · rcases List.mem_cons.mp hs with hs | hs
        · cases hs
        · exact absurd (hf _ hs) (by decide)
  | string h => exact absurd rfl hk
  | math h => exact ⟨rfl, by rw [List.mem_singleton.mp hs]⟩
  | relation h =>
      have hn : ∀ s ∈ comparisons, '/' ∉ s.toList := by decide
      exact absurd hs (hn _ h)
  | assign h =>
      have hn : ∀ s ∈ assignments, '/' ∉ s.toList := by decide
      exact absurd hs (hn _ h)

theorem not_isLineEnd_of_isCodePart {c : Char} (h : isCodePart c = true) : isLineEnd c = false := by
  by_contra hl
  simp only [isLineEnd, Bool.not_eq_false, Bool.or_eq_true, beq_iff_eq] at hl
  rcases hl with rfl | rfl <;> exact absurd h (by decide)

/-- A character of a lexeme opens no comment and no string. -/
theorem Lexeme.plain {k : Kind} {a d rest : List Char} {c : Char} (h : Lexeme k (a ++ c :: d))
    (hk : k ≠ .stringLiteral) (he : Ends k (a ++ c :: d) rest) : Plain c (d ++ rest) := by
  have hc : Scan.isCodePart c = true := h.isCodePart hk c (by simp)
  refine ⟨?_, ?_, ?_⟩
  · rintro rfl
    exact absurd hc (by decide)
  · rintro rfl
    exact absurd hc (by decide)
  · rintro rfl hs
    obtain ⟨rfl, hl⟩ := h.eq_of_slash_mem hk (by simp)
    obtain ⟨rfl, rfl⟩ : a = [] ∧ d = [] := by
      cases a <;> simp_all
    exact absurd (he _ hs) (by decide)

theorem walk_code {l rest : List Char}
    (h : ∀ a c d, l = a ++ c :: d → isLineEnd c = false ∧ Plain c (d ++ rest)) :
    Walk .code false rest false false l := by
  induction l with
  | nil => exact .nil
  | cons c l ih =>
      obtain ⟨hc, hp⟩ := h [] c l rfl
      refine .word (Highlight.shaded_code hc hp) (ih fun a e d hl => ?_)
      exact h (c :: a) e d (by rw [hl, List.cons_append])

theorem walk_blank {c : Char} {rest : List Char} (h : isBlank c = true)
    (hr : ReturnsPaired ([c] ++ rest)) : Walk .code false rest false false [c] := by
  by_cases hn : c = '\n'
  · subst hn
    exact .newline .nil
  by_cases hc : c = '\r'
  · exact hc ▸ .ret (hr.1 hc) .nil
  · have hl : isLineEnd c = false := Text.isLineEnd_eq_false_iff.mpr ⟨hn, hc⟩
    refine .word (Highlight.shaded_code hl ⟨?_, ?_, ?_⟩) .nil
    all_goals
      rintro rfl
      exact absurd h (by decide)

/-- A line end, of which the comment before it knows nothing. -/
theorem walk_lineEnd {c : Char} {rest : List Char} (h : isLineEnd c = true)
    (hr : ReturnsPaired ([c] ++ rest)) :
    Walk .comment false rest false false [c] ∧ Text.firstLine ([c] ++ rest) = [] := by
  simp only [isLineEnd, Bool.or_eq_true, beq_iff_eq] at h
  rcases h with rfl | rfl
  · exact ⟨.newline .nil, Text.firstLine_newline rest⟩
  · have hn := hr.1 rfl
    obtain ⟨rest, rfl⟩ := List.head?_eq_some_iff.mp hn
    exact ⟨.ret rfl .nil, Text.firstLine_return rest⟩

/-- From the inside of a block comment through its end. -/
theorem walk_inside {body rest : List Char} (h : ¬ commentEnd <:+: body ++ ['*'])
    (hr : ReturnsPaired (body ++ commentEnd ++ rest)) :
    Walk .comment true rest false true (body ++ commentEnd) := by
  induction body with
  | nil => exact .single (Highlight.shaded_close rest)
  | cons c body ih =>
      have hb : ¬ commentEnd <:+: body ++ ['*'] := fun hi => h (List.infix_cons hi)
      have hw := ih hb hr.2
      by_cases hn : c = '\n'
      · subst hn
        exact .newline hw
      by_cases hc : c = '\r'
      · subst hc
        exact .ret (hr.1 rfl) hw
      · have hl : isLineEnd c = false := Text.isLineEnd_eq_false_iff.mpr ⟨hn, hc⟩
        rw [List.cons_append, ← List.singleton_append]
        refine .word (Highlight.shaded_inside hl ?_) hw
        -- a star in front of a slash would end the comment before its end
        rintro rfl hs
        cases body with
        | nil => cases hs
        | cons d body =>
            obtain rfl := Option.some.inj hs
            exact h ⟨[], body ++ ['*'], rfl⟩

/-- A string with no line feed has no line end at all. -/
theorem not_isLineEnd_of_string {body rest : List Char}
    (hr : ReturnsPaired ('\x22' :: (body ++ ['\x22']) ++ rest))
    (hn : '\n' ∉ '\x22' :: (body ++ ['\x22'])) :
    ∀ c ∈ '\x22' :: (body ++ ['\x22']), isLineEnd c = false := by
  have hb : '\n' ∉ body := fun hm => hn (by simp [hm])
  have hp : ReturnsPaired (body ++ '\x22' :: rest) := by simpa using hr.2
  have hc : '\r' ∉ body := hp.return_notMem (by decide) hb
  simp only [List.mem_cons, List.mem_append, List.not_mem_nil, or_false]
  rintro c (rfl | hm | rfl)
  · rfl
  · exact Text.isLineEnd_eq_false_iff.mpr
      ⟨ne_of_mem_of_not_mem hm hb, ne_of_mem_of_not_mem hm hc⟩
  · rfl

/-- **The tone of a part.** -/
theorem Part.walk {t : Tone} {inner : Bool} {w rest : List Char} (h : Part t inner w rest)
    (hr : ReturnsPaired (w ++ rest)) (hs : t = .string → '\n' ∉ w) :
    Walk t inner rest false false w := by
  cases h with
  | blank h => exact walk_blank h hr
  | code hl hk he =>
      refine walk_code ?_
      rintro a c d rfl
      exact ⟨not_isLineEnd_of_isCodePart (hl.isCodePart hk c (by simp)), hl.plain hk he⟩
  | @string body _ h =>
      exact .single (Highlight.shaded_string h (not_isLineEnd_of_string hr (hs rfl)) rest)
  | @lineComment body _ c hb hc =>
      have hp : ReturnsPaired ([c] ++ rest) := by
        rw [← List.cons_append, List.append_assoc] at hr
        exact hr.of_append
      obtain ⟨hw, hf⟩ := walk_lineEnd hc hp
      exact .word (Highlight.shaded_lineComment hb hf) hw
  | lastComment hb => exact .single (Highlight.shaded_lineComment hb rfl)
  | blockComment h => exact .word (Highlight.shaded_open _) (walk_inside h hr.2.2)

/-! ### Every character is in a part -/

/-- The character `c` of a text, which stands behind `a`, is in such a part. -/
def InPart (text : List Char) (t : Tone) (inner : Bool) (a : List Char) (c : Char) : Prop :=
  ∃ front w rest m d, Reached text front (w ++ rest) ∧ Part t inner w rest ∧ a = front ++ m ∧
    w = m ++ c :: d

theorem Reached.inPart {text front w rest m d : List Char} {t : Tone} {inner : Bool} {c : Char}
    (h : Reached text front (w ++ rest)) (hp : Part t inner w rest) (hw : w = m ++ c :: d) :
    InPart text t inner (front ++ m) c :=
  ⟨front, w, rest, m, d, h, hp, rfl, hw⟩

theorem Gap.inPart {text front g rest m d : List Char} {c : Char} (hg : Gap g)
    (h : Reached text front (g ++ rest)) (hw : g = m ++ c :: d) :
    ∃ t inner, InPart text t inner (front ++ m) c := by
  induction hg generalizing front m with
  | nil => simp at hw
  | @cons a g ha _ ih =>
      rw [List.append_assoc] at h
      rcases Text.mem_or_mem_of_append hw with ⟨d', ha'⟩ | ⟨m', rfl, hg'⟩
      · obtain ⟨t, inner, hp⟩ := ha.part (g ++ rest)
        exact ⟨t, inner, h.inPart hp ha'⟩
      · rw [← List.append_assoc]
        exact ih (h.trivium ha) hg'

theorem LastGap.inPart {text front g m d : List Char} {c : Char} (hg : LastGap g)
    (h : Reached text front g) (hw : g = m ++ c :: d) :
    ∃ t inner, InPart text t inner (front ++ m) c := by
  cases hg with
  | closed hg =>
      rw [← List.append_nil g] at h
      exact hg.inPart h hw
  | @unclosed g body hg hb =>
      rcases Text.mem_or_mem_of_append hw with ⟨d', hg'⟩ | ⟨m', rfl, hc⟩
      · exact hg.inPart h hg'
      · have hr := h.gap hg
        rw [← List.append_nil ('#' :: body)] at hr
        rw [← List.append_assoc]
        exact ⟨_, _, hr.inPart (.lastComment hb) hc⟩

/-- **Every character** of a text that has tokens is in a part. -/
theorem Decomposes.inPart {text before rest m d : List Char} {ts : List Token} {c : Char}
    (h : Decomposes before rest ts) (hr : Reached text before rest) (hw : rest = m ++ c :: d) :
    ∃ t inner, InPart text t inner (before ++ m) c := by
  induction h generalizing m with
  | finish hg => exact hg.inPart hr hw
  | @token before g l rest k ts hg hl he _ ih =>
      rcases Text.mem_or_mem_of_append hw with ⟨d', hg'⟩ | ⟨m', rfl, hlr⟩
      · exact hg.inPart hr hg'
      have hr' := hr.gap hg
      rw [← List.append_assoc]
      rcases Text.mem_or_mem_of_append hlr with ⟨d', hl'⟩ | ⟨m'', rfl, hrest⟩
      · obtain ⟨t, inner, hp⟩ := hl.part he
        exact ⟨t, inner, hr'.inPart hp hl'⟩
      · rw [← List.append_assoc]
        exact ih (hr'.lexeme hl he) hrest

/-! ### Tones and flags of a whole text -/

/-- The texts that can be highlighted line by line: each string stays on its line, and each carriage
return belongs to a line break. -/
structure Tame (text : List Char) : Prop where
  returns : ReturnsPaired text
  strings : ∀ {front l rest}, Reached text front (l ++ rest) → Lexeme .stringLiteral l → '\n' ∉ l

section

variable {text : List Char} (ht : Tame text)
include ht

theorem Reached.walk {front w rest : List Char} {t : Tone} {inner : Bool}
    (h : Reached text front (w ++ rest)) (hp : Part t inner w rest) :
    Walk t inner rest false false w := by
  have hr := ht.returns
  rw [h.eq_append] at hr
  refine hp.walk hr.of_append ?_
  rintro rfl
  cases hp with
  | string hb => exact ht.strings h (.string hb)

/-- **Wherever a scan comes to**, the highlighter stands outside comments and strings. -/
theorem Reached.passes {front rest : List Char} (h : Reached text front rest) :
    Passes false front false rest := by
  induction h with
  | start => exact .nil false text
  | @trivium front a rest h ha ih =>
      obtain ⟨t, inner, hp⟩ := ha.part rest
      exact ih.trans (h.walk ht hp).passes
  | @lexeme front l rest k h hl he ih =>
      obtain ⟨t, inner, hp⟩ := hl.part he
      exact ih.trans (h.walk ht hp).passes

variable {a b : List Char} {t : Tone} {inner : Bool}

/-- **The tone of a character** is that of the part it is in. -/
theorem InPart.tone {c : Char} (h : InPart text t inner a c) (hc : isLineEnd c = false) :
    toneAt (paint false text) (origin.after a) = some t := by
  obtain ⟨front, w, rest, m, d, hr, hp, rfl, hw⟩ := h
  have htone := (hr.passes ht).tone m
  rw [← hr.eq_append] at htone
  rw [htone, (hr.walk ht hp).tone hw hc]

/-- **The flag before a line** is that of the part which the line feed before it is in. -/
theorem InPart.flag (h : InPart text t inner a '\n') (htext : text = a ++ '\n' :: b)
    (hb : b ≠ []) : flagAt (paint false text) (a.count '\n' + 1) = some inner := by
  obtain ⟨front, w, rest, m, d, hr, hp, rfl, hw⟩ := h
  have hd : d ++ rest = b := by
    have he := hr.eq_append.symm.trans htext
    simpa [hw] using he
  have hflag := (hr.passes ht).flag (m.count '\n')
  rw [← hr.eq_append] at hflag
  rw [List.count_append, Nat.add_assoc, hflag, (hr.walk ht hp).flag hw (hd ▸ hb)]

end

/-! ### Parts in terms of comments and tokens -/

section

variable {text a b : List Char} {c : Char} {inner : Bool}

/-- A character within a stretch of the text, found again by its position. -/
theorem exists_of_within {front w rest : List Char} (hr : Reached text front (w ++ rest))
    (htext : text = a ++ c :: b) (h : Position.Within front w (origin.after a)) :
    ∃ m d, a = front ++ m ∧ w = m ++ c :: d := by
  obtain ⟨m, e, d, rfl, hm⟩ := h
  have he : a ++ c :: b = front ++ m ++ (e :: d ++ rest) := by
    rw [← htext, hr.eq_append]
    simp
  obtain rfl := Position.eq_of_after_eq he hm
  obtain ⟨rfl, -⟩ := List.cons.inj (List.append_cancel_left he)
  exact ⟨m, d, rfl, rfl⟩

theorem BlockComment.part {w : List Char} (h : BlockComment w) (rest : List Char) :
    Part .comment true w rest := by
  obtain ⟨body, rfl, hb⟩ := h
  exact .blockComment hb

/-- **Comments.** -/
theorem exists_inPart_comment_iff (htext : text = a ++ c :: b) (hc : isLineEnd c = false) :
    (∃ inner, InPart text .comment inner a c) ↔ InComment text (origin.after a) := by
  constructor
  · rintro ⟨inner, front, w, rest, m, d, hr, hp, rfl, hw⟩
    cases hp with
    | @lineComment body _ e hb he =>
        -- the character is not the line end that the part has but the comment has not
        rw [← List.cons_append] at hw hr
        rcases Text.mem_or_mem_of_append hw with ⟨d', hm⟩ | ⟨m', rfl, hm⟩
        · rw [List.append_assoc] at hr
          refine ⟨front, _, _, hr, Or.inl ⟨body, rfl, hb, ?_⟩, m, c, d', hm, rfl⟩
          rintro f ⟨⟩
          exact he
        · have hce : c = e := by
            have hmem : c ∈ [e] := by
              rw [hm]
              exact List.mem_append_right m' List.mem_cons_self
            exact List.mem_singleton.mp hmem
          rw [hce, he] at hc
          cases hc
    | @lastComment body hb =>
        exact ⟨front, _, _, hr, Or.inl ⟨body, rfl, hb, fun f hf => nomatch hf⟩, m, c, d, hw, rfl⟩
    | @blockComment body _ hb =>
        exact ⟨front, _, _, hr, Or.inr ⟨body, rfl, hb⟩, m, c, d, hw, rfl⟩
  · rintro ⟨front, w, rest, hr, hw, hin⟩
    obtain ⟨m, d, rfl, hm⟩ := exists_of_within hr htext hin
    rcases hw with ⟨body, rfl, hb, he⟩ | hw
    · cases rest with
      | nil => exact ⟨false, hr.inPart (.lastComment hb) hm⟩
      | cons e rest =>
          have hr' : Reached text front ('#' :: (body ++ [e]) ++ rest) := by simpa using hr
          have hm' : '#' :: (body ++ [e]) = m ++ c :: (d ++ [e]) := by
            rw [← List.cons_append, hm, List.append_assoc, List.cons_append]
          exact ⟨false, hr'.inPart (.lineComment hb (he e rfl)) hm'⟩
    · exact ⟨true, hr.inPart (hw.part rest) hm⟩

/-- **Strings.** -/
theorem exists_inPart_string_iff (ht : Tame text) {ts : List Token}
    (hts : Decomposes [] text ts) (htext : text = a ++ c :: b) :
    (∃ inner, InPart text .string inner a c) ↔
      ∃ t ∈ ts, t.kind = .stringLiteral ∧ t.Covers (origin.after a) := by
  constructor
  · rintro ⟨inner, front, w, rest, m, d, hr, hp, rfl, hw⟩
    cases hp with
    | @string body _ hb =>
        have hl : Lexeme .stringLiteral ('\x22' :: (body ++ ['\x22'])) := .string hb
        have hmem := hr.mem_tokens hl fun e he => rfl
        rw [hts.stream.2] at hmem
        refine ⟨_, hmem, rfl, ?_⟩
        exact (covers_iff_within (ht.strings hr hl) _ _).mpr ⟨m, c, d, hw, rfl⟩
  · rintro ⟨t, hmem, hk, hcovers⟩
    obtain ⟨front, l, rest, hr, hl, -, he⟩ := hts.token_of_mem .start t hmem
    rw [hk] at hl he
    rw [he, covers_iff_within (ht.strings hr hl)] at hcovers
    obtain ⟨m, d, rfl, hm⟩ := exists_of_within hr htext hcovers
    obtain ⟨body, hb, rfl⟩ := hl.exists_string
    exact ⟨false, hr.inPart (.string hb) hm⟩

/-- **Lines that begin in a block comment.** -/
theorem exists_inPart_inner_iff (htext : text = a ++ '\n' :: b) :
    (∃ t, InPart text t true a '\n') ↔ BeginsInComment text (a.count '\n' + 2) := by
  have hplace : origin.after (a ++ ['\n']) = ⟨a.count '\n' + 2, 1⟩ := by
    rw [Position.after_append, Position.after_cons, Position.after_nil, Position.next_newline,
      Position.line_after_origin, Nat.add_right_comm, Nat.add_comm]
  constructor
  · rintro ⟨t, front, w, rest, m, d, hr, hp, rfl, hw⟩
    cases hp with
    | @blockComment body _ hb =>
        have hsplit : '/' :: '*' :: (body ++ commentEnd) = m ++ ['\n'] ++ d := by simpa using hw
        refine ⟨front, m ++ ['\n'], d, rest, hsplit ▸ hr, ⟨body, hsplit.symm, hb⟩, by simp, ?_, ?_⟩
        · rintro rfl
          -- the last character of a comment is a slash
          have hlast := congrArg List.getLast? hw
          simp [commentEnd, List.getLast?_cons] at hlast
        · rw [← List.append_assoc, hplace]
  · rintro ⟨front, u, v, rest, hr, hw, hu, hv, hline⟩
    have hsame : a ++ ['\n'] ++ b = front ++ u ++ (v ++ rest) := by
      have he := hr.eq_append
      rw [htext] at he
      simpa using he
    have heq := Position.eq_of_after_eq hsame (hplace.trans hline.symm)
    obtain ⟨m, e, rfl⟩ := (List.eq_nil_or_concat' u).resolve_left hu
    rw [← List.append_assoc] at heq
    obtain ⟨rfl, he⟩ := List.append_inj' heq rfl
    obtain rfl := List.singleton_injective he
    exact ⟨.comment, hr.inPart (hw.part rest) (List.append_assoc m ['\n'] v)⟩

/-- The first line does not. -/
theorem not_beginsInComment_one (text : List Char) : ¬ BeginsInComment text 1 := by
  rintro ⟨front, u, v, rest, hr, -, hu, -, hline⟩
  have hsame : front ++ u ++ (v ++ rest) = [] ++ text := by
    rw [hr.eq_append]
    simp
  have heq := Position.eq_of_after_eq hsame hline
  exact hu (List.append_eq_nil_iff.mp heq).2

end

/-! ### The painting of a text that has tokens -/

section

variable {text : List Char} {ts : List Token}

theorem Decomposes.tame (h : Decomposes [] text ts) (hr : ReturnsPaired text)
    (hs : ∀ t ∈ ts, t.kind = .stringLiteral → '\n' ∉ t.lexeme.toList) : Tame text := by
  refine ⟨hr, fun {front l rest} hreached hl => ?_⟩
  have hmem := hreached.mem_tokens hl fun e he => rfl
  rw [h.stream.2] at hmem
  simpa using hs _ hmem rfl

/-- A character has a tone just if it is in a part of that tone. -/
theorem Decomposes.toneAt_iff (h : Decomposes [] text ts) (ht : Tame text) {a b : List Char}
    {c : Char} (htext : text = a ++ c :: b) (hc : isLineEnd c = false) (t : Tone) :
    toneAt (paint false text) (origin.after a) = some t ↔ ∃ inner, InPart text t inner a c := by
  refine ⟨fun htone => ?_, fun ⟨inner, hp⟩ => hp.tone ht hc⟩
  obtain ⟨t', inner, hp⟩ := h.inPart .start htext
  rw [List.nil_append] at hp
  obtain rfl : t' = t := Option.some.inj ((hp.tone ht hc).symm.trans htone)
  exact ⟨inner, hp⟩

/-- A block comment is open before a line just if the line begins in one. -/
theorem Decomposes.flagAt_iff (h : Decomposes [] text ts) (ht : Tame text) {l : List Char} {n : Nat}
    (hl : (Text.lines text)[n]? = some l) :
    flagAt (paint false text) n = some true ↔ BeginsInComment text (n + 1) := by
  cases n with
  | zero =>
      have hn : text ≠ [] := by
        rintro rfl
        simp at hl
      rw [Highlight.flagAt_zero hn]
      exact ⟨fun hf => (nomatch hf), fun hb => absurd hb (not_beginsInComment_one text)⟩
  | succ n =>
      obtain ⟨a, b, htext, rfl, hb⟩ := Text.newline_of_lines hl
      rw [← exists_inPart_inner_iff htext]
      refine ⟨fun hflag => ?_, fun ⟨t, hp⟩ => hp.flag ht htext hb⟩
      obtain ⟨t, inner, hp⟩ := h.inPart .start htext
      rw [List.nil_append] at hp
      obtain rfl : inner = true := Option.some.inj ((hp.flag ht htext hb).symm.trans hflag)
      exact ⟨t, hp⟩

end

end Scan

/-! ### Pieces -/

namespace Highlight

/-- Whether a block comment is open before the line of some index. -/
def insideBefore (ls : List (List Char)) (n : Nat) : Bool :=
  (ls.take n).foldl (fun inside l => (line inside l).2) false

/-- The characters of a piece, each with the role of the piece. -/
def Piece.characters (p : Piece) : List (Char × Role) :=
  p.text.map fun c => (c, p.role)

/-- The pieces of a line are the line. -/
theorem flatMap_text_line (inside : Bool) (l : List Char) :
    (line inside l).1.flatMap Piece.text = l := by
  fun_induction line inside l with
  | case1 => rfl
  | case2 inside c cs k ih =>
      rw [Prod.map_fst, List.flatMap_cons, ih]
      exact cut_append inside c cs

theorem map_fst_characters (inside : Bool) (l : List Char) :
    ((line inside l).1.flatMap Piece.characters).map Prod.fst = l := by
  rw [List.map_flatMap]
  refine Eq.trans (congrArg (List.flatMap · _) (funext fun p => ?_)) (flatMap_text_line inside l)
  simp [Piece.characters, Function.comp_def]

theorem map_tone_characters (inside : Bool) (l : List Char) :
    ((line inside l).1.flatMap Piece.characters).map (·.2.tone) = (tones inside l).1 := by
  rw [tones, List.map_flatMap]
  refine congrArg (List.flatMap · _) (funext fun p => ?_)
  simp [Piece.characters, Piece.tones, Function.comp_def]

/-- A character of a line has a role in its pieces, and the tone of that role. -/
theorem exists_role {inside : Bool} {l : List Char} {j : Nat} {c : Char} (h : l[j]? = some c) :
    ∃ role, ((line inside l).1.flatMap Piece.characters)[j]? = some (c, role) ∧
      (tones inside l).1[j]? = some role.tone := by
  rw [← map_fst_characters inside l, List.getElem?_map, Option.map_eq_some_iff] at h
  obtain ⟨⟨d, role⟩, hd, rfl⟩ := h
  refine ⟨role, hd, ?_⟩
  rw [← map_tone_characters, List.getElem?_map, hd]
  rfl

/-- What is made of each line, with the state of comments carried from line to line. -/
theorem getElem?_of_carry {β : Type} (f : Bool → List (List Char) → List β)
    (g : Bool → List Char → β) (hnil : ∀ inside, f inside [] = [])
    (hcons : ∀ inside l ls, f inside (l :: ls) = g inside l :: f (line inside l).2 ls)
    (inside : Bool) (ls : List (List Char)) (n : Nat) :
    (f inside ls)[n]? =
      (ls[n]?).map (g ((ls.take n).foldl (fun inside l => (line inside l).2) inside)) := by
  induction ls generalizing inside n with
  | nil => rw [hnil, List.getElem?_nil, List.getElem?_nil, Option.map_none]
  | cons l ls ih =>
      rw [hcons]
      cases n with
      | zero => rfl
      | succ n => exact ih (line inside l).2 n

section

variable {text l : List Char} {n : Nat} (hl : (Text.lines text)[n]? = some l)
include hl

theorem getElem?_lines :
    (lines false (Text.lines text))[n]? =
      some (line (insideBefore (Text.lines text) n) l).1 := by
  have hcarry := getElem?_of_carry lines (fun inside l => (line inside l).1) (fun inside => rfl)
    (fun inside l ls => rfl) false (Text.lines text) n
  rwa [hl] at hcarry

theorem getElem?_paint :
    (paint false text)[n]? =
      some (insideBefore (Text.lines text) n, (tones (insideBefore (Text.lines text) n) l).1) := by
  have hcarry := getElem?_of_carry paintLines (fun inside l => (inside, (tones inside l).1))
    (fun inside => rfl) (fun inside l ls => rfl) false (Text.lines text) n
  rwa [hl] at hcarry

theorem flagAt_paint :
    flagAt (paint false text) n = some (insideBefore (Text.lines text) n) := by
  rw [flagAt, getElem?_paint hl]
  rfl

theorem toneAt_paint (j : Nat) :
    toneAt (paint false text) ⟨n + 1, j + 1⟩ =
      (tones (insideBefore (Text.lines text) n) l).1[j]? := by
  simp only [toneAt, Nat.add_sub_cancel, getElem?_paint hl]
  rfl

end

end Highlight

theorem Palette.ofRole_eq_grey_iff (role : Role) : ofRole role = grey ↔ role.tone = .comment := by
  cases role <;> decide

theorem Palette.ofRole_eq_green_iff (role : Role) : ofRole role = green ↔ role.tone = .string := by
  cases role <;> decide

open Scan

/-- **Highlighting agrees with scanning.**  Let a text have tokens, none of its strings a line feed,
and every carriage return a line feed behind it.  Then a line begins in a block comment of the scan
just if the highlighter has one open there.  A character of the line has the colour of comments just
if it is in a comment of the scan, and that of strings just if it belongs to a string token. -/
theorem highlight_agrees {source : String} {ts : List Token} (h : tokenize source = .ok ts)
    (hs : ∀ t ∈ ts, t.kind = .stringLiteral → '\n' ∉ t.lexeme.toList)
    (hr : ReturnsPaired source.toList) {n : Nat} {l : List Char}
    (hl : (Text.lines source.toList)[n]? = some l) :
    (Highlight.insideBefore (Text.lines source.toList) n = true ↔
        BeginsInComment source.toList (n + 1)) ∧
      ∃ pieces, (Highlight.lines false (Text.lines source.toList))[n]? = some pieces ∧
        ∀ j c, l[j]? = some c → ∃ role,
          (pieces.flatMap Highlight.Piece.characters)[j]? = some (c, role) ∧
          (Palette.ofRole role = Palette.grey ↔ InComment source.toList ⟨n + 1, j + 1⟩) ∧
          (Palette.ofRole role = Palette.green ↔
            ∃ t ∈ ts, t.kind = .stringLiteral ∧ t.Covers ⟨n + 1, j + 1⟩) := by
  have hd := decomposes_of_tokenize h
  have ht := hd.tame hr hs
  refine ⟨?_, ?_⟩
  · rw [← hd.flagAt_iff ht hl, Highlight.flagAt_paint hl, Option.some_inj]
  refine ⟨_, Highlight.getElem?_lines hl, fun j c hc => ?_⟩
  obtain ⟨role, hrole, htone⟩ := Highlight.exists_role hc
  refine ⟨role, hrole, ?_⟩
  obtain ⟨a, b, htext, ha, hn, hret⟩ := Text.place_of_lines hl hc
  -- a carriage return would belong to a line break
  have hline : isLineEnd c = false := by
    rw [htext] at hr
    exact Text.isLineEnd_eq_false_iff.mpr ⟨hn, fun he => hret he (hr.of_append.1 he)⟩
  have hat := (Highlight.toneAt_paint hl j).trans htone
  rw [← ha] at hat ⊢
  rw [Palette.ofRole_eq_grey_iff, Palette.ofRole_eq_green_iff,
    ← exists_inPart_comment_iff htext hline, ← exists_inPart_string_iff ht hd htext,
    ← hd.toneAt_iff ht htext hline, ← hd.toneAt_iff ht htext hline, hat]
  exact ⟨Option.some_inj.symm, Option.some_inj.symm⟩

/-- A comment opens in a string and in code; the second reaches into the next line. -/
theorem highlight_agrees_open :
    tokenize "\x22/*\x22 /*\r\n*/ y" =
        .ok [⟨.stringLiteral, "\x22/*\x22", ⟨1, 1⟩⟩, ⟨.identifier, "y", ⟨2, 4⟩⟩] ∧
      ReturnsPaired "\x22/*\x22 /*\r\n*/ y".toList ∧
      (Text.lines "\x22/*\x22 /*\r\n*/ y".toList)[1]? = some ['*', '/', ' ', 'y'] ∧
      BeginsInComment "\x22/*\x22 /*\r\n*/ y".toList 2 ∧
      InComment "\x22/*\x22 /*\r\n*/ y".toList ⟨2, 1⟩ ∧
      ¬ InComment "\x22/*\x22 /*\r\n*/ y".toList ⟨2, 4⟩ := by
  have ht : tokenize "\x22/*\x22 /*\r\n*/ y" =
      .ok [⟨.stringLiteral, "\x22/*\x22", ⟨1, 1⟩⟩, ⟨.identifier, "y", ⟨2, 4⟩⟩] := by cbv
  have hr : ReturnsPaired "\x22/*\x22 /*\r\n*/ y".toList := by decide
  have hl : (Text.lines "\x22/*\x22 /*\r\n*/ y".toList)[1]? = some ['*', '/', ' ', 'y'] := by cbv
  have hp : (Highlight.lines false (Text.lines "\x22/*\x22 /*\r\n*/ y".toList))[1]? =
      some [⟨['*', '/'], .comment⟩, ⟨[' '], .plain⟩, ⟨['y'], .plain⟩] := by cbv
  have hin : Highlight.insideBefore (Text.lines "\x22/*\x22 /*\r\n*/ y".toList) 1 = true := by cbv
  obtain ⟨hflag, pieces, hpieces, hchars⟩ := highlight_agrees ht (by decide) hr hl
  obtain rfl := Option.some.inj (hp.symm.trans hpieces)
  obtain ⟨role, hrole, hcomment, -⟩ := hchars 0 '*' rfl
  obtain ⟨role', hrole', hcomment', -⟩ := hchars 3 'y' rfl
  obtain ⟨-, rfl⟩ := Prod.mk.inj (Option.some.inj hrole)
  obtain ⟨-, rfl⟩ := Prod.mk.inj (Option.some.inj hrole')
  exact ⟨ht, hr, hl, hflag.mp hin, hcomment.mp rfl, fun h => absurd (hcomment'.mpr h) (by decide)⟩

end SourceCheck

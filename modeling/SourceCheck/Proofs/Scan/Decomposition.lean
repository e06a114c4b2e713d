import SourceCheck.Proofs.Scan.Munch
import SourceCheck.Scan.Stream

/-!
# Scan — the decomposition of a text into tokens

* `met`: every text begins with a last gap, a gap and a lexeme, or a gap and a flaw; so a scan
  finds exactly the one that it begins with (`scan_iff_meets`).
* `tokenize_eq_ok_iff_decomposes`: a text has tokens just when it is written as their lexemes with
  gaps between them, and each lexeme is as long as it can be.

The lemmas on what the automaton does with each class of text (`scan_gap`, `scan_lexeme`,
`scan_flawed`) give one direction of both; `met` gives the other, because it leaves a scan nothing
else to find.
-/

namespace SourceCheck.Scan

open Text (isDigit isWordStart isWordPart isLineEnd isBlank isInvalid)
open Reader (between)

/-! ### What a scan meets -/

/-- What stands next in the text behind `before`: a last gap, a lexeme behind a gap, or a flaw
behind a gap. -/
inductive Meets (before : List Char) : List Char → Found → Prop where
  | finish {g : List Char} (hg : LastGap g) :
      Meets before g (.finish (between (before ++ g) []))
  | token {g l rest : List Char} {k : Kind} (hg : Gap g) (hl : Lexeme k l) (he : Ends k l rest) :
      Meets before (g ++ (l ++ rest))
        (.token ⟨k, String.ofList l, .counted (before ++ g)⟩ (between (before ++ g ++ l) rest))
  | flaw {g upto taken rest : List Char} {f : Flaw} (hg : Gap g) (hf : Flawed f upto taken rest) :
      Meets before (g ++ (taken ++ rest))
        (.flaw ⟨f, .counted (before ++ g ++ upto)⟩ (between (before ++ g ++ taken) rest))

/-- A scan finds what it meets. -/
theorem scan_of_meets {before text : List Char} {found : Found} (h : Meets before text found) :
    (between before text).scan = found := by
  cases h with
  | finish hg => exact scan_lastGap hg before
  | token hg hl he => rw [scan_gap hg, scan_lexeme hl _ _ he, Position.after_origin]
  | flaw hg hf => rw [scan_gap hg, scan_flawed hf, Position.after_origin]

/-! ### Every text is met -/

theorem Meets.cons {before a text : List Char} {found : Found} (ha : Trivium a)
    (h : Meets (before ++ a) text found) : Meets before (a ++ text) found := by
  cases h with
  | finish hg =>
      cases hg with
      | closed hg => simpa using @Meets.finish before _ (.closed (.cons ha hg))
      | unclosed hg hb =>
          simpa using @Meets.finish before _ (.unclosed (.cons ha hg) hb)
  | token hg hl he => simpa using @Meets.token before _ _ _ _ (.cons ha hg) hl he
  | flaw hg hf => simpa using @Meets.flaw before _ _ _ _ _ (.cons ha hg) hf

/-- A text behind `before` begins with something that a scan can meet. -/
def Met (before text : List Char) : Prop :=
  ∃ found, Meets before text found

section

variable (before : List Char)

theorem met_lexeme {k : Kind} {l rest : List Char} (hl : Lexeme k l) (he : Ends k l rest) :
    Met before (l ++ rest) :=
  ⟨_, .token .nil hl he⟩

theorem met_flawed {f : Flaw} {upto taken rest : List Char} (hf : Flawed f upto taken rest) :
    Met before (taken ++ rest) :=
  ⟨_, .flaw .nil hf⟩

/-- The longest beginning of a text whose characters are all of one class. -/
theorem exists_span (p : Char → Bool) (text : List Char) :
    ∃ w rest, text = w ++ rest ∧ (∀ c ∈ w, p c = true) ∧ ∀ c ∈ rest.head?, p c = false := by
  refine ⟨text.takeWhile p, text.dropWhile p, List.takeWhile_append_dropWhile.symm,
    fun c hc => List.mem_takeWhile_imp hc, fun c hc => ?_⟩
  have hd := List.head?_dropWhile_not p text
  rw [Option.mem_def.mp hc] at hd
  simpa using hd

/-- A block comment that is closed has a first end. -/
theorem exists_first_commentEnd {text : List Char} (h : commentEnd <:+: text) :
    ∃ body rest, text = body ++ commentEnd ++ rest ∧ ¬ commentEnd <:+: body ++ ['*'] := by
  induction text with
  | nil => simp [commentEnd] at h
  | cons c text ih =>
      by_cases hp : commentEnd <+: c :: text
      · obtain ⟨rest, hr⟩ := hp
        exact ⟨[], rest, hr.symm, fun hi => by simpa [commentEnd] using hi.length_le⟩
      · obtain ⟨body, rest, rfl, hb⟩ := ih ((List.infix_cons_iff.mp h).resolve_left hp)
        refine ⟨c :: body, rest, rfl, fun hi => ?_⟩
        rcases List.infix_cons_iff.mp hi with hi | hi
        -- an end at the front of `c :: body ++ ['*']` is one at the front of the text
        · refine hp (hi.trans ?_)
          simp [commentEnd]
        · exact hb hi

theorem met_word {c : Char} (hc : isWordStart c = true) (cs : List Char) :
    Met before (c :: cs) := by
  obtain ⟨w, rest, rfl, hw, hr⟩ := exists_span isWordPart cs
  have hl := lexeme_of_word (l := c :: w) ⟨hc, hw⟩
  refine met_lexeme before hl fun d hd => ?_
  rw [prolongs_ofWord]
  exact hr d hd

/-- Digits and a point: what follows decides whether they are a number. -/
theorem met_point {ds : List Char} (hd : Digits ds) (text : List Char) :
    Met before (ds ++ '.' :: text) := by
  obtain ⟨fs, rest, rfl, hf, hr⟩ := exists_span isDigit text
  by_cases hn : fs = []
  · subst hn
    simpa using met_flawed before (.point hd hr)
  by_cases hp : rest.head? = some '.'
  · obtain ⟨rest, rfl⟩ := List.head?_eq_some_iff.mp hp
    simpa using met_flawed before (@Flawed.secondPoint ds fs rest hd hf hn)
  have he : Ends .floatLiteral (ds ++ '.' :: fs) rest := by
    intro c hc
    have hc' : c ≠ '.' := by
      rintro rfl
      exact hp hc
    simp [prolongs, hr c hc, hc']
  simpa using met_lexeme before (.float hd hf hn) he

theorem met_digit {c : Char} (hc : isDigit c = true) (cs : List Char) : Met before (c :: cs) := by
  obtain ⟨w, rest, rfl, hw, hr⟩ := exists_span isDigit cs
  have hd : Digits (c :: w) := by
    intro d hd
    rcases List.mem_cons.mp hd with rfl | hd
    · exact hc
    · exact hw d hd
  by_cases hp : rest.head? = some '.'
  · obtain ⟨rest, rfl⟩ := List.head?_eq_some_iff.mp hp
    exact met_point before hd rest
  · refine met_lexeme before (.integer hd (by simp)) fun d hd => ?_
    have hd' : d ≠ '.' := by
      rintro rfl
      exact hp hd
    simp [prolongs, hr d hd, hd']

theorem met_string (cs : List Char) : Met before ('\x22' :: cs) := by
  by_cases h : '\x22' ∈ cs
  · obtain ⟨body, rest, rfl, hb⟩ := List.eq_append_cons_of_mem h
    have he : Ends .stringLiteral ('\x22' :: (body ++ ['\x22'])) rest := fun c hc => rfl
    simpa using met_lexeme before (.string hb) he
  · simpa using met_flawed before (.string h)

/-- `<` alone, or with one of the two characters that make it longer. -/
theorem met_less (cs : List Char) : Met before ('<' :: cs) := by
  by_cases heq : cs.head? = some '='
  · obtain ⟨rest, rfl⟩ := List.head?_eq_some_iff.mp heq
    exact met_lexeme before (.relation (s := "<=") (by decide)) fun d _ => rfl
  by_cases hdash : cs.head? = some '-'
  · obtain ⟨rest, rfl⟩ := List.head?_eq_some_iff.mp hdash
    exact met_lexeme before (.assign (s := "<-") (by decide)) fun d _ => rfl
  refine met_lexeme before (.relation (s := "<") (by decide)) fun d hd => ?_
  have hd' : d ≠ '=' ∧ d ≠ '-' := by
    refine ⟨?_, ?_⟩ <;> rintro rfl
    · exact heq hd
    · exact hdash hd
  simp [prolongs, hd']

theorem met_comparator {c : Char} (hc : c ∈ ['>', '!', '=']) (cs : List Char) :
    Met before (c :: cs) := by
  by_cases heq : cs.head? = some '='
  · obtain ⟨rest, rfl⟩ := List.head?_eq_some_iff.mp heq
    simp only [List.mem_cons, List.not_mem_nil, or_false] at hc
    rcases hc with rfl | rfl | rfl
    · exact met_lexeme before (.relation (s := ">=") (by decide)) fun d _ => rfl
    · exact met_lexeme before (.relation (s := "!=") (by decide)) fun d _ => rfl
    · exact met_lexeme before (.relation (s := "==") (by decide)) fun d _ => rfl
  · refine met_lexeme before (lexeme_of_comparator hc) fun d hd => ?_
    have hd' : d ≠ '=' := by
      rintro rfl
      exact heq hd
    have hl : c ≠ '<' := by
      rintro rfl
      simp at hc
    rw [comparatorKind]
    split <;> simp [prolongs, hd', hl]

theorem met_single {c : Char} {k : Kind} (h : singleKind? c = some k) (cs : List Char) :
    Met before (c :: cs) :=
  met_lexeme before (lexeme_of_singleKind? h) fun d _ => prolongs_of_singleKind? h d

theorem met_trivium {a text : List Char} (ha : Trivium a) (h : Met (before ++ a) text) :
    Met before (a ++ text) := by
  obtain ⟨found, h⟩ := h
  exact ⟨found, h.cons ha⟩

/-- A comment, to the line end or to the end of the text. -/
theorem met_lineComment {cs : List Char}
    (ih : ∀ rest, rest.length ≤ cs.length → ∀ before, Met before rest) :
    Met before ('#' :: cs) := by
  obtain ⟨body, rest, rfl, hb, hr⟩ := exists_span (fun c => !isLineEnd c) cs
  have hb' : ∀ d ∈ body, isLineEnd d = false := by simpa using hb
  cases rest with
  | nil =>
      rw [List.append_nil]
      exact ⟨_, .finish (.unclosed .nil hb')⟩
  | cons c rest =>
      have hc : isLineEnd c = true := by simpa using hr c rfl
      have hm := ih rest (by simp; omega) (before ++ '#' :: (body ++ [c]))
      simpa using met_trivium before (.lineComment hb' hc) hm

/-- A block comment, or an operator. -/
theorem met_slash {cs : List Char}
    (ih : ∀ rest, rest.length ≤ cs.length → ∀ before, Met before rest) :
    Met before ('/' :: cs) := by
  by_cases hs : cs.head? = some '*'
  · obtain ⟨text, rfl⟩ := List.head?_eq_some_iff.mp hs
    by_cases hi : commentEnd <:+: text
    · obtain ⟨body, rest, rfl, hb⟩ := exists_first_commentEnd hi
      have hm := ih rest (by simp; omega) (before ++ '/' :: '*' :: (body ++ commentEnd))
      simpa using met_trivium before (.blockComment hb) hm
    · simpa using met_flawed before (.comment hi)
  · refine met_lexeme before (.math (c := '/') (by decide)) fun d hd => ?_
    have hd' : d ≠ '*' := by
      rintro rfl
      exact hs hd
    simp [prolongs, hd']

end

/-- **Nothing else can be met.**  Every text begins with a last gap, a gap and a lexeme, or a gap
and a flaw. -/
theorem met (before text : List Char) : Met before text := by
  induction hn : text.length using Nat.strong_induction_on generalizing before text with
  | _ n ih =>
      subst hn
      cases text with
      | nil => exact ⟨_, .finish (.closed .nil)⟩
      | cons c cs =>
          have ih' : ∀ rest, rest.length ≤ cs.length → ∀ before, Met before rest :=
            fun rest hr before => ih rest.length (Nat.lt_succ_of_le hr) before rest rfl
          -- only a blank or a comment has the rest of the text still to be met
          rcases begin_cases c with hc | hc | hc | hc | ⟨k, hc⟩ | hc | hc
          · exact met_word before hc cs
          · exact met_digit before hc cs
          · simp only [List.mem_cons, List.not_mem_nil, or_false] at hc
            rcases hc with rfl | rfl | rfl | rfl | rfl
            · exact @met_point before [] (fun d hd => nomatch hd) cs
            · exact met_less before cs
            · exact met_lineComment before ih'
            · exact met_slash before ih'
            · exact met_string before cs
          · exact met_comparator before hc cs
          · exact met_single before hc cs
          · exact met_trivium before (.blank hc) (ih' cs le_rfl _)
          · exact met_flawed before (.stray (stray_of_begin hc))

/-- **One scan.**  A scan finds exactly what the text behind `before` begins with. -/
theorem scan_iff_meets {before text : List Char} {found : Found} :
    (between before text).scan = found ↔ Meets before text found := by
  obtain ⟨found', h⟩ := met before text
  rw [scan_of_meets h]
  refine ⟨?_, ?_⟩
  · rintro rfl
    exact h
  · intro h'
    rw [← scan_of_meets h, scan_of_meets h']

/-! ### The tokens of a text -/

/-- The text behind `before` is written as gaps and the lexemes of the tokens, in turn; no lexeme
is prolonged by what follows it, and each token is located behind all that comes before it. -/
inductive Decomposes : List Char → List Char → List Token → Prop where
  | finish {before g : List Char} (hg : LastGap g) : Decomposes before g []
  | token {before g l rest : List Char} {k : Kind} {ts : List Token} (hg : Gap g)
      (hl : Lexeme k l) (he : Ends k l rest) (h : Decomposes (before ++ g ++ l) rest ts) :
      Decomposes before (g ++ (l ++ rest))
        (⟨k, String.ofList l, .counted (before ++ g)⟩ :: ts)

/-- A decomposition is what the stream of tokens reads. -/
theorem Decomposes.stream {before text : List Char} {ts : List Token}
    (h : Decomposes before text ts) :
    (TokenStream.ofReader (between before text)).fault? = none ∧
      (TokenStream.ofReader (between before text)).tokens = ts := by
  induction h with
  | finish hg =>
      rw [TokenStream.ofReader_eq, scan_of_meets (.finish hg)]
      exact ⟨rfl, rfl⟩
  | token hg hl he _ ih =>
      rw [TokenStream.ofReader_eq, scan_of_meets (.token hg hl he)]
      exact ⟨ih.1, congrArg _ ih.2⟩

/-- A stream without a flaw decomposes its text. -/
theorem decomposes_of_stream (before text : List Char)
    (h : (TokenStream.ofReader (between before text)).fault? = none) :
    Decomposes before text (TokenStream.ofReader (between before text)).tokens := by
  induction hn : text.length using Nat.strong_induction_on generalizing before text with
  | _ n ih =>
      subst hn
      have hm : Meets before text (between before text).scan := scan_iff_meets.mp rfl
      rw [TokenStream.ofReader_eq] at h ⊢
      generalize (between before text).scan = found at h hm ⊢
      cases hm with
      | finish hg => exact .finish hg
      | flaw hg hf => cases h
      | @token g l rest k hg hl he =>
          -- a lexeme is not empty, so the rest is shorter
          refine .token hg hl he (ih rest.length ?_ _ rest h rfl)
          have hp := List.length_pos_iff.mpr hl.ne_nil
          simp only [List.length_append]
          omega

/-! ### Texts without comments and strings -/

theorem isBlank_of_isWordPart {c : Char} (h : isWordPart c = true) : isBlank c = false := by
  by_contra hb
  simp only [isBlank, isLineEnd, Bool.not_eq_false, Bool.or_eq_true, beq_iff_eq] at hb
  rcases hb with (rfl | rfl) | rfl | rfl <;> exact absurd h (by decide)

theorem isWordPart_of_isDigit {c : Char} (h : isDigit c = true) : isWordPart c = true := by
  simp [isWordPart, h]

theorem Word.isWordPart {l : List Char} (h : Word l) : ∀ c ∈ l, isWordPart c = true := by
  cases l with
  | nil => exact h.elim
  | cons c l =>
      intro d hd
      rcases List.mem_cons.mp hd with rfl | hd
      · exact Text.isWordPart_of_isWordStart h.1
      · exact h.2 d hd

theorem not_isBlank_of_all {l : List Char} (h : l.all (!isBlank ·) = true) :
    ∀ c ∈ l, isBlank c = false := by
  simpa using h

/-- Blanks stand in no lexeme but that of a string. -/
theorem Lexeme.not_isBlank {k : Kind} {l : List Char} (h : Lexeme k l) (hq : '\x22' ∉ l) :
    ∀ c ∈ l, isBlank c = false := by
  cases h with
  | identifier hw hr => exact fun c hc => isBlank_of_isWordPart (hw.isWordPart c hc)
  | spelled h => cases k <;> cases h <;> exact not_isBlank_of_all (by decide)
  | integer hd hn => exact fun c hc => isBlank_of_isWordPart (isWordPart_of_isDigit (hd c hc))
  | float hd hf hn =>
      intro c hc
      rcases List.mem_append.mp hc with hc | hc
      · exact isBlank_of_isWordPart (isWordPart_of_isDigit (hd c hc))
      · rcases List.mem_cons.mp hc with rfl | hc
        · rfl
        · exact isBlank_of_isWordPart (isWordPart_of_isDigit (hf c hc))
  | string h => exact absurd List.mem_cons_self hq
  | math h =>
      have hs : ∀ c ∈ signs, isBlank c = false := not_isBlank_of_all (by decide)
      intro d hd
      exact List.mem_singleton.mp hd ▸ hs _ h
  | relation h =>
      have hs : ∀ s ∈ comparisons, s.toList.all (!Text.isBlank ·) = true := by decide
      exact not_isBlank_of_all (hs _ h)
  | assign h =>
      have hs : ∀ s ∈ assignments, s.toList.all (!Text.isBlank ·) = true := by decide
      exact not_isBlank_of_all (hs _ h)

/-- A text in which no comment can begin. -/
def CommentFree (text : List Char) : Prop :=
  '#' ∉ text ∧ ¬ ['/', '*'] <:+: text

theorem CommentFree.of_append {a b : List Char} (h : CommentFree (a ++ b)) :
    CommentFree a ∧ CommentFree b := by
  refine ⟨⟨fun ha => h.1 (List.mem_append_left b ha), fun ha => h.2 (ha.trans ⟨[], b, by simp⟩)⟩,
    fun hb => h.1 (List.mem_append_right a hb), fun hb => h.2 (hb.trans ⟨a, [], by simp⟩)⟩

theorem Gap.isBlank {g : List Char} (h : Gap g) (hc : CommentFree g) :
    ∀ c ∈ g, isBlank c = true := by
  induction h with
  | nil => exact fun c hc => nomatch hc
  | cons ha _ ih =>
      intro c hm
      rcases List.mem_append.mp hm with hm | hm
      · cases ha with
        | blank hb => exact List.mem_singleton.mp hm ▸ hb
        | lineComment hb he => exact absurd List.mem_cons_self hc.of_append.1.1
        | blockComment hb => exact absurd ⟨[], _, rfl⟩ hc.of_append.1.2
      · exact ih hc.of_append.2 c hm

theorem LastGap.isBlank {g : List Char} (h : LastGap g) (hc : CommentFree g) :
    ∀ c ∈ g, isBlank c = true := by
  cases h with
  | closed hg => exact hg.isBlank hc
  | unclosed hg hb => exact absurd (List.mem_append_right _ List.mem_cons_self) hc.1

/-- Without comments and strings, a text is its lexemes and blanks. -/
theorem Decomposes.flatMap_lexeme {before text : List Char} {ts : List Token}
    (h : Decomposes before text ts) (hc : CommentFree text) (hq : '\x22' ∉ text) :
    ts.flatMap (·.lexeme.toList) = text.filter (!isBlank ·) := by
  induction h with
  | finish hg =>
      refine (List.filter_eq_nil_iff.mpr fun c hm => ?_).symm
      simp [hg.isBlank hc c hm]
  | @token before g l rest k ts hg hl he _ ih =>
      obtain ⟨hg', hlr⟩ := hc.of_append
      -- the blanks of this part are its gap, and all of its gap
      have hql : '\x22' ∉ l := fun hm => hq (by simp [hm])
      have hgn : g.filter (!Text.isBlank ·) = [] := by
        refine List.filter_eq_nil_iff.mpr fun c hm => ?_
        simp [hg.isBlank hg' c hm]
      have hll : l.filter (!Text.isBlank ·) = l := by
        refine List.filter_eq_self.mpr fun c hm => ?_
        simp [hl.not_isBlank hql c hm]
      rw [List.flatMap_cons, ih hlr.of_append.2 fun hm => hq (by simp [hm]), List.filter_append,
        List.filter_append, hgn, hll, String.toList_ofList, List.nil_append]

end SourceCheck.Scan

namespace SourceCheck

open Scan

/-- **Maximal munch.**  A text has the tokens `ts` just when it is written as their lexemes with
gaps between them, each lexeme in the language of its kind and not prolonged by what follows it,
and each token located by counting the line feeds before it and the characters behind the last
of them.  So a text without comments and strings is the lexemes of its tokens, but for blanks. -/
theorem tokenize_eq_ok_iff_decomposes (source : String) (ts : List Token) :
    (tokenize source = .ok ts ↔ Decomposes [] source.toList ts) ∧
      (tokenize source = .ok ts → CommentFree source.toList → '\x22' ∉ source.toList →
        ts.flatMap (·.lexeme.toList) = source.toList.filter (!Text.isBlank ·)) := by
  have hiff : tokenize source = .ok ts ↔ Decomposes [] source.toList ts := by
    rw [tokenize_eq_ok_iff, TokenStream.ofString, Reader.ofString_eq_between]
    refine ⟨?_, ?_⟩
    · rintro ⟨hn, rfl⟩
      exact decomposes_of_stream [] source.toList hn
    · exact Decomposes.stream
  exact ⟨hiff, fun h hc hq => (hiff.mp h).flatMap_lexeme hc hq⟩

theorem tokenize_decomposes_lines :
    tokenize "x <-\n .5*a1;" = .ok [⟨.identifier, "x", ⟨1, 1⟩⟩, ⟨.assign, "<-", ⟨1, 3⟩⟩,
        ⟨.floatLiteral, ".5", ⟨2, 2⟩⟩, ⟨.mathOperator, "*", ⟨2, 4⟩⟩, ⟨.identifier, "a1", ⟨2, 5⟩⟩,
        ⟨.semicolon, ";", ⟨2, 7⟩⟩] ∧
      CommentFree "x <-\n .5*a1;".toList ∧ '\x22' ∉ "x <-\n .5*a1;".toList ∧
      Decomposes [] "x <-\n .5*a1;".toList [⟨.identifier, "x", ⟨1, 1⟩⟩, ⟨.assign, "<-", ⟨1, 3⟩⟩,
        ⟨.floatLiteral, ".5", ⟨2, 2⟩⟩, ⟨.mathOperator, "*", ⟨2, 4⟩⟩, ⟨.identifier, "a1", ⟨2, 5⟩⟩,
        ⟨.semicolon, ";", ⟨2, 7⟩⟩] ∧
      ['x', '<', '-', '.', '5', '*', 'a', '1', ';'] =
        "x <-\n .5*a1;".toList.filter (!Text.isBlank ·) := by
  have ht : tokenize "x <-\n .5*a1;" = .ok [⟨.identifier, "x", ⟨1, 1⟩⟩, ⟨.assign, "<-", ⟨1, 3⟩⟩,
      ⟨.floatLiteral, ".5", ⟨2, 2⟩⟩, ⟨.mathOperator, "*", ⟨2, 4⟩⟩, ⟨.identifier, "a1", ⟨2, 5⟩⟩,
      ⟨.semicolon, ";", ⟨2, 7⟩⟩] := by cbv
  have hc : CommentFree "x <-\n .5*a1;".toList := ⟨by decide, by decide⟩
  have hq : '\x22' ∉ "x <-\n .5*a1;".toList := by decide
  obtain ⟨hd, hf⟩ := tokenize_eq_ok_iff_decomposes "x <-\n .5*a1;" _
  exact ⟨ht, hc, hq, hd.mp ht, hf ht hc hq⟩

end SourceCheck

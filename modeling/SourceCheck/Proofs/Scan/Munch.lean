import SourceCheck.Proofs.Scan.Moves

/-!
# Scan — what the automaton does with gaps, lexemes and flaws

Whatever came before, and whatever follows as far as it does not belong to it:

* `scan_gap`: a gap is passed over, and the scan goes on behind it.
* `scan_lastGap`: behind the last token a scan finds the end.
* `scan_lexeme`: a lexeme that what follows does not prolong is found as a token of its kind.
* `scan_flawed`: a flaw is found at its position.

A block comment begins like an operator, so its first character is taken into a lexeme that is
dropped where the comment ends; inside the comment the state says whether the character before was
a `*` (`commentState`).
-/

namespace SourceCheck.Scan

open Text (isDigit isWordStart isWordPart isLineEnd isBlank isInvalid)
open Reader (between)

/-! ### Gaps -/

theorem begin_of_isBlank {c : Char} (h : isBlank c = true) : State.begin c = .skip .start := by
  simp only [isBlank, isLineEnd, Bool.or_eq_true, beq_iff_eq] at h
  rcases h with (rfl | rfl) | rfl | rfl <;> decide

theorem scan_skip {c : Char} {t : State} (h : State.begin c = .skip t) (before rest : List Char) :
    (between before (c :: rest)).scan =
      runAt t [] (Position.origin.after before) (between (before ++ [c]) rest) := by
  rw [scan_between, taking, List.append_nil, runAt_skip (s := .start) _ _ _ _ h]

theorem scan_blank {c : Char} (h : isBlank c = true) (before rest : List Char) :
    (between before (c :: rest)).scan = (between (before ++ [c]) rest).scan := by
  rw [scan_skip (begin_of_isBlank h), runAt, Reader.scan]
  exact run_start_irrelevant (Or.inl rfl) ..

theorem step_lineComment {c : Char} (h : isLineEnd c = false) :
    State.lineComment.step c = .skip .lineComment := by
  simp [State.step, h]

theorem scan_lineComment {body : List Char} {c : Char} (hb : ∀ d ∈ body, isLineEnd d = false)
    (hc : isLineEnd c = true) (before rest : List Char) :
    (between before ('#' :: (body ++ c :: rest))).scan =
      (between (before ++ '#' :: (body ++ [c])) rest).scan := by
  have hd : State.lineComment.step c = .discard := by simp [State.step, hc]
  rw [scan_skip (t := .lineComment) (by decide),
    runAt_many _ _ _ _ fun d h => step_lineComment (hb d h), runAt_discard _ _ _ _ hd]
  simp

/-- The state of a run that has passed over `body` behind the opening of a block comment. -/
def commentState (body : List Char) : State :=
  if body.getLast? = some '*' then .blockCommentStar else .blockComment

theorem step_commentState {body : List Char} {c : Char} (h : ¬ commentEnd <:+: body ++ [c]) :
    (commentState body).step c = .skip (commentState (body ++ [c])) := by
  by_cases hs : body.getLast? = some '*'
  -- behind a `*`, only a `/` would leave the comment
  · obtain ⟨front, rfl⟩ := List.getLast?_eq_some_iff.mp hs
    have hc : c ≠ '/' := by
      rintro rfl
      exact h ⟨front, [], by simp [commentEnd]⟩
    by_cases hc' : c = '*' <;> simp [commentState, State.step, hc, hc']
  · by_cases hc : c = '*' <;> simp [commentState, State.step, hc, hs]

/-- A run stays in a block comment until it has met the end of one. -/
theorem runAt_commentState (done : List Char) {body : List Char}
    (h : ¬ commentEnd <:+: done ++ body) (l : List Char) (start : Position) (before rest : List Char) :
    runAt (commentState done) l start (between before (body ++ rest)) =
      runAt (commentState (done ++ body)) l start (between (before ++ body) rest) := by
  induction body generalizing done before with
  | nil => simp
  | cons c body ih =>
      have hc : ¬ commentEnd <:+: done ++ [c] := by
        intro hi
        refine h (hi.trans ⟨[], body, by simp⟩)
      have hb : ¬ commentEnd <:+: done ++ [c] ++ body := by simpa using h
      rw [List.cons_append, runAt_skip _ _ _ _ (step_commentState hc), ih _ hb]
      simp

theorem runAt_blockComment {body : List Char} (h : ¬ commentEnd <:+: body) (l : List Char)
    (start : Position) (before rest : List Char) :
    runAt .blockComment l start (between before (body ++ rest)) =
      runAt (commentState body) l start (between (before ++ body) rest) :=
  runAt_commentState [] h l start before rest

/-- The opening of a block comment is taken for an operator at first. -/
theorem scan_commentStart (before rest : List Char) :
    (between before ('/' :: '*' :: rest)).scan =
      runAt .blockComment ['/'] (Position.origin.after before)
        (between (before ++ ['/', '*']) rest) := by
  rw [scan_between, taking_append (t := .slash) _ _ _ (by decide), taking,
    runAt_skip (t := .blockComment) _ _ _ _ (by decide)]
  simp

theorem scan_blockComment {body : List Char} (h : ¬ commentEnd <:+: body ++ ['*'])
    (before rest : List Char) :
    (between before ('/' :: '*' :: (body ++ commentEnd ++ rest))).scan =
      (between (before ++ '/' :: '*' :: (body ++ commentEnd)) rest).scan := by
  have hd : (commentState (body ++ ['*'])).step '/' = .discard := by simp [commentState, State.step]
  have ht : body ++ commentEnd ++ rest = body ++ ['*'] ++ '/' :: rest := by simp [commentEnd]
  rw [scan_commentStart, ht, runAt_blockComment h, runAt_discard _ _ _ _ hd]
  simp [commentEnd]

theorem scan_trivium {a : List Char} (h : Trivium a) (before rest : List Char) :
    (between before (a ++ rest)).scan = (between (before ++ a) rest).scan := by
  cases h with
  | blank h => exact scan_blank h before rest
  | lineComment hb hc => simpa using scan_lineComment hb hc before rest
  | blockComment h => exact scan_blockComment h before rest

/-- **A gap is passed over.** -/
theorem scan_gap {g : List Char} (h : Gap g) (before rest : List Char) :
    (between before (g ++ rest)).scan = (between (before ++ g) rest).scan := by
  induction h generalizing before with
  | nil => simp
  | cons ha _ ih => rw [List.append_assoc, scan_trivium ha, ih, List.append_assoc]

/-- Behind the last token there is nothing to find. -/
theorem scan_lastGap {g : List Char} (h : LastGap g) (before : List Char) :
    (between before g).scan = .finish (between (before ++ g) []) := by
  have hn : ∀ before, (between before []).scan = .finish (between before []) := fun before =>
    runAt_finish (s := .start) before [] _ rfl
  cases h with
  | closed hg =>
      have hs := scan_gap hg before []
      rw [List.append_nil] at hs
      rw [hs, hn]
  | @unclosed g body hg hb =>
      have hr := runAt_many (s := .lineComment) (before ++ g ++ ['#']) []
        (Position.origin.after (before ++ g)) [] fun d hd => step_lineComment (hb d hd)
      rw [List.append_nil] at hr
      rw [scan_gap hg, scan_skip (t := .lineComment) (by decide), hr, runAt_finish _ _ _ rfl]
      simp

/-! ### Lexemes -/

theorem isWordStart_of_isDigit {c : Char} (h : isDigit c = true) : isWordStart c = false := by
  have hn : c ≠ '_' := by
    rintro rfl
    cases h
  have hd : 48 ≤ c.toNat ∧ c.toNat ≤ 57 := by
    simpa [isDigit, Char.isDigit, UInt32.le_iff_toNat_le] using h
  have ha : c.isAlpha = false := by
    simp [Char.isAlpha, Char.isUpper, Char.isLower, UInt32.le_iff_toNat_le]
    omega
  simp [isWordStart, Text.isLetter, ha, hn]

theorem begin_of_isWordStart {c : Char} (h : isWordStart c = true) :
    State.begin c = .append .word := by
  simp [State.begin, h]

theorem begin_of_isDigit {c : Char} (h : isDigit c = true) : State.begin c = .append .integer := by
  simp [State.begin, isWordStart_of_isDigit h, h]

theorem begin_of_singleKind? {c : Char} {k : Kind} (h : singleKind? c = some k) :
    State.begin c = .appendEmit k := by
  unfold singleKind? at h
  split at h
  all_goals cases h
  all_goals decide

theorem ofLexeme_of_ne {k : Kind} (h : k ≠ .identifier) (lexeme : String) (start : Position) :
    Token.ofLexeme k lexeme start = ⟨k, lexeme, start⟩ := by
  simp [Token.ofLexeme, h]

section

variable (before rest : List Char)

theorem scan_word {l : List Char} (h : Word l) (he : ∀ c ∈ rest.head?, isWordPart c = false) :
    (between before (l ++ rest)).scan =
      .token ⟨.ofWord (String.ofList l), String.ofList l, Position.origin.after before⟩
        (between (before ++ l) rest) := by
  cases l with
  | nil => exact h.elim
  | cons c w =>
      have hw : ∀ d ∈ w, State.word.step d = .append .word := fun d hd => by
        simp [State.step, h.2 d hd]
      have hr : ∀ d ∈ rest.head?, State.word.step d = .emit .identifier := fun d hd => by
        simp [State.step, he d hd]
      rw [scan_between, List.cons_append,
        taking_append (s := .start) _ _ _ (begin_of_isWordStart h.1), taking_many _ _ _ hw,
        taking_emit _ _ _ rfl hr]
      rfl

/-- A token of one character that begins nothing else. -/
theorem scan_single {c : Char} {k : Kind} (h : State.begin c = .appendEmit k)
    (hk : k ≠ .identifier) :
    (between before (c :: rest)).scan =
      .token ⟨k, String.ofList [c], Position.origin.after before⟩
        (between (before ++ [c]) rest) := by
  rw [scan_between, taking_appendEmit (s := .start) _ _ _ h, ofLexeme_of_ne hk]
  rfl

/-- A token of one character that a further one could have made longer. -/
theorem scan_short {c : Char} {t : State} {k : Kind} (h : State.begin c = .append t)
    (hk : k ≠ .identifier) (ht : t.atEnd = .emit k) (he : ∀ d ∈ rest.head?, t.step d = .emit k) :
    (between before (c :: rest)).scan =
      .token ⟨k, String.ofList [c], Position.origin.after before⟩
        (between (before ++ [c]) rest) := by
  rw [scan_between, taking_append (s := .start) _ _ _ h, taking_emit _ _ _ ht he, ofLexeme_of_ne hk]
  rfl

/-- A token of two characters. -/
theorem scan_pair {c d : Char} {t : State} {k : Kind} (h : State.begin c = .append t)
    (hk : k ≠ .identifier) (hd : t.step d = .appendEmit k) :
    (between before (c :: d :: rest)).scan =
      .token ⟨k, String.ofList [c, d], Position.origin.after before⟩
        (between (before ++ [c, d]) rest) := by
  rw [scan_between, taking_append (s := .start) _ _ _ h, taking_appendEmit _ _ _ hd,
    ofLexeme_of_ne hk]
  rfl

/-- The digits in front of a point, or of the end of a number. -/
theorem scan_digits {ds : List Char} (h : Digits ds) (hn : ds ≠ []) :
    (between before (ds ++ rest)).scan = taking .integer before ds rest := by
  cases ds with
  | nil => exact absurd rfl hn
  | cons d ds =>
      have hs : ∀ c ∈ ds, State.integer.step c = .append .integer := fun c hc => by
        simp [State.step, h c (List.mem_cons_of_mem d hc)]
      rw [scan_between, List.cons_append,
        taking_append (s := .start) _ _ _ (begin_of_isDigit (h d List.mem_cons_self)),
        taking_many _ _ _ hs]
      rfl

theorem scan_point {ds : List Char} (h : Digits ds) :
    (between before (ds ++ '.' :: rest)).scan = taking .point before (ds ++ ['.']) rest := by
  by_cases hn : ds = []
  · subst hn
    rw [scan_between]
    exact taking_append (s := .start) (t := .point) (c := '.') before [] rest (by decide)
  · rw [scan_digits before _ h hn]
    exact taking_append (t := .point) (c := '.') before ds rest (by decide)

theorem scan_fraction {ds fs : List Char} (h : Digits ds) (hf : Digits fs) (hn : fs ≠ []) :
    (between before (ds ++ '.' :: (fs ++ rest))).scan =
      taking .fraction before (ds ++ '.' :: fs) rest := by
  cases fs with
  | nil => exact absurd rfl hn
  | cons d fs =>
      have hd : State.point.step d = .append .fraction := by
        simp [State.step, hf d List.mem_cons_self]
      have hs : ∀ c ∈ fs, State.fraction.step c = .append .fraction := fun c hc => by
        simp [State.step, hf c (List.mem_cons_of_mem d hc)]
      rw [scan_point before _ h, List.cons_append, taking_append _ _ _ hd, taking_many _ _ _ hs]
      simp

theorem step_string {c : Char} (h : c ≠ '\x22') : State.string.step c = .append .string := by
  simp [State.step, h]

theorem scan_quoted {body : List Char} (h : '\x22' ∉ body) :
    (between before ('\x22' :: (body ++ rest))).scan =
      taking .string before ('\x22' :: body) rest := by
  have hs : ∀ c ∈ body, State.string.step c = .append .string := fun c hc =>
    step_string (ne_of_mem_of_not_mem hc h)
  rw [scan_between, taking_append (s := .start) (t := .string) (c := '\x22') _ _ _ (by decide),
    taking_many _ _ _ hs]
  rfl

end

theorem Lexeme.ne_nil {k : Kind} {l : List Char} (h : Lexeme k l) : l ≠ [] := by
  cases h with
  | identifier hw hr =>
      rintro rfl
      exact hw
  | @spelled k s h => cases k <;> cases h <;> decide
  | integer hd hn => exact hn
  | float hd hf hn => simp
  | string h => simp
  | math h => simp
  | relation h => exact (by decide : ∀ s ∈ comparisons, s.toList ≠ []) _ h
  | assign h => exact (by decide : ∀ s ∈ assignments, s.toList ≠ []) _ h

/-- A keyword is a word. -/
theorem word_of_spelling {k : Kind} {s : String} (hk : k ∈ Kind.keywords)
    (h : k.spelling? = some s) : Word s.toList := by
  have hw : ∀ k ∈ Kind.keywords, ∀ s ∈ k.spelling?, Word s.toList := by decide
  exact hw k hk s h

theorem prolongs_of_mem_keywords {k : Kind} (hk : k ∈ Kind.keywords) (l : List Char) (c : Char) :
    prolongs k l c = isWordPart c := by
  have hb : k.isKeyword = true := by simpa [Kind.isKeyword] using hk
  cases k <;> first
    | exact absurd hk (by decide)
    | simp [prolongs, hb]

theorem prolongs_ofWord (w : String) (l : List Char) (c : Char) :
    prolongs (.ofWord w) l c = isWordPart c := by
  rw [Kind.ofWord]
  cases h : Kind.ofWord? w with
  | none => rfl
  | some k => exact prolongs_of_mem_keywords (Kind.ofWord?_eq_some_iff.mp h).1 l c

theorem prolongs_of_singleKind? {c : Char} {k : Kind} (h : singleKind? c = some k) (d : Char) :
    prolongs k [c] d = false := by
  unfold singleKind? at h
  split at h
  all_goals cases h
  all_goals rfl

/-- A punctuation mark is a single character. -/
theorem single_of_spelling {k : Kind} {s : String} (hk : k ∉ Kind.keywords)
    (h : k.spelling? = some s) : ∃ c, s.toList = [c] ∧ singleKind? c = some k := by
  cases k <;> first
    | exact absurd (by decide) hk
    | cases h <;> exact ⟨_, rfl, by decide⟩

/-- A comparison character by itself. -/
theorem scan_comparator {c : Char} (hc : c ∈ ['>', '!', '=']) (before rest : List Char)
    (he : ∀ d ∈ rest.head?, d ≠ '=') :
    (between before (c :: rest)).scan =
      .token ⟨comparatorKind c, String.ofList [c], Position.origin.after before⟩
        (between (before ++ [c]) rest) := by
  have hb : State.begin c = .append (.compare c) := by
    simp only [List.mem_cons, List.not_mem_nil, or_false] at hc
    rcases hc with rfl | rfl | rfl <;> decide
  have hk : comparatorKind c ≠ .identifier := by
    rw [comparatorKind]
    split <;> decide
  exact scan_short before rest hb hk rfl fun d hd => if_neg (he d hd)

theorem scan_relation {s : String} (h : s ∈ comparisons)
    (before rest : List Char) (he : Ends .relOperator s.toList rest) :
    (between before (s.toList ++ rest)).scan =
      .token ⟨.relOperator, s, Position.origin.after before⟩
        (between (before ++ s.toList) rest) := by
  simp only [comparisons, List.mem_cons, List.not_mem_nil, or_false] at h
  rcases h with rfl | rfl | rfl | rfl | rfl | rfl | rfl
  · refine scan_short before rest (t := .less) (by decide) (by decide) rfl fun d hd => ?_
    have hn : d ≠ '=' ∧ d ≠ '-' := by simpa [prolongs] using he d hd
    simp [State.step, hn]
  · exact scan_pair before rest (t := .less) (by decide) (by decide) (by decide)
  · refine scan_comparator (c := '>') (by decide) before rest fun d hd => ?_
    simpa [prolongs] using he d hd
  · exact scan_pair before rest (t := .compare '>') (by decide) (by decide) (by decide)
  · exact scan_pair before rest (t := .compare '=') (by decide) (by decide) (by decide)
  · exact scan_pair before rest (t := .compare '!') (by decide) (by decide) (by decide)
  · refine scan_comparator (c := '!') (by decide) before rest fun d hd => ?_
    simpa [prolongs] using he d hd

theorem scan_assign {s : String} (h : s ∈ assignments) (before rest : List Char)
    (he : Ends .assign s.toList rest) :
    (between before (s.toList ++ rest)).scan =
      .token ⟨.assign, s, Position.origin.after before⟩ (between (before ++ s.toList) rest) := by
  simp only [assignments, List.mem_cons, List.not_mem_nil, or_false] at h
  rcases h with rfl | rfl
  · exact scan_pair before rest (t := .less) (by decide) (by decide) (by decide)
  · refine scan_comparator (c := '=') (by decide) before rest fun d hd => ?_
    simpa [prolongs] using he d hd

theorem scan_math {c : Char} (h : c ∈ signs) (before rest : List Char)
    (he : Ends .mathOperator [c] rest) :
    (between before (c :: rest)).scan =
      .token ⟨.mathOperator, String.ofList [c], Position.origin.after before⟩
        (between (before ++ [c]) rest) := by
  by_cases hc : c = '/'
  · subst hc
    refine scan_short before rest (t := .slash) (by decide) (by decide) rfl fun d hd => ?_
    have hn : d ≠ '*' := by simpa [prolongs] using he d hd
    simp [State.step, hn]
  · have hs : singleKind? c = some .mathOperator := by
      simp only [signs, List.mem_cons, List.not_mem_nil, or_false] at h
      rcases h with rfl | rfl | rfl | rfl
      all_goals first
        | rfl
        | exact absurd rfl hc
    exact scan_single before rest (begin_of_singleKind? hs) (by decide)

/-- A spelled kind: a keyword is scanned as a word, a mark by itself. -/
theorem scan_spelled {k : Kind} {s : String} (h : k.spelling? = some s) (before rest : List Char)
    (he : Ends k s.toList rest) :
    (between before (s.toList ++ rest)).scan =
      .token ⟨k, s, Position.origin.after before⟩ (between (before ++ s.toList) rest) := by
  by_cases hk : k ∈ Kind.keywords
  -- the automaton knows no keywords: they are told from identifiers by the finished lexeme
  · have hw : Kind.ofWord s = k := by
      rw [Kind.ofWord, Kind.ofWord?_eq_some_iff.mpr ⟨hk, h⟩, Option.getD_some]
    have hr : ∀ c ∈ rest.head?, isWordPart c = false := by
      intro c hc
      rw [← prolongs_of_mem_keywords hk s.toList c]
      exact he c hc
    have hs := scan_word before rest (word_of_spelling hk h) hr
    rwa [String.ofList_toList, hw] at hs
  · obtain ⟨c, hc, hs⟩ := single_of_spelling hk h
    have hn : k ≠ .identifier := by
      rintro rfl
      cases h
    have ho : s = String.ofList [c] := by rw [← hc, String.ofList_toList]
    rw [hc, ho]
    exact scan_single before rest (begin_of_singleKind? hs) hn

/-- **A lexeme is a token.**  If what follows does not prolong it, a scan finds it where it
stands, whatever came before. -/
theorem scan_lexeme {k : Kind} {l : List Char} (h : Lexeme k l) (before rest : List Char)
    (he : Ends k l rest) :
    (between before (l ++ rest)).scan =
      .token ⟨k, String.ofList l, Position.origin.after before⟩ (between (before ++ l) rest) := by
  cases h with
  | identifier hw hr =>
      have hn : Kind.ofWord? (String.ofList l) = none := by
        refine Option.eq_none_iff_forall_ne_some.mpr fun k hk => ?_
        obtain ⟨hm, hs⟩ := Kind.ofWord?_eq_some_iff.mp hk
        exact hr k hm hs
      have hs := scan_word before rest hw he
      rwa [Kind.ofWord, hn, Option.getD_none] at hs
  | spelled h =>
      rw [String.ofList_toList]
      exact scan_spelled h before rest he
  | integer hd hn =>
      have hr : ∀ c ∈ rest.head?, State.integer.step c = .emit .intLiteral := by
        intro c hc
        have hp : isDigit c = false ∧ c ≠ '.' := by simpa [prolongs] using he c hc
        simp [State.step, hp]
      rw [scan_digits before rest hd hn, taking_emit _ _ _ rfl hr, ofLexeme_of_ne (by decide)]
  | @float ds fs hd hf hn =>
      have hr : ∀ c ∈ rest.head?, State.fraction.step c = .emit .floatLiteral := by
        intro c hc
        have hp : isDigit c = false ∧ c ≠ '.' := by simpa [prolongs] using he c hc
        simp [State.step, hp]
      rw [List.append_assoc, List.cons_append, scan_fraction before rest hd hf hn,
        taking_emit _ _ _ rfl hr, ofLexeme_of_ne (by decide)]
  | @string body h =>
      have hq : State.string.step '\x22' = .appendEmit .stringLiteral := by decide
      rw [List.cons_append, List.append_assoc, List.singleton_append, scan_quoted before _ h,
        taking_appendEmit _ _ _ hq, ofLexeme_of_ne (by decide)]
      rfl
  | math h => exact scan_math h before rest he
  | relation h =>
      rw [String.ofList_toList]
      exact scan_relation h before rest he
  | assign h =>
      rw [String.ofList_toList]
      exact scan_assign h before rest he

/-! ### Flaws -/

/-- What the automaton does with a first character, class by class. -/
theorem begin_cases (c : Char) :
    isWordStart c = true ∨ isDigit c = true ∨ c ∈ ['.', '<', '#', '/', '\x22'] ∨
      c ∈ ['>', '!', '='] ∨ (∃ k, singleKind? c = some k) ∨ isBlank c = true ∨
      State.begin c = .reject (strayFlaw c) := by
  unfold State.begin strayFlaw
  split
  · exact Or.inl ‹_›
  split
  · exact Or.inr (Or.inl ‹_›)
  split
  all_goals try simp
  split
  · simp_all
  split
  · simp
  split
  · simp_all
  · simp_all

/-- A word is the lexeme of its keyword, or of an identifier. -/
theorem lexeme_of_word {l : List Char} (h : Word l) : Lexeme (.ofWord (String.ofList l)) l := by
  rw [Kind.ofWord]
  cases hk : Kind.ofWord? (String.ofList l) with
  | none =>
      refine .identifier h fun k hm hs => ?_
      rw [Kind.ofWord?_eq_some_iff.mpr ⟨hm, hs⟩] at hk
      cases hk
  | some k =>
      have hs := Lexeme.spelled (Kind.ofWord?_eq_some_iff.mp hk).2
      rwa [String.toList_ofList] at hs

theorem lexeme_of_singleKind? {c : Char} {k : Kind} (h : singleKind? c = some k) :
    Lexeme k [c] := by
  unfold singleKind? at h
  split at h
  all_goals cases h
  · exact .math (by decide)
  · exact .math (by decide)
  · exact .math (by decide)
  · exact .spelled (s := "(") rfl
  · exact .spelled (s := ")") rfl
  · exact .spelled (s := "\x7b") rfl
  · exact .spelled (s := "\x7d") rfl
  · exact .spelled (s := ":") rfl
  · exact .spelled (s := ";") rfl

theorem lexeme_of_comparator {c : Char} (h : c ∈ ['>', '!', '=']) :
    Lexeme (comparatorKind c) [c] := by
  simp only [List.mem_cons, List.not_mem_nil, or_false] at h
  rcases h with rfl | rfl | rfl
  · exact .relation (s := ">") (by decide)
  · exact .relation (s := "!") (by decide)
  · exact .assign (s := "=") (by decide)

/-- A stray character is rejected: any other one begins some lexeme or some trivium. -/
theorem begin_of_stray {c : Char} (h : Stray c) : State.begin c = .reject (strayFlaw c) := by
  rcases begin_cases c with hc | hc | hc | hc | ⟨k, hc⟩ | hc | hc
  · have hw : Word [c] := ⟨hc, by simp⟩
    exact absurd (lexeme_of_word hw) ((h []).2 _)
  · have hd : Digits [c] := by simpa [Digits] using hc
    exact absurd (.integer hd (by simp)) ((h []).2 _)
  · simp only [List.mem_cons, List.not_mem_nil, or_false] at hc
    rcases hc with rfl | rfl | rfl | rfl | rfl
    · exact absurd (@Lexeme.float [] ['0'] (by decide) (by decide) (by simp)) ((h ['0']).2 _)
    · exact absurd (.relation (s := "<") (by decide)) ((h []).2 _)
    · exact absurd (@Trivium.lineComment [] '\n' (by simp) rfl) (h ['\n']).1
    · exact absurd (.math (by decide)) ((h []).2 _)
    · exact absurd (@Lexeme.string [] (by simp)) ((h ['\x22']).2 _)
  · exact absurd (lexeme_of_comparator hc) ((h []).2 _)
  · exact absurd (lexeme_of_singleKind? hc) ((h []).2 _)
  · exact absurd (.blank hc) (h []).1
  · exact hc

theorem scan_reject {c : Char} {f : Flaw} (h : State.begin c = .reject f)
    (before rest : List Char) :
    (between before (c :: rest)).scan =
      .flaw ⟨f, Position.origin.after before⟩ (between (before ++ [c]) rest) := by
  rw [scan_between, taking, List.append_nil, runAt_reject (s := .start) _ _ _ _ h]

/-- A rejected character is stray: a scan passes over a trivium, and finds a lexeme. -/
theorem stray_of_begin {c : Char} {f : Flaw} (h : State.begin c = .reject f) : Stray c := by
  intro cs
  have hf := scan_reject h [] cs
  refine ⟨fun ht => ?_, fun k hl => ?_⟩
  -- as the whole text, a trivium leaves nothing to find
  · have hs := scan_trivium ht [] []
    rw [List.append_nil, hf, scan_lastGap (.closed .nil)] at hs
    cases hs
  · have hs := scan_lexeme hl [] [] fun d hd => nomatch hd
    rw [List.append_nil, hf] at hs
    cases hs

/-- **A flaw is found where it lies.** -/
theorem scan_flawed {f : Flaw} {upto taken rest : List Char} (h : Flawed f upto taken rest)
    (before : List Char) :
    (between before (taken ++ rest)).scan =
      .flaw ⟨f, Position.origin.after (before ++ upto)⟩ (between (before ++ taken) rest) := by
  cases h with
  | stray h =>
      rw [List.append_nil]
      exact scan_reject (begin_of_stray h) before rest
  | point hd hr =>
      have hs : ∀ c ∈ rest.head?, State.point.step c = .fail .missingDigitAfterPoint := by
        intro c hc
        simp [State.step, hr c hc]
      rw [List.append_assoc, List.singleton_append, scan_point before rest hd,
        taking_fail _ _ _ rfl hs]
  | @secondPoint ds fs _ hd hf hn =>
      have hs : State.fraction.step '.' = .reject .extraDecimalPoint := by decide
      rw [List.append_assoc, List.append_assoc, List.cons_append, List.singleton_append,
        scan_fraction before _ hd hf hn, taking, runAt_reject _ _ _ _ hs]
      simp
  | @string body h =>
      rw [List.append_nil, ← List.append_nil body, scan_quoted before [] h, List.append_nil, taking,
        runAt_reject_nil _ _ _ rfl]
  | @comment body h =>
      have hs : (commentState body).atEnd = .reject .unterminatedComment := by
        rw [commentState]
        split <;> rfl
      have hr := runAt_blockComment h ['/'] (Position.origin.after before) (before ++ ['/', '*']) []
      rw [List.append_nil] at hr
      rw [List.append_nil, scan_commentStart, hr, runAt_reject_nil _ _ _ hs]
      simp

end SourceCheck.Scan

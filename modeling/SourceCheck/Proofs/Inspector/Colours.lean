import SourceCheck.Proofs.Inspector.Pieces

/-!
# Inspector — the colours of a token in both panes

The list of tokens shows a token in the colour of its kind; the source is coloured by runs of word
characters and points.  A run can be more than one token, and then has one colour all the same.

* `Stretch text a p rest`: the part `p` of a run that a scan has already read.  Unless it is empty,
  it begins as a number does, has a point in it, or ends with a word (`Reached.stretch`).
* `eq_of_word`: so a word that is a run has no token but itself in it.
* `colours_agree_iff`: a token has the same colour in both panes just if its run begins as the token
  does, and is nothing but the token if that is a keyword or a type.
-/

namespace SourceCheck

open Position (origin)
open Text (isDigit isWordPart isLineEnd isBlank ReturnsPaired)
open Highlight (isRunPart Chunk roleAt)

/-! ### Runs -/

/-- The kinds of punctuation marks. -/
def Kind.punctuation : List Kind :=
  [leftParen, rightParen, leftBrace, rightBrace, colon, semicolon]

/-- The first character is that of a number. -/
def startsNumber (w : List Char) : Bool :=
  w.head?.any fun c => isDigit c || c == '.'

/-- The run that some characters belong to, with what stands in front of them and behind. -/
def runAround (front w rest : List Char) : List Char :=
  front.rtakeWhile isRunPart ++ (w ++ rest.takeWhile isRunPart)

theorem isRunPart_of_isWordPart {c : Char} (h : isWordPart c = true) : isRunPart c = true := by
  simp [isRunPart, h]

theorem isLineEnd_of_isRunPart {c : Char} (h : isRunPart c = true) : isLineEnd c = false := by
  refine Text.isLineEnd_eq_false_iff.mpr ⟨?_, ?_⟩ <;> rintro rfl <;> exact absurd h (by decide)

namespace Scan

/-! ### What a scan has read of a run -/

/-- What stands between tokens ends no run. -/
theorem Trivium.last {a : List Char} (h : Trivium a) :
    a ≠ [] ∧ ∀ c ∈ a.getLast?, isRunPart c = false := by
  have hblank : ∀ {c : Char}, isBlank c = true → isRunPart c = false := by
    intro c hc
    by_contra hr
    simp only [isBlank, isLineEnd, Bool.or_eq_true, beq_iff_eq] at hc
    rcases hc with (rfl | rfl) | rfl | rfl <;> exact hr (by decide)
  cases h with
  | blank h =>
      refine ⟨by simp, ?_⟩
      rintro c ⟨⟩
      exact hblank h
  | @lineComment body c hb hc =>
      refine ⟨by simp, fun d hd => ?_⟩
      rw [← List.cons_append, List.getLast?_concat] at hd
      obtain rfl := Option.some.inj hd
      exact hblank (by simp [isBlank, hc])
  | @blockComment body h =>
      refine ⟨by simp, fun d hd => ?_⟩
      have hlast : ('/' :: '*' :: (body ++ commentEnd)).getLast? = some '/' := by
        simp [commentEnd, List.getLast?_cons]
      rw [hlast] at hd
      obtain rfl := Option.some.inj hd
      decide

/-- The character belongs to no run, and is coloured as an operator. -/
def isOperatorPart (c : Char) : Bool :=
  !isRunPart c && Role.ofChar c == .operator

theorem Lexeme.all_isOperatorPart {k : Kind} {l : List Char} (h : Lexeme k l)
    (hk : Role.ofKind k = .operator) : ∀ c ∈ l, isOperatorPart c = true := by
  rw [← List.all_eq_true]
  cases h with
  | identifier hw hr => cases hk
  | spelled h => cases k <;> cases h <;> cases hk
  | integer hd hn => cases hk
  | float hd hf hn => cases hk
  | string h => cases hk
  | math h =>
      have hall : signs.all isOperatorPart = true := by decide
      simpa using List.all_eq_true.mp hall _ h
  | relation h =>
      have hall : ∀ s ∈ comparisons, s.toList.all isOperatorPart = true := by decide
      exact hall _ h
  | assign h =>
      have hall : ∀ s ∈ assignments, s.toList.all isOperatorPart = true := by decide
      exact hall _ h

theorem isOperatorPart_iff {c : Char} :
    isOperatorPart c = true ↔ isRunPart c = false ∧ Role.ofChar c = .operator := by
  simp [isOperatorPart]

/-- What has one spelling is a keyword or a punctuation mark. -/
theorem mem_keywords_of_spelling {k : Kind} {s : String} (hk : k ∉ Kind.punctuation)
    (h : k.spelling? = some s) : k ∈ Kind.keywords := by
  cases k <;> first
    | decide
    | exact absurd (by decide) hk
    | cases h

theorem isRunPart_of_digits {ds : List Char} (h : Digits ds) : ∀ c ∈ ds, isRunPart c = true :=
  fun c hc => isRunPart_of_isWordPart (isWordPart_of_isDigit (h c hc))

theorem isRunPart_of_word {w : List Char} (h : Word w) : ∀ c ∈ w, isRunPart c = true :=
  fun c hc => isRunPart_of_isWordPart (h.isWordPart c hc)

/-- Words and numbers are parts of runs. -/
theorem Lexeme.all_isRunPart {k : Kind} {l : List Char} (h : Lexeme k l) (hk : k ∉ Kind.punctuation)
    (hs : k ≠ .stringLiteral) (hop : Role.ofKind k ≠ .operator) : ∀ c ∈ l, isRunPart c = true := by
  cases h with
  | identifier hw hr => exact isRunPart_of_word hw
  | spelled h => exact isRunPart_of_word (word_of_spelling (mem_keywords_of_spelling hk h) h)
  | integer hd hn => exact isRunPart_of_digits hd
  | float hd hf hn =>
      simp only [List.mem_append, List.mem_cons]
      rintro c (hc | rfl | hc)
      · exact isRunPart_of_digits hd c hc
      · rfl
      · exact isRunPart_of_digits hf c hc
  | string h => exact absurd rfl hs
  | math h | relation h | assign h => exact absurd rfl hop

/-- **A lexeme and its run.**  It is a word and as long as it can be, a number, or ends no run. -/
theorem Lexeme.run_cases {k : Kind} {l rest : List Char} (hl : Lexeme k l) (he : Ends k l rest) :
    (Word l ∧ ∀ c ∈ rest.head?, isWordPart c = false) ∨ Digits l ∨
      ('.' ∈ l ∧ ∀ c ∈ l, isRunPart c = true) ∨ ∀ c ∈ l.getLast?, isRunPart c = false := by
  by_cases hop : Role.ofKind k = .operator
  · refine Or.inr (Or.inr (Or.inr fun c hc => ?_))
    exact (isOperatorPart_iff.mp (hl.all_isOperatorPart hop c (List.mem_of_getLast? hc))).1
  cases hl with
  | identifier hw hr => exact Or.inl ⟨hw, he⟩
  | @spelled _ s h =>
      by_cases hk : k ∈ Kind.keywords
      · refine Or.inl ⟨word_of_spelling hk h, fun c hc => ?_⟩
        rw [← prolongs_of_mem_keywords hk s.toList c]
        exact he c hc
      · refine Or.inr (Or.inr (Or.inr ?_))
        cases k <;> cases h <;> first
          | exact absurd (by decide) hk
          | exact fun c hc => Option.some.inj hc ▸ by decide
  | integer hd hn => exact Or.inr (Or.inl hd)
  | float hd hf hn =>
      have hparts := (Lexeme.float hd hf hn).all_isRunPart (by decide) (by decide) (by decide)
      exact Or.inr (Or.inr (Or.inl ⟨by simp, hparts⟩))
  | @string body h =>
      refine Or.inr (Or.inr (Or.inr fun c hc => ?_))
      rw [← List.cons_append, List.getLast?_concat] at hc
      obtain rfl := Option.some.inj hc
      decide
  | math h | relation h | assign h => exact absurd rfl hop

/-- The part `p` of a run that a scan of the text has read, behind `a` and before `rest`.  It is
empty, begins as a number does, has a point in it, or has a word at its end that does not go on. -/
structure Stretch (text a p rest : List Char) : Prop where
  parts : ∀ c ∈ p, isRunPart c = true
  bound : ∀ c ∈ a.getLast?, isRunPart c = false
  code : ∀ c ∈ p.head?, ∃ inner, InPart text .code inner a c
  cut : p = [] ∨ startsNumber p = true ∨ '.' ∈ p ∨ ∀ c ∈ rest.head?, isWordPart c = false

theorem stretch_nil {text a : List Char} (h : ∀ c ∈ a.getLast?, isRunPart c = false)
    (rest : List Char) : Stretch text a [] rest :=
  ⟨by simp, h, by simp, Or.inl rfl⟩

/-- A string is no part of a run. -/
theorem Lexeme.ne_string {k : Kind} {l : List Char} (h : Lexeme k l)
    (hl : ∀ c ∈ l, isRunPart c = true) : k ≠ .stringLiteral := by
  rintro rfl
  obtain ⟨body, -, rfl⟩ := h.exists_string
  exact absurd (hl _ List.mem_cons_self) (by decide)

/-- A lexeme that is no string is code from its first character on. -/
theorem Reached.head_code {text front l rest : List Char} {k : Kind}
    (h : Reached text front (l ++ rest)) (hl : Lexeme k l) (hk : k ≠ .stringLiteral)
    (he : Ends k l rest) : ∀ c ∈ l.head?, ∃ inner, InPart text .code inner front c := by
  intro c hc
  obtain ⟨l, rfl⟩ := List.head?_eq_some_iff.mp hc
  have hp := h.inPart (m := []) (.code hl hk he) rfl
  rw [List.append_nil] at hp
  exact ⟨false, hp⟩

/-- A run that goes on with a lexeme is code from its first character on. -/
theorem Stretch.head_code {text a p l rest : List Char} {k : Kind}
    (h : Stretch text a p (l ++ rest)) (hr : Reached text (a ++ p) (l ++ rest)) (hl : Lexeme k l)
    (hk : k ≠ .stringLiteral) (he : Ends k l rest) :
    ∀ c ∈ (p ++ l).head?, ∃ inner, InPart text .code inner a c := by
  cases p with
  | nil =>
      rw [List.append_nil] at hr
      exact hr.head_code hl hk he
  | cons d p => exact h.code

/-- Reading a word or a number prolongs the run. -/
theorem Stretch.append {text a p l rest : List Char} {k : Kind} (h : Stretch text a p (l ++ rest))
    (hr : Reached text (a ++ p) (l ++ rest)) (hl : Lexeme k l) (he : Ends k l rest)
    (hparts : ∀ c ∈ l, isRunPart c = true)
    (hcut : startsNumber (p ++ l) = true ∨ '.' ∈ p ++ l ∨
      ∀ c ∈ rest.head?, isWordPart c = false) :
    Stretch text a (p ++ l) rest := by
  refine ⟨?_, h.bound, h.head_code hr hl (hl.ne_string hparts) he, Or.inr hcut⟩
  intro c hc
  rcases List.mem_append.mp hc with hc | hc
  · exact h.parts c hc
  · exact hparts c hc

theorem startsNumber_append {p : List Char} (h : startsNumber p = true) (l : List Char) :
    startsNumber (p ++ l) = true := by
  cases p with
  | nil => cases h
  | cons c p => exact h

/-- **What a scan has read of a run**, wherever it comes to. -/
theorem Reached.stretch {text front rest : List Char} (h : Reached text front rest) :
    ∃ a p, front = a ++ p ∧ Stretch text a p rest := by
  induction h with
  | start => exact ⟨[], [], rfl, stretch_nil (by simp) text⟩
  | @trivium front a rest _ ha _ =>
      refine ⟨front ++ a, [], (List.append_nil _).symm, stretch_nil ?_ rest⟩
      rw [List.getLast?_append_of_ne_nil _ ha.last.1]
      exact ha.last.2
  | @lexeme front l rest k hr hl he ih =>
      obtain ⟨a, p, rfl, hs⟩ := ih
      rcases hl.run_cases he with ⟨hw, hstop⟩ | hd | ⟨hp, hparts⟩ | hlast
      · refine ⟨a, p ++ l, List.append_assoc a p l, hs.append hr hl he (isRunPart_of_word hw) ?_⟩
        exact Or.inr (Or.inr hstop)
      · refine ⟨a, p ++ l, List.append_assoc a p l, hs.append hr hl he (isRunPart_of_digits hd) ?_⟩
        obtain ⟨c, l, rfl⟩ := List.exists_cons_of_ne_nil hl.ne_nil
        have hc := hd c List.mem_cons_self
        -- a word right in front would have gone on with the digit
        rcases hs.cut with rfl | hn | hp | hstop
        · exact Or.inl (by simp [startsNumber, hc])
        · exact Or.inl (startsNumber_append hn _)
        · exact Or.inr (Or.inl (List.mem_append_left _ hp))
        · have hn := hstop c rfl
          rw [isWordPart_of_isDigit hc] at hn
          cases hn
      · refine ⟨a, p ++ l, List.append_assoc a p l, hs.append hr hl he hparts ?_⟩
        exact Or.inr (Or.inl (List.mem_append_right _ hp))
      · refine ⟨a ++ p ++ l, [], (List.append_nil _).symm, stretch_nil ?_ rest⟩
        rwa [List.getLast?_append_of_ne_nil _ hl.ne_nil]

section

variable {text a p l q rest : List Char}

/-- The word is not a number. -/
theorem Word.startsNumber_eq_false {w : List Char} (h : Word w) : startsNumber w = false := by
  cases w with
  | nil => rfl
  | cons c w =>
      by_contra hn
      simp only [startsNumber, List.head?_cons, Option.any_some, Bool.not_eq_false,
        Bool.or_eq_true, beq_iff_eq] at hn
      rcases hn with hn | rfl
      · have hs := h.1
        rw [isWordStart_of_isDigit hn] at hs
        cases hs
      · exact absurd h.1 (by decide)

/-- **A run that is a word** has no token in it but that word. -/
theorem Stretch.eq_of_word (hs : Stretch text a p (l ++ (q ++ rest))) (hl : Word l)
    (hstop : ∀ c ∈ (q ++ rest).head?, isWordPart c = false) (hw : Word (p ++ (l ++ q))) :
    p ++ (l ++ q) = l := by
  have hp : p = [] := by
    rcases hs.cut with hp | hn | hp | hstop
    · exact hp
    · have hn' := startsNumber_append hn (l ++ q)
      rw [hw.startsNumber_eq_false] at hn'
      cases hn'
    · exact absurd (hw.isWordPart '.' (List.mem_append_left _ hp)) (by decide)
    · cases l with
      | nil => exact hl.elim
      | cons c l =>
          have hn := hstop c rfl
          rw [Text.isWordPart_of_isWordStart hl.1] at hn
          cases hn
  have hq : q = [] := by
    cases q with
    | nil => rfl
    | cons c q =>
        have hn := hstop c rfl
        rw [hw.isWordPart c (by simp)] at hn
        cases hn
  rw [hp, hq, List.append_nil, List.nil_append]

end

end Scan

/-! ### The colour of a run -/

/-- What a run can be taken for. -/
theorem ofWord_cases (w : List Char) :
    startsNumber w = true ∧ Role.ofWord w = .number ∨
      startsNumber w = false ∧
        ((∃ k ∈ Kind.keywords, k.spelling? = some (String.ofList w) ∧ Role.ofWord w = .ofKind k) ∨
          (∀ k ∈ Kind.keywords, k.spelling? ≠ some (String.ofList w)) ∧
            Role.ofWord w = .plain) := by
  rw [Role.ofWord, ← startsNumber]
  by_cases hn : startsNumber w = true
  · exact Or.inl ⟨hn, if_pos hn⟩
  · rw [if_neg hn]
    refine Or.inr ⟨by simpa using hn, ?_⟩
    cases hk : Kind.ofWord? (String.ofList w) with
    | some k =>
        obtain ⟨hmem, hspell⟩ := Kind.ofWord?_eq_some_iff.mp hk
        exact Or.inl ⟨k, hmem, hspell, rfl⟩
    | none =>
        refine Or.inr ⟨fun k hmem hspell => ?_, rfl⟩
        rw [Kind.ofWord?_eq_some_iff.mpr ⟨hmem, hspell⟩] at hk
        cases hk

/-- The colours of the roles that a run can have are different. -/
theorem Palette.ofRole_keyword :
    ∀ k ∈ Kind.keywords,
      ofRole (.ofKind k) ≠ ofRole .plain ∧ ofRole (.ofKind k) ≠ ofRole .number := by
  decide

/-- A run is taken for what the token in it is: a keyword or a type stands alone, a number is in a
run that begins as a number does, and an identifier is not. -/
def CutAlike (k : Kind) (l run : List Char) : Prop :=
  match Role.ofKind k with
  | .keyword | .typeName => run = l
  | .number => startsNumber run = true
  | .plain => startsNumber run = false
  | _ => True

theorem cutAlike_keyword {k : Kind} (h : k ∈ Kind.keywords) (l run : List Char) :
    CutAlike k l run ↔ run = l := by
  cases k <;> first
    | exact absurd h (by decide)
    | exact Iff.rfl

namespace Scan

section

variable {text a p l q rest : List Char} {k : Kind}

/-- A number is shown as one where the run begins as one. -/
theorem ofWord_number_iff (w : List Char) :
    Palette.ofRole (.ofWord w) = Palette.ofRole .number ↔ startsNumber w = true := by
  rcases ofWord_cases w with ⟨hn, hw⟩ | ⟨hn, ⟨k, hk, -, hw⟩ | ⟨-, hw⟩⟩
  · exact iff_of_true (by rw [hw]) hn
  · rw [hw]
    exact iff_of_false (Palette.ofRole_keyword k hk).2 (by simp [hn])
  · rw [hw]
    exact iff_of_false (by decide) (by simp [hn])

/-- An identifier is shown as one where the run does not begin as a number. -/
theorem Stretch.ofWord_identifier_iff (hs : Stretch text a p (l ++ (q ++ rest))) (hl : Word l)
    (hstop : ∀ c ∈ (q ++ rest).head?, isWordPart c = false)
    (hr : ∀ k ∈ Kind.keywords, k.spelling? ≠ some (String.ofList l)) :
    Palette.ofRole (.ofWord (p ++ (l ++ q))) = Palette.ofRole .plain ↔
      startsNumber (p ++ (l ++ q)) = false := by
  rcases ofWord_cases (p ++ (l ++ q)) with ⟨hn, hw⟩ | ⟨hn, ⟨k, hk, hspell, -⟩ | ⟨-, hw⟩⟩
  · rw [hw]
    exact iff_of_false (by decide) (by simp [hn])
  · -- a run that is reserved would be the identifier
    have hword : Word (p ++ (l ++ q)) := by simpa using word_of_spelling hk hspell
    rw [hs.eq_of_word hl hstop hword] at hspell
    exact absurd hspell (hr k hk)
  · exact iff_of_true (by rw [hw]) hn

/-- A keyword or a type is shown as one where it is the whole run. -/
theorem Stretch.ofWord_keyword_iff (hs : Stretch text a p (l ++ (q ++ rest))) (hl : Word l)
    (hstop : ∀ c ∈ (q ++ rest).head?, isWordPart c = false) (hk : k ∈ Kind.keywords)
    (hspell : k.spelling? = some (String.ofList l)) :
    Palette.ofRole (.ofWord (p ++ (l ++ q))) = Palette.ofRole (.ofKind k) ↔
      p ++ (l ++ q) = l := by
  have hown : Role.ofWord l = .ofKind k := by
    rw [Role.ofWord, ← startsNumber, hl.startsNumber_eq_false,
      Kind.ofWord?_eq_some_iff.mpr ⟨hk, hspell⟩]
    rfl
  refine ⟨fun hcolour => ?_, fun hw => by rw [hw, hown]⟩
  rcases ofWord_cases (p ++ (l ++ q)) with ⟨-, hw⟩ | ⟨-, ⟨k', hk', hspell', -⟩ | ⟨-, hw⟩⟩
  · rw [hw] at hcolour
    exact absurd hcolour.symm (Palette.ofRole_keyword k hk).2
  · have hword : Word (p ++ (l ++ q)) := by simpa using word_of_spelling hk' hspell'
    exact hs.eq_of_word hl hstop hword
  · rw [hw] at hcolour
    exact absurd hcolour.symm (Palette.ofRole_keyword k hk).1

/-- **The colour of a run** is that of a word or a number in it just if that is cut alike. -/
theorem Lexeme.ofWord_iff (hl : Lexeme k l) (he : Ends k l (q ++ rest))
    (hs : Stretch text a p (l ++ (q ++ rest))) (hk : k ∉ Kind.punctuation)
    (hstring : k ≠ .stringLiteral) (hop : Role.ofKind k ≠ .operator) :
    Palette.ofRole (.ofWord (p ++ (l ++ q))) = Palette.ofRole (.ofKind k) ↔
      CutAlike k l (p ++ (l ++ q)) := by
  cases hl with
  | identifier hw hr => exact hs.ofWord_identifier_iff hw he hr
  | @spelled _ s h =>
      have hmem := mem_keywords_of_spelling hk h
      rw [cutAlike_keyword hmem]
      have hspell : k.spelling? = some (String.ofList s.toList) := by simpa using h
      refine hs.ofWord_keyword_iff (word_of_spelling hmem h) (fun c hc => ?_) hmem hspell
      rw [← prolongs_of_mem_keywords hmem s.toList c]
      exact he c hc
  | integer hd hn => exact ofWord_number_iff _
  | float hd hf hn => exact ofWord_number_iff _
  | string h => exact absurd rfl hstring
  | math h | relation h | assign h => exact absurd rfl hop

end

/-! ### The roles of a token -/

section

variable {text front l rest : List Char} {k : Kind} {m d : List Char} {c : Char}

/-- A string has one role. -/
theorem Reached.roleAt_string (ht : Tame text) (h : Reached text front (l ++ rest))
    (hl : Lexeme .stringLiteral l) (hm : l = m ++ c :: d) :
    roleAt text (origin.after (front ++ m)) = some .string := by
  have hn := ht.strings h hl
  obtain ⟨body, hb, rfl⟩ := hl.exists_string
  have hr := ht.returns
  rw [h.eq_append] at hr
  have hc : isLineEnd c = false := not_isLineEnd_of_string hr.of_append hn c (by simp [hm])
  have htext : text = front ++ m ++ ([c] ++ (d ++ rest)) := by
    rw [h.eq_append, hm]
    simp
  obtain ⟨role, hrole, htone⟩ := Highlight.exists_roleAt htext hc
  rw [(h.inPart (.string hb) hm).tone ht hc] at htone
  cases role <;> first
    | exact hrole
    | cases htone

/-- Each character of an operator is one. -/
theorem Reached.roleAt_operator (ht : Tame text) (h : Reached text front (l ++ rest))
    (hl : Lexeme k l) (he : Ends k l rest) (hk : Role.ofKind k = .operator) (hm : l = m ++ c :: d) :
    roleAt text (origin.after (front ++ m)) = some .operator := by
  have hs : k ≠ .stringLiteral := by
    rintro rfl
    cases hk
  have hmem : c ∈ l := by simp [hm]
  obtain ⟨hrun, hrole⟩ := isOperatorPart_iff.mp (hl.all_isOperatorPart hk c hmem)
  have hc := not_isLineEnd_of_isCodePart (hl.isCodePart hs c hmem)
  have htext : text = front ++ m ++ ([c] ++ (d ++ rest)) := by
    rw [h.eq_append, hm]
    simp
  have htone := (h.inPart (.code hl hs he) hm).tone ht hc
  have hat := (Chunk.single hrun).roleAt (m := []) (d := []) htext
    (Highlight.isLineEnd_of_mem_singleton hc) htone rfl
  rwa [List.append_nil, hrole] at hat

/-- A word or a number has the role of its run. -/
theorem Reached.roleAt_run {a p q b : List Char} (ht : Tame text)
    (h : Reached text (a ++ p) (l ++ (q ++ b))) (hs : Stretch text a p (l ++ (q ++ b)))
    (hl : Lexeme k l) (he : Ends k l (q ++ b)) (hparts : ∀ c ∈ l ++ q, isRunPart c = true)
    (hb : ∀ c ∈ b.head?, isRunPart c = false) (hm : l = m ++ c :: d) :
    roleAt text (origin.after (a ++ p ++ m)) = some (.ofWord (p ++ (l ++ q))) := by
  have hk := hl.ne_string fun c hc => hparts c (List.mem_append_left q hc)
  have hrun : ∀ c ∈ p ++ (l ++ q), isRunPart c = true := by
    intro c hc
    rcases List.mem_append.mp hc with hc | hc
    · exact hs.parts c hc
    · exact hparts c hc
  obtain ⟨e, w, hw⟩ := List.exists_cons_of_ne_nil (l := p ++ l) (by simp [hl.ne_nil])
  have hne : p ++ (l ++ q) ≠ [] := by simp [hl.ne_nil]
  have htext : text = a ++ (p ++ (l ++ q) ++ b) := by
    rw [h.eq_append]
    simp
  obtain ⟨inner, hcode⟩ := hs.head_code h hl hk he e (by rw [hw]; rfl)
  have htone := hcode.tone ht (isLineEnd_of_isRunPart (hrun e (by simp [← List.append_assoc, hw])))
  rw [List.append_assoc]
  refine (Chunk.run hne hrun hs.bound hb).roleAt htext
    (fun c hc => isLineEnd_of_isRunPart (hrun c hc)) htone (c := c) (d := d ++ q) ?_
  simp [hm]

end

end Scan

/-! ### The colours of a token -/

open Scan

/-- A run is what it is found to be between two characters that are in no run. -/
theorem runAround_eq {a p q b : List Char} (l : List Char) (hp : ∀ c ∈ p, isRunPart c = true)
    (ha : ∀ c ∈ a.getLast?, isRunPart c = false) (hq : ∀ c ∈ q, isRunPart c = true)
    (hb : ∀ c ∈ b.head?, isRunPart c = false) :
    runAround (a ++ p) l (q ++ b) = p ++ (l ++ q) := by
  have hback : (a ++ p).rtakeWhile isRunPart = p := by
    have hspan := Highlight.span_of_bound (w := p.reverse) (b := a.reverse)
      (fun c hc => hp c (List.mem_reverse.mp hc)) (by simpa using ha)
    rw [List.rtakeWhile, List.reverse_append, hspan.1, List.reverse_reverse]
  rw [runAround, hback, (Highlight.span_of_bound hq hb).1]

/-- The colour that the source pane gives to the character at a position. -/
def colourAt (source : String) (p : Position) : Option Screen.Color :=
  (roleAt source.toList p).map Palette.ofRole

/-- Characters that all have one role have its colour. -/
theorem colourAt_iff {source : String} {front l : List Char} {role : Role} {x : Screen.Color}
    (hn : l ≠ []) (h : ∀ m c d, l = m ++ c :: d →
      roleAt source.toList (origin.after (front ++ m)) = some role) :
    (∀ p, Position.Within front l p → colourAt source p = some x) ↔ Palette.ofRole role = x := by
  constructor
  · intro hall
    obtain ⟨c, l, rfl⟩ := List.exists_cons_of_ne_nil hn
    have hx := hall _ ⟨[], c, l, rfl, rfl⟩
    rw [colourAt, h [] c l rfl] at hx
    exact Option.some.inj hx
  · rintro rfl p ⟨m, c, d, hm, rfl⟩
    rw [colourAt, h m c d hm]
    rfl

/-- **Colours in both panes.**  Let a text have tokens, none of its strings a line feed, and every
carriage return a line feed behind it.  A token that is no punctuation mark has in the source, all
along, the colour that the list of tokens shows its kind in just if the highlighter cuts it alike:

* a keyword or a type is a run of its own;
* the run around a number begins with a digit or a point;
* the run around an identifier does not.

For a string or an operator that is always so. -/
theorem colours_agree_iff {source : String} {ts : List Token} (h : tokenize source = .ok ts)
    (hs : ∀ t ∈ ts, t.kind = .stringLiteral → '\n' ∉ t.lexeme.toList)
    (hr : ReturnsPaired source.toList) {t : Token} (ht : t ∈ ts)
    (hk : t.kind ∉ Kind.punctuation) :
    ∃ front rest, source.toList = front ++ (t.lexeme.toList ++ rest) ∧
      t.location = origin.after front ∧
      ((∀ p, t.Covers p → colourAt source p = some (Palette.ofRole (.ofKind t.kind))) ↔
        CutAlike t.kind t.lexeme.toList (runAround front t.lexeme.toList rest)) := by
  have hd := decomposes_of_tokenize h
  have htame := hd.tame hr hs
  obtain ⟨front, l, rest, hreach, hl, he, heq⟩ := hd.token_of_mem .start t ht
  have hlexeme : t.lexeme.toList = l := by
    rw [heq]
    exact String.toList_ofList
  have hlocation : t.location = origin.after front := by
    rw [heq, Position.after_origin]
  rw [hlexeme]
  refine ⟨front, rest, hreach.eq_append, hlocation, ?_⟩
  have hn : '\n' ∉ l := by
    by_cases hstring : t.kind = .stringLiteral
    · exact hlexeme ▸ hs t ht hstring
    · exact hl.newline_notMem hstring
  have hcovers : ∀ p, t.Covers p ↔ Position.Within front l p := by
    intro p
    rw [heq]
    exact covers_iff_within hn t.kind p
  simp only [hcovers]
  by_cases hstring : t.kind = .stringLiteral
  · rw [hstring] at hl ⊢
    rw [colourAt_iff hl.ne_nil fun m c d hm => hreach.roleAt_string htame hl hm]
    exact iff_of_true rfl trivial
  by_cases hop : Role.ofKind t.kind = .operator
  · rw [colourAt_iff hl.ne_nil fun m c d hm => hreach.roleAt_operator htame hl he hop hm,
      CutAlike, hop]
    exact iff_of_true rfl trivial
  obtain ⟨a, p, rfl, hstretch⟩ := hreach.stretch
  obtain ⟨q, b, rfl, hq, hb⟩ := exists_span isRunPart rest
  rw [runAround_eq l hstretch.parts hstretch.bound hq hb,
    ← hl.ofWord_iff he hstretch hk hstring hop]
  have hparts : ∀ c ∈ l ++ q, isRunPart c = true := by
    intro c hc
    rcases List.mem_append.mp hc with hc | hc
    · exact hl.all_isRunPart hk hstring hop c hc
    · exact hq c hc
  exact colourAt_iff hl.ne_nil fun m c d hm =>
    hreach.roleAt_run htame hstretch hl he hparts hb hm

/-- A keyword between blanks and braces. -/
theorem colours_agree_iff_spaced :
    check "main\x7bif x<1 then\x7b\x7d\x7d" = .ok () ∧
      ∀ p, (Token.mk .thenWord "then" ⟨1, 13⟩).Covers p →
        colourAt "main\x7bif x<1 then\x7b\x7d\x7d" p = some Palette.blue := by
  refine ⟨by cbv, ?_⟩
  have htok : tokenize "main\x7bif x<1 then\x7b\x7d\x7d" =
      .ok [⟨.main, "main", ⟨1, 1⟩⟩, ⟨.leftBrace, "\x7b", ⟨1, 5⟩⟩, ⟨.ifWord, "if", ⟨1, 6⟩⟩,
        ⟨.identifier, "x", ⟨1, 9⟩⟩, ⟨.relOperator, "<", ⟨1, 10⟩⟩, ⟨.intLiteral, "1", ⟨1, 11⟩⟩,
        ⟨.thenWord, "then", ⟨1, 13⟩⟩, ⟨.leftBrace, "\x7b", ⟨1, 17⟩⟩, ⟨.rightBrace, "\x7d", ⟨1, 18⟩⟩,
        ⟨.rightBrace, "\x7d", ⟨1, 19⟩⟩] := by cbv
  obtain ⟨front, rest, hsplit, hlocation, hiff⟩ := colours_agree_iff htok (by decide) (by decide)
    (t := ⟨.thenWord, "then", ⟨1, 13⟩⟩) (by decide) (by decide)
  have htext : "main\x7bif x<1 then\x7b\x7d\x7d".toList =
      "main\x7bif x<1 ".toList ++ ("then".toList ++ "\x7b\x7d\x7d".toList) := by decide
  obtain rfl : front = "main\x7bif x<1 ".toList := by
    refine Position.eq_of_after_eq (hsplit.symm.trans htext) (hlocation.symm.trans ?_)
    decide
  obtain rfl : rest = "\x7b\x7d\x7d".toList :=
    List.append_cancel_left (List.append_cancel_left (hsplit.symm.trans htext))
  exact hiff.mpr ((cutAlike_keyword (by decide) _ _).mpr (by decide))

/-- The same keyword right behind a number: the run that it ends begins with a digit, so in the
source it has the colour of numbers. -/
theorem colours_differ_in_run :
    check "main\x7bif x<1then\x7b\x7d\x7d" = .ok () ∧
      tokenize "main\x7bif x<1then\x7b\x7d\x7d" =
        .ok [⟨.main, "main", ⟨1, 1⟩⟩, ⟨.leftBrace, "\x7b", ⟨1, 5⟩⟩, ⟨.ifWord, "if", ⟨1, 6⟩⟩,
          ⟨.identifier, "x", ⟨1, 9⟩⟩, ⟨.relOperator, "<", ⟨1, 10⟩⟩, ⟨.intLiteral, "1", ⟨1, 11⟩⟩,
          ⟨.thenWord, "then", ⟨1, 12⟩⟩, ⟨.leftBrace, "\x7b", ⟨1, 16⟩⟩,
          ⟨.rightBrace, "\x7d", ⟨1, 17⟩⟩, ⟨.rightBrace, "\x7d", ⟨1, 18⟩⟩] ∧
      ReturnsPaired "main\x7bif x<1then\x7b\x7d\x7d".toList ∧
      (Token.mk .thenWord "then" ⟨1, 12⟩).Covers ⟨1, 12⟩ ∧
      colourAt "main\x7bif x<1then\x7b\x7d\x7d" ⟨1, 12⟩ ≠
        some (Palette.ofRole (.ofKind .thenWord)) := by
  have hcolour : colourAt "main\x7bif x<1then\x7b\x7d\x7d" ⟨1, 12⟩ = some Palette.orange := by cbv
  refine ⟨by cbv, by cbv, by decide, ⟨rfl, by decide, by decide⟩, ?_⟩
  rw [hcolour]
  decide

end SourceCheck

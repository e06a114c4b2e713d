import SourceCheck.Proofs.Check.Layout
import SourceCheck.Proofs.Scan.Course

/-!
# Scan — carriage returns in front of line feeds

A text can be written with a carriage return in front of each line feed (`withReturns`).

* `after_withReturns`: a line feed sets the count of columns back, so this moves nothing.
* `Lexeme.isCodePart`: a lexeme that is no string has no line feed, so it stays as it is.
* `Gap.withReturns`, `Lexeme.withReturns`, `Ends.withReturns`, `Flawed.withReturns`: each part of a
  text stays what it is.  A line comment ends one character earlier, and the line feed behind it is
  then a blank.
* `stream_withReturns`: so the tokens are the same at the same places, but for the line feeds in
  their lexemes, and the stream ends in the same way.
-/

namespace SourceCheck

/-! ### Texts with carriage returns -/

namespace Text

/-- The text with a carriage return in front of each line feed. -/
def withReturns (text : List Char) : List Char :=
  text.flatMap fun c => if c = '\n' then ['\r', '\n'] else [c]

@[simp] theorem withReturns_nil : withReturns [] = [] := rfl

@[simp] theorem withReturns_newline (text : List Char) :
    withReturns ('\n' :: text) = '\r' :: '\n' :: withReturns text := rfl

theorem withReturns_cons {c : Char} (h : c ≠ '\n') (text : List Char) :
    withReturns (c :: text) = c :: withReturns text := by
  simp [withReturns, h]

theorem withReturns_append (a b : List Char) :
    withReturns (a ++ b) = withReturns a ++ withReturns b :=
  List.flatMap_append

theorem withReturns_eq_self {text : List Char} (h : '\n' ∉ text) : withReturns text = text := by
  induction text with
  | nil => rfl
  | cons c text ih =>
      rw [List.mem_cons, not_or] at h
      rw [withReturns_cons (Ne.symm h.1), ih h.2]

theorem mem_withReturns {c : Char} {text : List Char} (h : c ∈ withReturns text) :
    c ∈ text ∨ c = '\r' := by
  obtain ⟨d, hd, hc⟩ := List.mem_flatMap.mp h
  split at hc
  · next hn =>
      subst hn
      rcases List.mem_pair.mp hc with rfl | rfl
      · exact Or.inr rfl
      · exact Or.inl hd
  · exact Or.inl (List.mem_singleton.mp hc ▸ hd)

theorem head?_withReturns {c : Char} {text : List Char} (h : c ∈ (withReturns text).head?) :
    c ∈ text.head? ∨ c = '\r' := by
  cases text with
  | nil => cases h
  | cons d text =>
      by_cases hd : d = '\n'
      · subst hd
        exact Or.inr (Option.some.inj h).symm
      · rw [withReturns_cons hd] at h
        exact Or.inl h

/-- A carriage return makes no end of a comment. -/
theorem commentEnd_infix_withReturns {text : List Char}
    (h : Scan.commentEnd <:+: withReturns text) : Scan.commentEnd <:+: text := by
  induction text with
  | nil => exact h
  | cons c text ih =>
      by_cases hc : c = '\n'
      · subst hc
        simp only [withReturns_newline, List.infix_cons_iff, Scan.commentEnd,
          List.cons_prefix_cons, Char.reduceEq, false_and, false_or] at h
        exact List.infix_cons (ih h)
      · rw [withReturns_cons hc] at h
        rcases List.infix_cons_iff.mp h with hp | hi
        · obtain ⟨rfl, hp'⟩ := List.cons_prefix_cons.mp hp
          obtain ⟨rest, hrest⟩ := hp'
          have hslash : '/' ∈ text.head? :=
            (head?_withReturns (by rw [← hrest]; rfl)).resolve_right (by decide)
          obtain ⟨rest', rfl⟩ := List.head?_eq_some_iff.mp hslash
          exact ⟨[], rest', rfl⟩
        · exact List.infix_cons (ih hi)

end Text

open Text (withReturns withReturns_cons withReturns_append withReturns_eq_self mem_withReturns
  head?_withReturns commentEnd_infix_withReturns)

/-- **Carriage returns move nothing** that stands behind a whole text. -/
theorem Position.after_withReturns (p : Position) (text : List Char) :
    p.after (withReturns text) = p.after text := by
  induction text generalizing p with
  | nil => rfl
  | cons c text ih =>
      by_cases hc : c = '\n'
      · subst hc
        rw [Text.withReturns_newline, after_cons, after_cons, after_cons, ih]
        rfl
      · rw [withReturns_cons hc, after_cons, after_cons, ih]

theorem Position.counted_withReturns (text : List Char) :
    counted (withReturns text) = counted text := by
  rw [← after_origin, ← after_origin, after_withReturns]

namespace Scan

open Text (isDigit isWordPart isLineEnd isBlank)

/-! ### The characters of lexemes -/

/-- A character of some lexeme that is no string. -/
def isCodePart (c : Char) : Bool :=
  isWordPart c ||
    ['.', '+', '-', '*', '/', '<', '>', '=', '!', '(', ')', '\x7b', '\x7d', ':', ';'].contains c

theorem isCodePart_of_isDigit {c : Char} (h : isDigit c = true) : isCodePart c = true := by
  simp [isCodePart, isWordPart_of_isDigit h]

/-- **Only strings have other characters.** -/
theorem Lexeme.isCodePart {k : Kind} {l : List Char} (h : Lexeme k l) (hk : k ≠ .stringLiteral) :
    ∀ c ∈ l, isCodePart c = true := by
  cases h with
  | identifier hw hr =>
      intro c hc
      simp [Scan.isCodePart, hw.isWordPart c hc]
  | spelled h => cases k <;> cases h <;> exact List.all_eq_true.mp (by decide)
  | integer hd hn => exact fun c hc => isCodePart_of_isDigit (hd c hc)
  | float hd hf hn =>
      intro c hc
      rcases List.mem_append.mp hc with hc | hc
      · exact isCodePart_of_isDigit (hd c hc)
      · rcases List.mem_cons.mp hc with rfl | hc
        · rfl
        · exact isCodePart_of_isDigit (hf c hc)
  | string h => exact absurd rfl hk
  | math h =>
      have hs : signs.all Scan.isCodePart = true := by decide
      intro d hd
      exact List.mem_singleton.mp hd ▸ List.all_eq_true.mp hs _ h
  | relation h =>
      have hs : ∀ s ∈ comparisons, s.toList.all Scan.isCodePart = true := by decide
      exact List.all_eq_true.mp (hs _ h)
  | assign h =>
      have hs : ∀ s ∈ assignments, s.toList.all Scan.isCodePart = true := by decide
      exact List.all_eq_true.mp (hs _ h)

theorem Lexeme.newline_notMem {k : Kind} {l : List Char} (h : Lexeme k l)
    (hk : k ≠ .stringLiteral) : '\n' ∉ l := by
  intro hn
  exact absurd (h.isCodePart hk _ hn) (by decide)

theorem Lexeme.withReturns_eq_self {k : Kind} {l : List Char} (h : Lexeme k l)
    (hk : k ≠ .stringLiteral) : withReturns l = l :=
  Text.withReturns_eq_self (h.newline_notMem hk)

theorem Digits.withReturns_eq_self {ds : List Char} (h : Digits ds) : withReturns ds = ds := by
  refine Text.withReturns_eq_self fun hn => ?_
  exact absurd (h _ hn) (by decide)

/-! ### Every part stays what it is -/

theorem withReturns_lineBody {body : List Char} (h : ∀ d ∈ body, isLineEnd d = false) :
    withReturns body = body := by
  refine Text.withReturns_eq_self fun hn => ?_
  exact absurd (h _ hn) (by decide)

theorem Trivium.withReturns {a : List Char} (h : Trivium a) : Gap (withReturns a) := by
  cases h with
  | @blank c hb =>
      by_cases hc : c = '\n'
      · subst hc
        have hg := Gap.cons (@Trivium.blank '\r' rfl) (.cons (@Trivium.blank '\n' rfl) .nil)
        exact hg
      · rw [withReturns_cons hc]
        exact .cons (.blank hb) .nil
  | @lineComment body c hb hc =>
      rw [withReturns_cons (by decide), withReturns_append, withReturns_lineBody hb]
      by_cases hn : c = '\n'
      -- the carriage return ends the comment, and the line feed is a blank behind it
      · subst hn
        have hg := Gap.cons (@Trivium.lineComment body '\r' hb rfl)
          (.cons (@Trivium.blank '\n' rfl) .nil)
        simpa using hg
      · have hg := Gap.cons (.lineComment hb hc) .nil
        simpa [withReturns_cons hn] using hg
  | @blockComment body h =>
      have hb : ¬ commentEnd <:+: Text.withReturns body ++ ['*'] := by
        intro hi
        refine h (commentEnd_infix_withReturns ?_)
        rwa [withReturns_append]
      have hg := Gap.cons (.blockComment hb) .nil
      rw [withReturns_cons (by decide), withReturns_cons (by decide), withReturns_append,
        Text.withReturns_eq_self (show '\n' ∉ commentEnd by decide)]
      simpa using hg

theorem Gap.withReturns {g : List Char} (h : Gap g) : Gap (withReturns g) := by
  induction h with
  | nil => exact .nil
  | cons ha _ ih =>
      rw [withReturns_append]
      exact ha.withReturns.append ih

theorem LastGap.withReturns {g : List Char} (h : LastGap g) : LastGap (withReturns g) := by
  cases h with
  | closed hg => exact .closed hg.withReturns
  | unclosed hg hb =>
      rw [withReturns_append, withReturns_cons (by decide), withReturns_lineBody hb]
      exact .unclosed hg.withReturns hb

theorem quote_notMem_withReturns {body : List Char} (h : '\x22' ∉ body) :
    '\x22' ∉ withReturns body :=
  fun hm => h ((mem_withReturns hm).resolve_right (by decide))

theorem Lexeme.withReturns {k : Kind} {l : List Char} (h : Lexeme k l) :
    Lexeme k (withReturns l) := by
  by_cases hk : k = .stringLiteral
  · subst hk
    cases h with
    | spelled h => cases h
    | string h =>
        rw [withReturns_cons (by decide), withReturns_append]
        exact .string (quote_notMem_withReturns h)
  · rwa [h.withReturns_eq_self hk]

theorem Ends.withReturns {k : Kind} {l rest : List Char} (h : Ends k l rest) (hl : Lexeme k l) :
    Ends k (withReturns l) (withReturns rest) := by
  intro c hc
  rcases head?_withReturns hc with hc | rfl
  · by_cases hk : k = .stringLiteral
    · subst hk
      rfl
    · rw [hl.withReturns_eq_self hk]
      exact h c hc
  · exact prolongs_of_opensGap rfl k _

theorem Stray.ne_newline {c : Char} (h : Stray c) : c ≠ '\n' := by
  rintro rfl
  exact (h []).1 (.blank rfl)

theorem Flawed.withReturns {f : Flaw} {upto taken rest : List Char}
    (h : Flawed f upto taken rest) :
    Flawed f (withReturns upto) (withReturns taken) (withReturns rest) := by
  cases h with
  | stray h =>
      rw [withReturns_cons h.ne_newline]
      exact .stray h
  | point hd hr =>
      rw [withReturns_append, hd.withReturns_eq_self]
      refine .point hd fun c hc => ?_
      rcases head?_withReturns hc with hc | rfl
      · exact hr c hc
      · rfl
  | secondPoint hd hf hn =>
      simp only [withReturns_append, withReturns_cons (show '.' ≠ '\n' by decide),
        hd.withReturns_eq_self, hf.withReturns_eq_self]
      exact .secondPoint hd hf hn
  | string h =>
      rw [withReturns_cons (by decide)]
      exact .string (quote_notMem_withReturns h)
  | comment h =>
      rw [withReturns_cons (by decide), withReturns_cons (by decide)]
      exact .comment fun hi => h (commentEnd_infix_withReturns hi)

end Scan

/-! ### The whole scan -/

/-- The token with the carriage returns in its lexeme. -/
def Token.withReturns (t : Token) : Token :=
  { t with lexeme := String.ofList (Text.withReturns t.lexeme.toList) }

/-- The stream with other tokens in their places. -/
def TokenStream.map (f : Token → Token) : TokenStream → TokenStream
  | token t rest => token (f t) (rest.map f)
  | fault e => fault e
  | finish stop => finish stop

theorem TokenStream.tokens_map (f : Token → Token) (stream : TokenStream) :
    (stream.map f).tokens = stream.tokens.map f := by
  induction stream with
  | token t rest ih => exact congrArg (f t :: ·) ih
  | fault e => rfl
  | finish stop => rfl

theorem TokenStream.fault?_map (f : Token → Token) (stream : TokenStream) :
    (stream.map f).fault? = stream.fault? := by
  induction stream with
  | token t rest ih => exact ih
  | fault e => rfl
  | finish stop => rfl

theorem Scan.Yields.withReturns {before text : List Char} {stream : TokenStream}
    (h : Yields before text stream) :
    Yields (withReturns before) (withReturns text) (stream.map Token.withReturns) := by
  induction h with
  | @finish before g hg =>
      have hy := @Yields.finish (Text.withReturns before) _ hg.withReturns
      rwa [← withReturns_append, Position.counted_withReturns] at hy
  | @flaw before g upto taken rest f hg hf =>
      have hy := @Yields.flaw (Text.withReturns before) _ _ _ _ _ hg.withReturns hf.withReturns
      simp only [← withReturns_append, Position.counted_withReturns] at hy
      exact hy
  | @token before g l rest k stream hg hl he _ ih =>
      rw [withReturns_append, withReturns_append] at ih
      have hy := Yields.token hg.withReturns hl.withReturns (he.withReturns hl) ih
      simp only [← withReturns_append, Position.counted_withReturns] at hy
      simpa only [TokenStream.map, Token.withReturns, String.toList_ofList] using hy

/-- **One scan for both.** -/
theorem stream_withReturns (source : String) :
    TokenStream.ofString (String.ofList (withReturns source.toList)) =
      (TokenStream.ofString source).map Token.withReturns := by
  have hy := (Scan.yields_ofReader [] source.toList).withReturns
  rw [TokenStream.ofString, Reader.ofString_eq_between, String.toList_ofList]
  exact hy.ofReader_eq

end SourceCheck

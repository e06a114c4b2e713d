import SourceCheck.Proofs.Scan.Decomposition

/-!
# Scan — the first flaw of a text

A text that has no tokens up to its end has some up to its first flaw.

* `Munched rest before text ts`: the text in front of `rest` is written as gaps and lexemes, each
  as long as it can be with all that follows.  A stream reads its tokens and goes on at `rest`
  (`Munched.stream`).
* `tokenize_eq_error_iff_flawed`: a text is rejected just when it is such a text and then begins
  with a flaw; the flaw and its place are the error.
-/

namespace SourceCheck.Scan

open Reader (between)

/-- The text behind `before` and in front of `rest` is written as gaps and the lexemes of the
tokens, in turn; no lexeme is prolonged by what follows it, and each token is located behind all
that comes before it. -/
inductive Munched (rest : List Char) : List Char → List Char → List Token → Prop where
  | gap {before g : List Char} (hg : Gap g) : Munched rest before g []
  | token {before g l text : List Char} {k : Kind} {ts : List Token} (hg : Gap g)
      (hl : Lexeme k l) (he : Ends k l (text ++ rest))
      (h : Munched rest (before ++ g ++ l) text ts) :
      Munched rest before (g ++ (l ++ text))
        (⟨k, String.ofList l, .counted (before ++ g)⟩ :: ts)

/-- A stream begins behind a gap as it does in front of it. -/
theorem ofReader_gap {g : List Char} (h : Gap g) (before rest : List Char) :
    TokenStream.ofReader (between before (g ++ rest)) =
      TokenStream.ofReader (between (before ++ g) rest) := by
  rw [TokenStream.ofReader_eq, scan_gap h, ← TokenStream.ofReader_eq]

/-- The stream has the tokens of a munched text, and goes on behind it. -/
theorem Munched.stream {rest before text : List Char} {ts : List Token}
    (h : Munched rest before text ts) :
    TokenStream.ofReader (between before (text ++ rest)) =
      ts.foldr .token (TokenStream.ofReader (between (before ++ text) rest)) := by
  induction h with
  | gap hg => exact ofReader_gap hg _ rest
  | @token before g l text k ts hg hl he _ ih =>
      have hb : before ++ (g ++ (l ++ text)) = before ++ g ++ l ++ text := by
        simp only [List.append_assoc]
      rw [hb, List.append_assoc g, List.append_assoc l, TokenStream.ofReader_eq,
        scan_of_meets (.token hg hl he), List.foldr_cons, ← ih]

/-- The tokens of a stream do not decide whether a flaw ends it. -/
theorem fault?_foldr_token (ts : List Token) (stream : TokenStream) :
    (ts.foldr .token stream).fault? = stream.fault? := by
  induction ts with
  | nil => rfl
  | cons t ts ih => exact ih

/-- A flaw ends the stream, whatever follows. -/
theorem Flawed.stream {f : Flaw} {upto taken rest : List Char} (h : Flawed f upto taken rest)
    (before : List Char) :
    TokenStream.ofReader (between before (taken ++ rest)) =
      .fault ⟨f, .counted (before ++ upto)⟩ := by
  rw [TokenStream.ofReader_eq, scan_flawed h, Position.after_origin]

/-- A stream that a flaw ends has munched its text up to there. -/
theorem munched_of_fault {e : LexicalError} (before text : List Char)
    (h : (TokenStream.ofReader (between before text)).fault? = some e) :
    ∃ front ts upto taken rest, text = front ++ (taken ++ rest) ∧
      Munched (taken ++ rest) before front ts ∧ Flawed e.flaw upto taken rest ∧
      e.location = .counted (before ++ front ++ upto) := by
  induction hn : text.length using Nat.strong_induction_on generalizing before text with
  | _ n ih =>
      subst hn
      have hm : Meets before text (between before text).scan := scan_iff_meets.mp rfl
      rw [TokenStream.ofReader_eq] at h
      generalize (between before text).scan = found at h hm
      cases hm with
      | finish hg => cases h
      | @flaw g upto taken rest f hg hf =>
          obtain rfl := Option.some.inj h
          exact ⟨g, [], upto, taken, rest, rfl, .gap hg, hf, rfl⟩
      | @token g l rest k hg hl he =>
          have hlt : rest.length < (g ++ (l ++ rest)).length := by
            have hp := List.length_pos_iff.mpr hl.ne_nil
            simp only [List.length_append]
            omega
          obtain ⟨front, ts, upto, taken, rest, rfl, hm, hf, hloc⟩ := ih _ hlt _ rest h rfl
          refine ⟨g ++ (l ++ front), _, upto, taken, rest, ?_, .token hg hl he hm, hf, ?_⟩
          · simp only [List.append_assoc]
          · simpa only [List.append_assoc] using hloc

end SourceCheck.Scan

namespace SourceCheck

open Scan

/-- **The first flaw.**  A text is rejected with an error just when it is munched up to some place
and begins there with a flaw: a stray character, a number whose point lacks its digits or is
followed by a second one, or a string or a block comment that is never closed.  The error is this
flaw, located by counting the line feeds before it and the characters behind the last of them. -/
theorem tokenize_eq_error_iff_flawed (source : String) (e : LexicalError) :
    tokenize source = .error e ↔
      ∃ front ts upto taken rest, source.toList = front ++ (taken ++ rest) ∧
        Munched (taken ++ rest) [] front ts ∧ Flawed e.flaw upto taken rest ∧
        e.location = .counted (front ++ upto) := by
  rw [tokenize_eq_error_iff, TokenStream.ofString, Reader.ofString_eq_between]
  refine ⟨munched_of_fault [] source.toList, ?_⟩
  rintro ⟨front, ts, upto, taken, rest, htext, hm, hf, hloc⟩
  rw [htext, hm.stream, fault?_foldr_token, hf.stream, TokenStream.fault?, List.nil_append, ← hloc]

end SourceCheck

import SourceCheck.Proofs.Scan.Decomposition

/-!
# Scan — the course of a whole scan

* `Yields before text stream`: the text behind `before` is written as gaps and lexemes, each as long
  as it can be, up to a last gap or a flaw, and `stream` has the tokens and the end of that.
* `ofReader_eq_iff_yields`: this is the stream of the text.  Two streams are compared by induction
  over the one, with a rule for each part of the text.
* `Yields.lexeme_of_mem`: the lexeme of a token is in the language of its kind.
-/

namespace SourceCheck

theorem TokenStream.tokens_foldr_token (ts : List Token) (stream : TokenStream) :
    (ts.foldr .token stream).tokens = ts ++ stream.tokens := by
  induction ts with
  | nil => rfl
  | cons t ts ih => exact congrArg (t :: ·) ih

namespace Scan

open Reader (between)

theorem Gap.append {g g' : List Char} (h : Gap g) (h' : Gap g') : Gap (g ++ g') := by
  induction h with
  | nil => exact h'
  | cons ha _ ih =>
      rw [List.append_assoc]
      exact .cons ha ih

/-- What a scan of the text behind `before` yields from there to the end or to the first flaw. -/
inductive Yields : List Char → List Char → TokenStream → Prop where
  | finish {before g : List Char} (hg : LastGap g) :
      Yields before g (.finish (.counted (before ++ g)))
  | flaw {before g upto taken rest : List Char} {f : Flaw} (hg : Gap g)
      (hf : Flawed f upto taken rest) :
      Yields before (g ++ (taken ++ rest)) (.fault ⟨f, .counted (before ++ g ++ upto)⟩)
  | token {before g l rest : List Char} {k : Kind} {stream : TokenStream} (hg : Gap g)
      (hl : Lexeme k l) (he : Ends k l rest) (h : Yields (before ++ g ++ l) rest stream) :
      Yields before (g ++ (l ++ rest))
        (.token ⟨k, String.ofList l, .counted (before ++ g)⟩ stream)

/-- The stream of a text is what it yields. -/
theorem Yields.ofReader_eq {before text : List Char} {stream : TokenStream}
    (h : Yields before text stream) : TokenStream.ofReader (between before text) = stream := by
  induction h with
  | finish hg =>
      rw [TokenStream.ofReader_eq, scan_of_meets (.finish hg)]
      simp only [Reader.here_between, Position.after_origin]
  | flaw hg hf => rw [TokenStream.ofReader_eq, scan_of_meets (.flaw hg hf)]
  | token hg hl he _ ih =>
      rw [TokenStream.ofReader_eq, scan_of_meets (.token hg hl he)]
      simp only [ih]

/-- Every text yields some stream. -/
theorem exists_yields (before text : List Char) : ∃ stream, Yields before text stream := by
  induction hn : text.length using Nat.strong_induction_on generalizing before text with
  | _ n ih =>
      subst hn
      obtain ⟨found, hm⟩ := met before text
      cases hm with
      | finish hg => exact ⟨_, .finish hg⟩
      | flaw hg hf => exact ⟨_, .flaw hg hf⟩
      | @token g l rest k hg hl he =>
          have hlt : rest.length < (g ++ (l ++ rest)).length := by
            have hp := List.length_pos_iff.mpr hl.ne_nil
            simp only [List.length_append]
            omega
          obtain ⟨stream, h⟩ := ih _ hlt (before ++ g ++ l) rest rfl
          exact ⟨_, .token hg hl he h⟩

/-- **The course of a scan.** -/
theorem ofReader_eq_iff_yields {before text : List Char} {stream : TokenStream} :
    TokenStream.ofReader (between before text) = stream ↔ Yields before text stream := by
  refine ⟨?_, Yields.ofReader_eq⟩
  rintro rfl
  obtain ⟨stream, h⟩ := exists_yields before text
  rwa [h.ofReader_eq]

theorem yields_ofReader (before text : List Char) :
    Yields before text (TokenStream.ofReader (between before text)) :=
  ofReader_eq_iff_yields.mp rfl

theorem decomposes_of_tokenize {source : String} {ts : List Token} (h : tokenize source = .ok ts) :
    Decomposes [] source.toList ts := by
  obtain ⟨hn, rfl⟩ := tokenize_eq_ok_iff.mp h
  exact decomposes_of_stream [] source.toList hn

/-- The lexeme of a token is in the language of its kind. -/
theorem Yields.lexeme_of_mem {before text : List Char} {stream : TokenStream}
    (h : Yields before text stream) : ∀ t ∈ stream.tokens, Lexeme t.kind t.lexeme.toList := by
  induction h with
  | finish hg => exact fun t ht => nomatch ht
  | flaw hg hf => exact fun t ht => nomatch ht
  | token hg hl he _ ih =>
      intro t ht
      rcases List.mem_cons.mp ht with rfl | ht
      · rwa [String.toList_ofList]
      · exact ih t ht

theorem lexeme_of_mem_tokens {source : String} {t : Token}
    (h : t ∈ (TokenStream.ofString source).tokens) : Lexeme t.kind t.lexeme.toList :=
  (yields_ofReader [] source.toList).lexeme_of_mem t h

end Scan

end SourceCheck

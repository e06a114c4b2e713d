import SourceCheck.Proofs.Check.Locality
import SourceCheck.Proofs.Scan.LineEnds

/-!
# Check — a carriage return and a line feed are one line break

* `Symbol.meet_withReturns`: the text of a string is never looked at, so a token is met as it is
  with carriage returns in its lexeme.
* `outcome_map`: streams whose tokens are met alike are recognised alike.
* `check_withReturns`: a text with a carriage return in front of each line feed has the tokens, the
  flaw and the verdict of the text without them.
-/

namespace SourceCheck

open Text (withReturns)

theorem Token.withReturns_eq_self {t : Token} (h : '\n' ∉ t.lexeme.toList) :
    t.withReturns = t := by
  rw [withReturns, Text.withReturns_eq_self h, String.ofList_toList]

namespace Grammar

/-! ### Tokens that are met alike -/

/-- No symbol looks at the text of a string. -/
theorem Symbol.meet_withReturns {t : Token} (h : Scan.Lexeme t.kind t.lexeme.toList) (s : Symbol) :
    s.meet t.withReturns = s.meet t := by
  by_cases hk : t.kind = .stringLiteral
  · obtain ⟨kind, lexeme, place⟩ := t
    subst hk
    cases s <;> rfl
  · rw [Token.withReturns_eq_self (h.newline_notMem hk)]

theorem feed_of_meet {t t' : Token} (h : ∀ s : Symbol, s.meet t' = s.meet t)
    (stack : List Symbol) : feed t' stack = feed t stack := by
  induction stack with
  | nil => rfl
  | cons s stack ih => rw [feed, feed, h, ih]

/-- The rejection with another token in the place of the one that was found. -/
def Rejection.map (f : Token → Token) : Rejection → Rejection
  | lexical e => lexical e
  | mismatch m => mismatch ⟨m.expected, m.found.map f⟩

/-- **Tokens that are met alike** make no difference. -/
theorem outcome_map {f : Token → Token} (stack : List Symbol) {stream : TokenStream}
    (h : ∀ t ∈ stream.tokens, ∀ s : Symbol, s.meet (f t) = s.meet t) :
    (recognize stack (stream.map f)).outcome =
      (recognize stack stream).outcome.mapError (Rejection.map f) := by
  induction stream generalizing stack with
  | token t rest ih =>
      have hfeed := feed_of_meet (h t List.mem_cons_self) stack
      rw [TokenStream.map]
      cases hf : (feed t stack).2 with
      | ok stack' =>
          rw [recognize_read _ hf, recognize_read (t := f t) _ (hfeed ▸ hf)]
          exact ih stack' fun u hu => h u (List.mem_cons_of_mem _ hu)
      | error e =>
          rw [recognize_refused _ hf, recognize_refused (t := f t) _ (hfeed ▸ hf)]
          rfl
  | fault e => rfl
  | finish stop =>
      rw [TokenStream.map, recognize]
      split <;> rfl

end Grammar

open Grammar

/-- The outcome of a check of the text with carriage returns. -/
theorem outcome_withReturns (source : String) :
    (report (String.ofList (withReturns source.toList))).outcome =
      (report source).outcome.mapError (Rejection.map Token.withReturns) := by
  rw [report, stream_withReturns]
  exact outcome_map _ fun t ht => Symbol.meet_withReturns (Scan.lexeme_of_mem_tokens ht)

/-- The class and the place of an error, without its words. -/
theorem Grammar.Rejection.diagnostic_map {f : Token → Token}
    (h : ∀ t, (f t).location = t.location) (r : Rejection) :
    (r.map f).diagnostic.isLexical = r.diagnostic.isLexical ∧
      (r.map f).diagnostic.location? = r.diagnostic.location? := by
  cases r with
  | lexical e => exact ⟨rfl, rfl⟩
  | mismatch m =>
      refine ⟨rfl, ?_⟩
      simp [map, diagnostic, Diagnostic.location?, Mismatch.toSyntaxError, Function.comp_def, h]

/-- A stream whose strings stay on their lines is the same with carriage returns. -/
theorem stream_map_withReturns {stream : TokenStream}
    (h : ∀ t ∈ stream.tokens, '\n' ∉ t.lexeme.toList) : stream.map Token.withReturns = stream := by
  induction stream with
  | token t rest ih =>
      rw [TokenStream.map, Token.withReturns_eq_self (h t List.mem_cons_self),
        ih fun u hu => h u (List.mem_cons_of_mem _ hu)]
  | fault e => rfl
  | finish stop => rfl

/-- **A carriage return and a line feed are one line break.**  Let `source'` be a text written with a
carriage return in front of each line feed, whatever carriage returns it has already.

* It has as many tokens as before, of the same kinds and at the same places; their lexemes are the
  same, but for the line feeds in strings, which have got their carriage returns.
* It has the same flaw at the same place, or none as before.
* It is accepted just when it was before.  If it is rejected, the error is of the same class and at
  the same place, and if no string reaches over a line break it is the same in words. -/
theorem check_withReturns {source source' : String}
    (h : source'.toList = withReturns source.toList) :
    let stream := TokenStream.ofString source
    let stream' := TokenStream.ofString source'
    List.Forall₂ (fun t t' => t'.kind = t.kind ∧ t'.location = t.location ∧
        t'.lexeme.toList =
          if t.kind = .stringLiteral then withReturns t.lexeme.toList else t.lexeme.toList)
      stream.tokens stream'.tokens ∧
    stream'.fault? = stream.fault? ∧
    (check source' = .ok () ↔ check source = .ok ()) ∧
    (∀ d, check source = .error d → ∃ d', check source' = .error d' ∧
      d'.isLexical = d.isLexical ∧ d'.location? = d.location?) ∧
    ((∀ t ∈ stream.tokens, t.kind = .stringLiteral → '\n' ∉ t.lexeme.toList) →
      check source' = check source) := by
  intro stream stream'
  obtain rfl : source' = String.ofList (withReturns source.toList) := by
    rw [← h, String.ofList_toList]
  have hstream : stream' = stream.map Token.withReturns := stream_withReturns source
  have houtcome := outcome_withReturns source
  refine ⟨?_, ?_, ?_, fun d hd => ?_, fun hlines => ?_⟩
  · rw [hstream, TokenStream.tokens_map, List.forall₂_map_right_iff]
    refine List.forall₂_same.mpr fun t ht => ⟨rfl, rfl, ?_⟩
    rw [Token.withReturns, String.toList_ofList]
    split
    · rfl
    · next hk => exact (Scan.lexeme_of_mem_tokens ht).withReturns_eq_self hk
  · rw [hstream, TokenStream.fault?_map]
  · rw [check_eq_ok_iff_outcome, check_eq_ok_iff_outcome, houtcome]
    cases (report source).outcome <;> simp [Except.mapError]
  · obtain ⟨r, hr, rfl⟩ := check_eq_error_iff_outcome.mp hd
    have hplace : ∀ t : Token, t.withReturns.location = t.location := fun t => rfl
    refine ⟨_, check_eq_error_iff_outcome.mpr ⟨r.map Token.withReturns, ?_, rfl⟩,
      r.diagnostic_map hplace⟩
    rw [houtcome, hr]
    rfl
  · have hsame : stream' = stream := by
      rw [hstream]
      refine stream_map_withReturns fun t ht => ?_
      by_cases hk : t.kind = .stringLiteral
      · exact hlines t ht hk
      · exact (Scan.lexeme_of_mem_tokens ht).newline_notMem hk
    rw [check, check, report, report]
    exact congrArg (fun s => (recognize Symbol.program s).verdict) hsame

/-- A misplaced semicolon on the second line, and a misplaced string that ends there. -/
theorem check_withReturns_each :
    check "main\r\n\x7bx<-;" = .error (.syntactic
      ⟨"expected IDENT, INT_LIT, FLOAT_LIT or LPAREN '(', found SEMI(;)", some ⟨2, 5⟩⟩) ∧
    ∃ d, check "main\x22\r\n\x22" = .error d ∧ d.location? = some ⟨1, 5⟩ ∧
      d.message ≠ "expected LBRACE '\x7b', found STRING(\x22\n\x22)" := by
  have hsource : "main\r\n\x7bx<-;".toList = withReturns "main\n\x7bx<-;".toList := by decide
  have hsource' : "main\x22\r\n\x22".toList = withReturns "main\x22\n\x22".toList := by decide
  have h : check "main\n\x7bx<-;" = .error (.syntactic
      ⟨"expected IDENT, INT_LIT, FLOAT_LIT or LPAREN '(', found SEMI(;)", some ⟨2, 5⟩⟩) := by cbv
  have h' : check "main\x22\n\x22" = .error (.syntactic
      ⟨"expected LBRACE '\x7b', found STRING(\x22\n\x22)", some ⟨1, 5⟩⟩) := by cbv
  have ht : (TokenStream.ofString "main\n\x7bx<-;").tokens.all
      (fun t => t.kind ≠ .stringLiteral) = true := by cbv
  refine ⟨?_, ?_⟩
  · obtain ⟨-, -, -, -, hsame⟩ := check_withReturns hsource
    rw [h] at hsame
    refine hsame fun t hm hk => ?_
    exact absurd hk (by simpa using List.all_eq_true.mp ht t hm)
  · obtain ⟨-, -, -, herror, -⟩ := check_withReturns hsource'
    obtain ⟨d, hd, -, hl⟩ := herror _ h'
    refine ⟨d, hd, hl, ?_⟩
    have hm : check "main\x22\r\n\x22" = .error (.syntactic
      ⟨"expected LBRACE '\x7b', found STRING(\x22\r\n\x22)", some ⟨1, 5⟩⟩) := by cbv
    obtain rfl := Except.error.inj (hd.symm.trans hm)
    decide

end SourceCheck

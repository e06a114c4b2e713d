import SourceCheck.Proofs.Grammar.Verdict
import SourceCheck.Proofs.Scan.Decomposition

/-!
# Check — the layout of a text does not matter

A list of spellings can be written down in many ways: with any gaps that are not empty between
them, and with any gaps, or none, around them (`Layout`).

* `Layout.decomposes`: nothing that opens a gap prolongs a lexeme, so a layout is a decomposition
  of its text.
* `outcome_of_shapes`: the recogniser looks at the kind and the lexeme of a token only, so two
  texts with the same kinds and lexemes are recognised alike.
* `check_of_layout`: the tokens of a layout are what was written, and the verdict on it is the same
  for every layout, up to the place of the token in error.
-/

namespace SourceCheck

/-- What a token is apart from its place in a text. -/
def Token.shape (t : Token) : Kind × String :=
  (t.kind, t.lexeme)

end SourceCheck

namespace SourceCheck.Scan

open Text (isDigit isWordPart isLineEnd isBlank)
open Reader (between)

/-! ### Layouts -/

/-- A kind and a text in its language. -/
structure Spelling where
  kind : Kind
  lexeme : String
  valid : Lexeme kind lexeme.toList

def Spelling.shape (w : Spelling) : Kind × String :=
  (w.kind, w.lexeme)

/-- What stands behind a lexeme: the spellings that are left, each behind a gap. -/
inductive Spaced : List Spelling → List Char → Prop where
  | finish {g : List Char} (hg : LastGap g) : Spaced [] g
  | lexeme {w : Spelling} {ws : List Spelling} {g rest : List Char} (hg : Gap g) (hn : g ≠ [])
      (h : Spaced ws rest) : Spaced (w :: ws) (g ++ (w.lexeme.toList ++ rest))

/-- The spellings written as a text, with a gap between any two of them. -/
inductive Layout : List Spelling → List Char → Prop where
  | empty {g : List Char} (hg : LastGap g) : Layout [] g
  | lexemes {w : Spelling} {ws : List Spelling} {g rest : List Char} (hg : Gap g)
      (h : Spaced ws rest) : Layout (w :: ws) (g ++ (w.lexeme.toList ++ rest))

/-! ### Gaps end lexemes -/

/-- The characters that a gap can begin with. -/
def opensGap (c : Char) : Bool :=
  isBlank c || c == '#' || c == '/'

theorem Trivium.opensGap {a : List Char} (h : Trivium a) :
    ∃ c cs, a = c :: cs ∧ opensGap c = true := by
  cases h with
  | blank hb => exact ⟨_, _, rfl, by simp [Scan.opensGap, hb]⟩
  | lineComment hb hc => exact ⟨_, _, rfl, rfl⟩
  | blockComment h => exact ⟨_, _, rfl, rfl⟩

theorem Gap.opensGap {g : List Char} (h : Gap g) : ∀ c ∈ g.head?, opensGap c = true := by
  cases h with
  | nil => exact fun c hc => nomatch hc
  | cons ha hg =>
      obtain ⟨c, cs, rfl, ho⟩ := ha.opensGap
      rintro d ⟨⟩
      exact ho

theorem LastGap.opensGap {g : List Char} (h : LastGap g) : ∀ c ∈ g.head?, opensGap c = true := by
  cases h with
  | closed hg => exact hg.opensGap
  | @unclosed g body hg hb =>
      intro c hc
      cases g with
      | nil =>
          obtain rfl := Option.some.inj hc
          rfl
      | cons d g => exact hg.opensGap c hc

/-- **Nothing that opens a gap prolongs a lexeme.** -/
theorem prolongs_of_opensGap {c : Char} (h : opensGap c = true) (k : Kind) (l : List Char) :
    prolongs k l c = false := by
  have hc : isWordPart c = false ∧ isDigit c = false ∧ c ≠ '.' ∧ c ≠ '*' ∧ c ≠ '=' ∧ c ≠ '-' := by
    simp only [opensGap, isBlank, isLineEnd, Bool.or_eq_true, beq_iff_eq] at h
    rcases h with (((rfl | rfl) | rfl | rfl) | rfl) | rfl <;> decide
  cases k <;> simp [prolongs, hc]

theorem Spaced.ends {ws : List Spelling} {rest : List Char} (h : Spaced ws rest) (k : Kind)
    (l : List Char) : Ends k l rest := by
  intro c hc
  cases h with
  | finish hg => exact prolongs_of_opensGap (hg.opensGap c hc) k l
  | lexeme hg hn h =>
      rw [List.head?_append_of_ne_nil _ hn] at hc
      exact prolongs_of_opensGap (hg.opensGap c hc) k l

/-- One more lexeme in front of what is spaced. -/
theorem Spaced.cons {ws : List Spelling} {before g rest : List Char} {ts : List Token}
    (h : Spaced ws rest) (w : Spelling) (hg : Gap g)
    (hd : Decomposes (before ++ g ++ w.lexeme.toList) rest ts)
    (hs : ts.map Token.shape = ws.map Spelling.shape) :
    ∃ ts', Decomposes before (g ++ (w.lexeme.toList ++ rest)) ts' ∧
      ts'.map Token.shape = (w :: ws).map Spelling.shape := by
  refine ⟨_, .token hg w.valid (h.ends w.kind w.lexeme.toList) hd, ?_⟩
  simp [hs, Token.shape, Spelling.shape]

theorem Spaced.decomposes {ws : List Spelling} {text : List Char} (h : Spaced ws text)
    (before : List Char) :
    ∃ ts, Decomposes before text ts ∧ ts.map Token.shape = ws.map Spelling.shape := by
  induction h generalizing before with
  | finish hg => exact ⟨[], .finish hg, rfl⟩
  | lexeme hg hn h ih =>
      obtain ⟨ts, hd, hs⟩ := ih _
      exact h.cons _ hg hd hs

/-- **A layout is a decomposition** into what was written. -/
theorem Layout.decomposes {ws : List Spelling} {text : List Char} (h : Layout ws text) :
    ∃ ts, Decomposes [] text ts ∧ ts.map Token.shape = ws.map Spelling.shape := by
  cases h with
  | empty hg => exact ⟨[], .finish hg, rfl⟩
  | lexemes hg h =>
      obtain ⟨ts, hd, hs⟩ := h.decomposes _
      exact h.cons _ hg hd hs

end SourceCheck.Scan

namespace SourceCheck.Grammar

/-! ### Places are not looked at -/

section

variable {t t' : Token} (h : t.shape = t'.shape)
include h

theorem Symbol.meet_of_shape (s : Symbol) : s.meet t = s.meet t' := by
  obtain ⟨kind, lexeme, place⟩ := t
  obtain ⟨rfl, rfl⟩ := Prod.mk.inj h
  cases s <;> rfl

theorem feed_of_shape (stack : List Symbol) : feed t stack = feed t' stack := by
  induction stack with
  | nil => rfl
  | cons s stack ih => rw [feed, feed, Symbol.meet_of_shape h, ih]

/-- Two mismatches at tokens of one shape differ in their place only. -/
theorem message_of_shape (e : Expectation) :
    (Mismatch.mk e (some t)).toSyntaxError.message =
      (Mismatch.mk e (some t')).toSyntaxError.message := by
  obtain ⟨hk, hl⟩ := Prod.mk.inj h
  simp only [Mismatch.toSyntaxError, Mismatch.foundText, Token.describe, hk, hl]

end

theorem Reads.of_shapes {stack stack' : List Symbol} {ts ts' : List Token}
    (r : Reads stack ts stack') (h : ts.map Token.shape = ts'.map Token.shape) :
    Reads stack ts' stack' := by
  induction r generalizing ts' with
  | refl stack =>
      obtain rfl := List.map_eq_nil_iff.mp h.symm
      exact .refl stack
  | more hf _ ih =>
      obtain ⟨t', ts', rfl, ht, hts⟩ := List.map_eq_cons_iff.mp h.symm
      exact .more (feed_of_shape ht _ ▸ hf) (ih hts.symm)

/-- **Shapes decide.**  Of two streams without a flaw whose tokens have the same shapes, both are
recognised, or both end too early in the same way, or the same expectation is not met by the
tokens at one index. -/
theorem outcome_of_shapes (stack : List Symbol) {stream stream' : TokenStream}
    (hn : stream.fault? = none) (hn' : stream'.fault? = none)
    (h : stream.tokens.map Token.shape = stream'.tokens.map Token.shape) :
    (∃ outcome, (recognize stack stream).outcome = outcome ∧
      (recognize stack stream').outcome = outcome ∧
      (outcome = .ok () ∨ ∃ e, outcome = .error (.mismatch ⟨e, none⟩))) ∨
    ∃ (e : Expectation) (i : Nat) (t t' : Token), stream.tokens[i]? = some t ∧
      stream'.tokens[i]? = some t' ∧ t.shape = t'.shape ∧
      (recognize stack stream).outcome = .error (.mismatch ⟨e, some t⟩) ∧
      (recognize stack stream').outcome = .error (.mismatch ⟨e, some t'⟩) := by
  rcases reads_or_refused stack stream.tokens with
    ⟨stack', r⟩ | ⟨front, t, back, stack', e, ht, r, he⟩
  · refine Or.inl ⟨_, outcome_of_reads r, ?_, ?_⟩
    · rw [outcome_of_reads (r.of_shapes h), hn, hn']
    · rw [hn]
      cases (finish stack').2 with
      | ok u => exact Or.inl rfl
      | error e => exact Or.inr ⟨e, rfl⟩
  · -- the refused token stands behind as many tokens of the other stream
    rw [ht, eq_comm, List.map_append, List.map_cons] at h
    obtain ⟨front', rest', ht', hf, hr⟩ := List.map_eq_append_iff.mp h
    obtain ⟨t', back', rfl, hs, -⟩ := List.map_eq_cons_iff.mp hr
    have hl : front'.length = front.length := by simpa using congrArg List.length hf
    refine Or.inr ⟨e, front.length, t, t', ?_, ?_, hs.symm, outcome_of_refused r he ht,
      outcome_of_refused (r.of_shapes hf.symm) (feed_of_shape hs _ ▸ he) ht'⟩
    · simp [ht]
    · simp [ht', ← hl]

end SourceCheck.Grammar

namespace SourceCheck

open Grammar Scan

/-- **The layout does not matter.**  A text that spellings are written as, in whatever layout, has
tokens of just these kinds and lexemes.  Two layouts of the same spellings are both accepted, or
both rejected with one message: at the end of the input, or at the tokens with the same index. -/
theorem check_of_layout (ws : List Spelling) :
    (∀ source, Layout ws source.toList →
      ∃ ts, tokenize source = .ok ts ∧ ts.map Token.shape = ws.map Spelling.shape) ∧
    ∀ source source' ts ts', Layout ws source.toList → Layout ws source'.toList →
      tokenize source = .ok ts → tokenize source' = .ok ts' →
      (check source = .ok () ∧ check source' = .ok ()) ∨
      (∃ message, check source = .error (.syntactic ⟨message, none⟩) ∧
        check source' = .error (.syntactic ⟨message, none⟩)) ∨
      ∃ (message : String) (i : Nat) (t t' : Token), ts[i]? = some t ∧ ts'[i]? = some t' ∧
        check source = .error (.syntactic ⟨message, some t.location⟩) ∧
        check source' = .error (.syntactic ⟨message, some t'.location⟩) := by
  have htokens : ∀ source, Layout ws source.toList →
      ∃ ts, tokenize source = .ok ts ∧ ts.map Token.shape = ws.map Spelling.shape := by
    intro source h
    obtain ⟨ts, hd, hs⟩ := h.decomposes
    exact ⟨ts, tokenize_eq_ok_iff.mpr hd.stream, hs⟩
  refine ⟨htokens, fun source source' ts ts' h h' ht ht' => ?_⟩
  have hshapes : ts.map Token.shape = ts'.map Token.shape := by
    obtain ⟨us, hu, hs⟩ := htokens source h
    obtain ⟨us', hu', hs'⟩ := htokens source' h'
    obtain rfl := Except.ok.inj (ht.symm.trans hu)
    obtain rfl := Except.ok.inj (ht'.symm.trans hu')
    rw [hs, hs']
  obtain ⟨hn, rfl⟩ := tokenize_eq_ok_iff.mp ht
  obtain ⟨hn', rfl⟩ := tokenize_eq_ok_iff.mp ht'
  rcases outcome_of_shapes Symbol.program hn hn' hshapes with
    ⟨outcome, ho, ho', rfl | ⟨e, rfl⟩⟩ | ⟨e, i, t, t', hi, hi', hs, ho, ho'⟩
  · exact Or.inl ⟨check_eq_ok_iff_outcome.mpr ho, check_eq_ok_iff_outcome.mpr ho'⟩
  · exact Or.inr (Or.inl ⟨_, check_eq_error_iff_outcome.mpr ⟨_, ho, rfl⟩,
      check_eq_error_iff_outcome.mpr ⟨_, ho', rfl⟩⟩)
  · refine Or.inr (Or.inr ⟨(Mismatch.mk e (some t)).toSyntaxError.message, i, t, t', hi, hi',
      check_eq_error_iff_outcome.mpr ⟨_, ho, rfl⟩, ?_⟩)
    rw [message_of_shape hs]
    exact check_eq_error_iff_outcome.mpr ⟨_, ho', rfl⟩

/-- An operator that a space, or a comment on either side, sets off. -/
theorem check_of_layout_comment :
    let ws : List Spelling :=
      [⟨.main, "main", .spelled rfl⟩, ⟨.mathOperator, "/", .math (c := '/') (by decide)⟩]
    Layout ws "main /".toList ∧ Layout ws "main/*/**//#".toList ∧
    (∃ ts, tokenize "main/*/**//#" = .ok ts ∧ ts.map Token.shape = ws.map Spelling.shape) ∧
    ∃ message, check "main /" = .error (.syntactic ⟨message, some ⟨1, 6⟩⟩) ∧
      check "main/*/**//#" = .error (.syntactic ⟨message, some ⟨1, 11⟩⟩) := by
  intro ws
  have h : Layout ws "main /".toList :=
    .lexemes (g := []) .nil
      (.lexeme (g := [' ']) (.cons (.blank rfl) .nil) (by simp) (.finish (.closed .nil)))
  have h' : Layout ws "main/*/**//#".toList :=
    .lexemes (g := []) .nil
      (.lexeme (g := ['/', '*', '/', '*', '*', '/'])
        (.cons (@Trivium.blockComment ['/', '*'] (by decide)) .nil) (by simp)
        (.finish (@LastGap.unclosed [] [] .nil (by simp))))
  have ht : tokenize "main /" =
      .ok [⟨.main, "main", ⟨1, 1⟩⟩, ⟨.mathOperator, "/", ⟨1, 6⟩⟩] := by cbv
  have ht' : tokenize "main/*/**//#" =
      .ok [⟨.main, "main", ⟨1, 1⟩⟩, ⟨.mathOperator, "/", ⟨1, 11⟩⟩] := by cbv
  have hc : check "main /" =
      .error (.syntactic ⟨"expected LBRACE '\x7b', found MATH(/)", some ⟨1, 6⟩⟩) := by cbv
  refine ⟨h, h', (check_of_layout ws).1 _ h', ?_⟩
  rcases (check_of_layout ws).2 _ _ _ _ h h' ht ht' with
    ⟨ho, -⟩ | ⟨m, ho, -⟩ | ⟨m, i, t, t', hi, hi', ho, ho'⟩
  · cases hc.symm.trans ho
  · cases hc.symm.trans ho
  · have hl : t.location = ⟨1, 6⟩ := by
      rw [hc] at ho
      injection ho with hd
      injection hd with he
      exact (Option.some.inj (SyntaxError.mk.inj he).2).symm
    rcases i with _ | _ | i
    · obtain rfl := Option.some.inj hi
      cases hl
    · obtain rfl := Option.some.inj hi
      obtain rfl := Option.some.inj hi'
      exact ⟨m, ho, ho'⟩
    · cases hi

end SourceCheck

import SourceCheck.Check
import SourceCheck.Proofs.Grammar.Recognition

/-!
# Grammar — the verdict of a check

A check follows the tokens of a text with a stack of symbols, one token after the other
(`Reads`), and stops at the first token that the stack refuses.

* `check_eq_ok_iff`: a text is accepted just when it has tokens and they are a program of the
  committed grammar.
* `error_of_check`: a text that is not accepted is rejected at the first token that no program
  could have in its place, and only if there is none for what ends its tokens: a flaw of the
  text, or the end of the input.

A list of tokens is viable when some program begins with it.  By `cons_mem_spelled`, the stack
after some tokens stands for exactly what may follow them, and by `exists_mem_spelled` it always
stands for something; so the tokens that the recogniser has read are viable, and with the one it
refuses they are not (`viable_iff_reads`).
-/

namespace SourceCheck.Grammar

open Form (phrase)

/-! ### Reading a list of tokens -/

/-- A stack reads a list of tokens and leaves another stack. -/
inductive Reads : List Symbol → List Token → List Symbol → Prop where
  | refl (stack : List Symbol) : Reads stack [] stack
  | more {stack mid stack' : List Symbol} {t : Token} {ts : List Token}
      (h : (feed t stack).2 = .ok mid) (r : Reads mid ts stack') : Reads stack (t :: ts) stack'

theorem Reads.orderly {stack stack' : List Symbol} {ts : List Token} (r : Reads stack ts stack') :
    Orderly stack → Orderly stack' := by
  induction r with
  | refl stack => exact id
  | more h _ ih => exact fun ho => ih (orderly_of_feed ho h)

theorem Reads.functional {stack stack₁ stack₂ : List Symbol} {ts : List Token}
    (r₁ : Reads stack ts stack₁) (r₂ : Reads stack ts stack₂) : stack₁ = stack₂ := by
  induction r₁ with
  | refl stack =>
      cases r₂
      rfl
  | more h _ ih =>
      cases r₂ with
      | more h' r₂ =>
          obtain rfl := Except.ok.inj (h.symm.trans h')
          exact ih r₂

/-- A list of tokens is read to its end, or up to a token that is refused. -/
theorem reads_or_refused (stack : List Symbol) (ts : List Token) :
    (∃ stack', Reads stack ts stack') ∨
      ∃ front t back stack' e, ts = front ++ t :: back ∧ Reads stack front stack' ∧
        (feed t stack').2 = .error e := by
  induction ts generalizing stack with
  | nil => exact Or.inl ⟨stack, .refl stack⟩
  | cons t ts ih =>
      cases hf : (feed t stack).2 with
      | error e => exact Or.inr ⟨[], t, ts, stack, e, rfl, .refl stack, hf⟩
      | ok mid =>
          rcases ih mid with ⟨stack', r⟩ | ⟨front, u, back, stack', e, rfl, r, he⟩
          · exact Or.inl ⟨stack', .more hf r⟩
          · exact Or.inr ⟨t :: front, u, back, stack', e, rfl, .more hf r, he⟩

/-- **Tokens against the stack.**  The words that follow some tokens are those of the stack that
reading them leaves. -/
theorem append_mem_spelled {stack : List Symbol} (h : Orderly stack) {ts us : List Token} :
    ts ++ us ∈ spelled stack ↔ ∃ stack', Reads stack ts stack' ∧ us ∈ spelled stack' := by
  induction ts generalizing stack with
  | nil =>
      refine ⟨?_, ?_⟩
      · exact fun hu => ⟨stack, .refl stack, hu⟩
      · rintro ⟨_, ⟨⟩, hu⟩
        exact hu
  | cons t ts ih =>
      rw [List.cons_append, cons_mem_spelled h]
      refine ⟨?_, ?_⟩
      · rintro ⟨mid, hf, hm⟩
        obtain ⟨stack', r, hu⟩ := (ih (orderly_of_feed h hf)).mp hm
        exact ⟨stack', .more hf r, hu⟩
      · rintro ⟨stack', r, hu⟩
        cases r with
        | more hf r => exact ⟨_, hf, (ih (orderly_of_feed h hf)).mpr ⟨stack', r, hu⟩⟩

/-! ### The outcome along a stream -/

/-- All tokens are read: what ends the stream decides. -/
theorem outcome_of_reads {stack stack' : List Symbol} {stream : TokenStream}
    (r : Reads stack stream.tokens stack') :
    (recognize stack stream).outcome =
      match stream.fault? with
      | some e => .error (.lexical e)
      | none =>
        match (finish stack').2 with
        | .ok () => .ok ()
        | .error e => .error (.mismatch ⟨e, none⟩) := by
  induction stream generalizing stack with
  | token t rest ih =>
      cases r with
      | more hf r =>
          rw [recognize]
          split
          · next hs =>
              obtain rfl := Except.ok.inj (hs ▸ hf)
              exact ih r
          · next hs => cases hs ▸ hf
  | fault e =>
      cases r
      rfl
  | finish stop =>
      cases r
      rw [recognize]
      split <;> simp [TokenStream.fault?, Report.after, Report.ofMismatch, *]

/-- A token is refused: it is the error, whatever comes after it. -/
theorem outcome_of_refused {stack stack' : List Symbol} {stream : TokenStream}
    {front back : List Token} {t : Token} {e : Expectation} (r : Reads stack front stack')
    (hf : (feed t stack').2 = .error e) (hs : stream.tokens = front ++ t :: back) :
    (recognize stack stream).outcome = .error (.mismatch ⟨e, some t⟩) := by
  induction r generalizing stream with
  | refl stack =>
      cases stream with
      | token u rest =>
          obtain ⟨rfl, -⟩ := List.cons.inj hs
          rw [recognize]
          split
          · next hu => cases hu ▸ hf
          · next hu =>
              obtain rfl := Except.error.inj (hu ▸ hf)
              rfl
      | fault e | finish stop => cases hs
  | more hm _ ih =>
      cases stream with
      | token u rest =>
          obtain ⟨rfl, hrest⟩ := List.cons.inj hs
          rw [recognize]
          split
          · next hu =>
              obtain rfl := Except.ok.inj (hu ▸ hm)
              exact ih hf hrest
          · next hu => cases hu ▸ hm
      | fault e | finish stop => cases hs

/-- What decides the verdict about a stream: the end of the input, a flaw, or a token that is
refused. -/
inductive Decided (stream : TokenStream) : Verdict → Prop where
  | accepted (h : stream.fault? = none) : Decided stream (.ok ())
  | flaw {e : LexicalError} (h : stream.fault? = some e) : Decided stream (.error (.lexical e))
  | ended {x : Expectation} (h : stream.fault? = none) :
      Decided stream (.error (.syntactic (Mismatch.toSyntaxError ⟨x, none⟩)))
  | refused {x : Expectation} {t : Token} {front back : List Token}
      (h : stream.tokens = front ++ t :: back) :
      Decided stream (.error (.syntactic (Mismatch.toSyntaxError ⟨x, some t⟩)))

theorem recognize_decided (stack : List Symbol) (stream : TokenStream) :
    Decided stream (recognize stack stream).verdict := by
  unfold Report.verdict
  rcases reads_or_refused stack stream.tokens with
    ⟨stack', r⟩ | ⟨front, t, back, stack', e, ht, r, he⟩
  · rw [outcome_of_reads r]
    cases hf : stream.fault? with
    | some e => exact .flaw hf
    | none =>
        cases (finish stack').2 with
        | ok u => exact .accepted hf
        | error e => exact .ended hf
  · rw [outcome_of_refused r he ht]
    exact .refused ht

/-- **Recognition.**  A stream is recognised just when no flaw ends it and its tokens are a word
of the stack. -/
theorem outcome_ok_iff {stack : List Symbol} (h : Orderly stack) {stream : TokenStream} :
    (recognize stack stream).outcome = .ok () ↔
      stream.fault? = none ∧ stream.tokens ∈ spelled stack := by
  rcases reads_or_refused stack stream.tokens with
    ⟨stack', r⟩ | ⟨front, t, back, stack', e, ht, r, he⟩
  · have hm : stream.tokens ∈ spelled stack ↔ (finish stack').2 = .ok () := by
      rw [← nil_mem_spelled, ← List.append_nil stream.tokens, append_mem_spelled h]
      refine ⟨?_, ?_⟩
      · rintro ⟨stack'', r', hn⟩
        rwa [r.functional r']
      · exact fun hn => ⟨stack', r, hn⟩
    rw [outcome_of_reads r, hm]
    cases stream.fault? with
    | some e => simp
    | none => cases (finish stack').2 <;> simp
  · rw [outcome_of_refused r he ht, ht, append_mem_spelled h]
    refine ⟨?_, ?_⟩
    · intro hr
      cases hr
    · rintro ⟨-, stack'', r', hn⟩
      obtain ⟨next, hf, -⟩ := (cons_mem_spelled (r'.orderly h)).mp hn
      rw [← r.functional r', he] at hf
      cases hf

/-! ### Viable prefixes -/

/-- Some program of the committed grammar begins with the tokens. -/
def Viable (ts : List Token) : Prop :=
  ∃ us, Derives committed (phrase .program) (ts ++ us)

theorem Viable.of_append {ts us : List Token} (h : Viable (ts ++ us)) : Viable ts := by
  obtain ⟨more, d⟩ := h
  exact ⟨us ++ more, List.append_assoc ts us more ▸ d⟩

theorem Viable.take {ts : List Token} (h : Viable ts) (k : Nat) : Viable (ts.take k) :=
  Viable.of_append ((List.take_append_drop k ts).symm ▸ h)

theorem viable_iff_reads {ts : List Token} :
    Viable ts ↔ ∃ stack, Reads Symbol.program ts stack := by
  refine ⟨?_, ?_⟩
  · rintro ⟨us, d⟩
    have hm : ts ++ us ∈ spelled Symbol.program := spelled_program ▸ d
    obtain ⟨stack, r, -⟩ := (append_mem_spelled orderly_program).mp hm
    exact ⟨stack, r⟩
  · rintro ⟨stack, r⟩
    obtain ⟨us, hu⟩ := exists_mem_spelled stack
    have hm := (append_mem_spelled orderly_program).mpr ⟨stack, r, hu⟩
    rw [spelled_program] at hm
    exact ⟨us, hm⟩

/-- With a token that is refused, the tokens before it are no longer viable. -/
theorem not_viable_of_refused {front : List Token} {t : Token} {stack : List Symbol}
    {e : Expectation} (r : Reads Symbol.program front stack) (he : (feed t stack).2 = .error e) :
    ¬ Viable (front ++ [t]) := by
  rintro ⟨us, d⟩
  have hm : front ++ ([t] ++ us) ∈ spelled Symbol.program := by
    rw [spelled_program, ← List.append_assoc]
    exact d
  obtain ⟨stack', r', hn⟩ := (append_mem_spelled orderly_program).mp hm
  obtain ⟨next, hf, -⟩ := (cons_mem_spelled (r'.orderly orderly_program)).mp hn
  rw [← r.functional r', he] at hf
  cases hf

/-- The shortest first part that is not viable ends with the token that is refused. -/
theorem length_of_first_not_viable {front back : List Token} {t : Token} {k : Nat}
    (hv : Viable front) (hn : ¬ Viable (front ++ [t]))
    (hj : ∀ j < k, Viable ((front ++ t :: back).take (j + 1)))
    (hk : ¬ Viable ((front ++ t :: back).take (k + 1))) : k = front.length := by
  rcases Nat.lt_trichotomy k front.length with h | h | h
  · rw [List.take_append_of_le_length h] at hk
    exact absurd (hv.take (k + 1)) hk
  · exact h
  · have ht : (front ++ t :: back).take (front.length + 1) = front ++ [t] := by
      simp [List.take_append]
    exact absurd (ht ▸ hj front.length h) hn

end SourceCheck.Grammar

namespace SourceCheck

open Grammar
open Grammar.Form (phrase)

/-! ### Accepted texts -/

theorem check_eq_ok_iff_outcome {source : String} :
    check source = .ok () ↔ (report source).outcome = .ok () := by
  unfold check Report.verdict
  cases (report source).outcome <;> simp

theorem check_eq_error_iff_outcome {source : String} {d : Diagnostic} :
    check source = .error d ↔ ∃ r, (report source).outcome = .error r ∧ r.diagnostic = d := by
  unfold check Report.verdict
  cases (report source).outcome <;> simp

/-- **The exact language of the check.**  A text is accepted just when it has tokens, up to its
end, and they are a program of the committed grammar. -/
theorem check_eq_ok_iff (source : String) :
    check source = .ok () ↔
      ∃ ts, tokenize source = .ok ts ∧ Derives committed (phrase .program) ts := by
  rw [check_eq_ok_iff_outcome, report, outcome_ok_iff orderly_program, spelled_program]
  refine ⟨?_, ?_⟩
  · rintro ⟨hn, hm⟩
    exact ⟨_, tokenize_eq_ok_iff.mpr ⟨hn, rfl⟩, hm⟩
  · rintro ⟨ts, ht, hm⟩
    obtain ⟨hn, rfl⟩ := tokenize_eq_ok_iff.mp ht
    exact ⟨hn, hm⟩

/-! ### Rejected texts -/

/-- The message of a mismatch ends with what was found. -/
theorem Mismatch.message_eq (m : Mismatch) :
    m.toSyntaxError.message =
      "expected " ++ m.expected.describe ++ ", " ++ "found " ++ m.foundText := by
  simp only [toSyntaxError, String.append_assoc]
  rfl

/-- **The first error.**  Of a text that is rejected, let `ts` be the tokens before its end or
its first flaw.

* If a first part of `ts` is not viable, the error is the last token of the shortest such part.
* If all of `ts` is viable and the text has a flaw, the error is that flaw.
* If all of `ts` is viable and the text has no flaw, the error is the end of the input. -/
theorem error_of_check {source : String} {d : Diagnostic} (h : check source = .error d) :
    let ts := (TokenStream.ofString source).tokens
    (∀ (k : Nat) (hk : k < ts.length), (∀ j < k, Viable (ts.take (j + 1))) →
      ¬ Viable (ts.take (k + 1)) →
      ∃ e, d = .syntactic e ∧ e.location = some (ts[k].location) ∧
        ∃ lead, e.message = lead ++ "found " ++ ts[k].describe) ∧
    (∀ e, Viable ts → tokenize source = .error e → d = .lexical e) ∧
    (∀ ts', Viable ts → tokenize source = .ok ts' →
      ∃ e, d = .syntactic e ∧ e.location = none ∧
        ∃ lead, e.message = lead ++ "found " ++ "end of input") := by
  intro ts
  obtain ⟨r, hr, rfl⟩ := check_eq_error_iff_outcome.mp h
  rcases reads_or_refused Symbol.program ts with
    ⟨stack, hs⟩ | ⟨front, t, back, stack, e, ht, hs, he⟩
  · -- every token is read, so what ends them is the error
    have hv : Viable ts := viable_iff_reads.mpr ⟨stack, hs⟩
    rw [report, outcome_of_reads hs] at hr
    refine ⟨fun k hk _ hn => ?_, fun e _ hf => ?_, fun ts' _ hf => ?_⟩
    · exact absurd (hv.take (k + 1)) hn
    · rw [tokenize_eq_error_iff.mp hf] at hr
      cases hr
      rfl
    · rw [(tokenize_eq_ok_iff.mp hf).1] at hr
      cases hm : (finish stack).2 with
      | ok u =>
          rw [hm] at hr
          cases hr
      | error e =>
          rw [hm] at hr
          cases hr
          exact ⟨_, rfl, rfl, _, Mismatch.message_eq _⟩
  · -- the refused token is the error, and the first part that ends with it is not viable
    have hv : Viable front := viable_iff_reads.mpr ⟨stack, hs⟩
    have hn : ¬ Viable (front ++ [t]) := not_viable_of_refused hs he
    have hts : ¬ Viable ts := by
      intro h
      rw [ht, List.append_cons] at h
      exact hn h.of_append
    rw [report, outcome_of_refused hs he ht] at hr
    cases hr
    refine ⟨fun k hk hj hk' => ?_, fun _ h => absurd h hts, fun _ h => absurd h hts⟩
    have hl : k = front.length := length_of_first_not_viable hv hn (ht ▸ hj) (ht ▸ hk')
    have hget : ts[k] = t := by simp [ht, hl]
    rw [hget]
    exact ⟨_, rfl, rfl, _, Mismatch.message_eq _⟩

/-- A misplaced token before a flaw, a flaw, and a text that ends too early. -/
theorem error_of_check_each :
    (∃ e, check "main\x7bx<-;@\x7d" = .error (.syntactic e) ∧ e.location = some ⟨1, 9⟩ ∧
      ∃ lead, e.message = lead ++ "found " ++ "SEMI(;)") ∧
    check "main\x7bx<-@;\x7d" = .error (.lexical ⟨.invalidCharacter '@', ⟨1, 9⟩⟩) ∧
    (∃ e, check "main\x7bx" = .error (.syntactic e) ∧ e.location = none ∧
      ∃ lead, e.message = lead ++ "found " ++ "end of input") := by
  let front : List Token :=
    [⟨.main, "main", ⟨1, 1⟩⟩, ⟨.leftBrace, "\x7b", ⟨1, 5⟩⟩, ⟨.identifier, "x", ⟨1, 6⟩⟩,
      ⟨.assign, "<-", ⟨1, 7⟩⟩]
  let semi : Token := ⟨.semicolon, ";", ⟨1, 9⟩⟩
  have hr : Reads Symbol.program front _ :=
    .more rfl (.more rfl (.more rfl (.more rfl (.refl _))))
  have hv : Viable front := viable_iff_reads.mpr ⟨_, hr⟩
  refine ⟨?_, ?_, ?_⟩
  · have hc : check "main\x7bx<-;@\x7d" = .error (.syntactic
        ⟨"expected IDENT, INT_LIT, FLOAT_LIT or LPAREN '(', found SEMI(;)", some ⟨1, 9⟩⟩) := by cbv
    have ht : (TokenStream.ofString "main\x7bx<-;@\x7d").tokens = front ++ [semi] := by cbv
    have h := (error_of_check hc).1 4 (by rw [ht]; decide)
    simp only [ht] at h
    have hj : ∀ j < 4, Viable ((front ++ [semi]).take (j + 1)) := by
      intro j hj
      rw [List.take_append_of_le_length hj]
      exact hv.take (j + 1)
    obtain ⟨e, hd, hl, hm⟩ := h hj (not_viable_of_refused hr (e := .factor) rfl)
    exact ⟨e, hc.trans (congrArg _ hd), hl, hm⟩
  · have hc : check "main\x7bx<-@;\x7d" =
        .error (.lexical ⟨.invalidCharacter '@', ⟨1, 9⟩⟩) := by cbv
    have ht : (TokenStream.ofString "main\x7bx<-@;\x7d").tokens = front := by cbv
    rw [(error_of_check hc).2.1 _ (ht ▸ hv) (by cbv)] at hc
    exact hc
  · have hc : check "main\x7bx" = .error (.syntactic
        ⟨"expected ASSIGN, found end of input", none⟩) := by cbv
    have ht : (TokenStream.ofString "main\x7bx").tokens = front.take 3 := by cbv
    obtain ⟨e, hd, hl, hm⟩ := (error_of_check hc).2.2 (front.take 3) (ht ▸ hv.take 3) (by cbv)
    exact ⟨e, hc.trans (congrArg _ hd), hl, hm⟩

end SourceCheck

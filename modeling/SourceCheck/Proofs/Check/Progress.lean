import SourceCheck.Proofs.Check.Locality
import SourceCheck.Proofs.Grammar.Steps

/-!
# Check — a check makes progress and ends

The constructs of the language are read one inside the other, and some of them again inside
themselves.  A construct is entered where the symbols that stand for it are on top of the stack, or
where the symbol on top can turn out to be one (`Enters`); it is over when what was below it is all
that is left.

* `Enters.left_lt_of_step`: a construct that is entered reads the lookahead at once.  Only a list of
  commands can be empty.
* `Enters.left_lt_of_nested`: so a construct that is entered again inside itself has read a token.
* `pulls_le`: a recognition asks its scanner at most once more than there are tokens.
* `check_progresses`: what this comes to for a check.
-/

namespace SourceCheck

/-- The lookahead is of the given kind. -/
def TokenStream.IsAt (k : Kind) : TokenStream → Prop
  | token t _ => t.kind = k
  | fault _ | finish _ => False

namespace Grammar

open Relation (ReflTransGen TransGen)
open SourceCheck.Grammar.Symbol
  (declarations commands printArgument productTail sumTail operand relationTail clauseTail)

/-- What the grammar reads as one. -/
inductive Construct where
  | declaration
  | commands
  | command
  | condition
  | clause
  | relation
  | expression
  | term
  | factor
deriving DecidableEq

/-- A construct begins at the lookahead, and `below` is to be read behind it. -/
inductive Enters : Construct → List Symbol → Config → Prop where
  | declaration {below : List Symbol} {ahead : TokenStream} (h : ahead.IsAt .identifier) :
      Enters .declaration (declarations :: below) ⟨declarations :: below, ahead⟩
  | commands {below : List Symbol} {ahead : TokenStream} :
      Enters .commands below ⟨commands :: below, ahead⟩
  /-- There is a lookahead, and it does not end the commands. -/
  | command {below : List Symbol} {t : Token} {rest : TokenStream} (h : t.kind ≠ .rightBrace) :
      Enters .command (commands :: below) ⟨commands :: below, .token t rest⟩
  | condition {below : List Symbol} {ahead : TokenStream} :
      Enters .condition below ⟨.condition :: below, ahead⟩
  /-- A clause begins with a relation. -/
  | clause {below : List Symbol} {c : Config} (h : Enters .relation (clauseTail :: below) c) :
      Enters .clause below c
  /-- A relation begins with an expression. -/
  | relation {below : List Symbol} {c : Config} (h : Enters .expression (relationTail :: below) c) :
      Enters .relation below c
  /-- An expression begins with a term. -/
  | expression {below : List Symbol} {c : Config} (h : Enters .term (sumTail :: below) c) :
      Enters .expression below c
  /-- A term begins with a factor. -/
  | term {below : List Symbol} {c : Config} (h : Enters .factor (productTail :: below) c) :
      Enters .term below c
  | factor {below : List Symbol} {ahead : TokenStream} :
      Enters .factor below ⟨.factor :: below, ahead⟩
  /-- What is printed, if it is no string, is an expression. -/
  | printed {below : List Symbol} {ahead : TokenStream} (h : ¬ ahead.IsAt .stringLiteral) :
      Enters .factor (productTail :: sumTail :: below) ⟨printArgument :: below, ahead⟩
  /-- What is joined on, if it is no group, is a relation. -/
  | joined {below : List Symbol} {ahead : TokenStream} (h : ¬ ahead.IsAt .leftParen) :
      Enters .factor (productTail :: sumTail :: relationTail :: below) ⟨operand :: below, ahead⟩
  /-- A condition, if it is no group, is a clause. -/
  | ungrouped {below : List Symbol} {ahead : TokenStream} (h : ¬ ahead.IsAt .leftParen) :
      Enters .factor (productTail :: sumTail :: relationTail :: clauseTail :: below)
        ⟨.condition :: below, ahead⟩

variable {p : Construct} {below : List Symbol} {c d : Config}

/-! ### Constructs that are entered -/

/-- A symbol that asks for something at the end of the input is not passed. -/
theorem not_passes_of_demand {s : Symbol} {e : Expectation} (h : s.demand? = some e)
    (ahead : TokenStream) : ¬ s.Passes ahead := by
  intro hp
  have hnone : s.demand? = none := by
    cases ahead with
    | token t rest =>
        rcases hp with hp | ⟨e, hp⟩
        · exact demand?_of_meet_pass hp
        · rw [note_of_meet_log hp]
          rfl
    | fault e => exact hp.elim
    | finish stop => exact hp
  rw [hnone] at h
  cases h

/-- A name begins a further declaration. -/
theorem not_passes_declarations {ahead : TokenStream} (h : ahead.IsAt .identifier) :
    ¬ declarations.Passes ahead := by
  cases ahead with
  | token t rest =>
      have hk : t.kind = .identifier := h
      rintro (hp | ⟨e, hp⟩) <;> rw [Symbol.meet, if_pos hk] at hp <;> cases hp
  | fault e | finish stop => exact h.elim

/-- Only a closing brace ends the commands. -/
theorem not_passes_commands {t : Token} (h : t.kind ≠ .rightBrace) (rest : TokenStream) :
    ¬ commands.Passes (.token t rest) := by
  rintro (hp | ⟨e, hp⟩)
  · simp only [Symbol.meet, Symbol.meetCommand] at hp
    split at hp
    case h_5 hk => exact h hk
    all_goals cases hp
  · cases note_of_meet_log hp

/-- The symbol on top is not passed, if it is not a list of commands that is entered. -/
theorem Enters.not_passes (h : Enters p below c) (hp : p ≠ .commands) :
    ∃ s stack, c.stack = s :: stack ∧ ¬ s.Passes c.ahead := by
  induction h with
  | declaration h => exact ⟨_, _, rfl, not_passes_declarations h⟩
  | commands => exact absurd rfl hp
  | command h => exact ⟨_, _, rfl, not_passes_commands h _⟩
  | condition | factor | printed | joined | ungrouped =>
      exact ⟨_, _, rfl, not_passes_of_demand rfl _⟩
  | clause _ ih | relation _ ih | expression _ ih | term _ ih => exact ih nofun

/-- **A construct that is entered** reads the lookahead at once, if it is not a list of commands. -/
theorem Enters.left_lt_of_step (h : Enters p below c) (hp : p ≠ .commands) (hstep : Step c d) :
    d.left < c.left := by
  obtain ⟨s, stack, hs, hn⟩ := h.not_passes hp
  cases hstep with
  | pass hpass =>
      obtain ⟨rfl, rfl⟩ := List.cons.inj hs
      exact absurd hpass hn
  | read h => exact Nat.lt_succ_self _

/-- A construct that is over has read a token. -/
theorem Enters.left_lt_of_run (h : Enters p below c) (hp : p ≠ .commands)
    (hrun : TransGen Step c d) : d.left < c.left := by
  obtain ⟨m, hstep, hrest⟩ := Relation.TransGen.head'_iff.mp hrun
  exact (left_le_of_run hrest).trans_lt (h.left_lt_of_step hp hstep)

/-- A construct is entered once before the lookahead is read. -/
theorem Enters.functional {below' : List Symbol} (h : Enters p below c) (h' : Enters p below' c) :
    below = below' := by
  induction h generalizing below' with
  | declaration | commands | command | condition =>
      cases h'
      rfl
  | factor | printed | joined | ungrouped =>
      cases h'
      rfl
  | clause _ ih =>
      cases h' with
      | clause h' => exact (List.cons.inj (ih h')).2
  | relation _ ih =>
      cases h' with
      | relation h' => exact (List.cons.inj (ih h')).2
  | expression _ ih =>
      cases h' with
      | expression h' => exact (List.cons.inj (ih h')).2
  | term _ ih =>
      cases h' with
      | term h' => exact (List.cons.inj (ih h')).2

/-- **A construct that is entered again inside itself** has read a token. -/
theorem Enters.left_lt_of_nested {inner : List Symbol} (h : Enters p below c)
    (hrun : ReflTransGen Step c d) (h' : Enters p (inner ++ below) d) (hi : inner ≠ []) :
    d.left < c.left := by
  rcases Relation.reflTransGen_iff_eq_or_transGen.mp hrun with rfl | hrun
  · exact absurd (List.self_eq_append_left.mp (h.functional h')) hi
  · by_cases hp : p = .commands
    · subst hp
      cases h
      cases h'
      refine left_lt_of_length_le hrun ?_
      simp
    · exact h.left_lt_of_run hp hrun

/-! ### Pulls -/

/-- **One pull for each token**, and one at the end. -/
theorem pulls_le {stack : List Symbol} (hq : Quiet (notes stack)) (stream : TokenStream) :
    (recognize stack stream).pulls ≤ stream.tokens.length + 1 := by
  induction stream generalizing stack with
  | token t rest ih =>
      cases hf : (feed t stack).2 with
      | ok stack' =>
          rw [pulls_read rest hq hf]
          exact Nat.succ_le_succ (ih ((feed_quiet hq).2 stack' hf))
      | error e =>
          rw [pulls_refused rest hq hf]
          exact Nat.succ_le_succ (Nat.zero_le _)
  | fault e => exact le_rfl
  | finish stop => exact (pulls_finish hq stop).le

end Grammar

open Relation (ReflTransGen TransGen)
open Grammar

/-- **A check makes progress and ends.**  Wherever a recognition is under way:

* A construct that is entered, other than a list of commands, has read a token when it is over.
* A loop that comes round again has read a token, be it over declarations, commands, operands, terms
  or factors: wherever the same symbols are to be read as before, fewer tokens are ahead.
* A construct that is entered again, inside itself and before it is over, has read a token.

So no recognition goes on for ever.  The one of a text comes to an end, and the text is accepted
just if no symbol and no token is left there.  The scanner is asked at most once more than the text
has tokens. -/
theorem check_progresses (source : String) :
    (∀ p below c, Enters p below c → p ≠ .commands → ∀ ahead, TransGen Step c ⟨below, ahead⟩ →
      ahead.tokens.length < c.left) ∧
    (∀ stack ahead ahead', TransGen Step ⟨stack, ahead⟩ ⟨stack, ahead'⟩ →
      ahead'.tokens.length < ahead.tokens.length) ∧
    (∀ p below c, Enters p below c → ∀ inner d, ReflTransGen Step c d →
      Enters p (inner ++ below) d → inner ≠ [] → d.left < c.left) ∧
    (WellFounded fun d c => Step c d) ∧
    (∃ c, ReflTransGen Step ⟨Symbol.program, .ofString source⟩ c ∧ (∀ d, ¬ Step c d) ∧
      (check source = .ok () ↔ ∃ stop, c = ⟨[], .finish stop⟩)) ∧
    (report source).pulls ≤ (TokenStream.ofString source).tokens.length + 1 := by
  refine ⟨fun p below c h hp ahead hrun => h.left_lt_of_run hp hrun,
    fun stack ahead ahead' hrun => left_lt_of_length_le hrun le_rfl,
    fun p below c h inner d hrun h' hi => h.left_lt_of_nested hrun h' hi,
    wellFounded_step, ?_, pulls_le quiet_program _⟩
  rw [check_eq_ok_iff_outcome]
  exact exists_final ⟨Symbol.program, .ofString source⟩

/-- An expression in parentheses, where the check of a text comes to it.  The one inside it is
entered with fewer tokens to read, and so is what is behind it. -/
theorem check_progresses_parenthesised :
    ∃ c d below ahead,
      ReflTransGen Step ⟨Symbol.program, .ofString "main\x7bx<-(a);\x7d"⟩ c ∧
      Enters .expression below c ∧ ReflTransGen Step c d ∧
      Enters .expression ([.terminal .rightParen, .productTail, .sumTail] ++ below) d ∧
      TransGen Step c ⟨below, ahead⟩ ∧ d.left < c.left ∧ ahead.tokens.length < c.left := by
  have hstream : TokenStream.ofString "main\x7bx<-(a);\x7d" =
      .token ⟨.main, "main", ⟨1, 1⟩⟩ (.token ⟨.leftBrace, "\x7b", ⟨1, 5⟩⟩
        (.token ⟨.identifier, "x", ⟨1, 6⟩⟩ (.token ⟨.assign, "<-", ⟨1, 7⟩⟩
          (.token ⟨.leftParen, "(", ⟨1, 9⟩⟩ (.token ⟨.identifier, "a", ⟨1, 10⟩⟩
            (.token ⟨.rightParen, ")", ⟨1, 11⟩⟩ (.token ⟨.semicolon, ";", ⟨1, 12⟩⟩
              (.token ⟨.rightBrace, "\x7d", ⟨1, 13⟩⟩ (.finish ⟨1, 14⟩))))))))) := by cbv
  obtain ⟨c, d, below, ahead, hreach, hc, hcd, hd, hend⟩ : ∃ c d below ahead,
      ReflTransGen Step ⟨Symbol.program, .ofString "main\x7bx<-(a);\x7d"⟩ c ∧
      Enters .expression below c ∧ ReflTransGen Step c d ∧
      Enters .expression ([.terminal .rightParen, .productTail, .sumTail] ++ below) d ∧
      TransGen Step c ⟨below, ahead⟩ := by
    rw [hstream]
    exact ⟨_, _, _, _,
      .head (.pass (.inr ⟨_, rfl⟩)) <| .head (.pass (.inr ⟨_, rfl⟩)) <| .head (.read rfl) <|
        .head (.read rfl) <| .head (.pass (.inl rfl)) <| .head (.read rfl) <|
        .head (.pass (.inr ⟨_, rfl⟩)) <| .head (.read rfl) .refl,
      .expression (.term .factor), .single (.read rfl), .expression (.term .factor),
      .head (.read rfl) <| .head (.read rfl) <| .head (.pass (.inl rfl)) <|
        .head (.pass (.inl rfl)) <| .head (.read rfl) <| .head (.pass (.inl rfl)) <|
        .single (.pass (.inl rfl))⟩
  obtain ⟨hover, -, hnested, -⟩ := check_progresses "main\x7bx<-(a);\x7d"
  exact ⟨c, d, below, ahead, hreach, hc, hcd, hd, hend,
    hnested _ _ _ hc _ _ hcd hd (List.cons_ne_nil _ _), hover _ _ _ hc (by decide) _ hend⟩

end SourceCheck

import SourceCheck.Grammar.Recognizer
import SourceCheck.Proofs.Grammar.Rules

/-!
# Grammar — the recogniser reads the language of its stack

The symbols that a recogniser has still to read stand for a language (`spelled`).  Reading a
token turns the stack into one that stands for the words which may follow that token.

* `quotient_form`: so it is for one symbol, whatever the token.
* `Orderly`: below a symbol that can be empty stands one that the next token tells from it.  The
  stack of a program is orderly, and reading keeps it so (`orderly_of_feed`).
* `cons_mem_spelled`: so it is for an orderly stack, and a token that is refused begins none of
  its words.
* `nil_mem_spelled`: the recogniser ends well where the empty word is one of the stack's.
* `exists_mem_spelled`: no stack is a dead end.
-/

namespace SourceCheck.Grammar

open Form (kind sign phrase many parens productTail sumTail relation group)

/-! ### The empty word -/

section

variable (u : Form → Form)

@[simp] theorem nil_notMem_factor : [] ∉ words (rules u) (phrase .factor) := by
  simp [words_factor]

@[simp] theorem nil_notMem_expression : [] ∉ words (rules u) (phrase .expression) := by
  simp [words_expression]

@[simp] theorem nil_notMem_relation : [] ∉ words (rules u) relation := by
  simp [words_relation]

@[simp] theorem nil_notMem_clause : [] ∉ words (rules u) (phrase .clause) := by
  simp [words_clause]

@[simp] theorem nil_notMem_group : [] ∉ words (rules u) group := by
  simp [words_group]

@[simp] theorem nil_notMem_command : [] ∉ words (rules u) (phrase .command) := by
  simp [words_command, words_inputStatement, words_printStatement, words_ifStatement,
    words_assignment]

theorem nil_mem_productTail : [] ∈ words (rules u) productTail := by
  rw [words_productTail]
  exact Or.inl rfl

theorem nil_mem_sumTail : [] ∈ words (rules u) sumTail := by
  rw [words_sumTail]
  exact Or.inl rfl

theorem nil_mem_clauseTail : [] ∈ words (rules u) (phrase .clauseTail) := by
  rw [words_clauseTail]
  exact Or.inl rfl

theorem nil_mem_commands : [] ∈ words (rules u) (phrase .commands) := by
  rw [words_commands]
  exact Or.inl rfl

end

/-- A symbol can be empty just when it asks for nothing at the end of the input. -/
theorem nil_mem_form {s : Symbol} : [] ∈ words committed s.form ↔ s.demand? = none := by
  cases s with
  | note e => simp [Symbol.form, Symbol.demand?, words_empty]
  | terminal k => simp [Symbol.form, Symbol.demand?, words_kind]
  | varSection => simp [Symbol.form, Symbol.demand?, words_optional]
  | declarations =>
      rw [Symbol.form, words_many]
      simp [Symbol.demand?]
  | typeName => simp [Symbol.form, Symbol.demand?, committed, words_typeName]
  | commands =>
      rw [Symbol.form, committed, words_commands]
      simp [Symbol.demand?]
  | printArgument => simp [Symbol.form, Symbol.demand?, committed, words_union, words_kind]
  | factor => simp [Symbol.form, Symbol.demand?, committed]
  | productTail =>
      rw [Symbol.form, committed, words_productTail]
      simp [Symbol.demand?]
  | sumTail =>
      rw [Symbol.form, committed, words_sumTail]
      simp [Symbol.demand?]
  | condition => simp [Symbol.form, Symbol.demand?, committed, words_condition, words_bare]
  | operand => simp [Symbol.form, Symbol.demand?, committed, words_union, words_bare]
  | relationTail =>
      rw [Symbol.form, committed, words_relationTail]
      simp [Symbol.demand?]
  | clauseTail =>
      rw [Symbol.form, committed, words_clauseTail]
      simp [Symbol.demand?]

/-- At the end of the input the first symbol that asks for something decides. -/
theorem finish_cons_snd (s : Symbol) (stack : List Symbol) :
    (finish (s :: stack)).2 =
      match s.demand? with
      | some e => .error e
      | none => (finish stack).2 := by
  cases s <;> rfl

/-- **The end of the input.**  The empty word is one of the stack's just when the recogniser
ends well. -/
theorem nil_mem_spelled {stack : List Symbol} :
    [] ∈ spelled stack ↔ (finish stack).2 = .ok () := by
  induction stack with
  | nil => exact ⟨fun _ => rfl, fun _ => rfl⟩
  | cons s stack ih =>
      rw [spelled_cons, nil_mem_mul, nil_mem_form, ih, finish_cons_snd]
      cases s.demand? <;> simp

/-! ### One token against one symbol -/

theorem Symbol.isSign_iff {lexemes : List String} {t : Token} :
    Symbol.isSign lexemes t = true ↔ t.kind = .mathOperator ∧ t.lexeme ∈ lexemes := by
  simp [Symbol.isSign]

/-- The words that may follow a token, after a symbol's reaction to it. -/
def Reaction.spelled : Reaction → Language Token
  | read _ next => Grammar.spelled next
  | _ => 0

theorem Reaction.spelled_andThen (r : Reaction) (more : List Symbol) :
    (r.andThen more).spelled = r.spelled * Grammar.spelled more := by
  cases r with
  | read events next => exact spelled_append next more
  | log e | pass | refuse e => exact (zero_mul _).symm

section

variable (t : Token)

theorem quotient_factor :
    (words committed (phrase .factor)).leftQuotient [t] = (Symbol.meetFactor t).spelled := by
  simp only [committed, words_factor, quotient_add, quotient_kindWords, quotient_kindWords_mul,
    Symbol.meetFactor, Symbol.meetAtom]
  cases t.kind <;>
    simp [Reaction.spelled, Symbol.expression, Symbol.form, words_expression, committed, mul_assoc,
      words_kind]

/-- A factor that does not begin with a parenthesis is an atom. -/
theorem spelled_meetFactor_of_ne (h : t.kind ≠ .leftParen) :
    (Symbol.meetFactor t).spelled = (Symbol.meetAtom t).spelled := by
  rw [Symbol.meetFactor, if_neg h]

theorem quotient_expression :
    (words committed (phrase .expression)).leftQuotient [t] =
      (Symbol.meetFactor t).spelled * Grammar.spelled [.productTail, .sumTail] := by
  rw [← quotient_factor, committed, words_expression,
    quotient_mul_of_nil_notMem t (nil_notMem_factor _)]
  simp [Symbol.form, committed]

theorem quotient_relation :
    (words committed relation).leftQuotient [t] =
      (Symbol.meetFactor t).spelled * Grammar.spelled [.productTail, .sumTail, .relationTail] := by
  rw [committed, words_relation, quotient_mul_of_nil_notMem t (nil_notMem_expression _),
    ← committed, quotient_expression]
  simp [Symbol.form, mul_assoc]

theorem quotient_clause :
    (words committed (phrase .clause)).leftQuotient [t] =
      (Symbol.meetFactor t).spelled *
        Grammar.spelled [.productTail, .sumTail, .relationTail, .clauseTail] := by
  rw [committed, words_clause, quotient_mul_of_nil_notMem t (nil_notMem_relation _), ← committed,
    quotient_relation]
  simp [Symbol.form, mul_assoc]

theorem quotient_group :
    (words committed group).leftQuotient [t] =
      if t.kind = .leftParen then Grammar.spelled Symbol.groupTail else 0 := by
  rw [spelled_groupTail, committed, words_group, quotient_kindWords_mul]

theorem quotient_commands :
    (words committed (phrase .commands)).leftQuotient [t] = (Symbol.meetCommand t).spelled := by
  rw [committed, words_commands]
  simp only [words_command, words_inputStatement, words_printStatement, words_ifStatement,
    words_assignment, add_mul, mul_assoc, quotient_add, quotient_one, quotient_kindWords_mul,
    Symbol.meetCommand]
  cases t.kind <;>
    simp [Reaction.spelled, Symbol.expression, Symbol.form, words_expression, committed, mul_assoc,
      words_kind, words_empty]

/-- **One token against one symbol.**  The words of the symbol that begin with the token are those
that the symbol's reaction leaves to be read. -/
theorem quotient_form (s : Symbol) :
    (words committed s.form).leftQuotient [t] = (s.meet t).spelled := by
  cases s with
  | note e => simp [Symbol.form, Symbol.meet, Reaction.spelled, words_empty]
  | terminal k =>
      by_cases h : t.kind = k <;>
        simp [Symbol.form, Symbol.meet, Reaction.spelled, words_kind, h]
  | varSection =>
      by_cases h : t.kind = .var <;>
        simp [Symbol.form, Symbol.meet, Reaction.spelled, words_optional, committed,
          words_varSection, words_kind, h]
  | declarations =>
      rw [Symbol.form, words_many]
      by_cases h : t.kind = .identifier <;>
        simp [Symbol.form, Symbol.meet, Reaction.spelled, committed, words_declaration, mul_assoc,
          words_kind, words_empty, h]
  | typeName =>
      cases h : t.kind <;>
        simp [Symbol.form, Symbol.meet, Reaction.spelled, committed, words_typeName, h]
  | commands => exact quotient_commands t
  | printArgument =>
      rw [Symbol.form, words_union, words_kind, quotient_add, quotient_expression,
        quotient_kindWords, Symbol.meet]
      by_cases h : t.kind = .stringLiteral
      · simp [Reaction.spelled, Symbol.meetFactor, Symbol.meetAtom, h]
      · rw [if_neg h, if_neg h, zero_add, Reaction.spelled_andThen]
  | factor => exact quotient_factor t
  | productTail =>
      rw [Symbol.form, committed, words_productTail, quotient_add, quotient_one, zero_add,
        quotient_signWords_mul, Symbol.meet]
      by_cases h : Symbol.isSign ["*", "/"] t
      · rw [if_pos h, if_pos (Symbol.isSign_iff.mp h)]
        simp [Reaction.spelled, Symbol.form, committed]
      · rw [if_neg h, if_neg fun h' => h (Symbol.isSign_iff.mpr h')]
        rfl
  | sumTail =>
      rw [Symbol.form, committed, words_sumTail, quotient_add, quotient_one, zero_add,
        quotient_signWords_mul, Symbol.meet]
      by_cases h : Symbol.isSign ["+", "-"] t
      · rw [if_pos h, if_pos (Symbol.isSign_iff.mp h)]
        simp [Reaction.spelled, Symbol.form, committed]
      · rw [if_neg h, if_neg fun h' => h (Symbol.isSign_iff.mpr h')]
        rfl
  | condition =>
      rw [Symbol.form, committed, words_condition, ← committed, words_bare, quotient_add,
        quotient_group, quotient_bareWords, quotient_clause, Symbol.meet]
      by_cases h : t.kind = .leftParen
      · simp [Reaction.spelled, h]
      · rw [if_neg h, if_neg h, if_neg h, zero_add, spelled_meetFactor_of_ne t h,
          Reaction.spelled_andThen]
  | operand =>
      rw [Symbol.form, words_union, words_bare, quotient_add, quotient_group, quotient_bareWords,
        quotient_relation, Symbol.meet]
      by_cases h : t.kind = .leftParen
      · simp [Reaction.spelled, h]
      · rw [if_neg h, if_neg h, if_neg h, zero_add, spelled_meetFactor_of_ne t h,
          Reaction.spelled_andThen]
  | relationTail =>
      rw [Symbol.form, committed, words_relationTail]
      by_cases h : t.kind = .relOperator <;>
        simp [Symbol.form, Symbol.meet, Reaction.spelled, Symbol.expression, committed,
          words_expression, h]
  | clauseTail =>
      rw [Symbol.form, committed, words_clauseTail]
      cases h : t.kind <;>
        simp [Symbol.form, Symbol.meet, Reaction.spelled, committed, add_mul, h]

end

/-! ### Orderly stacks -/

/-- What stands right below a symbol on the stack of a recogniser.  Below a symbol that can be
empty, or leave such a symbol, there is always one that the next token tells from it.  The words
that open a condition or join its parts are never asked for by a terminal. -/
def Symbol.Above : Symbol → List Symbol → Prop
  | terminal k, _ => k ≠ .ifWord ∧ k ≠ .and ∧ k ≠ .or
  | varSection, stack => stack.head? = some commands
  | declarations, stack | commands, stack => stack.head? = some (terminal .rightBrace)
  | productTail, stack => stack.head? = some sumTail
  | sumTail, stack =>
    stack.head? = some relationTail ∨ stack.head? = some clauseTail ∨
      stack.head? = some (terminal .rightParen) ∨ stack.head? = some (terminal .semicolon)
  | relationTail, stack => stack.head? = some clauseTail
  | clauseTail, stack =>
    stack.head? = some (terminal .rightParen) ∨ stack.head? = some (terminal .thenWord)
  | printArgument, stack => stack.head? = some (terminal .rightParen)
  | condition, stack => stack.head? = some (terminal .thenWord)
  | operand, stack => stack.head? = some clauseTail
  | note _, _ | typeName, _ | factor, _ => True

def Orderly : List Symbol → Prop
  | [] => True
  | s :: stack => s.Above stack ∧ Orderly stack

theorem orderly_program : Orderly Symbol.program := by
  simp [Orderly, Symbol.program, Symbol.Above]

/-- One token against a stack: the first symbol that does not pass it on decides. -/
theorem feed_cons_snd (t : Token) (s : Symbol) (stack : List Symbol) :
    (feed t (s :: stack)).2 =
      match s.meet t with
      | .log _ | .pass => (feed t stack).2
      | .read _ next => .ok (next ++ stack)
      | .refuse e => .error e := by
  rw [feed]
  split <;> simp_all

theorem feed_terminal_of_ne {t : Token} {k : Kind} (h : t.kind ≠ k) (stack : List Symbol) :
    (feed t (.terminal k :: stack)).2 = .error (.kind k) := by
  simp [feed_cons_snd, Symbol.meet, h]

/-- Below the rest of a clause nothing but its closing token is read. -/
theorem feed_error_below_clauseTail {t : Token} {stack : List Symbol}
    (h : Symbol.clauseTail.Above stack) (hr : t.kind ≠ .rightParen) (ht : t.kind ≠ .thenWord) :
    ∃ e, (feed t stack).2 = .error e := by
  rcases h with h | h
  · obtain ⟨rest, rfl⟩ := List.head?_eq_some_iff.mp h
    exact ⟨_, feed_terminal_of_ne hr rest⟩
  · obtain ⟨rest, rfl⟩ := List.head?_eq_some_iff.mp h
    exact ⟨_, feed_terminal_of_ne ht rest⟩

/-- From the rest of a clause on, a token is read that joins a further operand or closes it. -/
theorem feed_error_at_clauseTail {t : Token} {stack : List Symbol}
    (h : Orderly (.clauseTail :: stack)) (hr : t.kind ≠ .rightParen) (ht : t.kind ≠ .thenWord)
    (ha : t.kind ≠ .and) (ho : t.kind ≠ .or) :
    ∃ e, (feed t (.clauseTail :: stack)).2 = .error e := by
  obtain ⟨e, he⟩ := feed_error_below_clauseTail h.1 hr ht
  exact ⟨e, by simp [feed_cons_snd, Symbol.meet, ha, ho, he]⟩

/-- No arithmetic sign is read below the rest of an expression. -/
theorem feed_error_below_sumTail {t : Token} {stack : List Symbol}
    (h : Orderly (.sumTail :: stack)) (hk : t.kind = .mathOperator) :
    ∃ e, (feed t stack).2 = .error e := by
  obtain ⟨h | h | h | h, ho⟩ := h
  · obtain ⟨rest, rfl⟩ := List.head?_eq_some_iff.mp h
    obtain ⟨more, rfl⟩ := List.head?_eq_some_iff.mp ho.1
    obtain ⟨e, he⟩ := feed_error_at_clauseTail (t := t) ho.2 (by simp [hk]) (by simp [hk])
      (by simp [hk]) (by simp [hk])
    exact ⟨e, by rw [feed_cons_snd]; simpa [Symbol.meet, hk] using he⟩
  · obtain ⟨rest, rfl⟩ := List.head?_eq_some_iff.mp h
    exact feed_error_at_clauseTail ho (by simp [hk]) (by simp [hk]) (by simp [hk]) (by simp [hk])
  · obtain ⟨rest, rfl⟩ := List.head?_eq_some_iff.mp h
    exact ⟨_, feed_terminal_of_ne (by simp [hk]) rest⟩
  · obtain ⟨rest, rfl⟩ := List.head?_eq_some_iff.mp h
    exact ⟨_, feed_terminal_of_ne (by simp [hk]) rest⟩

/-- **One token, one place.**  Where a symbol could be empty, a token that it does not pass on
cannot be read below it. -/
theorem feed_error_of_not_pass {t : Token} {s : Symbol} {stack : List Symbol}
    (h : Orderly (s :: stack)) (hs : s.demand? = none) (hn : ∀ e, s ≠ .note e)
    (hm : s.meet t ≠ .pass) : ∃ e, (feed t stack).2 = .error e := by
  cases s with
  | note e => exact absurd rfl (hn e)
  | terminal | typeName | printArgument | factor | condition | operand => cases hs
  | varSection =>
      obtain ⟨rest, rfl⟩ := List.head?_eq_some_iff.mp h.1
      have hk : t.kind = .var := by simpa [Symbol.meet] using hm
      exact ⟨.command, by simp [feed_cons_snd, Symbol.meet, Symbol.meetCommand, hk]⟩
  | declarations =>
      obtain ⟨rest, rfl⟩ := List.head?_eq_some_iff.mp h.1
      have hk : t.kind = .identifier := by simpa [Symbol.meet] using hm
      exact ⟨_, feed_terminal_of_ne (by simp [hk]) rest⟩
  | commands =>
      obtain ⟨rest, rfl⟩ := List.head?_eq_some_iff.mp h.1
      refine ⟨_, feed_terminal_of_ne (fun hk => hm ?_) rest⟩
      simp [Symbol.meet, Symbol.meetCommand, hk]
  | productTail =>
      obtain ⟨rest, rfl⟩ := List.head?_eq_some_iff.mp h.1
      have hk : Symbol.isSign ["*", "/"] t = true := by simpa [Symbol.meet] using hm
      obtain ⟨hk, hl⟩ := Symbol.isSign_iff.mp hk
      obtain ⟨e, he⟩ := feed_error_below_sumTail h.2 hk
      -- a sign of products is no sign of sums
      have hs : ¬ Symbol.isSign ["+", "-"] t = true := by
        rw [Symbol.isSign_iff]
        rintro ⟨-, hl'⟩
        simp only [List.mem_cons, List.not_mem_nil, or_false] at hl hl'
        rcases hl with hl | hl <;> rcases hl' with hl' | hl' <;> simp [hl] at hl'
      exact ⟨e, by simp [feed_cons_snd, Symbol.meet, hs, he]⟩
  | sumTail =>
      have hk : Symbol.isSign ["+", "-"] t = true := by simpa [Symbol.meet] using hm
      exact feed_error_below_sumTail h (Symbol.isSign_iff.mp hk).1
  | relationTail =>
      obtain ⟨rest, rfl⟩ := List.head?_eq_some_iff.mp h.1
      have hk : t.kind = .relOperator := by simpa [Symbol.meet] using hm
      exact feed_error_at_clauseTail h.2 (by simp [hk]) (by simp [hk]) (by simp [hk])
        (by simp [hk])
  | clauseTail =>
      have hk : t.kind = .and ∨ t.kind = .or := by
        by_contra hk
        exact hm (by simp [Symbol.meet, hk])
      rcases hk with hk | hk
      · exact feed_error_below_clauseTail h.1 (by simp [hk]) (by simp [hk])
      · exact feed_error_below_clauseTail h.1 (by simp [hk]) (by simp [hk])

theorem Reaction.read_of_andThen {r : Reaction} {more next : List Symbol} {events : List Event}
    (h : r.andThen more = .read events next) :
    ∃ first, r = .read events first ∧ next = first ++ more := by
  cases r with
  | read events' first =>
      cases h
      exact ⟨first, rfl, rfl⟩
  | log e | pass | refuse e => cases h

/-- An atom is one token. -/
theorem next_of_meetAtom {t : Token} {events : List Event} {next : List Symbol}
    (h : Symbol.meetAtom t = .read events next) : next = [] := by
  unfold Symbol.meetAtom at h
  split at h <;> cases h
  all_goals rfl

/-- What a factor leaves to be read needs nothing of the stack below it. -/
theorem orderly_of_meetFactor {t : Token} {events : List Event} {next stack : List Symbol}
    (h : Orderly stack) (hm : Symbol.meetFactor t = .read events next) :
    Orderly (next ++ stack) := by
  unfold Symbol.meetFactor at hm
  split at hm
  · cases hm
    simpa [Orderly, Symbol.Above, Symbol.expression] using h
  · obtain rfl := next_of_meetAtom hm
    exact h

theorem orderly_of_meetCommand {t : Token} {events : List Event} {next stack : List Symbol}
    (h : Orderly (.commands :: stack)) (hm : Symbol.meetCommand t = .read events next) :
    Orderly (next ++ stack) := by
  unfold Symbol.meetCommand at hm
  obtain ⟨ha, ho⟩ := h
  split at hm <;> cases hm
  all_goals simpa [Orderly, Symbol.Above, Symbol.expression] using ⟨ha, ho⟩

/-- **Reading keeps a stack orderly.** -/
theorem orderly_of_meet {t : Token} {s : Symbol} {stack : List Symbol} {events : List Event}
    {next : List Symbol} (h : Orderly (s :: stack)) (hm : s.meet t = .read events next) :
    Orderly (next ++ stack) := by
  obtain ⟨ha, ho⟩ := h
  cases s with
  | note e => cases hm
  | commands => exact orderly_of_meetCommand ⟨ha, ho⟩ hm
  | factor => exact orderly_of_meetFactor ho hm
  | printArgument =>
      simp only [Symbol.meet] at hm
      split at hm
      · cases hm
        exact ho
      · obtain ⟨first, hf, rfl⟩ := Reaction.read_of_andThen hm
        have hs : Orderly ([.productTail, .sumTail] ++ stack) := by
          simp only [Symbol.Above] at ha
          simp [Orderly, Symbol.Above, ha, ho]
        rw [List.append_assoc]
        exact orderly_of_meetFactor hs hf
  | condition =>
      simp only [Symbol.meet] at hm
      split at hm
      · cases hm
        simpa [Orderly, Symbol.Above, Symbol.groupTail, Symbol.clause, Symbol.expression] using ho
      · obtain ⟨first, hf, rfl⟩ := Reaction.read_of_andThen hm
        obtain rfl := next_of_meetAtom hf
        simp only [Symbol.Above] at ha
        simp [Orderly, Symbol.Above, ha, ho]
  | operand =>
      simp only [Symbol.meet] at hm
      split at hm
      · cases hm
        simpa [Orderly, Symbol.Above, Symbol.groupTail, Symbol.clause, Symbol.expression] using ho
      · obtain ⟨first, hf, rfl⟩ := Reaction.read_of_andThen hm
        obtain rfl := next_of_meetAtom hf
        simp only [Symbol.Above] at ha
        simp [Orderly, Symbol.Above, ha, ho]
  | terminal | typeName | varSection | declarations | productTail | sumTail | relationTail
  | clauseTail =>
      simp only [Symbol.meet] at hm
      simp only [Symbol.Above] at ha
      split at hm <;> cases hm
      all_goals simp [Orderly, Symbol.Above, Symbol.expression, ha, ho]

theorem orderly_of_feed {t : Token} {stack stack' : List Symbol} (h : Orderly stack)
    (hf : (feed t stack).2 = .ok stack') : Orderly stack' := by
  induction stack with
  | nil => cases hf
  | cons s stack ih =>
      rw [feed_cons_snd] at hf
      split at hf
      · exact ih h.2 hf
      · exact ih h.2 hf
      · next hm =>
          cases hf
          exact orderly_of_meet h hm
      · cases hf

/-! ### One token against the stack -/

theorem note_of_meet_log {t : Token} {s : Symbol} {e : Event} (h : s.meet t = .log e) :
    s = .note e := by
  cases s with
  | note e' =>
      cases h
      rfl
  | _ =>
      cases hk : t.kind <;>
        simp [Symbol.meet, Symbol.meetCommand, Symbol.meetFactor, Symbol.meetAtom,
          Reaction.andThen, hk] at h <;> split at h <;> cases h

/-- A symbol that passes a token on can be empty. -/
theorem demand?_of_meet_pass {t : Token} {s : Symbol} (h : s.meet t = .pass) :
    s.demand? = none := by
  cases s with
  | terminal k =>
      simp only [Symbol.meet] at h
      split at h <;> cases h
  | typeName | printArgument | factor | condition | operand =>
      cases hk : t.kind <;>
        simp [Symbol.meet, Symbol.meetFactor, Symbol.meetAtom, Reaction.andThen, hk] at h
  | _ => rfl

/-- **One token against the stack.**  The words of an orderly stack that begin with a token are
the words of the stack that the recogniser goes on with; if it refuses the token, there are
none. -/
theorem cons_mem_spelled {t : Token} {stack : List Symbol} (h : Orderly stack) {ts : List Token} :
    t :: ts ∈ spelled stack ↔ ∃ stack', (feed t stack).2 = .ok stack' ∧ ts ∈ spelled stack' := by
  induction stack with
  | nil => simp [feed]
  | cons s stack ih =>
      rw [← mem_quotient, spelled_cons, mem_quotient_mul, quotient_form, mem_quotient, ih h.2,
        nil_mem_form, feed_cons_snd]
      -- a token that is not passed on cannot be read further down
      have hb : s.meet t ≠ .pass → (∀ e, s ≠ .note e) → s.demand? = none →
          ¬ ∃ stack', (feed t stack).2 = .ok stack' ∧ ts ∈ spelled stack' := by
        rintro hp hn hd ⟨stack', hf, -⟩
        obtain ⟨e, he⟩ := feed_error_of_not_pass h hd hn hp
        rw [hf] at he
        cases he
      cases hm : s.meet t with
      | log e =>
          obtain rfl := note_of_meet_log hm
          simp [Reaction.spelled, Symbol.demand?]
      | pass => simp [Reaction.spelled, demand?_of_meet_pass hm]
      | read events next =>
          have hb' := hb (by simp [hm]) (by rintro e rfl; cases hm)
          rw [Reaction.spelled, or_iff_left fun h' => hb' h'.1 h'.2, ← spelled_append]
          simp
      | refuse e =>
          have hb' := hb (by simp [hm]) (by rintro e rfl; cases hm)
          rw [or_iff_left fun h' => hb' h'.1 h'.2]
          simp [Reaction.spelled]

/-! ### No dead ends -/

/-- A token that leaves only symbols which can be empty is a word of the symbol. -/
theorem singleton_mem_form {t : Token} {s : Symbol} {events : List Event} {next : List Symbol}
    (hm : s.meet t = .read events next) (hf : (finish next).2 = .ok ()) :
    [t] ∈ words committed s.form := by
  rw [← mem_quotient, quotient_form, hm]
  exact nil_mem_spelled.mpr hf

theorem exists_mem_form (s : Symbol) : ∃ ts, ts ∈ words committed s.form := by
  cases s with
  | terminal k =>
      exact ⟨_, singleton_mem_form (t := ⟨k, "", .origin⟩) (if_pos rfl) rfl⟩
  | typeName =>
      exact ⟨_, singleton_mem_form (t := ⟨.intType, "", .origin⟩) rfl rfl⟩
  | printArgument =>
      exact ⟨_, singleton_mem_form (t := ⟨.stringLiteral, "", .origin⟩) rfl rfl⟩
  | factor | condition | operand =>
      exact ⟨_, singleton_mem_form (t := ⟨.identifier, "", .origin⟩) rfl rfl⟩
  | _ => exact ⟨[], nil_mem_form.mpr rfl⟩

/-- **No dead ends.**  Every stack of symbols stands for some word. -/
theorem exists_mem_spelled (stack : List Symbol) : ∃ ts, ts ∈ spelled stack := by
  induction stack with
  | nil => exact ⟨[], rfl⟩
  | cons s stack ih =>
      obtain ⟨ts, hts⟩ := exists_mem_form s
      obtain ⟨us, hus⟩ := ih
      exact ⟨ts ++ us, Language.append_mem_mul hts hus⟩

end SourceCheck.Grammar

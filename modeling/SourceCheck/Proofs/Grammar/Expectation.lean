import SourceCheck.Proofs.Grammar.Verdict

/-!
# Grammar — what a diagnostic names could have stood there

A syntax error names what the recogniser could have read at that place.

* `demand?_of_refuse`: a symbol refuses a token for what it asks for at the end of the input; only
  commands, which need not come, are refused for a command.
* `feed_of_expected`, `feed_of_demanded`: the stack reads every token that the error names.
* `finish_of_refused`: where the end of the input is expected, the input could have ended.
* `Expectation.eq_of_message`: the message tells the expectation.
* `expected_viable`: so a token that a syntax error names continues the tokens before it.
-/

namespace SourceCheck

/-- The kinds of tokens that an expectation names. -/
def Expectation.kinds : Expectation → List Kind
  | kind k => [k]
  | typeName => [.intType, .floatType]
  | factor => [.identifier, .intLiteral, .floatLiteral, .leftParen]
  | command => [.input, .print, .ifWord, .identifier]
  | endOfInput => []

namespace Grammar

open Form (phrase)

/-! ### One symbol -/

section

variable {s : Symbol} {t u : Token} {x : Expectation}

theorem Reaction.refuse_of_andThen {r : Reaction} {more : List Symbol}
    (h : r.andThen more = .refuse x) : r = .refuse x := by
  cases r with
  | read events next => cases h
  | log e | pass | refuse e => exact h

theorem factor_of_meetAtom (h : Symbol.meetAtom t = .refuse x) : x = .factor := by
  unfold Symbol.meetAtom at h
  split at h <;> cases h
  rfl

theorem factor_of_meetFactor (h : Symbol.meetFactor t = .refuse x) : x = .factor := by
  unfold Symbol.meetFactor at h
  split at h
  · cases h
  · exact factor_of_meetAtom h

/-- **Why a symbol refuses a token.** -/
theorem demand?_of_refuse (h : s.meet t = .refuse x) :
    s.demand? = some x ∨ s = .commands ∧ x = .command := by
  cases s with
  | note e => cases h
  | terminal k | typeName =>
      simp only [Symbol.meet] at h
      split at h <;> cases h
      exact Or.inl rfl
  | varSection | declarations | productTail | sumTail | relationTail | clauseTail =>
      simp only [Symbol.meet] at h
      split at h <;> cases h
  | commands =>
      simp only [Symbol.meet, Symbol.meetCommand] at h
      split at h <;> cases h
      exact Or.inr ⟨rfl, rfl⟩
  | factor =>
      obtain rfl := factor_of_meetFactor h
      exact Or.inl rfl
  | printArgument =>
      simp only [Symbol.meet] at h
      split at h
      · cases h
      · obtain rfl := factor_of_meetFactor (Reaction.refuse_of_andThen h)
        exact Or.inl rfl
  | condition | operand =>
      simp only [Symbol.meet] at h
      split at h
      · cases h
      · obtain rfl := factor_of_meetAtom (Reaction.refuse_of_andThen h)
        exact Or.inl rfl

/-- A symbol reads every token that it asks for. -/
theorem read_of_demand (h : s.demand? = some x) (hu : u.kind ∈ x.kinds) :
    ∃ events next, s.meet u = .read events next := by
  cases s with
  | terminal k =>
      cases h
      exact ⟨[], [], if_pos (List.mem_singleton.mp hu)⟩
  | typeName =>
      cases h
      exact ⟨[], [], if_pos (by simpa [Expectation.kinds] using hu)⟩
  | printArgument | factor | condition | operand =>
      cases h
      simp only [Expectation.kinds, List.mem_cons, List.not_mem_nil, or_false] at hu
      rcases hu with hk | hk | hk | hk <;>
        simp [Symbol.meet, Symbol.meetFactor, Symbol.meetAtom, Reaction.andThen, hk]
  | _ => cases h

theorem read_of_command (hu : u.kind ∈ Expectation.command.kinds) :
    ∃ events next, Symbol.commands.meet u = .read events next := by
  simp only [Expectation.kinds, List.mem_cons, List.not_mem_nil, or_false] at hu
  rcases hu with hk | hk | hk | hk <;> simp [Symbol.meet, Symbol.meetCommand, hk]

/-- The end of the input is not for a symbol to ask for. -/
theorem ne_endOfInput_of_demand (h : s.demand? = some x) : x ≠ .endOfInput := by
  rintro rfl
  cases s <;> cases h

end

/-! ### A stack of symbols -/

section

variable {stack stack' : List Symbol} {t u : Token} {x : Expectation}

theorem feed_of_read {s : Symbol} (h : ∃ events next, s.meet u = .read events next) :
    ∃ stack', (feed u (s :: stack)).2 = .ok stack' := by
  obtain ⟨events, next, hm⟩ := h
  exact ⟨next ++ stack, by rw [feed_cons_snd, hm]⟩

/-- What is read below a symbol that can be empty, it passes on. -/
theorem feed_of_below {s : Symbol} (ho : Orderly (s :: stack)) (hd : s.demand? = none)
    (h : (feed u stack).2 = .ok stack') : (feed u (s :: stack)).2 = .ok stack' := by
  rw [feed_cons_snd]
  by_cases hs : ∃ e, s = .note e
  · obtain ⟨e, rfl⟩ := hs
    exact h
  · have hp : s.meet u = .pass := by
      by_contra hp
      obtain ⟨y, hy⟩ := feed_error_of_not_pass ho hd (fun e he => hs ⟨e, he⟩) hp
      rw [h] at hy
      cases hy
    rw [hp]
    exact h

/-- **A token is refused**: any that the error names would have been read. -/
theorem feed_of_expected (ho : Orderly stack) (h : (feed t stack).2 = .error x)
    (hu : u.kind ∈ x.kinds) : ∃ stack', (feed u stack).2 = .ok stack' := by
  induction stack with
  | nil =>
      cases h
      cases hu
  | cons s stack ih =>
      rw [feed_cons_snd] at h
      cases hm : s.meet t with
      | log e =>
          rw [hm] at h
          obtain rfl := note_of_meet_log hm
          obtain ⟨stack', hf⟩ := ih ho.2 h
          exact ⟨stack', feed_of_below ho rfl hf⟩
      | pass =>
          rw [hm] at h
          obtain ⟨stack', hf⟩ := ih ho.2 h
          exact ⟨stack', feed_of_below ho (demand?_of_meet_pass hm) hf⟩
      | read events next =>
          rw [hm] at h
          cases h
      | refuse y =>
          rw [hm] at h
          cases h
          rcases demand?_of_refuse hm with hd | ⟨rfl, rfl⟩
          · exact feed_of_read (read_of_demand hd hu)
          · exact feed_of_read (read_of_command hu)

/-- **The input ends too early**: any token that the error names would have been read. -/
theorem feed_of_demanded (ho : Orderly stack) (h : (finish stack).2 = .error x)
    (hu : u.kind ∈ x.kinds) : ∃ stack', (feed u stack).2 = .ok stack' := by
  induction stack with
  | nil => cases h
  | cons s stack ih =>
      rw [finish_cons_snd] at h
      cases hd : s.demand? with
      | some y =>
          rw [hd] at h
          cases h
          exact feed_of_read (read_of_demand hd hu)
      | none =>
          rw [hd] at h
          obtain ⟨stack', hf⟩ := ih ho.2 h
          exact ⟨stack', feed_of_below ho hd hf⟩

/-- **Nothing more is expected**: the input could have ended. -/
theorem finish_of_refused (h : (feed t stack).2 = .error .endOfInput) :
    (finish stack).2 = .ok () := by
  induction stack with
  | nil => rfl
  | cons s stack ih =>
      rw [feed_cons_snd] at h
      rw [finish_cons_snd]
      cases hm : s.meet t with
      | log e =>
          rw [hm] at h
          obtain rfl := note_of_meet_log hm
          exact ih h
      | pass =>
          rw [hm] at h
          rw [demand?_of_meet_pass hm]
          exact ih h
      | read events next =>
          rw [hm] at h
          cases h
      | refuse y =>
          rw [hm] at h
          cases h
          rcases demand?_of_refuse hm with hd | ⟨-, hx⟩
          · exact absurd rfl (ne_endOfInput_of_demand hd)
          · cases hx

theorem finish_ne_endOfInput : (finish stack).2 ≠ .error .endOfInput := by
  induction stack with
  | nil => exact nofun
  | cons s stack ih =>
      rw [finish_cons_snd]
      cases hd : s.demand? with
      | some y =>
          rintro h
          cases h
          exact ne_endOfInput_of_demand hd rfl
      | none => exact ih

end

/-! ### The tokens before an error -/

section

variable {front : List Token} {stack stack' : List Symbol} {x : Expectation}

theorem Reads.concat {t : Token} (r : Reads stack front stack')
    (h : ∃ next, (feed t stack').2 = .ok next) : ∃ next, Reads stack (front ++ [t]) next := by
  induction r with
  | refl stack =>
      obtain ⟨next, hf⟩ := h
      exact ⟨next, .more hf (.refl next)⟩
  | more hf _ ih =>
      obtain ⟨next, r⟩ := ih h
      exact ⟨next, .more hf r⟩

theorem derives_of_finish (r : Reads Symbol.program front stack)
    (h : (finish stack).2 = .ok ()) : Derives committed (phrase .program) front := by
  have hm : front ++ [] ∈ spelled Symbol.program :=
    (append_mem_spelled orderly_program).mpr ⟨stack, r, nil_mem_spelled.mpr h⟩
  rwa [List.append_nil, spelled_program] at hm

/-- A program could go on with each token that the expectation names, and could end where it names
the end of the input. -/
def CouldMeet (front : List Token) (x : Expectation) : Prop :=
  (∀ t : Token, t.kind ∈ x.kinds → Viable (front ++ [t])) ∧
    (x = .endOfInput → Derives committed (phrase .program) front)

theorem couldMeet_of_refused {t : Token} (r : Reads Symbol.program front stack)
    (h : (feed t stack).2 = .error x) : CouldMeet front x := by
  have ho := r.orderly orderly_program
  refine ⟨fun u hu => viable_iff_reads.mpr (r.concat (feed_of_expected ho h hu)), ?_⟩
  rintro rfl
  exact derives_of_finish r (finish_of_refused h)

theorem couldMeet_of_ended (r : Reads Symbol.program front stack)
    (h : (finish stack).2 = .error x) : CouldMeet front x := by
  have ho := r.orderly orderly_program
  refine ⟨fun u hu => viable_iff_reads.mpr (r.concat (feed_of_demanded ho h hu)), ?_⟩
  rintro rfl
  exact absurd h finish_ne_endOfInput

end

end Grammar

/-! ### What a message names -/

/-- All expectations. -/
def Expectation.all : List Expectation :=
  [typeName, factor, command, endOfInput, kind .identifier, kind .intType, kind .floatType,
    kind .print, kind .input, kind .ifWord, kind .thenWord, kind .elseWord, kind .forWord,
    kind .main, kind .var, kind .and, kind .or, kind .intLiteral, kind .floatLiteral,
    kind .stringLiteral, kind .mathOperator, kind .relOperator, kind .assign, kind .leftParen,
    kind .rightParen, kind .leftBrace, kind .rightBrace, kind .colon, kind .semicolon]

theorem Expectation.mem_all (x : Expectation) : x ∈ all := by
  cases x with
  | kind k => cases k <;> decide
  | _ => decide

/-- No expectation in words begins another. -/
theorem Expectation.prefixFree :
    ∀ x ∈ all, ∀ y ∈ all,
      (x.describe ++ ", found ").toList <+: (y.describe ++ ", found ").toList → x = y := by
  decide +kernel

/-- **The message tells the expectation**, whatever was found. -/
theorem Expectation.eq_of_message {x y : Expectation} {a b : String}
    (h : "expected " ++ x.describe ++ ", found " ++ a =
      "expected " ++ y.describe ++ ", found " ++ b) : x = y := by
  have hl : (x.describe ++ ", found ").toList ++ a.toList =
      (y.describe ++ ", found ").toList ++ b.toList := by
    have h' := congrArg String.toList h
    simpa [String.toList_append] using h'
  have hx := (x.describe ++ ", found ").toList.prefix_append a.toList
  have hy := (y.describe ++ ", found ").toList.prefix_append b.toList
  rw [← hl] at hy
  rcases List.prefix_or_prefix_of_prefix hx hy with hp | hp
  · exact prefixFree x (mem_all x) y (mem_all y) hp
  · exact (prefixFree y (mem_all y) x (mem_all x) hp).symm

/-! ### Rejected texts -/

open Grammar
open Grammar.Form (phrase)

/-- A syntax error is a mismatch with something that could have been met. -/
theorem exists_mismatch {source : String} {e : SyntaxError}
    (h : check source = .error (.syntactic e)) :
    ∃ front back x, (TokenStream.ofString source).tokens = front ++ back ∧
      e = Mismatch.toSyntaxError ⟨x, back.head?⟩ ∧ CouldMeet front x := by
  obtain ⟨r, hr, hd⟩ := check_eq_error_iff_outcome.mp h
  rcases reads_or_refused Symbol.program (TokenStream.ofString source).tokens with
    ⟨stack, hs⟩ | ⟨front, t, back, stack, x, ht, hs, hx⟩
  · rw [report, outcome_of_reads hs] at hr
    cases hf : (TokenStream.ofString source).fault? with
    | some flaw =>
        rw [hf] at hr
        cases hr
        cases hd
    | none =>
        rw [hf] at hr
        cases hm : (finish stack).2 with
        | ok u =>
            rw [hm] at hr
            cases hr
        | error x =>
            rw [hm] at hr
            cases hr
            cases hd
            exact ⟨_, [], x, (List.append_nil _).symm, rfl, couldMeet_of_ended hs hm⟩
  · rw [report, outcome_of_refused hs hx ht] at hr
    cases hr
    cases hd
    exact ⟨front, t :: back, x, ht, rfl, couldMeet_of_refused hs hx⟩

/-- **What a syntax error names could have stood there.**  Let `front` be the tokens before the
error.

* Any token of a kind that the message names continues `front` to the beginning of a program.
* If the message names the end of the input, `front` is a program. -/
theorem expected_viable {source : String} {e : SyntaxError}
    (h : check source = .error (.syntactic e)) :
    ∃ front back, (TokenStream.ofString source).tokens = front ++ back ∧
      (∃ x, e = Mismatch.toSyntaxError ⟨x, back.head?⟩) ∧
      ∀ (x : Expectation) (found : String),
        e.message = "expected " ++ x.describe ++ ", found " ++ found →
          (∀ t : Token, t.kind ∈ x.kinds → Viable (front ++ [t])) ∧
          (x = .endOfInput → Derives committed (phrase .program) front) := by
  obtain ⟨front, back, x, ht, rfl, hx⟩ := exists_mismatch h
  refine ⟨front, back, ht, ⟨x, rfl⟩, fun y found hy => ?_⟩
  obtain rfl := Expectation.eq_of_message hy
  exact hx

/-- A factor is missing, and there is something behind the program. -/
theorem expected_viable_each :
    (check "main\x7bx<-;\x7d" = .error (.syntactic
        ⟨"expected IDENT, INT_LIT, FLOAT_LIT or LPAREN '(', found SEMI(;)", some ⟨1, 9⟩⟩) ∧
      ∃ front back, (TokenStream.ofString "main\x7bx<-;\x7d").tokens = front ++ back ∧
        ∀ t : Token, t.kind ∈ Expectation.factor.kinds → Viable (front ++ [t])) ∧
    check "main\x7b\x7dx" = .error (.syntactic
        ⟨"expected end of input, found IDENT(x)", some ⟨1, 7⟩⟩) ∧
      ∃ front back, (TokenStream.ofString "main\x7b\x7dx").tokens = front ++ back ∧
        Derives committed (phrase .program) front := by
  have hf : check "main\x7bx<-;\x7d" = .error (.syntactic
      ⟨"expected IDENT, INT_LIT, FLOAT_LIT or LPAREN '(', found SEMI(;)", some ⟨1, 9⟩⟩) := by cbv
  have he : check "main\x7b\x7dx" = .error (.syntactic
      ⟨"expected end of input, found IDENT(x)", some ⟨1, 7⟩⟩) := by cbv
  obtain ⟨front, back, ht, -, hx⟩ := expected_viable hf
  obtain ⟨front', back', ht', -, hx'⟩ := expected_viable he
  exact ⟨⟨hf, front, back, ht, (hx .factor "SEMI(;)" (by decide)).1⟩,
    he, front', back', ht', (hx' .endOfInput "IDENT(x)" (by decide)).2 rfl⟩

end SourceCheck

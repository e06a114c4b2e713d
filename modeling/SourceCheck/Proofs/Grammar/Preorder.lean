import SourceCheck.Proofs.Grammar.Events

/-!
# Grammar — the rules of a program, in order

* `Derivation.preorder`: the rules that a derivation tree applies, each before those below it, and
  from left to right.
* `Opens f after ts rs`: the tokens open with a derivation of `f` and go on as `after` says; so do
  the rules.
* `meet_of_opens`: what a symbol opens with, it passes on or reads.
* `rulesOf_recognize`: so the recogniser logs the rules of the tree in preorder.
-/

namespace SourceCheck.Grammar

open Form (kind sign phrase many parens productTail sumTail relationTail relation group)

/-! ### Derivation trees in preorder -/

/-- The rule that a phrase is an instance of, if it is worth an event.  A declaration and an
assignment go by the name that they begin with. -/
def Phrase.rules : Phrase → List Token → List Rule
  | .program, _ => [.program]
  | .varSection, _ => [.varSection]
  | .declaration, ts => (ts.take 1).map fun t => .declaration t.lexeme
  | .inputStatement, _ => [.inputStatement]
  | .printStatement, _ => [.printStatement]
  | .assignment, ts => (ts.take 1).map fun t => .assignment t.lexeme
  | .ifStatement, _ => [.ifStatement]
  | .condition, _ => [.condition]
  | _, _ => []

/-- The rules of a derivation tree in preorder. -/
def Derivation.preorder {G : Phrase → Form} {f : Form} {ts : List Token} :
    Derivation G f ts → List Rule
  | .empty | .kind _ | .sign _ _ | .done => []
  | @Derivation.phrase _ p ts d => p.rules ts ++ d.preorder
  | .seq d e | .more d e => d.preorder ++ e.preorder
  | .left d | .right d | .parens _ d _ | .bare d _ => d.preorder

/-- What may follow: some tokens, with some rules. -/
abbrev After := List Token → List Rule → Prop

/-- The tokens open with a derivation of the form and go on as `after` says, and so do the rules. -/
def Opens (f : Form) (after : After) (ts : List Token) (rs : List Rule) : Prop :=
  ∃ us vs ss, ∃ d : Derivation committed f us, after vs ss ∧ ts = us ++ vs ∧ rs = d.preorder ++ ss

section

variable {after : After} {ts : List Token} {rs : List Rule} {t : Token}

@[simp] theorem opens_empty : Opens .empty after ts rs ↔ after ts rs := by
  constructor
  · rintro ⟨_, vs, ss, ⟨⟩, ha, rfl, rfl⟩
    exact ha
  · intro ha
    exact ⟨[], ts, rs, .empty, ha, rfl, rfl⟩

@[simp] theorem opens_kind {k : Kind} :
    Opens (kind k) after (t :: ts) rs ↔ t.kind = k ∧ after ts rs := by
  constructor
  · rintro ⟨_, vs, ss, ⟨⟩, ha, he, rfl⟩
    obtain ⟨rfl, rfl⟩ := List.cons.inj he
    exact ⟨rfl, ha⟩
  · rintro ⟨rfl, ha⟩
    exact ⟨[t], ts, rs, .kind t, ha, rfl, rfl⟩

@[simp] theorem opens_sign {lexemes : List String} :
    Opens (sign lexemes) after (t :: ts) rs ↔ Symbol.isSign lexemes t = true ∧ after ts rs := by
  rw [Symbol.isSign_iff]
  constructor
  · rintro ⟨_, vs, ss, d, ha, he, rfl⟩
    cases d with
    | sign u hs =>
        obtain ⟨rfl, rfl⟩ := List.cons.inj he
        exact ⟨hs, ha⟩
  · rintro ⟨hs, ha⟩
    exact ⟨[t], ts, rs, .sign t hs, ha, rfl, rfl⟩

@[simp] theorem opens_append {a b : Form} : Opens (a ++ b) after = Opens a (Opens b after) := by
  funext ts rs
  apply propext
  constructor
  · rintro ⟨_, vs, ss, d, ha, rfl, rfl⟩
    cases d with
    | @seq _ _ us us' d e =>
        refine ⟨us, us' ++ vs, e.preorder ++ ss, d, ⟨us', vs, ss, e, ha, rfl, rfl⟩, ?_, ?_⟩
        · rw [List.append_assoc]
        · rw [Derivation.preorder, List.append_assoc]
  · rintro ⟨us, _, _, d, ⟨us', vs, ss, e, ha, rfl, rfl⟩, rfl, rfl⟩
    refine ⟨us ++ us', vs, ss, .seq d e, ha, ?_, ?_⟩
    · rw [List.append_assoc]
    · rw [Derivation.preorder, List.append_assoc]

@[simp] theorem opens_union {a b : Form} :
    Opens (a ∪ b) after ts rs ↔ Opens a after ts rs ∨ Opens b after ts rs := by
  constructor
  · rintro ⟨us, vs, ss, d, ha, rfl, rfl⟩
    cases d with
    | left d => exact Or.inl ⟨us, vs, ss, d, ha, rfl, rfl⟩
    | right d => exact Or.inr ⟨us, vs, ss, d, ha, rfl, rfl⟩
  · rintro (⟨us, vs, ss, d, ha, rfl, rfl⟩ | ⟨us, vs, ss, d, ha, rfl, rfl⟩)
    · exact ⟨us, vs, ss, .left d, ha, rfl, rfl⟩
    · exact ⟨us, vs, ss, .right d, ha, rfl, rfl⟩

/-- One of two kinds. -/
theorem opens_either_kind {k l : Kind} (h : Opens (kind k ∪ kind l) after (t :: ts) rs) :
    (t.kind = k ∨ t.kind = l) ∧ after ts rs := by
  rcases opens_union.mp h with h | h
  · obtain ⟨hk, ha⟩ := opens_kind.mp h
    exact ⟨Or.inl hk, ha⟩
  · obtain ⟨hl, ha⟩ := opens_kind.mp h
    exact ⟨Or.inr hl, ha⟩

theorem opens_many {f : Form} :
    Opens (many f) after ts rs ↔ after ts rs ∨ Opens f (Opens (many f) after) ts rs := by
  constructor
  · rintro ⟨_, vs, ss, d, ha, rfl, rfl⟩
    cases d with
    | done => exact Or.inl ha
    | @more _ us us' d e =>
        refine Or.inr ⟨us, us' ++ vs, e.preorder ++ ss, d, ⟨us', vs, ss, e, ha, rfl, rfl⟩, ?_, ?_⟩
        · rw [List.append_assoc]
        · rw [Derivation.preorder, List.append_assoc]
  · rintro (ha | ⟨us, _, _, d, ⟨us', vs, ss, e, ha, rfl, rfl⟩, rfl, rfl⟩)
    · exact ⟨[], ts, rs, .done, ha, rfl, rfl⟩
    · refine ⟨us ++ us', vs, ss, .more d e, ha, ?_, ?_⟩
      · rw [List.append_assoc]
      · rw [Derivation.preorder, List.append_assoc]

theorem opens_parens {f : Form} (h : Opens (parens f) after ts rs) :
    Opens (kind .leftParen) (Opens f (Opens (kind .rightParen) after)) ts rs := by
  obtain ⟨_, vs, ss, d, ha, rfl, rfl⟩ := h
  cases d with
  | @parens _ us l r hl d hr =>
      have hd : Opens f (Opens (kind .rightParen) after) (us ++ r :: vs) (d.preorder ++ ss) :=
        ⟨us, r :: vs, ss, d, opens_kind.mpr ⟨hr, ha⟩, rfl, rfl⟩
      simpa [Derivation.preorder, hl] using hd

/-- A phrase that is told by one rule, or by none. -/
theorem opens_phrase {p : Phrase} (c : List Rule) (hp : ∀ us, p.rules us = c) :
    Opens (phrase p) after ts rs ↔ ∃ ss, rs = c ++ ss ∧ Opens (committed p) after ts ss := by
  constructor
  · rintro ⟨us, vs, ss, d, ha, rfl, rfl⟩
    cases d with
    | phrase d =>
        refine ⟨d.preorder ++ ss, ?_, us, vs, ss, d, ha, rfl, rfl⟩
        rw [Derivation.preorder, hp, List.append_assoc]
  · rintro ⟨_, rfl, us, vs, ss, d, ha, rfl, rfl⟩
    refine ⟨us, vs, ss, .phrase d, ha, rfl, ?_⟩
    rw [Derivation.preorder, hp, List.append_assoc]

/-- A phrase that goes by the name of its first token. -/
theorem opens_named {p : Phrase} (hp : [] ∉ words committed (phrase p))
    (hr : ∀ u us, p.rules (u :: us) = p.rules [u]) (h : Opens (phrase p) after (t :: ts) rs) :
    ∃ ss, rs = p.rules [t] ++ ss ∧ Opens (committed p) after (t :: ts) ss := by
  obtain ⟨us, vs, ss, d, ha, he, rfl⟩ := h
  cases us with
  | nil => exact absurd ⟨d⟩ hp
  | cons u us =>
      obtain ⟨rfl, rfl⟩ := List.cons.inj he
      cases d with
      | phrase d =>
          refine ⟨d.preorder ++ ss, ?_, t :: us, vs, ss, d, ha, rfl, rfl⟩
          rw [Derivation.preorder, hr, List.append_assoc]

/-- A form that is bare opens with no parenthesis. -/
theorem opens_bare {f : Form} (hf : [] ∉ words committed f)
    (h : Opens (.bare f) after (t :: ts) rs) :
    t.kind ≠ .leftParen ∧ Opens f after (t :: ts) rs := by
  obtain ⟨us, vs, ss, d, ha, he, rfl⟩ := h
  cases d with
  | bare d hb =>
      cases us with
      | nil => exact absurd ⟨d⟩ hf
      | cons u us =>
          obtain ⟨rfl, rfl⟩ := List.cons.inj he
          exact ⟨hb t rfl, t :: us, vs, ss, d, ha, rfl, rfl⟩

end

/-! ### Symbols -/

/-- The rules among some events. -/
def rulesOf (events : List Event) : List Rule :=
  events.filterMap fun
    | .rule r => some r
    | _ => none

theorem rulesOf_append (a b : List Event) : rulesOf (a ++ b) = rulesOf a ++ rulesOf b :=
  List.filterMap_append

/-- The tokens open with what a symbol stands for.  The rule of a condition is noted above it. -/
def Symbol.Opens (after : After) : Symbol → After
  | note e => fun ts rs => ∃ ss, rs = rulesOf [e] ++ ss ∧ after ts ss
  | condition => Grammar.Opens (committed .condition) after
  | s => Grammar.Opens s.form after

/-- The tokens open with what a stack of symbols stands for. -/
def OpensAll (stack : List Symbol) (after : After) : After :=
  stack.foldr (fun s after => s.Opens after) after

theorem opensAll_append (a b : List Symbol) (after : After) :
    OpensAll (a ++ b) after = OpensAll a (OpensAll b after) :=
  List.foldr_append

section

variable {after : After} {ts : List Token} {rs : List Rule} {t : Token}

/-- A phrase that no rule tells. -/
theorem opens_silent {p : Phrase} (hp : ∀ us, p.rules us = []) :
    Opens (phrase p) after = Opens (committed p) after := by
  funext ts rs
  simp [opens_phrase [] hp]

theorem opens_term :
    Opens (phrase .term) after = Opens (phrase .factor) (Opens productTail after) := by
  rw [opens_silent fun us => rfl]
  exact opens_append

theorem opens_expression :
    Opens (phrase .expression) after =
      Opens (phrase .factor) (Opens productTail (Opens sumTail after)) := by
  rw [opens_silent fun us => rfl, ← opens_term]
  exact opens_append

theorem opens_relation :
    Opens relation after = Opens (phrase .factor)
      (Opens productTail (Opens sumTail (Opens relationTail after))) := by
  rw [← opens_expression]
  exact opens_append

theorem opens_clause :
    Opens (phrase .clause) after = Opens (phrase .factor) (Opens productTail (Opens sumTail
      (Opens relationTail (Opens (phrase .clauseTail) after)))) := by
  rw [opens_silent fun us => rfl, ← opens_relation]
  exact opens_append

/-- What a factor opens with, it reads. -/
theorem meetFactor_of_opens (h : Opens (phrase .factor) after (t :: ts) rs) :
    ∃ next, Symbol.meetFactor t = .read [] next ∧ OpensAll next after ts rs := by
  rw [opens_silent fun us => rfl] at h
  simp only [committed, rules, opens_union, opens_kind] at h
  rcases h with ((⟨hk, ha⟩ | ⟨hk, ha⟩) | ⟨hk, ha⟩) | h
  · exact ⟨[], by simp [Symbol.meetFactor, Symbol.meetAtom, hk], ha⟩
  · exact ⟨[], by simp [Symbol.meetFactor, Symbol.meetAtom, hk], ha⟩
  · exact ⟨[], by simp [Symbol.meetFactor, Symbol.meetAtom, hk], ha⟩
  · obtain ⟨hk, he⟩ := opens_kind.mp (opens_parens h)
    rw [opens_expression] at he
    exact ⟨_, if_pos hk, he⟩

/-- A factor that begins with no parenthesis is one token. -/
theorem meetAtom_of_opens (hk : t.kind ≠ .leftParen)
    (h : Opens (phrase .factor) after (t :: ts) rs) :
    Symbol.meetAtom t = .read [] [] ∧ after ts rs := by
  obtain ⟨next, hm, ha⟩ := meetFactor_of_opens h
  rw [Symbol.meetFactor, if_neg hk] at hm
  obtain rfl := next_of_meetAtom hm
  exact ⟨hm, ha⟩

/-- **A group, or what begins with a factor and no parenthesis.**  The first token decides. -/
theorem meet_of_opens_group {f : Form} (more : List Symbol) (hf : [] ∉ words committed f)
    (hmore : Opens f after = Opens (phrase .factor) (OpensAll more after))
    (h : Opens (group ∪ .bare f) after (t :: ts) rs) :
    ∃ next, (if t.kind = .leftParen then .read [] Symbol.groupTail
      else (Symbol.meetAtom t).andThen more) = .read [] next ∧ OpensAll next after ts rs := by
  rcases opens_union.mp h with h | h
  · obtain ⟨hk, hc⟩ := opens_kind.mp (opens_parens h)
    rw [opens_clause] at hc
    exact ⟨_, if_pos hk, hc⟩
  · obtain ⟨hk, hc⟩ := opens_bare hf h
    rw [hmore] at hc
    obtain ⟨hm, ha⟩ := meetAtom_of_opens hk hc
    rw [if_neg hk, hm]
    exact ⟨more, rfl, ha⟩

/-- What a list of commands opens with, it reads. -/
theorem meetCommand_of_opens
    (h : Opens (phrase .command) (Symbol.commands.Opens after) (t :: ts) rs) :
    ∃ events next ss, Symbol.meetCommand t = .read events next ∧ rs = rulesOf events ++ ss ∧
      OpensAll next after ts ss := by
  rw [opens_silent fun us => rfl] at h
  simp only [committed, rules, opens_union] at h
  rcases h with ((h | h) | h) | h
  · obtain ⟨ss, rfl, hb⟩ := (opens_phrase [.inputStatement] fun us => rfl).mp h
    simp only [committed, rules, opens_append, opens_kind] at hb
    rw [Symbol.meetCommand, hb.1]
    exact ⟨_, _, ss, rfl, rfl, opens_parens hb.2⟩
  · obtain ⟨ss, rfl, hb⟩ := (opens_phrase [.printStatement] fun us => rfl).mp h
    simp only [committed, rules, opens_append, opens_kind] at hb
    rw [Symbol.meetCommand, hb.1]
    exact ⟨_, _, ss, rfl, rfl, opens_parens hb.2⟩
  · obtain ⟨ss, rfl, hb⟩ := (opens_phrase [.ifStatement] fun us => rfl).mp h
    simp only [committed, rules, opens_append, opens_kind] at hb
    have hc := (opens_phrase [.condition] fun us => rfl).mp hb.2
    rw [Symbol.meetCommand, hb.1]
    exact ⟨_, _, ss, rfl, rfl, hc⟩
  · obtain ⟨ss, rfl, hb⟩ :=
      opens_named (by simp [committed, words_assignment]) (fun u us => rfl) h
    simp only [committed, rules, opens_append, opens_kind, opens_expression] at hb
    rw [Symbol.meetCommand, hb.1]
    exact ⟨_, _, _, rfl, rfl, ss, rfl, hb.2⟩

/-- **What a symbol opens with**, it passes on or reads. -/
theorem meet_of_opens {s : Symbol} (hs : ∀ e, s ≠ .note e) (h : s.Opens after (t :: ts) rs) :
    s.demand? = none ∧ after (t :: ts) rs ∨
      ∃ events next ss, s.meet t = .read events next ∧ rs = rulesOf events ++ ss ∧
        OpensAll next after ts ss := by
  cases s with
  | note e => exact absurd rfl (hs e)
  | terminal k =>
      obtain ⟨hk, ha⟩ := opens_kind.mp h
      exact Or.inr ⟨[], [], rs, if_pos hk, rfl, ha⟩
  | varSection =>
      rcases opens_union.mp h with h | h
      · exact Or.inl ⟨rfl, opens_empty.mp h⟩
      · obtain ⟨ss, rfl, hb⟩ := (opens_phrase [.varSection] fun us => rfl).mp h
        simp only [committed, rules, opens_append, opens_kind] at hb
        exact Or.inr ⟨_, _, ss, if_pos hb.1, rfl, hb.2⟩
  | declarations =>
      rcases opens_many.mp h with ha | h
      · exact Or.inl ⟨rfl, ha⟩
      · obtain ⟨ss, rfl, hb⟩ :=
          opens_named (by simp [committed, words_declaration]) (fun u us => rfl) h
        simp only [committed, rules, opens_append, opens_kind] at hb
        exact Or.inr ⟨_, _, _, if_pos hb.1, rfl, ss, rfl, hb.2⟩
  | typeName =>
      have ht : Opens (committed .typeName) after (t :: ts) rs := by
        rwa [← opens_silent fun us => rfl]
      obtain ⟨hk, ha⟩ := opens_either_kind ht
      exact Or.inr ⟨[], [], rs, if_pos hk, rfl, ha⟩
  | commands =>
      have hc : Symbol.commands.Opens after = Opens (many (phrase .command)) after :=
        opens_silent fun us => rfl
      rw [hc] at h
      rcases opens_many.mp h with ha | h
      · exact Or.inl ⟨rfl, ha⟩
      · rw [← hc] at h
        exact Or.inr (meetCommand_of_opens h)
  | printArgument =>
      rcases opens_union.mp h with h | h
      · obtain ⟨hk, ha⟩ := opens_kind.mp h
        exact Or.inr ⟨[], [], rs, if_pos hk, rfl, ha⟩
      · rw [opens_expression] at h
        obtain ⟨next, hm, ha⟩ := meetFactor_of_opens h
        have hk : t.kind ≠ .stringLiteral := by
          intro hk
          simp [Symbol.meetFactor, Symbol.meetAtom, hk] at hm
        rw [Symbol.meet, if_neg hk, hm]
        refine Or.inr ⟨[], _, rs, rfl, rfl, ?_⟩
        rw [opensAll_append]
        exact ha
  | factor =>
      obtain ⟨next, hm, ha⟩ := meetFactor_of_opens h
      exact Or.inr ⟨[], next, rs, hm, rfl, ha⟩
  | productTail =>
      rcases opens_many.mp h with ha | h
      · exact Or.inl ⟨rfl, ha⟩
      · rw [opens_append] at h
        obtain ⟨hk, hb⟩ := opens_sign.mp h
        exact Or.inr ⟨[], _, rs, if_pos hk, rfl, hb⟩
  | sumTail =>
      rcases opens_many.mp h with ha | h
      · exact Or.inl ⟨rfl, ha⟩
      · rw [opens_append, opens_term] at h
        obtain ⟨hk, hb⟩ := opens_sign.mp h
        exact Or.inr ⟨[], _, rs, if_pos hk, rfl, hb⟩
  | condition =>
      obtain ⟨next, hm, ha⟩ := meet_of_opens_group
        [.productTail, .sumTail, .relationTail, .clauseTail] (nil_notMem_clause _) opens_clause h
      exact Or.inr ⟨[], next, rs, hm, rfl, ha⟩
  | operand =>
      obtain ⟨next, hm, ha⟩ := meet_of_opens_group
        [.productTail, .sumTail, .relationTail] (nil_notMem_relation _) opens_relation h
      exact Or.inr ⟨[], next, rs, hm, rfl, ha⟩
  | relationTail =>
      rcases opens_union.mp h with h | h
      · exact Or.inl ⟨rfl, opens_empty.mp h⟩
      · rw [opens_append, opens_expression] at h
        obtain ⟨hk, hb⟩ := opens_kind.mp h
        exact Or.inr ⟨[], _, rs, if_pos hk, rfl, hb⟩
  | clauseTail =>
      have hc : Symbol.clauseTail.Opens after =
          Opens (many ((kind .and ∪ kind .or) ++ Symbol.operand.form)) after :=
        opens_silent fun us => rfl
      rw [hc] at h
      rcases opens_many.mp h with ha | h
      · exact Or.inl ⟨rfl, ha⟩
      · rw [← hc, opens_append] at h
        obtain ⟨hk, hb⟩ := opens_either_kind h
        exact Or.inr ⟨[], _, rs, if_pos hk, rfl, hb⟩

end

/-! ### Along a stream -/

/-- Nothing follows. -/
def atEnd : After :=
  fun ts rs => ts = [] ∧ rs = []

theorem opensAll_of_program {ts : List Token} (d : Derivation committed (phrase .program) ts) :
    OpensAll Symbol.program atEnd ts d.preorder := by
  have h : Opens (phrase .program) atEnd ts d.preorder :=
    ⟨ts, [], [], d, ⟨rfl, rfl⟩, (List.append_nil ts).symm, (List.append_nil _).symm⟩
  obtain ⟨ss, hss, hb⟩ := (opens_phrase [.program] fun us => rfl).mp h
  simp only [committed, rules, opens_append] at hb
  exact ⟨d.preorder, rfl, ss, hss, hb⟩

/-- A phrase that can be empty is told by no rule. -/
theorem rules_of_nil_mem {p : Phrase} (h : [] ∈ words committed (phrase p)) : p.rules [] = [] := by
  cases p with
  | program => simp [committed, words_program] at h
  | varSection => simp [committed, words_varSection] at h
  | inputStatement => simp [committed, words_inputStatement] at h
  | printStatement => simp [committed, words_printStatement] at h
  | ifStatement => simp [committed, words_ifStatement] at h
  | condition => simp [committed, words_condition, words_bare] at h
  | _ => rfl

/-- No tokens, no rules. -/
theorem preorder_of_nil {f : Form} {ts : List Token} (d : Derivation committed f ts)
    (h : ts = []) : d.preorder = [] := by
  induction d with
  | empty | done => rfl
  | kind | sign | parens => simp at h
  | @phrase p ts d ih =>
      subst h
      rw [Derivation.preorder, ih rfl, rules_of_nil_mem ⟨.phrase d⟩]
      rfl
  | seq d e ihd ihe | more d e ihd ihe =>
      obtain ⟨hd, he⟩ := List.append_eq_nil_iff.mp h
      rw [Derivation.preorder, ihd hd, ihe he]
      rfl
  | left d ih | right d ih | bare d _ ih =>
      rw [Derivation.preorder, ih h]

theorem opens_of_nil {f : Form} {after : After} {rs : List Rule} (h : Opens f after [] rs) :
    [] ∈ words committed f ∧ after [] rs := by
  obtain ⟨us, vs, ss, d, ha, he, rfl⟩ := h
  obtain ⟨rfl, rfl⟩ := List.append_eq_nil_iff.mp he.symm
  rw [preorder_of_nil d rfl]
  exact ⟨⟨d⟩, ha⟩

/-- A symbol that opens with nothing can be empty. -/
theorem demand?_of_opens_nil {s : Symbol} (hs : ∀ e, s ≠ .note e) {after : After} {rs : List Rule}
    (h : s.Opens after [] rs) : s.demand? = none ∧ after [] rs := by
  have hf : [] ∈ words committed s.form ∧ after [] rs := by
    cases s with
    | note e => exact absurd rfl (hs e)
    | condition =>
        rw [Symbol.form, words_phrase]
        exact opens_of_nil h
    | _ => exact opens_of_nil h
  exact ⟨nil_mem_form.mp hf.1, hf.2⟩

/-- **One token.**  The recogniser logs the rules up to the token, and leaves those behind it. -/
theorem feed_of_opens {stack : List Symbol} (ho : Orderly stack) {t : Token} {ts : List Token}
    {rs : List Rule} (h : OpensAll stack atEnd (t :: ts) rs) :
    ∃ stack' ss, (feed t stack).2 = .ok stack' ∧ rs = rulesOf (feed t stack).1 ++ ss ∧
      OpensAll stack' atEnd ts ss := by
  induction stack generalizing rs with
  | nil => cases h.1
  | cons s stack ih =>
      by_cases hs : ∃ e, s = .note e
      · obtain ⟨e, rfl⟩ := hs
        obtain ⟨ss, rfl, hb⟩ := h
        obtain ⟨stack', ss', hf, rfl, ha⟩ := ih ho.2 hb
        refine ⟨stack', ss', hf, ?_, ha⟩
        rw [← List.append_assoc, ← rulesOf_append]
        rfl
      · rcases meet_of_opens (fun e he => hs ⟨e, he⟩) h with
          ⟨hd, hb⟩ | ⟨events, next, ss, hm, hr, ha⟩
        · -- what is read below the symbol, it passes on
          obtain ⟨stack', ss, hf, hr, ha⟩ := ih ho.2 hb
          have hp : s.meet t = .pass := by
            by_contra hp
            obtain ⟨x, hx⟩ := feed_error_of_not_pass ho hd (fun e he => hs ⟨e, he⟩) hp
            rw [hf] at hx
            cases hx
          rw [feed, hp]
          exact ⟨stack', ss, hf, hr, ha⟩
        · rw [feed, hm]
          exact ⟨next ++ stack, ss, rfl, hr, opensAll_append next stack atEnd ▸ ha⟩

/-- **The end of the input.**  The recogniser logs the rules that are left. -/
theorem finish_of_opens {stack : List Symbol} {rs : List Rule} (h : OpensAll stack atEnd [] rs) :
    rs = rulesOf (finish stack).1 := by
  induction stack generalizing rs with
  | nil => exact h.2
  | cons s stack ih =>
      by_cases hs : ∃ e, s = .note e
      · obtain ⟨e, rfl⟩ := hs
        obtain ⟨ss, rfl, hb⟩ := h
        rw [ih hb, ← rulesOf_append]
        rfl
      · obtain ⟨hd, hb⟩ := demand?_of_opens_nil (fun e he => hs ⟨e, he⟩) h
        rw [ih hb]
        cases s with
        | note e => exact absurd ⟨e, rfl⟩ hs
        | terminal | typeName | printArgument | factor | condition | operand => cases hd
        | _ => rfl

/-- **Along a stream.**  The recogniser logs the rules of the tree in preorder. -/
theorem rulesOf_recognize {stack : List Symbol} (ho : Orderly stack) {stream : TokenStream}
    (hf : stream.fault? = none) {rs : List Rule} (h : OpensAll stack atEnd stream.tokens rs) :
    rulesOf (recognize stack stream).events = rs := by
  induction stream generalizing stack rs with
  | token t rest ih =>
      obtain ⟨stack', ss, hfeed, rfl, ha⟩ := feed_of_opens ho h
      rw [recognize_read rest hfeed, Report.after, List.cons_append, ← List.singleton_append,
        rulesOf_append, rulesOf_append, ih (orderly_of_feed ho hfeed) hf ha]
      rfl
  | fault e => cases hf
  | finish stop =>
      have hr := finish_of_opens h
      rw [recognize]
      split
      · next hs =>
          rw [hr, hs]
          simp [rulesOf]
      · next hs =>
          rw [hr, hs]
          simp [rulesOf, Report.after, Report.ofMismatch]

end SourceCheck.Grammar

import Mathlib
import SourceCheck.Token.Basic

/-!
# Grammar — forms and derivations

A grammar gives every phrase of the language a form: a sequence, a choice or a repetition of
kinds of tokens and of further phrases.  `Derivation G f ts` is a derivation tree of the form
`f` with the tokens `ts` at its leaves, and `words G f` is the language of the form, the token
lists that have such a tree.

* `words_append`, `words_union`, `words_many`: the language of a compound form from those of its
  parts.
* `mem_quotient_mul`: what may follow a first token, in a product of languages.

A form speaks of parentheses only in pairs (`Form.parens`).  `Form.bare f` is `f` without the
words that begin with an opening parenthesis: a grammar whose choices are made on the first
token alone needs it where two alternatives could both begin with one.
-/

namespace SourceCheck.Grammar

/-- What the grammar has names for. -/
inductive Phrase where
  | program | varSection | declaration | typeName
  | commands | command | inputStatement | printStatement | assignment | ifStatement
  | condition | clause | clauseTail
  | expression | term | factor
deriving DecidableEq

inductive Form where
  | empty
  | kind (k : Kind)
  /-- An arithmetic sign, which only its lexeme tells from the others. -/
  | sign (lexemes : List String)
  | phrase (p : Phrase)
  | seq (a b : Form)
  | either (a b : Form)
  | many (f : Form)
  | parens (f : Form)
  | bare (f : Form)

namespace Form

instance : Append Form := ⟨seq⟩

instance : Union Form := ⟨either⟩

def optional (f : Form) : Form :=
  empty ∪ f

end Form

/-- The tokens begin with no opening parenthesis. -/
def Bare (ts : List Token) : Prop :=
  ∀ t ∈ ts.head?, t.kind ≠ .leftParen

/-- A derivation tree of a form, with the given tokens at its leaves. -/
inductive Derivation (G : Phrase → Form) : Form → List Token → Type where
  | empty : Derivation G .empty []
  | kind (t : Token) : Derivation G (.kind t.kind) [t]
  | sign {lexemes : List String} (t : Token) (h : t.kind = .mathOperator ∧ t.lexeme ∈ lexemes) :
      Derivation G (.sign lexemes) [t]
  | phrase {p : Phrase} {ts : List Token} (d : Derivation G (G p) ts) : Derivation G (.phrase p) ts
  | seq {a b : Form} {ts us : List Token} (d : Derivation G a ts) (e : Derivation G b us) :
      Derivation G (.seq a b) (ts ++ us)
  | left {a b : Form} {ts : List Token} (d : Derivation G a ts) : Derivation G (.either a b) ts
  | right {a b : Form} {ts : List Token} (d : Derivation G b ts) : Derivation G (.either a b) ts
  | done {f : Form} : Derivation G (.many f) []
  | more {f : Form} {ts us : List Token} (d : Derivation G f ts) (e : Derivation G (.many f) us) :
      Derivation G (.many f) (ts ++ us)
  | parens {f : Form} {ts : List Token} {l r : Token} (hl : l.kind = .leftParen)
      (d : Derivation G f ts) (hr : r.kind = .rightParen) :
      Derivation G (.parens f) ([l] ++ ts ++ [r])
  | bare {f : Form} {ts : List Token} (d : Derivation G f ts) (h : Bare ts) :
      Derivation G (.bare f) ts

/-- The form derives the tokens. -/
def Derives (G : Phrase → Form) (f : Form) (ts : List Token) : Prop :=
  Nonempty (Derivation G f ts)

/-- The language of a form. -/
def words (G : Phrase → Form) (f : Form) : Language Token :=
  {ts | Derives G f ts}

/-- The tokens of one kind, each as a word. -/
def kindWords (k : Kind) : Language Token :=
  {ts | ∃ t : Token, t.kind = k ∧ ts = [t]}

/-- The arithmetic signs with one of the given lexemes, each as a word. -/
def signWords (lexemes : List String) : Language Token :=
  {ts | ∃ t : Token, (t.kind = .mathOperator ∧ t.lexeme ∈ lexemes) ∧ ts = [t]}

/-- The words of a language that begin with no opening parenthesis. -/
def bareWords (l : Language Token) : Language Token :=
  {ts | ts ∈ l ∧ Bare ts}

/-! ### The language of a compound form -/

section

variable (G : Phrase → Form)

theorem words_empty : words G .empty = 1 := by
  ext ts
  refine ⟨?_, ?_⟩
  · rintro ⟨d⟩
    cases d
    rfl
  · rintro rfl
    exact ⟨.empty⟩

theorem words_kind (k : Kind) : words G (.kind k) = kindWords k := by
  ext ts
  refine ⟨?_, ?_⟩
  · rintro ⟨d⟩
    cases d with
    | kind t => exact ⟨t, rfl, rfl⟩
  · rintro ⟨t, rfl, rfl⟩
    exact ⟨.kind t⟩

theorem words_sign (lexemes : List String) : words G (.sign lexemes) = signWords lexemes := by
  ext ts
  refine ⟨?_, ?_⟩
  · rintro ⟨d⟩
    cases d with
    | sign t h => exact ⟨t, h, rfl⟩
  · rintro ⟨t, h, rfl⟩
    exact ⟨.sign t h⟩

theorem words_phrase (p : Phrase) : words G (.phrase p) = words G (G p) := by
  ext ts
  refine ⟨?_, ?_⟩
  · rintro ⟨d⟩
    cases d with
    | phrase d => exact ⟨d⟩
  · rintro ⟨d⟩
    exact ⟨.phrase d⟩

theorem words_append (a b : Form) : words G (a ++ b) = words G a * words G b := by
  ext ts
  refine ⟨?_, ?_⟩
  · rintro ⟨d⟩
    cases d with
    | seq d e => exact Language.append_mem_mul ⟨d⟩ ⟨e⟩
  · rintro ⟨ts, ⟨d⟩, us, ⟨e⟩, rfl⟩
    exact ⟨.seq d e⟩

theorem words_union (a b : Form) : words G (a ∪ b) = words G a + words G b := by
  ext ts
  refine ⟨?_, ?_⟩
  · rintro ⟨d⟩
    cases d with
    | left d => exact Or.inl ⟨d⟩
    | right d => exact Or.inr ⟨d⟩
  · rintro (⟨⟨d⟩⟩ | ⟨⟨d⟩⟩)
    · exact ⟨.left d⟩
    · exact ⟨.right d⟩

theorem words_optional (f : Form) : words G f.optional = 1 + words G f := by
  rw [Form.optional, words_union, words_empty]

theorem words_many (f : Form) : words G (.many f) = 1 + words G f * words G (.many f) := by
  ext ts
  refine ⟨?_, ?_⟩
  · rintro ⟨d⟩
    cases d with
    | done => exact Or.inl rfl
    | more d e => exact Or.inr (Language.append_mem_mul ⟨d⟩ ⟨e⟩)
  · rintro (h | ⟨ts, ⟨d⟩, us, ⟨e⟩, rfl⟩)
    · obtain rfl : ts = [] := h
      exact ⟨.done⟩
    · exact ⟨.more d e⟩

theorem words_parens (f : Form) :
    words G (.parens f) = kindWords .leftParen * words G f * kindWords .rightParen := by
  ext ts
  refine ⟨?_, ?_⟩
  · rintro ⟨d⟩
    cases d with
    | parens hl d hr =>
        exact Language.append_mem_mul (Language.append_mem_mul ⟨_, hl, rfl⟩ ⟨d⟩) ⟨_, hr, rfl⟩
  · rintro ⟨_, ⟨_, ⟨l, hl, rfl⟩, ts, ⟨d⟩, rfl⟩, _, ⟨r, hr, rfl⟩, rfl⟩
    exact ⟨.parens hl d hr⟩

theorem words_bare (f : Form) : words G (.bare f) = bareWords (words G f) := by
  ext ts
  refine ⟨?_, ?_⟩
  · rintro ⟨d⟩
    cases d with
    | bare d h => exact ⟨⟨d⟩, h⟩
  · rintro ⟨⟨d⟩, h⟩
    exact ⟨.bare d h⟩

end

/-! ### What may follow a first token -/

section

variable {l m : Language Token} (t : Token)

theorem mem_quotient {ts : List Token} : ts ∈ l.leftQuotient [t] ↔ t :: ts ∈ l := Iff.rfl

@[simp] theorem quotient_zero : (0 : Language Token).leftQuotient [t] = 0 := rfl

@[simp] theorem quotient_one : (1 : Language Token).leftQuotient [t] = 0 := by
  ext ts
  simp

@[simp] theorem quotient_add :
    (l + m).leftQuotient [t] = l.leftQuotient [t] + m.leftQuotient [t] := rfl

@[simp] theorem quotient_kindWords (k : Kind) :
    (kindWords k).leftQuotient [t] = if t.kind = k then 1 else 0 := by
  ext ts
  rw [mem_quotient]
  refine ⟨?_, ?_⟩
  · rintro ⟨u, hu, h⟩
    obtain ⟨rfl, rfl⟩ := List.cons.inj h
    rw [if_pos hu]
    rfl
  · intro h
    split at h
    · next hk =>
        obtain rfl : ts = [] := h
        exact ⟨t, hk, rfl⟩
    · exact absurd h (Language.notMem_zero ts)

theorem quotient_signWords (lexemes : List String) :
    (signWords lexemes).leftQuotient [t] =
      if t.kind = .mathOperator ∧ t.lexeme ∈ lexemes then 1 else 0 := by
  ext ts
  rw [mem_quotient]
  refine ⟨?_, ?_⟩
  · rintro ⟨u, hu, h⟩
    obtain ⟨rfl, rfl⟩ := List.cons.inj h
    rw [if_pos hu]
    rfl
  · intro h
    split at h
    · next hk =>
        obtain rfl : ts = [] := h
        exact ⟨t, hk, rfl⟩
    · exact absurd h (Language.notMem_zero ts)

@[simp] theorem quotient_bareWords :
    (bareWords l).leftQuotient [t] = if t.kind = .leftParen then 0 else l.leftQuotient [t] := by
  ext ts
  rw [mem_quotient]
  by_cases hk : t.kind = .leftParen
  · rw [if_pos hk]
    exact ⟨fun h => absurd hk (h.2 t rfl), fun h => h.elim⟩
  · rw [if_neg hk]
    exact ⟨fun h => h.1, fun h => ⟨h, fun u hu => Option.some.inj hu ▸ hk⟩⟩

/-- **A first token in a product.**  It is the first one of the left factor, or the left factor
is empty and it is the first one of the right factor. -/
theorem mem_quotient_mul {ts : List Token} :
    ts ∈ (l * m).leftQuotient [t] ↔
      ts ∈ l.leftQuotient [t] * m ∨ [] ∈ l ∧ ts ∈ m.leftQuotient [t] := by
  rw [mem_quotient]
  refine ⟨?_, ?_⟩
  · rintro ⟨a, ha, b, hb, h⟩
    cases a with
    | nil =>
        obtain rfl : b = t :: ts := h
        exact Or.inr ⟨ha, hb⟩
    | cons u a =>
        obtain ⟨rfl, rfl⟩ := List.cons.inj h
        exact Or.inl (Language.append_mem_mul (l := l.leftQuotient [u]) ha hb)
  · rintro (⟨a, ha, b, hb, rfl⟩ | ⟨hl, hm⟩)
    · exact Language.append_mem_mul (a := t :: a) ha hb
    · exact Language.append_mem_mul (a := []) hl hm

theorem quotient_mul_of_nil_notMem (h : [] ∉ l) :
    (l * m).leftQuotient [t] = l.leftQuotient [t] * m := by
  ext ts
  rw [mem_quotient_mul, or_iff_left fun h' => h h'.1]

end

/-! ### The empty word -/

@[simp] theorem nil_mem_add {l m : Language Token} : [] ∈ l + m ↔ [] ∈ l ∨ [] ∈ m := Iff.rfl

@[simp] theorem nil_mem_mul {l m : Language Token} : [] ∈ l * m ↔ [] ∈ l ∧ [] ∈ m := by
  refine ⟨?_, ?_⟩
  · rintro ⟨a, ha, b, hb, h⟩
    obtain ⟨rfl, rfl⟩ := List.append_eq_nil_iff.mp h
    exact ⟨ha, hb⟩
  · rintro ⟨hl, hm⟩
    exact Language.append_mem_mul (a := []) hl hm

@[simp] theorem nil_notMem_kindWords (k : Kind) : [] ∉ kindWords k := by
  rintro ⟨t, -, h⟩
  cases h

@[simp] theorem nil_notMem_signWords (lexemes : List String) : [] ∉ signWords lexemes := by
  rintro ⟨t, -, h⟩
  cases h

@[simp] theorem nil_mem_bareWords {l : Language Token} : [] ∈ bareWords l ↔ [] ∈ l :=
  and_iff_left fun _ h => nomatch h

section

variable {m : Language Token} (t : Token)

/-- A first token of a given kind, and then a word of `m`. -/
@[simp] theorem quotient_kindWords_mul (k : Kind) :
    (kindWords k * m).leftQuotient [t] = if t.kind = k then m else 0 := by
  rw [quotient_mul_of_nil_notMem t (nil_notMem_kindWords k), quotient_kindWords]
  split
  · exact one_mul m
  · exact zero_mul m

/-- A first sign with one of the given lexemes, and then a word of `m`. -/
@[simp] theorem quotient_signWords_mul (lexemes : List String) :
    (signWords lexemes * m).leftQuotient [t] =
      if t.kind = .mathOperator ∧ t.lexeme ∈ lexemes then m else 0 := by
  rw [quotient_mul_of_nil_notMem t (nil_notMem_signWords lexemes), quotient_signWords]
  split
  · exact one_mul m
  · exact zero_mul m

end

end SourceCheck.Grammar

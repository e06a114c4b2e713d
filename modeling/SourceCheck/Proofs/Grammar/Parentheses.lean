import SourceCheck.Proofs.Grammar.Verdict

/-!
# Grammar — parentheses that open a condition or an operand

Where a condition or an operand begins with an opening parenthesis, the documented grammar
leaves open whether it begins a group or a parenthesised factor; the check takes it for a group.
So a documented program can be rejected, and `check_documented` says exactly when it is not: its
tokens must be `Settled`.  Where an opening parenthesis follows `if`, its closing one is followed
by `then`; where one follows `AND` or `OR`, its closing one is followed by a word or sign that can
follow an operand.  `(a) + 1 > 0` is a condition of the documented grammar that is not settled
(`documented_rejected`).
-/

namespace SourceCheck.Grammar

open Form (kind sign phrase many parens productTail sumTail relationTail relation group)

/-! ### Closing parentheses -/

/-- What follows the parenthesis that closes the innermost open one, when `depth` more have been
opened inside it. -/
def behindGroup : Nat → List Token → List Token
  | _, [] => []
  | depth, t :: ts =>
    if t.kind = .leftParen then behindGroup (depth + 1) ts
    else if t.kind = .rightParen then
      match depth with
      | 0 => ts
      | depth + 1 => behindGroup depth ts
    else behindGroup depth ts

/-- The tokens open and close their parentheses in pairs. -/
def Balanced (ts : List Token) : Prop :=
  ∀ depth us, behindGroup depth (ts ++ us) = behindGroup depth us

theorem Balanced.append {ts us : List Token} (ht : Balanced ts) (hu : Balanced us) :
    Balanced (ts ++ us) := by
  intro depth more
  rw [List.append_assoc, ht, hu]

theorem balanced_singleton {t : Token} (hl : t.kind ≠ .leftParen) (hr : t.kind ≠ .rightParen) :
    Balanced [t] := by
  intro depth us
  simp [behindGroup, hl, hr]

theorem Balanced.parens {ts : List Token} {l r : Token} (hl : l.kind = .leftParen)
    (h : Balanced ts) (hr : r.kind = .rightParen) : Balanced ([l] ++ ts ++ [r]) := by
  intro depth us
  have hopen : ∀ ts, behindGroup depth (l :: ts) = behindGroup (depth + 1) ts := by
    simp [behindGroup, hl]
  have hclose : ∀ ts, behindGroup (depth + 1) (r :: ts) = behindGroup depth ts := by
    simp [behindGroup, hr]
  simp only [List.append_assoc, List.cons_append, List.nil_append]
  rw [hopen, h, hclose]

/-- Behind a balanced list and a closing parenthesis. -/
theorem Balanced.behindGroup_close {ts : List Token} (h : Balanced ts) {r : Token}
    (hr : r.kind = .rightParen) (us : List Token) : behindGroup 0 (ts ++ r :: us) = us := by
  rw [h]
  simp [behindGroup, hr]

/-- The form names no single parenthesis. -/
def Form.Paired : Form → Prop
  | empty | sign _ | phrase _ => True
  | kind k => k ≠ .leftParen ∧ k ≠ .rightParen
  | seq a b | either a b => a.Paired ∧ b.Paired
  | many f | parens f | bare f => f.Paired

section

variable {a b : Form}

@[simp] theorem Form.paired_append : (a ++ b).Paired ↔ a.Paired ∧ b.Paired := Iff.rfl

@[simp] theorem Form.paired_union : (a ∪ b).Paired ↔ a.Paired ∧ b.Paired := Iff.rfl

@[simp] theorem Form.paired_optional : a.optional.Paired ↔ a.Paired := by
  simp [Form.optional, Form.Paired]

end

theorem paired_rules {u : Form → Form} (hu : ∀ f, f.Paired → (u f).Paired) (p : Phrase) :
    (rules u p).Paired := by
  have hr : relation.Paired := by simp [relation, relationTail, Form.Paired]
  cases p with
  | condition => simpa [rules, group, Form.Paired] using hu (phrase .clause) trivial
  | clauseTail => simpa [rules, group, Form.Paired] using hu _ hr
  | _ => simp [rules, Form.Paired, productTail, sumTail, hr]

theorem paired_committed (p : Phrase) : (committed p).Paired :=
  paired_rules (u := Form.bare) (fun _ h => h) p

theorem paired_documented (p : Phrase) : (documented p).Paired :=
  paired_rules (u := id) (fun _ h => h) p

/-- What a grammar without single parentheses derives is balanced. -/
theorem Derivation.balanced {G : Phrase → Form} (hG : ∀ p, (G p).Paired) {f : Form}
    {ts : List Token} (d : Derivation G f ts) : f.Paired → Balanced ts := by
  induction d with
  | empty | done => exact fun _ _ _ => rfl
  | kind t => exact fun h => balanced_singleton h.1 h.2
  | sign t h => exact fun _ => balanced_singleton (by simp [h.1]) (by simp [h.1])
  | @phrase p ts d ih => exact fun _ => ih (hG p)
  | seq d e ihd ihe => exact fun h => (ihd h.1).append (ihe h.2)
  | left d ih => exact fun h => ih h.1
  | right d ih => exact fun h => ih h.2
  | more d e ihd ihe => exact fun h => (ihd h).append (ihe h)
  | parens hl d hr ih => exact fun h => (ih h).parens hl hr
  | bare d hb ih => exact ih

/-! ### Settled tokens -/

/-- The kinds that may follow a group, if the group follows a token of the given kind; `none` if
no group can follow it. -/
def groupFollowers? : Kind → Option (List Kind)
  | .ifWord => some [.thenWord]
  | .and | .or => some [.and, .or, .rightParen, .thenWord]
  | _ => none

/-- If the tokens behind `w` begin with a parenthesis where a group can stand, then what follows
the closing one can follow a group. -/
def SettledAt (w : Token) : List Token → Prop
  | [] => True
  | p :: ts =>
    p.kind = .leftParen → ∀ ks ∈ groupFollowers? w.kind,
      ∃ t ∈ (behindGroup 0 ts).head?, t.kind ∈ ks

/-- Every parenthesis that stands where a group can stand closes where a group can close. -/
def Settled : List Token → Prop
  | [] => True
  | w :: ts => SettledAt w ts ∧ Settled ts

theorem Settled.of_append {ts us : List Token} (h : Settled (ts ++ us)) : Settled us := by
  induction ts with
  | nil => exact h
  | cons w ts ih => exact ih h.2

/-! ### What the check accepts is settled -/

/-- `if` is read as the start of an `if` command. -/
theorem feed_ifWord {w : Token} {stack stack' : List Symbol} (h : Orderly stack)
    (hw : w.kind = .ifWord) (hf : (feed w stack).2 = .ok stack') :
    ∃ rest, stack' = .note (.rule .condition) :: .condition :: .terminal .thenWord :: rest := by
  induction stack with
  | nil => cases hf
  | cons s stack ih =>
      rw [feed_cons_snd] at hf
      split at hf
      · exact ih h.2 hf
      · exact ih h.2 hf
      · next hm =>
          cases hf
          cases s with
          | commands =>
              simp only [Symbol.meet, Symbol.meetCommand, hw] at hm
              cases hm
              exact ⟨_, rfl⟩
          | terminal k =>
              have hk : w.kind = k := by
                by_contra hk
                simp [Symbol.meet, hk] at hm
              exact absurd (hk.symm.trans hw) h.1.1
          | _ =>
              simp [Symbol.meet, Symbol.meetFactor, Symbol.meetAtom, Symbol.isSign,
                Reaction.andThen, hw] at hm
      · cases hf

/-- `AND` and `OR` are read as joining a further operand. -/
theorem feed_joiner {w : Token} {stack stack' : List Symbol} (h : Orderly stack)
    (hw : w.kind = .and ∨ w.kind = .or) (hf : (feed w stack).2 = .ok stack') :
    ∃ rest, stack' = .operand :: .clauseTail :: rest := by
  induction stack with
  | nil => cases hf
  | cons s stack ih =>
      rw [feed_cons_snd] at hf
      split at hf
      · exact ih h.2 hf
      · exact ih h.2 hf
      · next hm =>
          cases hf
          cases s with
          | clauseTail =>
              rw [Symbol.meet, if_pos hw] at hm
              cases hm
              exact ⟨_, rfl⟩
          | terminal k =>
              have hk : w.kind = k := by
                by_contra hk
                simp [Symbol.meet, hk] at hm
              rcases hw with hw | hw
              · exact absurd (hk.symm.trans hw) h.1.2.1
              · exact absurd (hk.symm.trans hw) h.1.2.2
          | _ =>
              rcases hw with hw | hw <;>
                simp [Symbol.meet, Symbol.meetCommand, Symbol.meetFactor, Symbol.meetAtom,
                  Symbol.isSign, Reaction.andThen, hw] at hm
      · cases hf

/-- Behind a group stands a word of the rest of the stack. -/
theorem behindGroup_mem_spelled {ts : List Token} {stack : List Symbol}
    (h : ts ∈ spelled (Symbol.groupTail ++ stack)) : behindGroup 0 ts ∈ spelled stack := by
  rw [spelled_append, spelled_groupTail] at h
  obtain ⟨_, ⟨c, ⟨d⟩, _, ⟨r, hr, rfl⟩, rfl⟩, us, hu, rfl⟩ := h
  have hb : Balanced c := d.balanced paired_committed trivial
  simp only [List.append_assoc, List.cons_append, List.nil_append]
  rwa [hb.behindGroup_close hr us]

/-- An opening parenthesis right behind `w` opens a group, and what follows the group is a word
of a stack whose first token can only be of one of the given kinds. -/
theorem exists_behindGroup_head {ts : List Token} {stack : List Symbol} {ks : List Kind}
    (h : ts ∈ spelled (Symbol.groupTail ++ stack)) (hn : [] ∉ spelled stack)
    (hk : ∀ t us, t :: us ∈ spelled stack → t.kind ∈ ks) :
    ∃ t ∈ (behindGroup 0 ts).head?, t.kind ∈ ks := by
  have hb := behindGroup_mem_spelled h
  cases hg : behindGroup 0 ts with
  | nil => exact absurd (hg ▸ hb) hn
  | cons t us => exact ⟨t, rfl, hk t us (hg ▸ hb)⟩

/-- Where the rest of a clause is to be read, there is a next token, and it joins a further
operand or closes the clause. -/
theorem kind_of_mem_spelled_clauseTail {t : Token} {us : List Token} {stack : List Symbol}
    (h : Orderly (.clauseTail :: stack)) (hm : t :: us ∈ spelled (.clauseTail :: stack)) :
    t.kind ∈ [Kind.and, .or, .rightParen, .thenWord] := by
  by_contra hk
  simp only [List.mem_cons, List.not_mem_nil, or_false, not_or] at hk
  obtain ⟨ha, ho, hr, ht⟩ := hk
  obtain ⟨e, he⟩ := feed_error_at_clauseTail h hr ht ha ho
  obtain ⟨stack', hf, -⟩ := (cons_mem_spelled h).mp hm
  rw [he] at hf
  cases hf

theorem nil_notMem_spelled_clauseTail {stack : List Symbol} (h : Orderly (.clauseTail :: stack)) :
    [] ∉ spelled (.clauseTail :: stack) := by
  rw [nil_mem_spelled]
  rcases h.1 with h | h
  all_goals
    obtain ⟨rest, rfl⟩ := List.head?_eq_some_iff.mp h
    simp [finish_cons_snd, Symbol.demand?]

/-- A group behind `if` is followed by `then`. -/
theorem behindGroup_ifWord {w p : Token} {ts : List Token} {stack : List Symbol}
    (h : Orderly stack) (hw : w.kind = .ifWord) (hp : p.kind = .leftParen)
    (hm : w :: p :: ts ∈ spelled stack) :
    ∃ t ∈ (behindGroup 0 ts).head?, t.kind ∈ [Kind.thenWord] := by
  obtain ⟨stack', hf, hm'⟩ := (cons_mem_spelled h).mp hm
  obtain ⟨rest, rfl⟩ := feed_ifWord h hw hf
  obtain ⟨stack'', hf', hm''⟩ := (cons_mem_spelled (orderly_of_feed h hf)).mp hm'
  simp only [feed_cons_snd, Symbol.meet, if_pos hp] at hf'
  cases hf'
  refine exists_behindGroup_head hm'' ?_ ?_
  · simp [Symbol.form, words_kind]
  · intro t us ht
    rw [← mem_quotient, spelled_cons, Symbol.form, words_kind, quotient_kindWords_mul] at ht
    by_contra hk
    rw [if_neg (by simpa using hk)] at ht
    exact ht

/-- A group behind `AND` or `OR` is followed by what can follow an operand. -/
theorem behindGroup_joiner {w p : Token} {ts : List Token} {stack : List Symbol}
    (h : Orderly stack) (hw : w.kind = .and ∨ w.kind = .or) (hp : p.kind = .leftParen)
    (hm : w :: p :: ts ∈ spelled stack) :
    ∃ t ∈ (behindGroup 0 ts).head?, t.kind ∈ [Kind.and, .or, .rightParen, .thenWord] := by
  obtain ⟨stack', hf, hm'⟩ := (cons_mem_spelled h).mp hm
  obtain ⟨rest, rfl⟩ := feed_joiner h hw hf
  have ho := orderly_of_feed h hf
  obtain ⟨stack'', hf', hm''⟩ := (cons_mem_spelled ho).mp hm'
  simp only [feed_cons_snd, Symbol.meet, if_pos hp] at hf'
  cases hf'
  exact exists_behindGroup_head hm'' (nil_notMem_spelled_clauseTail ho.2)
    fun t us ht => kind_of_mem_spelled_clauseTail ho.2 ht

/-- **What the recogniser reads is settled.** -/
theorem settled_of_mem_spelled {ts : List Token} {stack : List Symbol} (h : Orderly stack)
    (hm : ts ∈ spelled stack) : Settled ts := by
  induction ts generalizing stack with
  | nil => trivial
  | cons w ts ih =>
      obtain ⟨stack', hf, hm'⟩ := (cons_mem_spelled h).mp hm
      refine ⟨?_, ih (orderly_of_feed h hf) hm'⟩
      cases ts with
      | nil => trivial
      | cons p ts =>
          intro hp ks hks
          unfold groupFollowers? at hks
          split at hks
          · next hw =>
              cases hks
              exact behindGroup_ifWord h hw hp hm
          · next hw =>
              cases hks
              exact behindGroup_joiner h (Or.inl hw) hp hm
          · next hw =>
              cases hks
              exact behindGroup_joiner h (Or.inr hw) hp hm
          · cases hks

/-! ### Phrases without conditions -/

/-- No condition occurs in the phrase, so its rule does not depend on the reading. -/
def Phrase.Plain : Phrase → Prop
  | .program | .commands | .command | .ifStatement | .condition | .clause | .clauseTail => False
  | _ => True

def Form.Plain : Form → Prop
  | empty | kind _ | sign _ => True
  | phrase p => p.Plain
  | seq a b | either a b => a.Plain ∧ b.Plain
  | many f | parens f | bare f => f.Plain

section

variable {a b : Form}

@[simp] theorem Form.plain_append : (a ++ b).Plain ↔ a.Plain ∧ b.Plain := Iff.rfl

@[simp] theorem Form.plain_union : (a ∪ b).Plain ↔ a.Plain ∧ b.Plain := Iff.rfl

@[simp] theorem Form.plain_optional : a.optional.Plain ↔ a.Plain := by
  simp [Form.optional, Form.Plain]

end

theorem plain_documented {p : Phrase} (h : p.Plain) : (documented p).Plain := by
  cases p <;> simp_all [documented, rules, Form.Plain, Phrase.Plain, productTail, sumTail]

theorem committed_eq_documented {p : Phrase} (h : p.Plain) : committed p = documented p := by
  cases p <;> first | rfl | exact h.elim

/-- A plain form derives the same tokens in both readings. -/
theorem Derivation.reread {f : Form} {ts : List Token} (d : Derivation documented f ts) :
    f.Plain → Derives committed f ts := by
  induction d with
  | empty => exact fun _ => ⟨.empty⟩
  | kind t => exact fun _ => ⟨.kind t⟩
  | sign t h => exact fun _ => ⟨.sign t h⟩
  | @phrase p ts d ih =>
      intro h
      obtain ⟨d'⟩ := ih (plain_documented h)
      rw [← committed_eq_documented h] at d'
      exact ⟨.phrase d'⟩
  | seq d e ihd ihe =>
      intro h
      obtain ⟨d'⟩ := ihd h.1
      obtain ⟨e'⟩ := ihe h.2
      exact ⟨.seq d' e'⟩
  | left d ih =>
      intro h
      obtain ⟨d'⟩ := ih h.1
      exact ⟨.left d'⟩
  | right d ih =>
      intro h
      obtain ⟨d'⟩ := ih h.2
      exact ⟨.right d'⟩
  | done => exact fun _ => ⟨.done⟩
  | more d e ihd ihe =>
      intro h
      obtain ⟨d'⟩ := ihd h
      obtain ⟨e'⟩ := ihe h
      exact ⟨.more d' e'⟩
  | parens hl d hr ih =>
      intro h
      obtain ⟨d'⟩ := ih h
      exact ⟨.parens hl d' hr⟩
  | bare d hb ih =>
      intro h
      obtain ⟨d'⟩ := ih h
      exact ⟨.bare d' hb⟩

theorem mem_committed_of_plain {f : Form} (hf : f.Plain) {ts : List Token}
    (h : ts ∈ words documented f) : ts ∈ words committed f := by
  obtain ⟨d⟩ := h
  exact d.reread hf

/-! ### First tokens -/

/-- The first token of every word of the language is of a kind that `P` holds of. -/
def Begins (l : Language Token) (P : Kind → Prop) : Prop :=
  ∀ t ts, t :: ts ∈ l → P t.kind

section

variable {l m : Language Token} {P : Kind → Prop}

theorem Begins.mul (hl : Begins l P) (hm : Begins m P) : Begins (l * m) P := by
  intro t ts h
  rcases (mem_quotient_mul t).mp h with ⟨a, ha, -⟩ | ⟨-, h⟩
  · exact hl t a ha
  · exact hm t ts h

theorem Begins.add (hl : Begins l P) (hm : Begins m P) : Begins (l + m) P := by
  rintro t ts (h | h)
  · exact hl t ts h
  · exact hm t ts h

theorem begins_one : Begins 1 P := by
  intro t ts h
  cases h

theorem begins_kindWords_mul {k : Kind} (h : P k) : Begins (kindWords k * m) P := by
  intro t ts ht
  rw [← mem_quotient, quotient_kindWords_mul] at ht
  by_cases hk : t.kind = k
  · exact hk ▸ h
  · rw [if_neg hk] at ht
    exact ht.elim

theorem begins_signWords_mul {lexemes : List String} (h : P .mathOperator) :
    Begins (signWords lexemes * m) P := by
  intro t ts ht
  rw [← mem_quotient, quotient_signWords_mul] at ht
  by_cases hk : t.kind = .mathOperator ∧ t.lexeme ∈ lexemes
  · exact hk.1 ▸ h
  · rw [if_neg hk] at ht
    exact ht.elim

variable (u : Form → Form)

theorem begins_productTail (h : P .mathOperator) : Begins (words (rules u) productTail) P := by
  rw [words_productTail]
  exact begins_one.add (begins_signWords_mul h)

theorem begins_sumTail (h : P .mathOperator) : Begins (words (rules u) sumTail) P := by
  rw [words_sumTail]
  exact begins_one.add (begins_signWords_mul h)

theorem begins_relationTail (h : P .relOperator) : Begins (words (rules u) relationTail) P := by
  rw [words_relationTail]
  exact begins_one.add (begins_kindWords_mul h)

theorem begins_clauseTail (ha : P .and) (ho : P .or) :
    Begins (words (rules u) (phrase .clauseTail)) P := by
  rw [words_clauseTail, add_mul]
  exact begins_one.add ((begins_kindWords_mul ha).add (begins_kindWords_mul ho))

end

/-! ### What is settled the check accepts -/

/-- An expression that begins with a parenthesis begins with a parenthesised one. -/
theorem exists_of_paren_mem (u : Form → Form) {p : Token} {ts : List Token} {m : Language Token}
    (hp : p.kind = .leftParen) (h : p :: ts ∈ words (rules u) (phrase .expression) * m) :
    ∃ e r more, ts = e ++ r :: more ∧ e ∈ words (rules u) (phrase .expression) ∧
      r.kind = .rightParen ∧
      more ∈ words (rules u) productTail * (words (rules u) sumTail * m) := by
  have hq : (words (rules u) (phrase .factor)).leftQuotient [p] =
      words (rules u) (phrase .expression) * kindWords .rightParen := by
    rw [words_factor]
    simp [hp]
  rw [← mem_quotient, words_expression, mul_assoc, mul_assoc,
    quotient_mul_of_nil_notMem p (nil_notMem_factor u), hq] at h
  obtain ⟨_, ⟨e, he, _, ⟨r, hr, rfl⟩, rfl⟩, more, hm, rfl⟩ := h
  exact ⟨e, r, more, by simp, he, hr, hm⟩

/-- A parenthesised expression is also a group. -/
theorem group_of_expression {e : List Token} {p r : Token} (hp : p.kind = .leftParen)
    (he : e ∈ words documented (phrase .expression)) (hr : r.kind = .rightParen) :
    p :: (e ++ [r]) ∈ words committed group := by
  have he' : e ∈ words committed (phrase .expression) :=
    mem_committed_of_plain (f := phrase .expression) trivial he
  have hrel : e ∈ words committed relation := by
    rw [committed, words_relation, words_relationTail]
    exact ⟨e, he', [], Or.inl rfl, List.append_nil e⟩
  have hc : e ∈ words committed (phrase .clause) := by
    rw [committed, words_clause]
    exact ⟨e, hrel, [], nil_mem_clauseTail _, List.append_nil e⟩
  rw [committed, words_group]
  exact Language.append_mem_mul (a := [p]) ⟨p, hp, rfl⟩
    (Language.append_mem_mul hc ⟨r, hr, rfl⟩)

theorem exists_of_not_bare {ts : List Token} (h : ¬ Bare ts) :
    ∃ p us, ts = p :: us ∧ p.kind = .leftParen := by
  cases ts with
  | nil => exact absurd (fun _ h => nomatch h) h
  | cons p us =>
      refine ⟨p, us, rfl, ?_⟩
      by_contra hp
      exact h fun t ht => Option.some.inj ht ▸ hp

/-- What a documented phrase derives, if it is settled where it stands, the committed one derives
too. -/
def Commits (p : Phrase) (ts : List Token) : Prop :=
  ∀ us, ts ∈ words documented (phrase p) → Settled (ts ++ us) → ts ∈ words committed (phrase p)

theorem plain_relation : relation.Plain := by
  simp [relation, relationTail, Form.Plain, Phrase.Plain]

theorem commits_clause {c : List Token} (ih : ∀ ts, ts.length ≤ c.length → Commits .clauseTail ts) :
    Commits .clause c := by
  intro us hc hs
  rw [documented, words_clause] at hc
  obtain ⟨x, hx, tail, ht, rfl⟩ := hc
  have hx' : x ∈ words committed relation :=
    mem_committed_of_plain plain_relation hx
  rw [List.append_assoc] at hs
  have ht' := ih tail (by simp) us ht hs.of_append
  rw [committed, words_clause]
  exact Language.append_mem_mul hx' ht'

/-- A group, documented, is a group. -/
theorem commit_group {x us : List Token} (hx : x ∈ words documented group) (hs : Settled (x ++ us))
    (ih : ∀ c, c.length < x.length → Commits .clause c) : x ∈ words committed group := by
  rw [documented, words_group] at hx
  obtain ⟨_, ⟨l, hl, rfl⟩, _, ⟨c, hc, _, ⟨r, hr, rfl⟩, rfl⟩, rfl⟩ := hx
  have hs' : Settled (c ++ ([r] ++ us)) := by
    simp only [List.append_assoc] at hs
    exact hs.2
  have hlen : c.length < ([l] ++ (c ++ [r])).length := by
    simp only [List.length_append, List.length_singleton]
    omega
  have hc' := ih c hlen _ hc hs'
  rw [committed, words_group]
  exact Language.append_mem_mul ⟨l, hl, rfl⟩ (Language.append_mem_mul hc' ⟨r, hr, rfl⟩)

theorem balanced_expression {e : List Token} (h : e ∈ words documented (phrase .expression)) :
    Balanced e := by
  obtain ⟨d⟩ := h
  exact d.balanced paired_documented trivial

/-- **A settled parenthesis opens a group.**  Behind a word that a group can follow, let something
begin with a parenthesised expression.  If it is settled, and its rest could not follow a group,
then there is no rest. -/
theorem group_of_settledAt {w : Token} {x us : List Token} {ks : List Kind} {m : Language Token}
    (hk : groupFollowers? w.kind = some ks) (hsign : .mathOperator ∉ ks)
    (hm : Begins m (· ∉ ks)) (hx : x ∈ words documented (phrase .expression) * m)
    (hb : ¬ Bare x) (hs : SettledAt w (x ++ us)) : x ∈ words committed group := by
  obtain ⟨p, ts, rfl, hp⟩ := exists_of_not_bare hb
  obtain ⟨e, r, more, rfl, he, hr, hmore⟩ := exists_of_paren_mem id hp hx
  have hbegin : Begins (words documented productTail * (words documented sumTail * m)) (· ∉ ks) :=
    (begins_productTail id hsign).mul ((begins_sumTail id hsign).mul hm)
  obtain ⟨t, ht, htk⟩ := hs hp ks hk
  have hbehind : behindGroup 0 ((e ++ r :: more) ++ us) = more ++ us := by
    rw [List.append_assoc]
    exact (balanced_expression he).behindGroup_close hr _
  -- `more` begins with what a group cannot be followed by, and with what follows the group
  cases more with
  | nil => exact group_of_expression hp he hr
  | cons v more =>
      have hv : some v = some t := by
        rw [← ht]
        exact congrArg List.head? hbehind.symm
      exact absurd (Option.some.inj hv ▸ htk) (hbegin v more hmore)

/-- An operand that is settled behind its `AND` or `OR`. -/
theorem commit_operand {w : Token} {x us : List Token} (hw : w.kind = .and ∨ w.kind = .or)
    (hx : x ∈ words documented (group ∪ relation)) (hs : Settled (w :: (x ++ us)))
    (ih : ∀ c, c.length < x.length → Commits .clause c) :
    x ∈ words committed (group ∪ Form.bare relation) := by
  have hk : groupFollowers? w.kind = some [.and, .or, .rightParen, .thenWord] := by
    rcases hw with hw | hw <;> rw [hw] <;> rfl
  rw [words_union] at hx ⊢
  rcases hx with hx | hx
  · exact Or.inl (commit_group hx hs.2 ih)
  · by_cases hb : Bare x
    · rw [words_bare]
      exact Or.inr ⟨mem_committed_of_plain plain_relation hx, hb⟩
    -- the relation begins with a parenthesised factor, and nothing comes behind it
    · rw [documented, words_relation] at hx
      exact Or.inl (group_of_settledAt hk (by simp) (begins_relationTail id (by simp)) hx hb hs.1)

theorem exists_of_mem_joiner {ts : List Token} (h : ts ∈ kindWords .and + kindWords .or) :
    ∃ w : Token, (w.kind = .and ∨ w.kind = .or) ∧ ts = [w] := by
  rcases h with ⟨w, hw, rfl⟩ | ⟨w, hw, rfl⟩
  · exact ⟨w, Or.inl hw, rfl⟩
  · exact ⟨w, Or.inr hw, rfl⟩

theorem commits_clauseTail (ts : List Token) : Commits .clauseTail ts := by
  induction hn : ts.length using Nat.strong_induction_on generalizing ts with
  | _ n ih =>
      subst hn
      intro us h hs
      rw [documented, words_clauseTail] at h
      rcases h with h | ⟨j, hj, _, ⟨x, hx, tail, htail, rfl⟩, rfl⟩
      · obtain rfl : ts = [] := h
        exact nil_mem_clauseTail _
      · obtain ⟨w, hw, rfl⟩ := exists_of_mem_joiner hj
        have hs' : Settled (w :: (x ++ (tail ++ us))) := by simpa using hs
        -- the clause of a group has its own tail, so the induction is on the length
        have hx' := commit_operand hw hx hs' fun c hc => commits_clause fun ts hts =>
          ih ts.length (by simp; omega) ts rfl
        have hlen : tail.length < ([w] ++ (x ++ tail)).length := by
          simp only [List.length_append, List.length_singleton]
          omega
        have htail' := ih tail.length hlen tail rfl us htail hs'.2.of_append
        rw [committed, words_clauseTail]
        exact Or.inr (Language.append_mem_mul hj (Language.append_mem_mul hx' htail'))

/-- A condition that is settled behind its `if` and before its `then`. -/
theorem commit_condition {w : Token} {x us : List Token} (hw : w.kind = .ifWord)
    (hx : x ∈ words documented (phrase .condition)) (hs : Settled (w :: (x ++ us))) :
    x ∈ words committed (phrase .condition) := by
  have hk : groupFollowers? w.kind = some [.thenWord] := by rw [hw]; rfl
  have hc : ∀ c, Commits .clause c := fun c => commits_clause fun ts _ => commits_clauseTail ts
  rw [documented, words_condition] at hx
  rw [committed, words_condition]
  rcases hx with hx | hx
  · exact Or.inl (commit_group hx hs.2 fun c _ => hc c)
  · by_cases hb : Bare x
    · rw [words_bare]
      exact Or.inr ⟨hc x us hx hs.2, hb⟩
    · rw [id, words_clause, words_relation, mul_assoc] at hx
      exact Or.inl (group_of_settledAt hk (by simp)
        ((begins_relationTail id (by simp)).mul (begins_clauseTail id (by simp) (by simp))) hx hb
        hs.1)

theorem commits_ifStatement {x : List Token}
    (ih : ∀ body, body.length < x.length → Commits .commands body) : Commits .ifStatement x := by
  intro us hx hs
  rw [documented, words_ifStatement] at hx
  obtain ⟨_, ⟨w, hw, rfl⟩, _, ⟨c, hc, _, ⟨_, ht, _, ⟨_, hl, _, ⟨body, hbody, _, hr, rfl⟩, rfl⟩,
    rfl⟩, rfl⟩, rfl⟩ := hx
  simp only [List.append_assoc] at hs
  have hc' := commit_condition hw hc hs
  have hbody' := ih body (by simp; omega) _ hbody hs.of_append.of_append.of_append.of_append
  rw [committed, words_ifStatement]
  exact Language.append_mem_mul ⟨w, hw, rfl⟩ (Language.append_mem_mul hc'
    (Language.append_mem_mul ht (Language.append_mem_mul hl
      (Language.append_mem_mul hbody' hr))))

theorem commits_command {x : List Token}
    (ih : ∀ body, body.length < x.length → Commits .commands body) : Commits .command x := by
  intro us hx hs
  rw [documented, words_command] at hx
  rw [committed, words_command]
  rcases hx with ((hx | hx) | hx) | hx
  · exact Or.inl (Or.inl (Or.inl (mem_committed_of_plain (f := phrase .inputStatement) trivial hx)))
  · exact Or.inl (Or.inl (Or.inr (mem_committed_of_plain (f := phrase .printStatement) trivial hx)))
  · exact Or.inl (Or.inr (commits_ifStatement ih us hx hs))
  · exact Or.inr (mem_committed_of_plain (f := phrase .assignment) trivial hx)

theorem commits_commands (ts : List Token) : Commits .commands ts := by
  induction hn : ts.length using Nat.strong_induction_on generalizing ts with
  | _ n ih =>
      subst hn
      intro us h hs
      rw [documented, words_commands] at h
      rw [committed, words_commands]
      rcases h with h | ⟨x, hx, tail, htail, rfl⟩
      · exact Or.inl h
      · simp only [List.append_assoc] at hs
        have hx' :=
          commits_command (fun body hb => ih body.length (by simp; omega) body rfl) _ hx hs
        have hlen : 0 < x.length := by
          refine List.length_pos_iff.mpr ?_
          rintro rfl
          exact nil_notMem_command id hx
        have htail' := ih tail.length (by simp; omega) tail rfl us htail hs.of_append
        exact Or.inr (Language.append_mem_mul hx' htail')

/-- **What is documented and settled is committed.** -/
theorem mem_committed_of_settled {ts : List Token} (h : ts ∈ words documented (phrase .program))
    (hs : Settled ts) : ts ∈ words committed (phrase .program) := by
  rw [documented, words_program] at h
  obtain ⟨_, hm, _, ⟨_, hl, _, ⟨v, hv, _, ⟨c, hc, _, hr, rfl⟩, rfl⟩, rfl⟩, rfl⟩ := h
  have hv' := mem_committed_of_plain (f := (phrase .varSection).optional)
    (by simp [Form.Plain, Phrase.Plain]) hv
  have hc' := commits_commands c _ hc hs.of_append.of_append.of_append
  rw [committed, words_program]
  exact Language.append_mem_mul hm (Language.append_mem_mul hl
    (Language.append_mem_mul hv' (Language.append_mem_mul hc' hr)))

/-! ### Programs of one condition -/

section

variable {u : Form → Form}

/-- One token can be a whole factor. -/
theorem singleton_mem_factor {t : Token} (h : t.kind = .identifier ∨ t.kind = .intLiteral) :
    [t] ∈ words (rules u) (phrase .factor) := by
  rw [words_factor]
  rcases h with h | h
  · exact Or.inl (Or.inl (Or.inl ⟨t, h, rfl⟩))
  · exact Or.inl (Or.inl (Or.inr ⟨t, h, rfl⟩))

theorem expression_of_factor {f : List Token} (h : f ∈ words (rules u) (phrase .factor)) :
    f ∈ words (rules u) (phrase .expression) := by
  rw [words_expression]
  exact ⟨f, h, [], ⟨[], nil_mem_productTail u, [], nil_mem_sumTail u, rfl⟩, List.append_nil f⟩

theorem factor_of_parens {e : List Token} {l r : Token} (hl : l.kind = .leftParen)
    (he : e ∈ words (rules u) (phrase .expression)) (hr : r.kind = .rightParen) :
    l :: (e ++ [r]) ∈ words (rules u) (phrase .factor) := by
  rw [words_factor]
  exact Or.inr ⟨[l], ⟨l, hl, rfl⟩, e ++ [r], ⟨e, he, [r], ⟨r, hr, rfl⟩, rfl⟩, rfl⟩

theorem expression_of_sum {f g : List Token} {t : Token}
    (hf : f ∈ words (rules u) (phrase .factor))
    (ht : t.kind = .mathOperator ∧ t.lexeme ∈ ["+", "-"])
    (hg : g ∈ words (rules u) (phrase .factor)) :
    f ++ t :: g ∈ words (rules u) (phrase .expression) := by
  have hs : t :: g ∈ words (rules u) sumTail := by
    rw [words_sumTail]
    exact Or.inr ⟨[t], ⟨t, ht, rfl⟩, g, ⟨g, hg, [],
      ⟨[], nil_mem_productTail u, [], nil_mem_sumTail u, rfl⟩, List.append_nil g⟩, rfl⟩
  rw [words_expression]
  exact ⟨f, hf, t :: g, ⟨[], nil_mem_productTail u, t :: g, hs, rfl⟩, rfl⟩

theorem clause_of_comparison {a b : List Token} {t : Token}
    (ha : a ∈ words (rules u) (phrase .expression)) (ht : t.kind = .relOperator)
    (hb : b ∈ words (rules u) (phrase .expression)) :
    a ++ t :: b ∈ words (rules u) (phrase .clause) := by
  have hr : a ++ t :: b ∈ words (rules u) relation := by
    rw [words_relation, words_relationTail]
    exact ⟨a, ha, t :: b, Or.inr ⟨[t], ⟨t, ht, rfl⟩, b, hb, rfl⟩, rfl⟩
  rw [words_clause]
  exact ⟨a ++ t :: b, hr, [], nil_mem_clauseTail u, List.append_nil _⟩

end

/-- A program of one `if` command without commands in it. -/
theorem program_of_clause {c : List Token} {m k w t l r e : Token}
    (hc : c ∈ words documented (phrase .clause)) (hm : m.kind = .main) (hk : k.kind = .leftBrace)
    (hw : w.kind = .ifWord) (ht : t.kind = .thenWord) (hl : l.kind = .leftBrace)
    (hr : r.kind = .rightBrace) (he : e.kind = .rightBrace) :
    Derives documented (phrase .program) (m :: k :: w :: (c ++ [t, l, r, e])) := by
  have hi : w :: (c ++ [t, l, r]) ∈ words documented (phrase .ifStatement) := by
    rw [documented, words_ifStatement, words_condition]
    exact ⟨[w], ⟨w, hw, rfl⟩, _, ⟨c, Or.inr hc, _, ⟨[t], ⟨t, ht, rfl⟩, _, ⟨[l], ⟨l, hl, rfl⟩, _,
      ⟨[], nil_mem_commands id, [r], ⟨r, hr, rfl⟩, rfl⟩, rfl⟩, rfl⟩, rfl⟩, rfl⟩
  have hcs : w :: (c ++ [t, l, r]) ∈ words documented (phrase .commands) := by
    rw [documented, words_commands, words_command]
    exact Or.inr ⟨_, Or.inl (Or.inr hi), [], nil_mem_commands id, List.append_nil _⟩
  have hv : [] ∈ words documented (phrase .varSection).optional := by
    rw [words_optional]
    exact Or.inl rfl
  have hp : m :: k :: w :: (c ++ [t, l, r, e]) ∈ words documented (phrase .program) := by
    rw [documented, words_program]
    exact ⟨[m], ⟨m, hm, rfl⟩, _, ⟨[k], ⟨k, hk, rfl⟩, _, ⟨[], hv, _, ⟨_, hcs, [e], ⟨e, he, rfl⟩,
      rfl⟩, rfl⟩, rfl⟩, by simp⟩
  exact hp

/-- `(a)+1`, with its parenthesis in column `n`. -/
theorem parenthesised_sum (n : Nat) :
    [⟨.leftParen, "(", ⟨1, n⟩⟩, ⟨.identifier, "a", ⟨1, n + 1⟩⟩, ⟨.rightParen, ")", ⟨1, n + 2⟩⟩,
      ⟨.mathOperator, "+", ⟨1, n + 3⟩⟩, ⟨.intLiteral, "1", ⟨1, n + 4⟩⟩] ∈
      words documented (phrase .expression) := by
  have ha : [⟨.identifier, "a", ⟨1, n + 1⟩⟩] ∈ words documented (phrase .expression) :=
    expression_of_factor (singleton_mem_factor (Or.inl rfl))
  have hf := factor_of_parens (l := ⟨.leftParen, "(", ⟨1, n⟩⟩) (r := ⟨.rightParen, ")", ⟨1, n + 2⟩⟩)
    rfl ha rfl
  exact expression_of_sum hf ⟨rfl, List.mem_cons_self⟩ (singleton_mem_factor (Or.inr rfl))

theorem zero_expression (n : Nat) :
    [⟨.intLiteral, "0", ⟨1, n⟩⟩] ∈ words documented (phrase .expression) :=
  expression_of_factor (singleton_mem_factor (Or.inr rfl))

/-- The text around a condition that stands in columns 9 to 15. -/
theorem derives_of_clause {c : List Token} (hc : c ∈ words documented (phrase .clause)) :
    Derives documented (phrase .program) (⟨.main, "main", ⟨1, 1⟩⟩ :: ⟨.leftBrace, "\x7b", ⟨1, 5⟩⟩ ::
      ⟨.ifWord, "if", ⟨1, 6⟩⟩ :: (c ++ [⟨.thenWord, "then", ⟨1, 17⟩⟩, ⟨.leftBrace, "\x7b", ⟨1, 21⟩⟩,
        ⟨.rightBrace, "\x7d", ⟨1, 22⟩⟩, ⟨.rightBrace, "\x7d", ⟨1, 23⟩⟩])) :=
  program_of_clause hc rfl rfl rfl rfl rfl rfl rfl

theorem derives_factor_first :
    ∃ ts, tokenize "main\x7bif (a)+1>0 then\x7b\x7d\x7d" = .ok ts ∧
      Derives documented (phrase .program) ts ∧ ¬ Settled ts := by
  have hc := clause_of_comparison (t := ⟨.relOperator, ">", ⟨1, 14⟩⟩) (parenthesised_sum 9) rfl
    (zero_expression 15)
  refine ⟨_, by cbv, derives_of_clause hc, ?_⟩
  intro hs
  obtain ⟨-, -, hw, -⟩ := hs
  simp [SettledAt, groupFollowers?, behindGroup] at hw

theorem derives_factor_last :
    ∃ ts, tokenize "main\x7bif 0<(a)+1 then\x7b\x7d\x7d" = .ok ts ∧
      Derives documented (phrase .program) ts ∧ Settled ts := by
  have hc := clause_of_comparison (t := ⟨.relOperator, "<", ⟨1, 10⟩⟩) (zero_expression 9) rfl
    (parenthesised_sum 11)
  refine ⟨_, by cbv, derives_of_clause hc, ?_⟩
  simp [Settled, SettledAt, groupFollowers?]

end SourceCheck.Grammar

namespace SourceCheck

open Grammar
open Grammar.Form (phrase)

/-- **Which documented programs are accepted.**  A text whose tokens are a program of the
documented grammar is accepted just when its tokens are settled: every parenthesis behind `if`
closes right before `then`, and every one behind `AND` or `OR` closes right before `AND`, `OR`, a
closing parenthesis or `then`. -/
theorem check_documented {source : String} {ts : List Token} (ht : tokenize source = .ok ts)
    (hd : Derives documented (phrase .program) ts) : check source = .ok () ↔ Settled ts := by
  obtain ⟨hn, rfl⟩ := tokenize_eq_ok_iff.mp ht
  rw [check_eq_ok_iff_outcome, report, outcome_ok_iff orderly_program]
  refine ⟨?_, ?_⟩
  · rintro ⟨-, hm⟩
    exact settled_of_mem_spelled orderly_program hm
  · intro hs
    rw [spelled_program]
    exact ⟨hn, mem_committed_of_settled hd hs⟩

/-- A parenthesised factor may begin a comparison or end it, by the documented grammar; where it
begins one, the text is rejected. -/
theorem check_documented_comparison :
    (∃ ts, tokenize "main\x7bif (a)+1>0 then\x7b\x7d\x7d" = .ok ts ∧
      Derives documented (phrase .program) ts ∧ ¬ Settled ts ∧
      check "main\x7bif (a)+1>0 then\x7b\x7d\x7d" ≠ .ok ()) ∧
    ∃ ts, tokenize "main\x7bif 0<(a)+1 then\x7b\x7d\x7d" = .ok ts ∧
      Derives documented (phrase .program) ts ∧ Settled ts ∧
      check "main\x7bif 0<(a)+1 then\x7b\x7d\x7d" = .ok () := by
  obtain ⟨ts, ht, hd, hs⟩ := derives_factor_first
  obtain ⟨us, ht', hd', hs'⟩ := derives_factor_last
  refine ⟨⟨ts, ht, hd, hs, fun h => hs ((check_documented ht hd).mp h)⟩, us, ht', hd', hs', ?_⟩
  exact (check_documented ht' hd').mpr hs'

/-- A condition that begins with a parenthesised factor is rejected right behind that factor. -/
theorem documented_rejected :
    ∃ ts, tokenize "main\x7bif (a)+1>0 then\x7b\x7d\x7d" = .ok ts ∧
      Derives documented (phrase .program) ts ∧
      check "main\x7bif (a)+1>0 then\x7b\x7d\x7d" =
        .error (.syntactic ⟨"expected THEN 'then', found MATH(+)", some ⟨1, 12⟩⟩) := by
  obtain ⟨ts, ht, hd, -⟩ := derives_factor_first
  exact ⟨ts, ht, hd, by cbv⟩

end SourceCheck

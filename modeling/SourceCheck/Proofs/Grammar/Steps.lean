import SourceCheck.Proofs.Grammar.Verdict

/-!
# Grammar — a recognition step by step

A recognition under way is a stack of symbols and the stream that begins with the lookahead
(`Config`).  One step (`Step`) deals with the symbol on top: it is passed and taken off the stack,
or it reads the lookahead and leaves the symbols that are still to come.

* `Step.outcome_eq`: a step changes nothing about the outcome of the recognition.
* `Step.rank_lt`: a step reads a token, or else makes the stack shorter.  So no recognition goes on
  for ever (`wellFounded_step`), and one that does not make the stack shorter has read a token
  (`left_lt_of_length_le`).
* `exists_final`: every recognition ends, and its outcome is to be seen from where it ends.
-/

namespace SourceCheck.Grammar

open Relation (ReflTransGen TransGen)

/-- A recognition under way: the symbols still to be read, and what is ahead.  The first token ahead
is the lookahead. -/
structure Config where
  stack : List Symbol
  ahead : TokenStream

namespace Config

/-- How many tokens are ahead. -/
def left (c : Config) : Nat :=
  c.ahead.tokens.length

/-- The outcome of going on from here. -/
def outcome (c : Config) : Except Rejection Unit :=
  (recognize c.stack c.ahead).outcome

/-- The tokens that are ahead, and then the symbols on the stack. -/
def rank (c : Config) : Nat ×ₗ Nat :=
  toLex (c.left, c.stack.length)

end Config

/-- The symbol is done without reading anything of what is ahead. -/
def Symbol.Passes (s : Symbol) : TokenStream → Prop
  | .token t _ => s.meet t = .pass ∨ ∃ e, s.meet t = .log e
  | .fault _ => False
  | .finish _ => s.demand? = none

/-- What becomes of the symbol on top of the stack. -/
inductive Step : Config → Config → Prop where
  | pass {s : Symbol} {stack : List Symbol} {ahead : TokenStream} (h : s.Passes ahead) :
      Step ⟨s :: stack, ahead⟩ ⟨stack, ahead⟩
  | read {s : Symbol} {stack next : List Symbol} {t : Token} {rest : TokenStream}
      {events : List Event} (h : s.meet t = .read events next) :
      Step ⟨s :: stack, .token t rest⟩ ⟨next ++ stack, rest⟩

variable {c d : Config}

/-! ### Steps and outcomes -/

/-- The outcome at a token, from what becomes of it. -/
theorem outcome_token (stack : List Symbol) (t : Token) (rest : TokenStream) :
    (recognize stack (.token t rest)).outcome =
      match (feed t stack).2 with
      | .ok stack' => (recognize stack' rest).outcome
      | .error e => .error (.mismatch ⟨e, some t⟩) := by
  rw [recognize]
  split
  · next h =>
      rw [h]
      rfl
  · next h =>
      rw [h]
      rfl

/-- The outcome at the end of the input. -/
theorem outcome_finish (stack : List Symbol) (stop : Position) :
    (recognize stack (.finish stop)).outcome =
      match (finish stack).2 with
      | .ok () => .ok ()
      | .error e => .error (.mismatch ⟨e, none⟩) := by
  rw [recognize]
  split
  · next h => rw [h]
  · next h =>
      rw [h]
      rfl

/-- **A step** changes nothing about the outcome. -/
theorem Step.outcome_eq (h : Step c d) : c.outcome = d.outcome := by
  cases h with
  | @pass s stack ahead h =>
      cases ahead with
      | token t rest =>
          have hfeed : (feed t (s :: stack)).2 = (feed t stack).2 := by
            rw [feed_cons_snd]
            rcases h with h | ⟨e, h⟩ <;> rw [h]
          rw [Config.outcome, Config.outcome, outcome_token, outcome_token, hfeed]
      | fault e => exact h.elim
      | finish stop =>
          have hfinish : (finish (s :: stack)).2 = (finish stack).2 := by
            rw [finish_cons_snd, show s.demand? = none from h]
          rw [Config.outcome, Config.outcome, outcome_finish, outcome_finish, hfinish]
  | read h => rw [Config.outcome, Config.outcome, outcome_token, feed_cons_snd, h]

theorem outcome_eq_of_run (h : ReflTransGen Step c d) : c.outcome = d.outcome := by
  induction h with
  | refl => rfl
  | tail _ hstep ih => exact ih.trans hstep.outcome_eq

/-! ### Progress -/

/-- **A step** reads a token, or makes the stack shorter. -/
theorem Step.rank_lt (h : Step c d) : d.rank < c.rank := by
  cases h with
  | pass h => exact Prod.Lex.right _ (Nat.lt_succ_self _)
  | read h => exact Prod.Lex.left _ _ (Nat.lt_succ_self _)

/-- **No recognition goes on for ever.** -/
theorem wellFounded_step : WellFounded fun d c => Step c d :=
  Subrelation.wf (fun h => h.rank_lt) (InvImage.wf Config.rank wellFounded_lt)

theorem rank_lt_of_run (h : TransGen Step c d) : d.rank < c.rank := by
  induction h with
  | single hstep => exact hstep.rank_lt
  | tail _ hstep ih => exact hstep.rank_lt.trans ih

/-- No token comes back. -/
theorem left_le_of_run (h : ReflTransGen Step c d) : d.left ≤ c.left := by
  rcases Relation.reflTransGen_iff_eq_or_transGen.mp h with rfl | h
  · exact le_rfl
  · rcases Prod.Lex.lt_iff.mp (rank_lt_of_run h) with hlt | ⟨heq, -⟩
    · exact hlt.le
    · exact heq.le

/-- **A recognition that does not make its stack shorter** has read a token. -/
theorem left_lt_of_length_le (h : TransGen Step c d) (hl : c.stack.length ≤ d.stack.length) :
    d.left < c.left := by
  rcases Prod.Lex.lt_iff.mp (rank_lt_of_run h) with hlt | ⟨-, hlt⟩
  · exact hlt
  · exact absurd hl (Nat.not_le.mpr hlt)

/-! ### Ends -/

/-- A symbol that cannot take a step at a token refuses it. -/
theorem outcome_of_final_token {s : Symbol} {stack : List Symbol} {t : Token} {rest : TokenStream}
    (h : ∀ d, ¬ Step ⟨s :: stack, .token t rest⟩ d) :
    ∃ e, (⟨s :: stack, .token t rest⟩ : Config).outcome = .error (.mismatch ⟨e, some t⟩) := by
  rw [Config.outcome, outcome_token, feed_cons_snd]
  cases hm : s.meet t with
  | log e => exact absurd (.pass (Or.inr ⟨e, hm⟩)) (h _)
  | pass => exact absurd (.pass (Or.inl hm)) (h _)
  | read events next => exact absurd (.read hm) (h _)
  | refuse e => exact ⟨e, rfl⟩

/-- A symbol that cannot take a step at the end of the input asks for something. -/
theorem outcome_of_final_finish {s : Symbol} {stack : List Symbol} {stop : Position}
    (h : ∀ d, ¬ Step ⟨s :: stack, .finish stop⟩ d) :
    ∃ e, (⟨s :: stack, .finish stop⟩ : Config).outcome = .error (.mismatch ⟨e, none⟩) := by
  rw [Config.outcome, outcome_finish, finish_cons_snd]
  cases hd : s.demand? with
  | none => exact absurd (.pass hd) (h _)
  | some e => exact ⟨e, rfl⟩

/-- Where no step is left to take, a text is accepted just if nothing is left to read. -/
theorem outcome_of_final (h : ∀ d, ¬ Step c d) :
    c.outcome = .ok () ↔ ∃ stop, c = ⟨[], .finish stop⟩ := by
  obtain ⟨stack, ahead⟩ := c
  constructor
  · intro hok
    cases ahead with
    | token t rest =>
        cases stack with
        | nil => cases hok
        | cons s stack =>
            obtain ⟨e, he⟩ := outcome_of_final_token h
            cases he.symm.trans hok
    | fault e => cases hok
    | finish stop =>
        cases stack with
        | nil => exact ⟨stop, rfl⟩
        | cons s stack =>
            obtain ⟨e, he⟩ := outcome_of_final_finish h
            cases he.symm.trans hok
  · rintro ⟨stop, hc⟩
    cases hc
    rfl

/-- **Every recognition ends**, and with the outcome that is to be seen there. -/
theorem exists_final (c : Config) :
    ∃ d, ReflTransGen Step c d ∧ (∀ e, ¬ Step d e) ∧
      (c.outcome = .ok () ↔ ∃ stop, d = ⟨[], .finish stop⟩) := by
  obtain ⟨d, hrun, hfinal⟩ :=
    wellFounded_step.has_min {d | ReflTransGen Step c d} ⟨c, .refl⟩
  have hend : ∀ e, ¬ Step d e := fun e hstep => hfinal e (hrun.tail hstep) hstep
  exact ⟨d, hrun, hend, outcome_eq_of_run hrun ▸ outcome_of_final hend⟩

end SourceCheck.Grammar

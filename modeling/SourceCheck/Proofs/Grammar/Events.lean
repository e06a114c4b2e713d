import SourceCheck.Proofs.Grammar.Verdict

/-!
# Grammar — the events of a recognition

The recogniser logs a grammar rule when it reads a token, or notes it on the stack to be logged
later.  All other events come from the tokens and from the end of the recognition.

* `feed_logs`, `finish_logs`: what the recogniser logs are rules and the notes of its stack.
* `Course stream verdict events`: the events are those of a recognition of the stream that ends with
  the verdict, with any number of rules between them.
* `recognize_course`: so are the events of every recognition.
-/

namespace SourceCheck.Grammar

/-! ### Notes -/

/-- The events that the symbols of a stack have still to log. -/
def notes : List Symbol → List Event
  | [] => []
  | .note e :: stack => e :: notes stack
  | _ :: stack => notes stack

theorem notes_append (a b : List Symbol) : notes (a ++ b) = notes a ++ notes b := by
  induction a with
  | nil => rfl
  | cons s a ih => cases s <;> simp [notes, ih]

theorem mem_notes_cons {s : Symbol} {stack : List Symbol} {e : Event} (h : e ∈ notes stack) :
    e ∈ notes (s :: stack) := by
  cases s with
  | note e' => exact List.mem_cons_of_mem e' h
  | _ => exact h

/-! ### What the recogniser logs -/

/-- All of the events are grammar rules. -/
def RulesOnly (events : List Event) : Prop :=
  ∀ e ∈ events, ∃ r, e = .rule r

theorem rulesOnly_of_meetAtom {t : Token} {events : List Event} {next : List Symbol}
    (h : Symbol.meetAtom t = .read events next) : RulesOnly (events ++ notes next) := by
  unfold Symbol.meetAtom at h
  split at h <;> cases h
  all_goals simp [RulesOnly, notes]

theorem rulesOnly_of_meetFactor {t : Token} {events : List Event} {next : List Symbol}
    (h : Symbol.meetFactor t = .read events next) : RulesOnly (events ++ notes next) := by
  unfold Symbol.meetFactor at h
  split at h
  · cases h
    simp [RulesOnly, notes, Symbol.expression]
  · exact rulesOnly_of_meetAtom h

/-- A symbol that reads a token logs grammar rules only, at once or later. -/
theorem rulesOnly_of_meet {t : Token} {s : Symbol} {events : List Event} {next : List Symbol}
    (h : s.meet t = .read events next) : RulesOnly (events ++ notes next) := by
  cases s with
  | note e => cases h
  | factor => exact rulesOnly_of_meetFactor h
  | commands =>
      simp only [Symbol.meet, Symbol.meetCommand] at h
      split at h <;> cases h
      all_goals simp [RulesOnly, notes, Symbol.expression]
  | printArgument =>
      simp only [Symbol.meet] at h
      split at h
      · cases h
        simp [RulesOnly, notes]
      · obtain ⟨first, hf, rfl⟩ := Reaction.read_of_andThen h
        simpa [notes_append, notes] using rulesOnly_of_meetFactor hf
  | condition | operand =>
      simp only [Symbol.meet] at h
      split at h
      · cases h
        simp [RulesOnly, notes, Symbol.groupTail, Symbol.clause, Symbol.expression]
      · obtain ⟨first, hf, rfl⟩ := Reaction.read_of_andThen h
        simpa [notes_append, notes] using rulesOnly_of_meetAtom hf
  | terminal | typeName | varSection | declarations | productTail | sumTail | relationTail
  | clauseTail =>
      simp only [Symbol.meet] at h
      split at h <;> cases h
      all_goals simp [RulesOnly, notes, Symbol.expression]

section

variable {P : Event → Prop} {stack : List Symbol}

/-- **The recogniser over a token** logs rules and notes of its stack, and notes further rules. -/
theorem feed_logs (hP : ∀ r, P (.rule r)) (h : ∀ e ∈ notes stack, P e) (t : Token) :
    (∀ e ∈ (feed t stack).1, P e) ∧
      ∀ stack', (feed t stack).2 = .ok stack' → ∀ e ∈ notes stack', P e := by
  induction stack with
  | nil =>
      refine ⟨fun e he => ?_, fun stack' hf => ?_⟩
      · cases he
      · cases hf
  | cons s stack ih =>
      have hbelow : ∀ e ∈ notes stack, P e := fun e he => h e (mem_notes_cons he)
      obtain ⟨hlog, hnotes⟩ := ih hbelow
      rw [feed]
      cases hm : s.meet t with
      | log e =>
          obtain rfl := note_of_meet_log hm
          refine ⟨fun e' he' => ?_, hnotes⟩
          rcases List.mem_cons.mp he' with rfl | he'
          · exact h _ List.mem_cons_self
          · exact hlog e' he'
      | pass => exact ⟨hlog, hnotes⟩
      | read events next =>
          have hrule : ∀ e ∈ events ++ notes next, P e := by
            intro e he
            obtain ⟨r, rfl⟩ := rulesOnly_of_meet hm e he
            exact hP r
          refine ⟨fun e he => hrule e (List.mem_append_left _ he), fun stack' hf e he => ?_⟩
          obtain rfl := Except.ok.inj hf
          rw [notes_append] at he
          rcases List.mem_append.mp he with he | he
          · exact hrule e (List.mem_append_right _ he)
          · exact hbelow e he
      | refuse e =>
          refine ⟨fun e he => ?_, fun stack' hf => ?_⟩
          · cases he
          · cases hf

/-- At the end of the input the recogniser logs notes of its stack. -/
theorem finish_logs (h : ∀ e ∈ notes stack, P e) : ∀ e ∈ (finish stack).1, P e := by
  induction stack with
  | nil =>
      intro e he
      cases he
  | cons s stack ih =>
      have hlog := ih fun e he => h e (mem_notes_cons he)
      cases s with
      | note e =>
          intro e' he'
          rcases List.mem_cons.mp he' with rfl | he'
          · exact h _ List.mem_cons_self
          · exact hlog e' he'
      | terminal | typeName | printArgument | factor | condition | operand =>
          intro e he
          cases he
      | varSection | declarations | commands | productTail | sumTail | relationTail
      | clauseTail => exact hlog

end

/-! ### One token after the other -/

section

variable {t : Token} {stack : List Symbol} (rest : TokenStream)

theorem recognize_read {stack' : List Symbol} (h : (feed t stack).2 = .ok stack') :
    recognize stack (.token t rest) =
      (recognize stack' rest).after (.token t :: (feed t stack).1) := by
  rw [recognize]
  split <;> simp_all

theorem recognize_refused {e : Expectation} (h : (feed t stack).2 = .error e) :
    recognize stack (.token t rest) =
      (Report.ofMismatch ⟨e, some t⟩).after (.token t :: (feed t stack).1) := by
  rw [recognize]
  split <;> simp_all

end

/-! ### The course of a recognition -/

/-- The recogniser's own events: its start and the rules that it applies. -/
def Own (events : List Event) : Prop :=
  ∀ e ∈ events, e = .parseStarted ∨ ∃ r, e = .rule r

/-- The event of an error. -/
def errorEvent : Diagnostic → Event
  | .lexical e => .lexicalError e
  | .syntactic e => .syntaxError e

/-- The events of a recognition, as the stream and the verdict have it: each token that is pulled,
up to the end of the input or the error.  In between stand the recogniser's own. -/
inductive Course : TokenStream → Verdict → List Event → Prop where
  | flaw (e : LexicalError) :
      Course (.fault e) (.error (.lexical e)) [errorEvent (.lexical e)]
  | accepted {stop : Position} {own : List Event} (ho : Own own) :
      Course (.finish stop) (.ok ()) (.inputEnd stop :: own ++ [.parseFinished stop])
  | ended {stop : Position} {own : List Event} {e : SyntaxError} (ho : Own own)
      (hl : e.location = none) :
      Course (.finish stop) (.error (.syntactic e))
        (.inputEnd stop :: own ++ [errorEvent (.syntactic e)])
  | refused {t : Token} {rest : TokenStream} {own : List Event} {e : SyntaxError}
      (ho : Own own) (hl : e.location = some t.location) :
      Course (.token t rest) (.error (.syntactic e))
        (.token t :: own ++ [errorEvent (.syntactic e)])
  | token {t : Token} {rest : TokenStream} {verdict : Verdict} {own events : List Event}
      (ho : Own own) (h : Course rest verdict events) :
      Course (.token t rest) verdict (.token t :: own ++ events)

/-- **The course of a recognition.** -/
theorem recognize_course {stack : List Symbol} (h : Own (notes stack)) (stream : TokenStream) :
    Course stream (recognize stack stream).verdict (recognize stack stream).events := by
  induction stream generalizing stack with
  | token t rest ih =>
      obtain ⟨hlog, hnotes⟩ := feed_logs (fun r => Or.inr ⟨r, rfl⟩) h t
      cases hf : (feed t stack).2 with
      | ok stack' =>
          rw [recognize_read rest hf]
          exact .token hlog (ih (hnotes stack' hf))
      | error e =>
          rw [recognize_refused rest hf]
          exact .refused hlog rfl
  | fault e => exact .flaw e
  | finish stop =>
      have hlog := finish_logs h
      rw [recognize]
      split
      · next hf =>
          rw [hf] at hlog
          exact .accepted hlog
      · next hf =>
          rw [hf] at hlog
          exact .ended hlog rfl

end SourceCheck.Grammar

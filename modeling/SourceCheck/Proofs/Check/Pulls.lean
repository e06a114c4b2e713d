import SourceCheck.Proofs.Grammar.Events
import SourceCheck.Proofs.Scan.Course

/-!
# Check — the log shows what was pulled

A check pulls one token after the other and stops at the first error.  Its log has each token that
was pulled, the end of the input if that was reached, and last the error or the end of the check.

* `Course.tokens_of_located`, `Course.tokens_eq`: which tokens a course has.
* `Course.inputEnds`, `Course.errors`, `Course.finished_iff`: how a course ends.
* `recognize_note`: a note on top of the stack is logged right behind the first pull.
* `stop?_ofString`: the input ends at the position behind the last character of the text.
* `report_events`: what the log of a check shows.
-/

namespace SourceCheck

open Position (origin)

/-! ### Kinds of events -/

namespace Event

def token? : Event → Option Token
  | token t => some t
  | _ => none

def inputEnd? : Event → Option Position
  | inputEnd p => some p
  | _ => none

/-- The error that an event reports. -/
def error? : Event → Option Diagnostic
  | lexicalError e => some (.lexical e)
  | syntaxError e => some (.syntactic e)
  | _ => none

end Event

/-- The position of the end of the input, if no flaw cuts the stream short. -/
def TokenStream.stop? : TokenStream → Option Position
  | token _ rest => rest.stop?
  | fault _ => none
  | finish stop => some stop

namespace Grammar

/-- The recogniser's own events are none of these. -/
theorem Own.filterMap {β : Type} {f : Event → Option β} {own : List Event} (h : Own own)
    (hs : f .parseStarted = none) (hr : ∀ r, f (.rule r) = none) (first : Event)
    (events : List Event) :
    (first :: own ++ events).filterMap f = (f first).toList ++ events.filterMap f := by
  have hnone : own.filterMap f = [] := by
    refine List.filterMap_eq_nil_iff.mpr fun e he => ?_
    obtain rfl | ⟨r, rfl⟩ := h e he
    · exact hs
    · exact hr r
  rw [List.filterMap_append, List.filterMap_cons, hnone]
  cases f first <;> rfl

/-! ### Clauses of a course -/

/-- The check has come to the end of the input. -/
def ReachesEnd (verdict : Verdict) : Prop :=
  verdict = .ok () ∨ ∃ e, verdict = .error (.syntactic e) ∧ e.location = none

namespace Course

variable {stream : TokenStream} {verdict : Verdict} {events : List Event}

theorem ne_nil (h : Course stream verdict events) : events ≠ [] := by
  cases h <;> exact List.cons_ne_nil _ _

/-- **An error at a token** is one at the last token that was pulled. -/
theorem tokens_of_located (h : Course stream verdict events) {e : SyntaxError} {p : Position}
    (hv : verdict = .error (.syntactic e)) (hp : e.location = some p) :
    ∃ front t back, stream.tokens = front ++ t :: back ∧ t.location = p ∧
      events.filterMap Event.token? = front ++ [t] := by
  induction h with
  | flaw => cases hv
  | accepted => cases hv
  | ended ho hl =>
      cases hv
      rw [hl] at hp
      cases hp
  | @refused t rest own e ho hl =>
      cases hv
      refine ⟨[], t, rest.tokens, rfl, Option.some.inj (hl.symm.trans hp), ?_⟩
      rw [ho.filterMap rfl fun r => rfl]
      rfl
  | @token t rest verdict own events ho _ ih =>
      obtain ⟨front, u, back, hs, hu, he⟩ := ih hv
      refine ⟨t :: front, u, back, congrArg (t :: ·) hs, hu, ?_⟩
      rw [ho.filterMap rfl fun r => rfl, he]
      rfl

/-- **Otherwise** all tokens were pulled. -/
theorem tokens_eq (h : Course stream verdict events)
    (hv : ∀ e, verdict = .error (.syntactic e) → e.location = none) :
    events.filterMap Event.token? = stream.tokens := by
  induction h with
  | flaw e => rfl
  | accepted ho | ended ho =>
      rw [ho.filterMap rfl fun r => rfl]
      rfl
  | refused ho hl =>
      have hn := hv _ rfl
      rw [hl] at hn
      cases hn
  | token ho _ ih =>
      rw [ho.filterMap rfl fun r => rfl, ih hv]
      rfl

/-- **The end of the input** is logged just if the check comes to it, and then once. -/
theorem inputEnds (h : Course stream verdict events) :
    ReachesEnd verdict ∧ (∃ stop, events.filterMap Event.inputEnd? = [stop]) ∨
      ¬ ReachesEnd verdict ∧ events.filterMap Event.inputEnd? = [] := by
  induction h with
  | flaw e => exact Or.inr ⟨by simp [ReachesEnd], rfl⟩
  | @accepted stop own ho =>
      refine Or.inl ⟨Or.inl rfl, stop, ?_⟩
      rw [ho.filterMap rfl fun r => rfl]
      rfl
  | @ended stop own e ho hl =>
      refine Or.inl ⟨Or.inr ⟨e, rfl, hl⟩, stop, ?_⟩
      rw [ho.filterMap rfl fun r => rfl]
      rfl
  | refused ho hl =>
      refine Or.inr ⟨by simp [ReachesEnd, hl], ?_⟩
      rw [ho.filterMap rfl fun r => rfl]
      rfl
  | token ho _ ih =>
      rw [ho.filterMap rfl fun r => rfl]
      exact ih

/-- **One error**, and nothing behind it. -/
theorem errors (h : Course stream verdict events) {d : Diagnostic} (hv : verdict = .error d) :
    events.filterMap Event.error? = [d] ∧ events.getLast? = some (errorEvent d) := by
  induction h with
  | flaw e =>
      cases hv
      exact ⟨rfl, rfl⟩
  | accepted => cases hv
  | ended ho | refused ho =>
      cases hv
      rw [ho.filterMap rfl fun r => rfl]
      exact ⟨rfl, List.getLast?_concat⟩
  | token ho h ih =>
      rw [ho.filterMap rfl fun r => rfl, List.getLast?_append_of_ne_nil _ h.ne_nil]
      exact ih hv

/-- **The end of a check** is logged where the input ends, and nothing behind it. -/
theorem finished_iff (h : Course stream verdict events) {p : Position} :
    events.getLast? = some (.parseFinished p) ↔ verdict = .ok () ∧ stream.stop? = some p := by
  induction h with
  | flaw e => simp [errorEvent]
  | accepted ho =>
      rw [List.getLast?_concat]
      simp [TokenStream.stop?]
  | ended ho | refused ho =>
      rw [List.getLast?_concat]
      simp [errorEvent]
  | token ho h ih =>
      rw [List.getLast?_append_of_ne_nil _ h.ne_nil]
      exact ih

end Course

/-! ### The first pull -/

/-- **A note on top of the stack** is logged right behind the first pull, if that finds no flaw. -/
theorem recognize_note (e : Event) (stack : List Symbol) {stream : TokenStream}
    {answer : Option Token} (h : stream.head = .ok answer) :
    ∃ first more, first.part = .scanner ∧ (recognize stack stream).events = first :: more ∧
      (recognize (.note e :: stack) stream).events = first :: e :: more := by
  cases stream with
  | token t rest =>
      have hn : feed t (.note e :: stack) = (feed t stack).map (e :: ·) id := rfl
      cases hf : (feed t stack).2 with
      | ok stack' =>
          have hf' : (feed t (.note e :: stack)).2 = .ok stack' := hf
          rw [recognize_read rest hf, recognize_read rest hf', hn]
          exact ⟨.token t, _, rfl, rfl, rfl⟩
      | error x =>
          have hf' : (feed t (.note e :: stack)).2 = .error x := hf
          rw [recognize_refused rest hf, recognize_refused rest hf', hn]
          exact ⟨.token t, _, rfl, rfl, rfl⟩
  | fault f => cases h
  | finish stop =>
      have hn : finish (.note e :: stack) = (finish stack).map (e :: ·) id := rfl
      rw [recognize, recognize, hn]
      obtain ⟨events, x | u⟩ := finish stack
      · exact ⟨.inputEnd stop, _, rfl, rfl, rfl⟩
      · exact ⟨.inputEnd stop, _, rfl, rfl, rfl⟩

/-- A recognition whose stack does not note the start does not log it. -/
theorem parseStarted_notMem {stack : List Symbol} (h : ∀ e ∈ notes stack, e ≠ .parseStarted)
    (stream : TokenStream) : .parseStarted ∉ (recognize stack stream).events := by
  induction stream generalizing stack with
  | token t rest ih =>
      obtain ⟨hlog, hnotes⟩ := feed_logs (P := (· ≠ .parseStarted)) (fun r => nofun) h t
      have hfeed : .parseStarted ∉ (feed t stack).1 := fun he => hlog _ he rfl
      cases hf : (feed t stack).2 with
      | ok stack' =>
          rw [recognize_read rest hf]
          simpa [Report.after, hfeed] using ih (hnotes stack' hf)
      | error x =>
          rw [recognize_refused rest hf]
          simpa [Report.after, Report.ofMismatch] using hfeed
  | fault e => simp [recognize]
  | finish stop =>
      have hlog : .parseStarted ∉ (finish stack).1 := fun he => finish_logs h _ he rfl
      rw [recognize]
      split
      · next hf =>
          rw [hf] at hlog
          simpa using hlog
      · next hf =>
          rw [hf] at hlog
          simpa [Report.after, Report.ofMismatch] using hlog

end Grammar

/-! ### The two ends of a stream -/

theorem Scan.Yields.stop?_eq {before text : List Char} {stream : TokenStream}
    (h : Yields before text stream) (hf : stream.fault? = none) :
    stream.stop? = some (origin.after (before ++ text)) := by
  induction h with
  | finish hg => exact congrArg some (Position.after_origin _).symm
  | flaw hg hf' => cases hf
  | token hg hl he _ ih =>
      rw [List.append_assoc, List.append_assoc] at ih
      exact ih hf

/-- **The end of the input** is behind the last character of the text. -/
theorem stop?_ofString {source : String} (h : (TokenStream.ofString source).fault? = none) :
    (TokenStream.ofString source).stop? = some (origin.after source.toList) :=
  (Scan.yields_ofReader [] source.toList).stop?_eq h

/-- The first answer of a scanner is what its stream begins with. -/
theorem head_ofString (source : String) :
    (TokenStream.ofString source).head = (Scanner.ofString source).nextToken.1 := by
  rw [TokenStream.ofString, TokenStream.ofReader_eq]
  simp only [Scanner.nextToken, Scanner.ofString, Bool.false_eq_true, if_false]
  cases (Reader.ofString source).scan <;> rfl

/-! ### The log of a check -/

open Grammar

theorem check_course (source : String) :
    Course (TokenStream.ofString source) (check source) (report source).events := by
  refine recognize_course ?_ (TokenStream.ofString source)
  simp [Own, notes, Symbol.program]

theorem fault?_of_check_ok {source : String} (h : check source = .ok ()) :
    (TokenStream.ofString source).fault? = none :=
  ((outcome_ok_iff orderly_program).mp (check_eq_ok_iff_outcome.mp h)).1

/-- A check whose first pull finds a flaw logs that and no more. -/
theorem events_of_head_error {source : String} {e : LexicalError}
    (h : (TokenStream.ofString source).head = .error e) :
    (report source).events = [.lexicalError e] := by
  rw [report]
  cases hs : TokenStream.ofString source with
  | fault f =>
      rw [hs] at h
      cases h
      rfl
  | token t rest | finish stop =>
      rw [hs] at h
      cases h

/-- **The start** is logged right behind the first pull, and once. -/
theorem events_of_head_ok {source : String} {answer : Option Token}
    (h : (TokenStream.ofString source).head = .ok answer) :
    ∃ first more, first.part = .scanner ∧ (report source).events = first :: .parseStarted :: more ∧
      .parseStarted ∉ more := by
  obtain ⟨first, more, hfirst, hbelow, hevents⟩ :=
    recognize_note .parseStarted (Symbol.program.drop 1) h
  refine ⟨first, more, hfirst, hevents, fun hm => ?_⟩
  have hnotes : ∀ e ∈ notes (Symbol.program.drop 1), e ≠ .parseStarted := by
    simp [notes, Symbol.program]
  have hn := parseStarted_notMem hnotes (TokenStream.ofString source)
  rw [hbelow] at hn
  exact hn (List.mem_cons_of_mem first hm)

end SourceCheck

import SourceCheck.Proofs.Grammar.Events
import SourceCheck.Proofs.Scan.Protocol

/-!
# Check — an error depends only on the text read so far

A check asks its scanner for one token after the other, and each answer is logged as the scanner's
(`Report.pulls`).  What it has read is what these calls have taken (`textRead`).

* `feed_quiet`, `finish_quiet`: the recogniser itself logs nothing as the scanner, so the events
  count the calls.
* `recognize_local`: a recognition that fails has looked at one character more than it has read.
* `check_error_of_agree`: so a text that agrees with a rejected one this far is rejected with the
  same error.
-/

namespace SourceCheck.Grammar

open Reader (between)
open Scanner

/-! ### The calls that a recognition makes -/

/-- How many answers of its scanner a recognition has logged. -/
def Report.pulls (r : Report) : Nat :=
  r.events.countP (·.part = .scanner)

/-- Events that are not the scanner's. -/
def Quiet (events : List Event) : Prop :=
  ∀ e ∈ events, e.part ≠ .scanner

theorem quiet_program : Quiet (notes Symbol.program) := by
  simp [Quiet, notes, Symbol.program, Event.part]

theorem part_rule_ne (r : Rule) : (Event.rule r).part ≠ .scanner := by
  cases r <;> exact nofun

/-- **The recogniser is quiet** over a token, and stays so. -/
theorem feed_quiet {t : Token} {stack : List Symbol} (h : Quiet (notes stack)) :
    Quiet (feed t stack).1 ∧ ∀ stack', (feed t stack).2 = .ok stack' → Quiet (notes stack') :=
  feed_logs part_rule_ne h t

/-- The recogniser is quiet at the end of the input. -/
theorem finish_quiet {stack : List Symbol} (h : Quiet (notes stack)) : Quiet (finish stack).1 :=
  finish_logs h

/-! ### One call for each token -/

theorem Quiet.countP_eq_zero {events : List Event} (h : Quiet events) :
    events.countP (·.part = .scanner) = 0 := by
  rw [List.countP_eq_zero]
  exact fun e he => by simpa using h e he

theorem Report.pulls_after (events : List Event) (r : Report) :
    (r.after events).pulls = events.countP (·.part = .scanner) + r.pulls :=
  List.countP_append

section

variable {t : Token} {stack : List Symbol} (rest : TokenStream) (hq : Quiet (notes stack))
include hq

theorem pulls_read {stack' : List Symbol} (h : (feed t stack).2 = .ok stack') :
    (recognize stack (.token t rest)).pulls = (recognize stack' rest).pulls + 1 := by
  rw [recognize_read rest h, Report.pulls_after, List.countP_cons_of_pos rfl,
    (feed_quiet hq).1.countP_eq_zero]
  omega

theorem pulls_refused {e : Expectation} (h : (feed t stack).2 = .error e) :
    (recognize stack (.token t rest)).pulls = 1 := by
  rw [recognize_refused rest h, Report.pulls_after, List.countP_cons_of_pos rfl,
    (feed_quiet hq).1.countP_eq_zero]
  rfl

theorem pulls_finish (stop : Position) : (recognize stack (.finish stop)).pulls = 1 := by
  have hf := (finish_quiet hq).countP_eq_zero
  rw [recognize]
  split
  · simp_all [Report.pulls, Event.part]
  · simp_all [Report.pulls, Report.after, Report.ofMismatch, Event.part]

end

/-- The stream that begins with an answer, and goes on behind it if it is a token. -/
def streamOf (a : Answer) (s : Scanner) : TokenStream :=
  match a with
  | .ok (some t) => .token t (.ofReader s.reader)
  | .ok none => .finish s.location
  | .error e => .fault e

/-- A stream begins with what a call finds. -/
theorem ofReader_of_call {before text : List Char} {a : Answer} {s : Scanner}
    (h : (standing before text false).call .nextToken = (a, s)) :
    TokenStream.ofReader (between before text) = streamOf a s := by
  rw [TokenStream.ofReader_eq]
  simp only [call, nextToken, standing] at h
  cases hs : (between before text).scan <;> simp [hs] at h <;> obtain ⟨rfl, rfl⟩ := h <;> rfl

/-- **A recognition that fails** has read some text, and looks at one character more. -/
theorem recognize_local {stack : List Symbol} (hq : Quiet (notes stack)) (before text : List Char)
    {r : Rejection}
    (h : (recognize stack (.ofReader (between before text))).outcome = .error r) :
    ∃ taken rest, text = taken ++ rest ∧
      ((standing before text false).pieces (List.replicate
        (recognize stack (.ofReader (between before text))).pulls .nextToken)).flatten = taken ∧
      ∀ rest', rest'.head? = rest.head? →
        (recognize stack (.ofReader (between before (taken ++ rest')))).outcome = .error r := by
  induction hn : text.length using Nat.strong_induction_on generalizing stack before text with
  | _ n ih =>
      subst hn
      obtain ⟨answer, taken, rest, rfl, hfind, hcall⟩ := call_standing text false .nextToken
      have hs := fun rest' hh => ofReader_of_call (hcall before rest' hh)
      have hp := piece_of_call (hcall before rest rfl) rfl
      -- one call is all there is, unless it finds a token that is read
      have hone : ((standing before (taken ++ rest) false).pieces
          (List.replicate 1 .nextToken)).flatten = taken := by
        simp [pieces, hp]
      rcases answer with e | _ | t
      · rw [hs rest rfl] at h ⊢
        exact ⟨taken, rest, rfl, hone, fun rest' hh => hs rest' hh ▸ h⟩
      · rw [hs rest rfl] at h ⊢
        exact ⟨taken, rest, rfl, pulls_finish hq _ ▸ hone, fun rest' hh => hs rest' hh ▸ h⟩
      · set u : Token := { t with location := (Position.origin.after before).shift t.location }
        have hs' : ∀ rest', rest'.head? = rest.head? →
            TokenStream.ofReader (between before (taken ++ rest')) =
              .token u (.ofReader (between (before ++ taken) rest')) := hs
        rw [hs' rest rfl] at h ⊢
        cases hf : (feed u stack).2 with
        | error e =>
            rw [recognize_refused _ hf] at h
            refine ⟨taken, rest, rfl, pulls_refused _ hq hf ▸ hone, fun rest' hh => ?_⟩
            rw [hs' rest' hh, recognize_refused _ hf]
            exact h
        | ok stack' =>
            rw [recognize_read _ hf] at h
            have hlt : rest.length < (taken ++ rest).length := by
              have hl := List.length_pos_iff.mpr (hfind rfl)
              simp only [List.length_append]
              omega
            obtain ⟨taken', rest, rfl, hpieces, hlocal⟩ :=
              ih _ hlt ((feed_quiet hq).2 stack' hf) (before ++ taken) rest h rfl
            refine ⟨taken ++ taken', rest, by simp, ?_, fun rest' hh => ?_⟩
            · rw [pulls_read _ hq hf, List.replicate_succ, pieces, hp, hcall before _ rfl,
                List.flatten_cons]
              exact congrArg _ hpieces
            · have hh' : (taken' ++ rest').head? = (taken' ++ rest).head? := by
                rw [List.head?_append, List.head?_append, hh]
              rw [List.append_assoc, hs' _ hh', recognize_read _ hf]
              exact hlocal rest' hh

end SourceCheck.Grammar

namespace SourceCheck

open Grammar Scanner
open Reader (between)

/-- The text that the scanner has taken when a check is over. -/
def textRead (source : String) : List Char :=
  ((Scanner.ofString source).pieces (List.replicate (report source).pulls .nextToken)).flatten

/-- **Errors depend only on the text read so far.**  Let a text be rejected before all of it is
read.  Then any text that agrees with it on what is read and one character more is rejected with
the same error, whatever follows. -/
theorem check_error_of_agree {source source' : String} {d : Diagnostic}
    (h : check source = .error d) (hn : (textRead source).length < source.toList.length)
    (ha : source'.toList.take ((textRead source).length + 1) =
      source.toList.take ((textRead source).length + 1)) :
    check source' = .error d := by
  obtain ⟨r, hr, rfl⟩ := check_eq_error_iff_outcome.mp h
  obtain ⟨taken, rest, htext, hread, hlocal⟩ :=
    recognize_local quiet_program [] source.toList hr
  obtain rfl : textRead source = taken := hread
  cases rest with
  | nil => simp [htext] at hn
  | cons c rest =>
      have htake : source.toList.take ((textRead source).length + 1) = textRead source ++ [c] := by
        conv_lhs => rw [htext, List.take_length_add_append]
        rfl
      have htext' : source'.toList =
          textRead source ++ c :: source'.toList.drop ((textRead source).length + 1) := by
        conv_lhs => rw [← List.take_append_drop ((textRead source).length + 1) source'.toList, ha,
          htake, List.append_assoc, List.singleton_append]
      have hlocal' := hlocal (c :: source'.toList.drop ((textRead source).length + 1)) rfl
      rw [← htext'] at hlocal'
      exact check_eq_error_iff_outcome.mpr ⟨r, hlocal', rfl⟩

/-- A misplaced semicolon: the flaws behind it are not seen. -/
theorem check_error_of_agree_semicolon :
    ∃ d, check "main\x7bx<-;y" = .error d ∧ (textRead "main\x7bx<-;y").length = 9 ∧
      check "main\x7bx<-;y.@" = .error d := by
  have h : check "main\x7bx<-;y" = .error (.syntactic
      ⟨"expected IDENT, INT_LIT, FLOAT_LIT or LPAREN '(', found SEMI(;)", some ⟨1, 9⟩⟩) := by cbv
  have hl : (textRead "main\x7bx<-;y").length = 9 := by cbv
  refine ⟨_, h, hl, check_error_of_agree h ?_ ?_⟩
  · rw [hl]
    decide
  · rw [hl]
    decide

end SourceCheck

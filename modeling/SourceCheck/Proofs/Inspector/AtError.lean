import SourceCheck.Proofs.Grammar.Verdict
import SourceCheck.Proofs.Inspector.Runs
import SourceCheck.Proofs.Scan.Order

/-!
# Inspector — the inspector points at the error

An inspection scans a text twice: to the end for its tokens, and as far as the first error for its
verdict.

* `Inspection.Points`: where an inspector stands that shows the error of an inspection.
* `points_jumpToError`: going to the error leads there.  The search for the last token that does
  not start after the error finds the right one because tokens are located in order
  (`stream_ordered`).
* `inspector_points_at_error`: so a fresh inspector stands there, and so does any inspector when it
  is told to.
-/

namespace SourceCheck

open Grammar
open Position (origin)

/-! ### The last index with a property -/

section

variable {α : Type} {p : α → Bool}

theorem lastIdx?_eq_none {as : List α} (h : ∀ a ∈ as, p a = false) : lastIdx? p as = none := by
  induction as with
  | nil => rfl
  | cons a as ih =>
      rw [lastIdx?, ih fun b hb => h b (List.mem_cons_of_mem _ hb)]
      simp [h a List.mem_cons_self]

theorem lastIdx?_append_cons {front back : List α} {a : α} (ha : p a = true)
    (hb : ∀ b ∈ back, p b = false) : lastIdx? p (front ++ a :: back) = some front.length := by
  induction front with
  | nil => simp [lastIdx?, lastIdx?_eq_none hb, ha]
  | cons b front ih => simp [lastIdx?, ih]

/-- If every element has the property, the last index with it is the last index. -/
theorem lastIdx?_getD_of_all {as : List α} (h : ∀ a ∈ as, p a = true) :
    (lastIdx? p as).getD 0 = as.length - 1 := by
  cases as using List.reverseRecOn with
  | nil => rfl
  | append_singleton front a =>
      rw [lastIdx?_append_cons (h a (by simp)) (by simp)]
      simp

end

/-! ### The verdict of an inspection -/

theorem check_decided (source : String) : Decided (.ofString source) (check source) :=
  recognize_decided Symbol.program (.ofString source)

theorem ordered_ofString (source : String) :
    (TokenStream.ofString source).Ordered [] source.toList :=
  stream_ordered [] source.toList

/-- The tokens of an inspection stop early at a flaw. -/
theorem stoppedEarly_iff (source : String) :
    (Inspection.ofString source).stoppedEarly = true ↔ ∃ e, tokenize source = .error e := by
  simp only [tokenize_eq_error_iff, Inspection.ofString, Option.isSome_iff_exists]

/-- A flaw for a verdict is the flaw at which the tokens stop. -/
theorem tokenize_of_check_lexical {source : String} {e : LexicalError}
    (h : check source = .error (.lexical e)) : tokenize source = .error e := by
  have hd := check_decided source
  rw [h] at hd
  cases hd with
  | flaw hf => exact tokenize_eq_error_iff.mpr hf

/-- A text that is accepted has no flaw. -/
theorem stoppedEarly_of_check_ok {source : String} (h : check source = .ok ()) :
    (Inspection.ofString source).stoppedEarly = false := by
  have hd := check_decided source
  rw [h] at hd
  cases hd with
  | accepted hf => simp [Inspection.ofString, hf]

/-! ### Going to the error -/

/-- Where an inspector stands that shows an error at `p`: on the line of the error, and at the
token that is the error, or at the last token before a flaw. -/
structure Inspection.Points (n : Inspection) (p : Position) (i : Inspector) : Prop where
  line : i.line = p.line
  /-- The selected token is the only one at the place of the error, and the error tells its
  text. -/
  syntactic : ∀ e, n.verdict = .error (.syntactic e) →
    ∃ t, n.tokens[i.token]? = some t ∧ t.location = p ∧
      (∀ k u, n.tokens[k]? = some u → u.location = p → k = i.token) ∧
      ∃ x : Expectation, e.message = "expected " ++ x.describe ++ ", found " ++ t.describe
  lexical : ∀ e, n.verdict = .error (.lexical e) → i.token = n.tokens.length - 1

/-- In a list of tokens in order, the one at a place is the last that does not start after it. -/
theorem lastIdx?_of_ordered {front back : List Token} {t : Token}
    (h : (front ++ t :: back).Pairwise (·.location < ·.location)) :
    lastIdx? (fun u => decide (u.location ≤ t.location)) (front ++ t :: back) =
      some front.length := by
  refine lastIdx?_append_cons (by simp) fun u hu => ?_
  have hlt : t.location < u.location := (List.pairwise_cons.mp (List.pairwise_append.mp h).2.1).1 u hu
  simpa using hlt.not_ge

/-- No two tokens in order are at one place. -/
theorem index_unique_of_ordered {ts : List Token} (h : ts.Pairwise (·.location < ·.location))
    {j k : Nat} {t u : Token} (hj : ts[j]? = some t) (hk : ts[k]? = some u)
    (he : u.location = t.location) : k = j := by
  obtain ⟨hj', rfl⟩ := List.getElem?_eq_some_iff.mp hj
  obtain ⟨hk', rfl⟩ := List.getElem?_eq_some_iff.mp hk
  have hlt := List.pairwise_iff_getElem.mp h
  rcases Nat.lt_trichotomy k j with hkj | hkj | hkj
  · exact absurd (he ▸ hlt k j hk' hj' hkj) (lt_irrefl _)
  · exact hkj
  · exact absurd (he ▸ hlt j k hj' hk' hkj) (lt_irrefl _)

/-- **Going to the error** leads to it. -/
theorem points_jumpToError {source : String} {i : Inspector} (hi : i.About source)
    {p : Position} (hp : (Inspection.ofString source).errorLocation? = some p) :
    (Inspection.ofString source).Points p i.jumpToError := by
  obtain ⟨-, hn⟩ := hi
  rw [Inspector.jumpToError_of_some (hn ▸ hp), hn]
  have hd := check_decided source
  obtain ⟨-, hincreasing, hfault⟩ := ordered_ofString source
  simp only [Inspection.ofString, Inspection.errorLocation?] at hp ⊢
  generalize check source = verdict at hp hd ⊢
  cases hd with
  | accepted h => cases hp
  | ended h => cases hp
  | @flaw e h =>
      obtain rfl := Option.some.inj hp
      refine ⟨rfl, fun _ he => (nomatch he), fun _ _ => ?_⟩
      have hall : ∀ t ∈ (TokenStream.ofString source).tokens, t.location ≤ e.location :=
        fun t ht => ((hfault e h).2 t ht).le
      exact lastIdx?_getD_of_all (by simpa using hall)
  | @refused x t front back h =>
      obtain rfl := Option.some.inj hp
      refine ⟨rfl, fun e he => ?_, fun _ he => (nomatch he)⟩
      cases he
      rw [h] at hincreasing ⊢
      have hget : (front ++ t :: back)[front.length]? = some t := by simp
      simp only [lastIdx?_of_ordered hincreasing, Option.getD_some]
      exact ⟨t, hget, rfl, fun k u hk hu => index_unique_of_ordered hincreasing hget hk hu, x, rfl⟩

/-- **The inspector points at the error.**  The tokens of an inspection stop early just when the
text has a flaw; a flaw for a verdict is that flaw, and a text that is accepted has none.  If the
error has a place, a fresh inspector shows it, and so does any inspector that is told to go there;
if it has none, nothing happens then. -/
theorem inspector_points_at_error (source : String) (acts : List Inspector.Act) :
    let n := Inspection.ofString source
    let i := (Inspector.ofString source).after acts
    (n.verdict = check source ∧ (n.stoppedEarly = true ↔ ∃ e, tokenize source = .error e) ∧
      (∀ e, n.verdict = .error (.lexical e) →
        tokenize source = .error e ∧ n.stoppedEarly = true) ∧
      (n.verdict = .ok () → n.stoppedEarly = false)) ∧
    (∀ p, n.errorLocation? = some p →
      n.Points p (Inspector.ofString source) ∧ n.Points p (i.press (.char 'g'))) ∧
    (n.errorLocation? = none → i.press (.char 'g') = i) := by
  intro n i
  have hi : i.About source := Inspector.about_after source acts
  refine ⟨⟨rfl, stoppedEarly_iff source, fun e he => ?_, stoppedEarly_of_check_ok⟩,
    fun p hp => ⟨?_, points_jumpToError hi hp⟩, fun hp => ?_⟩
  · have ht := tokenize_of_check_lexical he
    exact ⟨ht, (stoppedEarly_iff source).mpr ⟨e, ht⟩⟩
  · rw [Inspector.ofString_eq]
    exact points_jumpToError (Inspector.about_start source) hp
  · exact Inspector.jumpToError_of_none (hi.2 ▸ hp)

/-- A misplaced semicolon, a flaw, and a text that ends too early. -/
theorem inspector_points_at_error_each :
    (let i := (Inspector.ofString "main\x7b\nx<-;").after [.draw 9, .press .up];
      i.line = 1 ∧ (i.press (.char 'g')).line = 2 ∧ (i.press (.char 'g')).token = 4) ∧
    (tokenize "main\x7bx<-@" = .error ⟨.invalidCharacter '@', ⟨1, 9⟩⟩ ∧
      (Inspector.ofString "main\x7bx<-@").token = 3) ∧
    (let i := (Inspector.ofString "main").after [.press .tab, .press .down];
      i.press (.char 'g') = i) := by
  refine ⟨⟨?_, ?_⟩, ?_, ?_⟩
  · cbv
  · obtain ⟨-, h, -⟩ := inspector_points_at_error "main\x7b\nx<-;" [.draw 9, .press .up]
    have hp := (h ⟨2, 4⟩ (by cbv)).2
    obtain ⟨-, -, -, hu, -⟩ := hp.syntactic
      ⟨"expected IDENT, INT_LIT, FLOAT_LIT or LPAREN '(', found SEMI(;)", some ⟨2, 4⟩⟩ (by cbv)
    exact ⟨hp.line, (hu 4 ⟨.semicolon, ";", ⟨2, 4⟩⟩ (by cbv) rfl).symm⟩
  · obtain ⟨⟨-, -, hl, -⟩, h, -⟩ := inspector_points_at_error "main\x7bx<-@" []
    have hv : (Inspection.ofString "main\x7bx<-@").verdict =
        .error (.lexical ⟨.invalidCharacter '@', ⟨1, 9⟩⟩) := by cbv
    have ht : (Inspection.ofString "main\x7bx<-@").tokens.length = 4 := by cbv
    refine ⟨(hl _ hv).1, ?_⟩
    rw [(h ⟨1, 9⟩ (by cbv)).1.lexical _ hv, ht]
  · obtain ⟨-, -, h⟩ := inspector_points_at_error "main" [.press .tab, .press .down]
    exact h (by cbv)

end SourceCheck

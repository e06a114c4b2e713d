import SourceCheck.Proofs.Scan.Decomposition
import SourceCheck.Proofs.Text.Places

/-!
# Scan — the order of the tokens

The tokens of a text are located in it one behind the other, and what ends them is located behind
the last.

* `LexicalError.Placed`: the error is at a character of the text, or it is a string or a comment
  that is never closed and is located at the end of the text.
* `stream_ordered`: each token is at a character of the text and before the next one, and the flaw
  that ends a stream is behind all of its tokens.
-/

namespace SourceCheck

open Scan
open Reader (between)
open Position (origin Within)

/-- An error in `text`, which stands behind `before`, is at one of its characters, or else at its
end, where a string or a comment is still open. -/
def LexicalError.Placed (before text : List Char) (e : LexicalError) : Prop :=
  Within before text e.location ∨
    (e.flaw = .unterminatedString ∨ e.flaw = .unterminatedComment) ∧ text ≠ [] ∧
      e.location = origin.after (before ++ text)

namespace LexicalError.Placed

variable {before text : List Char} {e : LexicalError}

theorem append_left {a : List Char} (h : Placed (before ++ a) text e) :
    Placed before (a ++ text) e := by
  rcases h with h | ⟨hf, hn, hl⟩
  · exact Or.inl h.append_left
  · exact Or.inr ⟨hf, by simp [hn], by rw [hl, List.append_assoc]⟩

theorem le (h : Placed before text e) : origin.after before ≤ e.location := by
  rcases h with h | ⟨-, -, hl⟩
  · exact h.le
  · rw [hl, Position.after_append]
    exact Position.le_after _ text

end LexicalError.Placed

theorem Scan.Flawed.placed {f : Flaw} {upto taken rest : List Char} (h : Flawed f upto taken rest)
    (before : List Char) :
    LexicalError.Placed before (taken ++ rest) ⟨f, origin.after (before ++ upto)⟩ := by
  cases h with
  | stray hc => exact Or.inl ⟨[], _, rest, rfl, rfl⟩
  | point hd hr => exact Or.inl ⟨upto, '.', rest, by simp, rfl⟩
  | secondPoint hd hf hn => exact Or.inl ⟨_, '.', rest, by simp, rfl⟩
  | string h => exact Or.inr ⟨Or.inl rfl, by simp, by simp⟩
  | comment h => exact Or.inr ⟨Or.inr rfl, by simp, by simp⟩

/-- What a stream gives about a text is in the order of the text. -/
structure TokenStream.Ordered (before text : List Char) (stream : TokenStream) : Prop where
  within : ∀ t ∈ stream.tokens, Within before text t.location
  increasing : stream.tokens.Pairwise (·.location < ·.location)
  fault : ∀ e ∈ stream.fault?,
    e.Placed before text ∧ ∀ t ∈ stream.tokens, t.location < e.location

/-- **Tokens in order.** -/
theorem stream_ordered (before text : List Char) :
    (TokenStream.ofReader (between before text)).Ordered before text := by
  induction hn : text.length using Nat.strong_induction_on generalizing before text with
  | _ n ih =>
      subst hn
      have hm : Meets before text (between before text).scan := scan_iff_meets.mp rfl
      rw [TokenStream.ofReader_eq]
      generalize (between before text).scan = found at hm ⊢
      cases hm with
      | finish hg => exact ⟨by simp [TokenStream.tokens], .nil, by simp [TokenStream.fault?]⟩
      | @flaw g upto taken rest f hg hf =>
          refine ⟨by simp [TokenStream.tokens], .nil, fun e he => ?_⟩
          obtain rfl := Option.some.inj he
          rw [← Position.after_origin]
          exact ⟨(hf.placed (before ++ g)).append_left, by simp [TokenStream.tokens]⟩
      | @token g l rest k hg hl he =>
          have hlt : rest.length < (g ++ (l ++ rest)).length := by
            have hp := List.length_pos_iff.mpr hl.ne_nil
            simp only [List.length_append]
            omega
          obtain ⟨hwithin, hincreasing, hfault⟩ := ih _ hlt (before ++ g ++ l) rest rfl
          -- all that comes behind the lexeme is behind its first character
          have hbehind : Position.counted (before ++ g) < origin.after (before ++ g ++ l) := by
            rw [← Position.after_origin, Position.after_append _ _ l]
            exact Position.lt_after _ hl.ne_nil
          have hhead : Within before (g ++ (l ++ rest)) (.counted (before ++ g)) := by
            obtain ⟨c, cs, rfl⟩ := List.exists_cons_of_ne_nil hl.ne_nil
            exact ⟨g, c, cs ++ rest, rfl, (Position.after_origin _).symm⟩
          refine ⟨fun t ht => ?_, ?_, fun e he => ⟨?_, fun t ht => ?_⟩⟩
          · rcases List.mem_cons.mp ht with rfl | ht
            · exact hhead
            · exact (hwithin t ht).append_left.append_left
          · exact List.pairwise_cons.mpr
              ⟨fun t ht => hbehind.trans_le (hwithin t ht).le, hincreasing⟩
          · exact (hfault e he).1.append_left.append_left
          · rcases List.mem_cons.mp ht with rfl | ht
            · exact hbehind.trans_le (hfault e he).1.le
            · exact (hfault e he).2 t ht

end SourceCheck

import SourceCheck.Proofs.Check.Layout
import SourceCheck.Proofs.Scan.Course
import SourceCheck.Proofs.Scan.FirstFlaw
import SourceCheck.Proofs.Text.LinePlaces

/-!
# Scan — texts joined by a line break

A text that has tokens can be followed by a line break and any other text: the scan of the second
is the same as if it stood alone, so many lines further down.

* `counted_below`: a line feed sets the count of columns back, so what stands behind it is only
  moved down (`Position.down`).
* `Yields.behind_newline`: a scan remembers nothing of the text in front of it but the place.
* `Decomposes.munched`: at a line break every lexeme ends as it does at the end of the text, and a
  line comment is closed there.
* `tokenize_append_newline`: so the tokens of the two texts are the tokens of the whole, and a flaw
  of the second is the flaw of the whole.
-/

namespace SourceCheck

open Scan
open Reader (between)

/-! ### Further down -/

def Token.down (n : Nat) (t : Token) : Token :=
  { t with location := t.location.down n }

def LexicalError.down (n : Nat) (e : LexicalError) : LexicalError :=
  { e with location := e.location.down n }

namespace TokenStream

def down (n : Nat) : TokenStream → TokenStream
  | token t rest => token (t.down n) (rest.down n)
  | fault e => fault (e.down n)
  | finish stop => finish (stop.down n)

theorem tokens_down (n : Nat) (stream : TokenStream) :
    (stream.down n).tokens = stream.tokens.map (Token.down n) := by
  induction stream with
  | token t rest ih => simp only [down, tokens, List.map_cons, ih]
  | fault e => rfl
  | finish stop => rfl

theorem fault?_down (n : Nat) (stream : TokenStream) :
    (stream.down n).fault? = stream.fault?.map (LexicalError.down n) := by
  induction stream with
  | token t rest ih => exact ih
  | fault e => rfl
  | finish stop => rfl

end TokenStream

/-- Behind a line feed, columns are counted from one again. -/
theorem Position.counted_below (a b : List Char) :
    counted (a ++ '\n' :: b) = (counted b).down (1 + a.count '\n') := by
  have hstart : (origin.after a).next '\n' = origin.down (1 + a.count '\n') := by
    rw [after_origin]
    simp [counted, down, origin, Nat.add_comm]
  rw [← after_origin, ← after_origin, after_append, after_cons, hstart, after_down]

/-- What a text yields behind a line feed is what it yields alone, further down. -/
theorem Scan.Yields.behind_newline {before text : List Char} {stream : TokenStream}
    (h : Yields before text stream) (a : List Char) :
    Yields (a ++ '\n' :: before) text (stream.down (1 + a.count '\n')) := by
  induction h with
  | @finish before g hg =>
      have hy := @Yields.finish (a ++ '\n' :: before) g hg
      simpa [TokenStream.down, Position.counted_below] using hy
  | @flaw before g upto taken rest f hg hf =>
      have hy := @Yields.flaw (a ++ '\n' :: before) g upto taken rest f hg hf
      simpa [TokenStream.down, LexicalError.down, Position.counted_below] using hy
  | token hg hl he _ ih =>
      simp only [← List.cons_append, ← List.append_assoc] at ih
      simpa [TokenStream.down, Token.down, Position.counted_below] using Yields.token hg hl he ih

end SourceCheck

namespace SourceCheck.Scan

/-! ### The end of a text, and the end of a line -/

/-- A line feed closes a line comment that reaches to the end of the text. -/
theorem LastGap.newline {g : List Char} (h : LastGap g) : Gap (g ++ ['\n']) := by
  cases h with
  | closed hg => exact hg.append (.cons (.blank rfl) .nil)
  | unclosed hg hb =>
      have hc := Trivium.lineComment (c := '\n') hb rfl
      simpa using hg.append (.cons hc .nil)

/-- No lexeme goes on behind a line feed. -/
theorem Ends.newline {k : Kind} {l rest : List Char} (h : Ends k l rest) (b : List Char) :
    Ends k l (rest ++ '\n' :: b) := by
  cases rest with
  | nil =>
      rintro c ⟨⟩
      exact prolongs_of_opensGap rfl k l
  | cons c rest => exact h

/-- **A line feed for the end.**  A text that is decomposed into tokens is munched up to and with
a line feed behind it. -/
theorem Decomposes.munched {before text : List Char} {ts : List Token}
    (h : Decomposes before text ts) (b : List Char) : Munched b before (text ++ ['\n']) ts := by
  induction h with
  | finish hg => exact .gap hg.newline
  | @token before g l rest k ts hg hl he _ ih =>
      have he' : Ends k l (rest ++ ['\n'] ++ b) := by
        rw [List.append_assoc]
        exact he.newline b
      have hm := Munched.token hg hl he' ih
      rwa [← List.append_assoc l, ← List.append_assoc g] at hm

end SourceCheck.Scan

namespace SourceCheck

open Scan
open Reader (between)

/-- The stream of two texts with a line break between them. -/
theorem stream_append_newline {a b : List Char} {ta : List Token} (h : Decomposes [] a ta) :
    TokenStream.ofReader (between [] (a ++ '\n' :: b)) =
      ta.foldr .token ((TokenStream.ofReader (between [] b)).down (1 + a.count '\n')) := by
  have hs := (h.munched b).stream
  rw [List.nil_append, List.append_assoc, List.singleton_append] at hs
  rw [hs, ((yields_ofReader [] b).behind_newline a).ofReader_eq]

/-- **A line break joins two scans.**  Let a text have tokens.  A line break and another text behind
it add the tokens of the other text, or its first flaw, further down by the line break and the
line feeds of the first text, in the same columns. -/
theorem tokenize_append_newline {a : String} {ta : List Token} (h : tokenize a = .ok ta)
    (b : String) :
    tokenize (a ++ "\n" ++ b) =
      match tokenize b with
      | .ok tb => .ok (ta ++ tb.map (Token.down (1 + a.toList.count '\n')))
      | .error e => .error (e.down (1 + a.toList.count '\n')) := by
  have htext : (a ++ "\n" ++ b).toList = a.toList ++ '\n' :: b.toList := by simp
  have hs : TokenStream.ofString (a ++ "\n" ++ b) =
      ta.foldr .token ((TokenStream.ofString b).down (1 + a.toList.count '\n')) := by
    rw [TokenStream.ofString, Reader.ofString_eq_between, htext, stream_append_newline (decomposes_of_tokenize h)]
    rfl
  cases hb : tokenize b with
  | ok tb =>
      obtain ⟨hn, rfl⟩ := tokenize_eq_ok_iff.mp hb
      refine tokenize_eq_ok_iff.mpr ⟨?_, ?_⟩
      · rw [hs, fault?_foldr_token, TokenStream.fault?_down, hn]
        rfl
      · rw [hs, TokenStream.tokens_foldr_token, TokenStream.tokens_down]
  | error e =>
      rw [tokenize_eq_error_iff] at hb ⊢
      rw [hs, fault?_foldr_token, TokenStream.fault?_down, hb]
      rfl

/-- A comment that the line break closes; behind it a number, or a flaw at the end of the text. -/
theorem tokenize_append_newline_comment :
    tokenize "x\n# y" = .ok [⟨.identifier, "x", ⟨1, 1⟩⟩] ∧
    tokenize ("x\n# y" ++ "\n" ++ " 7") =
      .ok [⟨.identifier, "x", ⟨1, 1⟩⟩, ⟨.intLiteral, "7", ⟨3, 2⟩⟩] ∧
    tokenize ("x\n# y" ++ "\n" ++ "1.") = .error ⟨.missingDigitAfterPoint, ⟨3, 2⟩⟩ ∧
    tokenize ("x\n# y" ++ "\n" ++ "/*\n") = .error ⟨.unterminatedComment, ⟨4, 1⟩⟩ := by
  have h : tokenize "x\n# y" = .ok [⟨.identifier, "x", ⟨1, 1⟩⟩] := by cbv
  have h₁ : tokenize " 7" = .ok [⟨.intLiteral, "7", ⟨1, 2⟩⟩] := by cbv
  have h₂ : tokenize "1." = .error ⟨.missingDigitAfterPoint, ⟨1, 2⟩⟩ := by cbv
  have h₃ : tokenize "/*\n" = .error ⟨.unterminatedComment, ⟨2, 1⟩⟩ := by cbv
  refine ⟨h, ?_, ?_, ?_⟩
  · rw [tokenize_append_newline h, h₁]
    rfl
  · rw [tokenize_append_newline h, h₂]
    rfl
  · rw [tokenize_append_newline h, h₃]
    rfl

end SourceCheck

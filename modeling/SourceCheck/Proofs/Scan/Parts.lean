import SourceCheck.Proofs.Scan.Course
import SourceCheck.Proofs.Text.LinePlaces

/-!
# Scan — the parts of a text

* `Reached text front rest`: the scan of a text comes to the place between `front` and `rest`, where
  a token or something between tokens begins.
* `Reached.stream`: what a scan has read by then is some tokens, and it goes on from there.
* `Decomposes.token_of_mem`, `Reached.mem_tokens`: the tokens of a text are the lexemes at the places
  that its scan comes to.
* `InComment`, `BeginsInComment`: the characters that are in a comment of the scan, and the lines
  that begin in one.
-/

namespace SourceCheck.Scan

open Text (isLineEnd)
open Reader (between)
open Position (origin Within)

/-! ### Places of a scan -/

/-- The scan of a text comes to a place: `front` is read, and `rest` is still ahead. -/
inductive Reached (text : List Char) : List Char → List Char → Prop where
  | start : Reached text [] text
  | trivium {front a rest : List Char} (h : Reached text front (a ++ rest)) (ha : Trivium a) :
      Reached text (front ++ a) rest
  | lexeme {front l rest : List Char} {k : Kind} (h : Reached text front (l ++ rest))
      (hl : Lexeme k l) (he : Ends k l rest) : Reached text (front ++ l) rest

namespace Reached

variable {text front rest : List Char}

theorem eq_append (h : Reached text front rest) : text = front ++ rest := by
  induction h with
  | start => rfl
  | trivium _ _ ih => rw [ih, List.append_assoc]
  | lexeme _ _ _ ih => rw [ih, List.append_assoc]

theorem gap {g : List Char} (h : Reached text front (g ++ rest)) (hg : Gap g) :
    Reached text (front ++ g) rest := by
  induction hg generalizing front with
  | nil => rwa [List.append_nil]
  | cons ha _ ih =>
      rw [List.append_assoc] at h
      rw [← List.append_assoc]
      exact ih (h.trivium ha)

/-- **A scan that comes to a place** has read some tokens and goes on there. -/
theorem stream (h : Reached text front rest) :
    ∃ ts : List Token, TokenStream.ofReader (between [] text) =
      ts.foldr .token (TokenStream.ofReader (between front rest)) := by
  induction h with
  | start => exact ⟨[], rfl⟩
  | trivium _ ha ih =>
      obtain ⟨ts, hs⟩ := ih
      refine ⟨ts, ?_⟩
      rw [hs, TokenStream.ofReader_eq, scan_trivium ha, ← TokenStream.ofReader_eq]
  | @lexeme front l rest k _ hl he ih =>
      obtain ⟨ts, hs⟩ := ih
      refine ⟨ts ++ [⟨k, String.ofList l, origin.after front⟩], ?_⟩
      rw [hs, TokenStream.ofReader_eq, scan_lexeme hl _ _ he, List.foldr_append]
      rfl

/-- A lexeme at such a place is a token. -/
theorem mem_tokens {l : List Char} {k : Kind} (h : Reached text front (l ++ rest))
    (hl : Lexeme k l) (he : Ends k l rest) :
    ⟨k, String.ofList l, .counted front⟩ ∈ (TokenStream.ofReader (between [] text)).tokens := by
  obtain ⟨ts, hs⟩ := h.stream
  rw [hs, TokenStream.tokens_foldr_token]
  refine List.mem_append_right ts ?_
  rw [TokenStream.ofReader_eq, scan_lexeme hl _ _ he, Position.after_origin]
  exact List.mem_cons_self

end Reached

/-- A token is a lexeme at such a place. -/
theorem Decomposes.token_of_mem {text before rest : List Char} {ts : List Token}
    (h : Decomposes before rest ts) (hr : Reached text before rest) :
    ∀ t ∈ ts, ∃ front l more, Reached text front (l ++ more) ∧ Lexeme t.kind l ∧
      Ends t.kind l more ∧ t = ⟨t.kind, String.ofList l, .counted front⟩ := by
  induction h with
  | finish hg => exact fun t ht => nomatch ht
  | @token before g l rest k ts hg hl he _ ih =>
      intro t ht
      rcases List.mem_cons.mp ht with rfl | ht
      · exact ⟨before ++ g, l, rest, hr.gap hg, hl, he, rfl⟩
      · exact ih ((hr.gap hg).lexeme hl he) t ht

/-! ### Comments -/

/-- A comment that reaches to a line end, or to the end of the text; the line end is not part of
it. -/
def LineComment (c rest : List Char) : Prop :=
  ∃ body, c = '#' :: body ∧ (∀ d ∈ body, isLineEnd d = false) ∧
    ∀ d ∈ rest.head?, isLineEnd d = true

/-- A comment from its opening through the first end behind it. -/
def BlockComment (c : List Char) : Prop :=
  ∃ body, c = '/' :: '*' :: (body ++ commentEnd) ∧ ¬ commentEnd <:+: body ++ ['*']

/-- The character at `p` is in a comment of the scan. -/
def InComment (text : List Char) (p : Position) : Prop :=
  ∃ front c rest, Reached text front (c ++ rest) ∧ (LineComment c rest ∨ BlockComment c) ∧
    Within front c p

/-- The line with the given number begins inside a block comment of the scan. -/
def BeginsInComment (text : List Char) (line : Nat) : Prop :=
  ∃ front a b rest, Reached text front (a ++ b ++ rest) ∧ BlockComment (a ++ b) ∧ a ≠ [] ∧ b ≠ [] ∧
    origin.after (front ++ a) = ⟨line, 1⟩

end SourceCheck.Scan

namespace SourceCheck

open Scan
open Position (Within)

/-- The character at `p` belongs to a token whose lexeme stays on its line. -/
def Token.Covers (t : Token) (p : Position) : Prop :=
  p.line = t.location.line ∧ t.location.column ≤ p.column ∧
    p.column < t.location.column + t.lexeme.length

theorem covers_iff_within {front l : List Char} (h : '\n' ∉ l) (k : Kind) (p : Position) :
    (Token.mk k (String.ofList l) (.counted front)).Covers p ↔ Within front l p := by
  have hplace : ∀ {a more : List Char}, l = a ++ more →
      Position.origin.after (front ++ a) =
        ⟨(Position.counted front).line, (Position.counted front).column + a.length⟩ := by
    rintro a more rfl
    have ha : '\n' ∉ a := fun hm => h (List.mem_append_left _ hm)
    rw [Position.after_append, Position.after_origin, Position.after_of_newline_notMem ha]
  constructor
  · rintro ⟨hl, hle, hlt⟩
    obtain ⟨i, hi⟩ := Nat.exists_eq_add_of_le hle
    rw [hi] at hlt
    have hi' : i < l.length := by simpa using hlt
    refine ⟨l.take i, l[i], l.drop (i + 1), ?_, ?_⟩
    · rw [← List.drop_eq_getElem_cons, List.take_append_drop]
    · rw [hplace (List.take_append_drop i l).symm, List.length_take_of_le hi'.le, ← hi]
      exact Position.mk.injEq .. ▸ ⟨hl, rfl⟩
  · rintro ⟨a, c, b, rfl, rfl⟩
    rw [hplace rfl]
    refine ⟨rfl, Nat.le_add_right _ _, ?_⟩
    simp

end SourceCheck

import SourceCheck.Text.Alphabet
import SourceCheck.Token.Kind

/-!
# Inspector — highlighting

A line of source is cut into pieces, each with a role.  The cut works line by line and needs no
tokens, so text that does not scan is shown all the same; only an open block comment carries over
to the next line.
-/

namespace SourceCheck

/-- The part a piece of source plays. -/
inductive Role where
  | plain | comment | string | number | typeName | keyword | operator | bracket
deriving DecidableEq

namespace Role

/-- The role of a token of some kind. -/
def ofKind : Kind → Role
  | .intType | .floatType => typeName
  | .stringLiteral => string
  | .intLiteral | .floatLiteral => number
  | .mathOperator | .relOperator | .assign => operator
  | k => if k.isKeyword then keyword else plain

/-- The role of a run of letters, digits, underscores and points. -/
def ofWord (word : List Char) : Role :=
  if word.head?.any fun c => Text.isDigit c || c == '.' then number
  else match Kind.ofWord? (String.ofList word) with
    | some k => ofKind k
    | none => plain

/-- The role of a character that stands alone. -/
def ofChar (c : Char) : Role :=
  if ['\x7b', '\x7d', '(', ')'].contains c then bracket
  else if ['+', '-', '*', '/', '=', '!', '<', '>'].contains c then operator
  else plain

end Role

namespace Highlight

structure Piece where
  text : List Char
  role : Role
deriving DecidableEq

/-- A character of the runs that are coloured as one word. -/
def isRunPart (c : Char) : Bool :=
  Text.isWordPart c || c == '.'

/-- A text up to and with the first end of a block comment, and what follows. -/
def splitComment? : List Char → Option (List Char × List Char)
  | [] => none
  | '*' :: '/' :: cs => some (['*', '/'], cs)
  | c :: cs => (splitComment? cs).map fun (body, rest) => (c :: body, rest)

/-- A piece, the text after it, and whether that text is still inside a block comment. -/
structure Cut where
  piece : Piece
  rest : List Char
  inside : Bool

/-- The piece of a block comment: `opening` is read already, `cs` is the text after it. -/
def cutComment (opening cs : List Char) : Cut :=
  match splitComment? cs with
  | some (body, rest) => ⟨⟨opening ++ body, .comment⟩, rest, false⟩
  | none => ⟨⟨opening ++ cs, .comment⟩, [], true⟩

/-- The first piece of a line outside comments that starts with `c`. -/
def cutCode (c : Char) (cs : List Char) : Cut :=
  if c = '/' ∧ cs.head? = some '*' then cutComment [c, '*'] cs.tail
  else if c = '#' then ⟨⟨c :: cs, .comment⟩, [], false⟩
  else if c = '\x22' then
    let body := cs.takeWhile (· != '\x22')
    let rest := cs.dropWhile (· != '\x22')
    ⟨⟨c :: body ++ rest.take 1, .string⟩, rest.drop 1, false⟩
  else if isRunPart c then
    let word := c :: cs.takeWhile isRunPart
    ⟨⟨word, .ofWord word⟩, cs.dropWhile isRunPart, false⟩
  else ⟨⟨[c], .ofChar c⟩, cs, false⟩

/-- The first piece of a line that starts with `c`. -/
def cut (inside : Bool) (c : Char) (cs : List Char) : Cut :=
  if inside then cutComment [] (c :: cs) else cutCode c cs

theorem splitComment?_append {cs body rest : List Char}
    (h : splitComment? cs = some (body, rest)) : body ++ rest = cs ∧ body ≠ [] := by
  fun_induction splitComment? cs generalizing body rest with
  | case1 => cases h
  | case2 cs =>
    obtain ⟨rfl, rfl⟩ := Prod.mk.inj (Option.some.inj h)
    exact ⟨rfl, by simp⟩
  | case3 c cs _ ih =>
    obtain ⟨⟨b, r⟩, hb, he⟩ := Option.map_eq_some_iff.1 h
    obtain ⟨rfl, rfl⟩ := Prod.mk.inj he
    exact ⟨by rw [List.cons_append, (ih hb).1], by simp⟩

/-- A cut loses no text. -/
theorem cutComment_append (opening cs : List Char) :
    (cutComment opening cs).piece.text ++ (cutComment opening cs).rest = opening ++ cs := by
  unfold cutComment
  split
  · next h => simp [(splitComment?_append h).1]
  · simp

theorem cut_append (inside : Bool) (c : Char) (cs : List Char) :
    (cut inside c cs).piece.text ++ (cut inside c cs).rest = c :: cs := by
  unfold cut
  split
  · simpa using cutComment_append [] (c :: cs)
  · unfold cutCode
    split
    · next h =>
      rw [cutComment_append]
      cases cs with
      | nil => simp at h
      | cons d ds =>
        obtain rfl : d = '*' := by simpa using h.2
        simp
    split
    · simp
    split
    · simp only [List.cons_append, List.append_assoc, List.take_append_drop,
        List.takeWhile_append_dropWhile]
    split <;> simp

/-- Every piece has some text. -/
theorem cut_ne_nil (inside : Bool) (c : Char) (cs : List Char) :
    (cut inside c cs).piece.text ≠ [] := by
  unfold cut
  split
  · unfold cutComment
    split
    · next h => simpa using (splitComment?_append h).2
    · simp
  · unfold cutCode cutComment
    split
    · split <;> simp
    split
    · simp
    split
    · simp
    split <;> simp

theorem length_cut_rest (inside : Bool) (c : Char) (cs : List Char) :
    (cut inside c cs).rest.length < (c :: cs).length := by
  have whole := congrArg List.length (cut_append inside c cs)
  have some_text := List.length_pos_iff.2 (cut_ne_nil inside c cs)
  rw [List.length_append] at whole
  omega

/-- The pieces of a line, and whether a block comment is open at its end. -/
def line (inside : Bool) : List Char → List Piece × Bool
  | [] => ([], inside)
  | c :: cs =>
    let k := cut inside c cs
    (line k.inside k.rest).map (k.piece :: ·) id
termination_by cs => cs.length
decreasing_by exact length_cut_rest inside c cs

/-- The pieces of consecutive lines. -/
def lines (inside : Bool) : List (List Char) → List (List Piece)
  | [] => []
  | l :: ls => (line inside l).1 :: lines (line inside l).2 ls

end Highlight

end SourceCheck

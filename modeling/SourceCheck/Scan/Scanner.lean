import SourceCheck.Scan.Automaton
import SourceCheck.Text.Reader

/-!
# Scan — one token at a time

`Reader.scan` runs the automaton from its start state over the text ahead, up to the first
token or flaw.  `Scanner` hands out tokens on demand: after the end of the input it has no more
to give, and `next`, unlike `nextToken`, also stops for good at the first flaw.
-/

namespace SourceCheck

open Scan (State)

/-- What stands next in a text, with the reader behind it. -/
inductive Found where
  | token (t : Token) (after : Reader)
  | flaw (e : LexicalError) (after : Reader)
  | finish (after : Reader)

/-- The token of a complete lexeme; a word may turn out to be a keyword. -/
def Token.ofLexeme (k : Kind) (lexeme : String) (start : Position) : Token :=
  ⟨if k = .identifier then .ofWord lexeme else k, lexeme, start⟩

/-- The automaton run from state `s` over the characters ahead, with the lexeme taken so far and
the position of its first character. -/
def Scan.run (s : State) (lexeme : String) (start here : Position) (last : Option Position) :
    List Char → Found
  | [] =>
    let r : Reader := ⟨[], here, last⟩
    match s.atEnd with
    | .emit k => .token (.ofLexeme k lexeme start) r
    | .reject f => .flaw ⟨f, here⟩ r
    | .fail f => .flaw ⟨f, r.lastRead⟩ r
    | .finish => .finish r
  | c :: cs =>
    let r : Reader := ⟨c :: cs, here, last⟩
    let start' := if lexeme.isEmpty then here else start
    match s.step c with
    | .append target => run target (lexeme.push c) start' (here.next c) (some here) cs
    | .skip target => run target lexeme start (here.next c) (some here) cs
    | .discard => run .start "" start (here.next c) (some here) cs
    | .appendEmit k => .token (.ofLexeme k (lexeme.push c) start') r.advance
    | .emit k => .token (.ofLexeme k lexeme start) r
    | .reject f => .flaw ⟨f, here⟩ r.advance
    | .fail f => .flaw ⟨f, r.lastRead⟩ r

/-- The first token or flaw of the text ahead. -/
def Reader.scan (r : Reader) : Found :=
  Scan.run .start "" r.here r.here r.last r.rest

/-! ### Progress -/

/-- The reader behind what was found. -/
def Found.after : Found → Reader
  | token _ r | flaw _ r | finish r => r

/-- A run never gives characters back. -/
theorem Scan.length_run_le (s : State) (lexeme : String) (start here : Position)
    (last : Option Position) (cs : List Char) :
    (run s lexeme start here last cs).after.rest.length ≤ cs.length := by
  induction cs generalizing s lexeme start here last with
  | nil => unfold run; split <;> simp [Found.after]
  | cons c cs ih =>
    unfold run
    dsimp only
    split
    · exact Nat.le_succ_of_le (ih ..)
    · exact Nat.le_succ_of_le (ih ..)
    · exact Nat.le_succ_of_le (ih ..)
    all_goals simp [Found.after]

/-- From the start state, a run over some text reads at least one character. -/
theorem Scan.length_run_lt (lexeme : String) (start here : Position) (last : Option Position)
    (c : Char) (cs : List Char) :
    (run .start lexeme start here last (c :: cs)).after.rest.length < (c :: cs).length := by
  unfold run
  dsimp only
  split
  · exact Nat.lt_succ_of_le (length_run_le ..)
  · exact Nat.lt_succ_of_le (length_run_le ..)
  · exact Nat.lt_succ_of_le (length_run_le ..)
  · simp [Found.after]
  · next h => exact absurd h (State.begin_ne c rfl)
  · simp [Found.after]
  · next h => exact absurd h (State.begin_ne c rfl)

/-- A token takes at least one character. -/
theorem Reader.length_lt_of_scan_token {r after : Reader} {t : Token}
    (h : r.scan = .token t after) : after.rest.length < r.rest.length := by
  obtain ⟨rest, here, last⟩ := r
  cases rest with
  | nil => simp [scan, Scan.run, State.atEnd] at h
  | cons c cs =>
    have lt := Scan.length_run_lt "" here here last c cs
    rw [show Scan.run .start "" here here last (c :: cs) = .token t after from h] at lt
    exact lt

/-! ### The scanner -/

/-- A scanner stands in a text, or has finished with it. -/
structure Scanner where
  reader : Reader
  finished : Bool := false

namespace Scanner

def ofString (source : String) : Scanner where
  reader := .ofString source

/-- The position the scanner has reached. -/
def location (s : Scanner) : Position :=
  s.reader.here

/-- The next token, if there is one; after a flaw scanning can go on behind it. -/
def nextToken (s : Scanner) : Except LexicalError (Option Token) × Scanner :=
  if s.finished then (.ok none, s)
  else match s.reader.scan with
    | .token t after => (.ok (some t), ⟨after, false⟩)
    | .flaw e after => (.error e, ⟨after, false⟩)
    | .finish after => (.ok none, ⟨after, true⟩)

/-- The next token, if there is one; a flaw ends the scan. -/
def next (s : Scanner) : Except LexicalError (Option Token) × Scanner :=
  match s.nextToken with
  | (.error e, s') => (.error e, ⟨s'.reader, true⟩)
  | result => result

@[simp] theorem nextToken_of_finished {s : Scanner} (h : s.finished = true) :
    s.nextToken = (.ok none, s) := by
  simp [nextToken, h]

@[simp] theorem next_of_finished {s : Scanner} (h : s.finished = true) :
    s.next = (.ok none, s) := by
  simp [next, h]

end Scanner

end SourceCheck

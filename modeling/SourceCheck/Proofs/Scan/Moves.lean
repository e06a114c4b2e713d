import SourceCheck.Proofs.Scan.Lexeme
import SourceCheck.Proofs.Text.Reading
import SourceCheck.Scan.Scanner

/-!
# Scan — moves of the automaton

One lemma for each move, over a reader that stands between two parts of a text.  A run that has
taken the characters `l` of a lexeme behind `before` is `taking s before l rest`: its lexeme, its
start and its position follow from the text.

`run_start_irrelevant` says that the start of a lexeme is forgotten with the lexeme, so behind a
comment a run is a new scan (`runAt_discard`).
-/

namespace SourceCheck.Scan

open Text (isLineEnd)
open Reader (between)

/-! ### Runs over a text -/

/-- The run that stands in state `s` at a reader, with the lexeme taken so far. -/
def runAt (s : State) (l : List Char) (start : Position) (r : Reader) : Found :=
  run s (String.ofList l) start r.here r.last r.rest

/-- The run that began a lexeme behind `before` and has taken `l` of it. -/
def taking (s : State) (before l rest : List Char) : Found :=
  runAt s l (Position.origin.after before) (between (before ++ l) rest)

theorem scan_between (before text : List Char) :
    (between before text).scan = taking .start before [] text := by
  simp [Reader.scan, taking, runAt]

theorem target_of_begin_skip {c : Char} {t : State} (h : State.begin c = .skip t) :
    t = .start ∨ t = .lineComment := by
  unfold State.begin at h
  repeat' split at h
  all_goals first
    | exact Or.inl (Move.skip.inj h).symm
    | exact Or.inr (Move.skip.inj h).symm
    | cases h

theorem begin_ne_discard (c : Char) : State.begin c ≠ .discard := by
  intro h
  unfold State.begin at h
  repeat' split at h
  all_goals cases h

/-- Without a lexeme, the position where the last one began does not matter. -/
theorem run_start_irrelevant {s : State} (hs : s = .start ∨ s = .lineComment)
    (p q here : Position) (last : Option Position) (cs : List Char) :
    run s "" p here last cs = run s "" q here last cs := by
  induction cs generalizing s here last with
  | nil => rcases hs with rfl | rfl <;> rfl
  | cons c cs ih =>
      unfold run
      rcases hs with rfl | rfl
      · simp only [State.step]
        split
        -- a first character that is taken sets the start to where it stands
        · rfl
        · next h => exact ih (target_of_begin_skip h) ..
        · next h => exact absurd h (begin_ne_discard c)
        · rfl
        · next h => exact absurd h (State.begin_ne c rfl)
        · rfl
        · rfl
      · by_cases hc : isLineEnd c
        · simp only [State.step, hc, if_true]
          exact ih (Or.inl rfl) ..
        · simp only [State.step, hc, if_false, Bool.false_eq_true]
          exact ih (Or.inr rfl) ..

/-! ### One move -/

section

variable {s t : State} {k : Kind} {f : Flaw} {c : Char}
variable (before l : List Char) (start : Position) (rest : List Char)

theorem here_next_between :
    (between before (c :: rest)).here.next c = (between (before ++ [c]) rest).here := by
  simp [Position.after_append]

theorem last_between_append :
    (between (before ++ [c]) rest).last = some (Position.origin.after before) := by
  simp [between]

theorem runAt_skip (h : s.step c = .skip t) :
    runAt s l start (between before (c :: rest)) =
      runAt t l start (between (before ++ [c]) rest) := by
  rw [runAt, runAt, last_between_append, ← here_next_between]
  simp only [Reader.rest_between, run, h]
  rfl

theorem runAt_discard (h : s.step c = .discard) :
    runAt s l start (between before (c :: rest)) = (between (before ++ [c]) rest).scan := by
  rw [Reader.scan, last_between_append, ← here_next_between, runAt]
  simp only [Reader.rest_between, run, h]
  exact run_start_irrelevant (Or.inl rfl) ..

theorem runAt_reject (h : s.step c = .reject f) :
    runAt s l start (between before (c :: rest)) =
      .flaw ⟨f, Position.origin.after before⟩ (between (before ++ [c]) rest) := by
  rw [← Reader.advance_between, runAt]
  simp only [Reader.rest_between, run, h]
  rfl

theorem ofList_push : (String.ofList l).push c = String.ofList (l ++ [c]) := by
  rw [← String.toList_inj]
  simp

/-- A lexeme begins where its first character stands. -/
theorem start_of_taking :
    (if (String.ofList l).isEmpty then Position.origin.after (before ++ l)
      else Position.origin.after before) = Position.origin.after before := by
  cases l with
  | nil => simp
  | cons c l => rw [if_neg (by simp [String.isEmpty_iff])]

theorem taking_append (h : s.step c = .append t) :
    taking s before l (c :: rest) = taking t before (l ++ [c]) rest := by
  rw [taking, taking, ← List.append_assoc, runAt, runAt, last_between_append, ← here_next_between]
  simp only [Reader.rest_between, Reader.here_between, run, h, start_of_taking, ofList_push]

theorem taking_appendEmit (h : s.step c = .appendEmit k) :
    taking s before l (c :: rest) =
      .token (.ofLexeme k (String.ofList (l ++ [c])) (Position.origin.after before))
        (between (before ++ (l ++ [c])) rest) := by
  rw [taking, ← List.append_assoc, ← Reader.advance_between, runAt]
  simp only [Reader.rest_between, Reader.here_between, run, h, start_of_taking, ofList_push]
  rfl

/-- The lexeme is complete: what follows it is left unread. -/
theorem taking_emit (hs : s.atEnd = .emit k) (h : ∀ c ∈ rest.head?, s.step c = .emit k) :
    taking s before l rest =
      .token (.ofLexeme k (String.ofList l) (Position.origin.after before))
        (between (before ++ l) rest) := by
  cases rest with
  | nil =>
      rw [taking, runAt]
      simp only [Reader.rest_between, run, hs]
      rfl
  | cons c rest =>
      rw [taking, runAt]
      simp only [Reader.rest_between, run, h c rfl]
      rfl

/-- The lexeme cannot be completed: its last character is an error. -/
theorem taking_fail (hs : s.atEnd = .fail f) (h : ∀ c ∈ rest.head?, s.step c = .fail f) :
    taking s before (l ++ [c]) rest =
      .flaw ⟨f, Position.origin.after (before ++ l)⟩ (between (before ++ (l ++ [c])) rest) := by
  rw [taking, ← List.append_assoc, ← Reader.lastRead_between (before ++ l) rest c, runAt]
  cases rest with
  | nil =>
      simp only [Reader.rest_between, run, hs]
      rfl
  | cons d rest =>
      simp only [Reader.rest_between, run, h d rfl]
      rfl

/-- The text ends in the middle of something. -/
theorem runAt_reject_nil (hs : s.atEnd = .reject f) :
    runAt s l start (between before []) =
      .flaw ⟨f, Position.origin.after before⟩ (between before []) := by
  rw [runAt]
  simp only [Reader.rest_between, run, hs]
  rfl

theorem runAt_finish (hs : s.atEnd = .finish) :
    runAt s l start (between before []) = .finish (between before []) := by
  rw [runAt]
  simp only [Reader.rest_between, run, hs]
  rfl

/-! ### Many moves -/

variable {w : List Char}

/-- A state that takes every character of `w` and stays. -/
theorem taking_many (h : ∀ c ∈ w, s.step c = .append s) :
    taking s before l (w ++ rest) = taking s before (l ++ w) rest := by
  induction w generalizing l with
  | nil => rw [List.append_nil, List.nil_append]
  | cons c w ih =>
      rw [List.cons_append, taking_append before l _ (h c List.mem_cons_self),
        ih _ fun d hd => h d (List.mem_cons_of_mem c hd), List.append_assoc, List.singleton_append]

/-- A state that passes over every character of `w` and stays. -/
theorem runAt_many (h : ∀ c ∈ w, s.step c = .skip s) :
    runAt s l start (between before (w ++ rest)) =
      runAt s l start (between (before ++ w) rest) := by
  induction w generalizing before with
  | nil => rw [List.append_nil, List.nil_append]
  | cons c w ih =>
      rw [List.cons_append, runAt_skip before l start _ (h c List.mem_cons_self),
        ih _ fun d hd => h d (List.mem_cons_of_mem c hd), List.append_assoc, List.singleton_append]

end

end SourceCheck.Scan

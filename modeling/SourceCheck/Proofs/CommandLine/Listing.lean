import SourceCheck.CommandLine.Run
import SourceCheck.Inspector.Inspection
import SourceCheck.Proofs.Text.Unescape
import SourceCheck.Text.Lines

/-!
# Command line — the listing of the tokens

A run that lists the tokens prints all there is to know about them, one line a token.

* `Options.inspect_of_tokens`: arguments that ask for the listing do not ask for the inspector, so
  the run prints its output and ends (`Options.ListsTokens.run_eq`).
* `lines_unlines`: printable lines stay the lines they were printed as.
* `tokenLine_injective`: a line determines its token.  It is cut at the first colon and at the first
  blanks, which stand neither in a number nor in the name of a kind, and the lexeme is read back
  from its escapes (`Text.unescape_escape`).
* `token_listing_faithful`: so the output determines the tokens and the success.
-/

namespace SourceCheck

/-! ### Names of kinds -/

namespace Kind

def all : List Kind :=
  [identifier, intType, floatType, print, input, ifWord, thenWord, elseWord, forWord, main, var,
    and, or, intLiteral, floatLiteral, stringLiteral, mathOperator, relOperator, assign, leftParen,
    rightParen, leftBrace, rightBrace, colon, semicolon]

/-- The kind with a given name. -/
def ofName? (name : String) : Option Kind :=
  all.find? fun k => k.name == name

theorem ofName?_name (k : Kind) : ofName? k.name = some k := by
  cases k <;> decide

theorem name_injective : Function.Injective name := by
  intro j k h
  have hj := ofName?_name j
  rw [h, ofName?_name k] at hj
  exact (Option.some.inj hj).symm

theorem all_plain_name (k : Kind) : k.name.toList.all Text.isPlainAscii = true := by
  cases k <;> decide

theorem blank_notMem_name (k : Kind) : ' ' ∉ k.name.toList := by
  cases k <;> decide

end Kind

/-! ### Lines of printable text -/

namespace Text

theorem lines_cons {c : Char} (hn : c ≠ '\n') (hr : c ≠ '\r') {cs l : List Char}
    {ls : List (List Char)} (h : lines cs = l :: ls) :
    lines (c :: cs) = (c :: l) :: ls := by
  rw [lines.eq_4 c cs hn fun _ he => absurd he hr, h]

/-- A printable line is cut off at the line feed behind it. -/
theorem lines_append_newline {l : List Char} (hl : ∀ c ∈ l, isPrintable c = true)
    (rest : List Char) : lines (l ++ '\n' :: rest) = l :: lines rest := by
  induction l with
  | nil => exact lines_newline rest
  | cons c l ih =>
      have hc := hl c List.mem_cons_self
      refine lines_cons ?_ ?_ (ih fun b hb => hl b (List.mem_cons_of_mem _ hb))
      · rintro rfl
        exact absurd hc (by decide)
      · rintro rfl
        exact absurd hc (by decide)

end Text

namespace CommandLine

/-! ### Arguments -/

theorem Progress.andThen_eq_answer {p : Progress} {f : Draft → Progress} {r : Request}
    (h : p.andThen f = .answer r) : p = .answer r ∨ ∃ d, f d = .answer r := by
  cases p with
  | more d => exact Or.inr ⟨d, h⟩
  | answer _ => exact Or.inl h
  | failure _ => cases h

namespace Draft

variable {d : Draft} {r : Request} {o : Options}

theorem flag_ne_run (f : Flag) : d.flag f ≠ .answer (.run o) := by
  cases f <;> simp only [flag, ne_eq] <;> (try split) <;> nofun

theorem letters_ne_run (cs : List Char) : d.letters cs ≠ .answer (.run o) := by
  induction cs generalizing d with
  | nil => nofun
  | cons c cs ih =>
      rw [letters]
      split
      · intro h
        rcases Progress.andThen_eq_answer h with h | ⟨_, h⟩
        · exact flag_ne_run _ h
        · exact ih h
      · nofun

theorem value_ne_answer (a : String) : d.value a ≠ .answer r := by
  unfold value
  split
  · nofun
  · split <;> nofun

theorem argument_ne_run (a : String) : d.argument a ≠ .answer (.run o) := by
  unfold argument
  split
  · split
    · exact flag_ne_run _
    · nofun
  · exact letters_ne_run _
  · exact value_ne_answer a

theorem values_ne_answer (as : List String) : d.values as ≠ .answer r := by
  induction as generalizing d with
  | nil => nofun
  | cons a as ih =>
      intro h
      rcases Progress.andThen_eq_answer h with h | ⟨_, h⟩
      · exact value_ne_answer a h
      · exact ih h

/-- Reading ends early for help and for the version only. -/
theorem arguments_ne_run (as : List String) : d.arguments as ≠ .answer (.run o) := by
  induction as generalizing d with
  | nil => nofun
  | cons a as ih =>
      rw [arguments]
      split
      · exact values_ne_answer as
      · intro h
        rcases Progress.andThen_eq_answer h with h | ⟨_, h⟩
        · exact argument_ne_run a h
        · exact ih h

end Draft

theorem exists_draft {args : List String} {o : Options}
    (h : Request.ofArguments args = .ok (.run o)) :
    ∃ d : Draft, d.options = .ok o := by
  unfold Request.ofArguments at h
  split at h
  · next d _ =>
      refine ⟨d, ?_⟩
      cases hd : d.options with
      | error e => simp [hd, Except.map] at h
      | ok o' =>
          simp only [hd, Except.map, Except.ok.injEq, Request.run.injEq] at h
          rw [h]
  · next r hr =>
      cases h
      exact absurd hr (Draft.arguments_ne_run args)
  · cases h

/-- The listing and the inspector are not asked for together. -/
theorem Options.inspect_of_tokens {args : List String} {o : Options}
    (h : Request.ofArguments args = .ok (.run o)) (ht : o.tokens = true) : o.inspect = false := by
  obtain ⟨d, hd⟩ := exists_draft h
  unfold Draft.options at hd
  split at hd
  · cases hd
  · next hc =>
      split at hd
      · cases hd
        exact Bool.eq_false_iff.mpr fun hi => hc ⟨ht, hi⟩
      · cases hd

/-! ### Lines -/

/-- **Lines stay as they were printed**, if they are printable. -/
theorem lines_unlines {texts : List String}
    (h : ∀ text ∈ texts, ∀ c ∈ text.toList, Text.isPrintable c = true) :
    Text.lines (unlines texts).toList = texts.map String.toList := by
  induction texts with
  | nil => exact Text.lines_nil
  | cons text texts ih =>
      have hu : (unlines (text :: texts)).toList =
          text.toList ++ '\n' :: (unlines texts).toList := by
        simp [unlines, String.toList_join]
      rw [hu, Text.lines_append_newline (h text List.mem_cons_self),
        ih fun t ht => h t (List.mem_cons_of_mem _ ht), List.map_cons]

/-! ### The line of a token -/

theorem toList_tokenLine (t : Token) :
    (tokenLine t).toList =
      Nat.toDigits 10 t.location.line ++ ':' :: (Nat.toDigits 10 t.location.column ++ ' ' ::
        (t.kind.name.toList ++ ' ' :: Text.escape t.lexeme.toList)) := by
  have hs (s : String) : toString s = s := rfl
  simp [tokenLine, Text.escapeString, hs]

theorem isDigit_of_mem {n : Nat} {c : Char} (h : c ∈ Nat.toDigits 10 n) : c.isDigit = true :=
  Nat.isDigit_of_mem_toDigits (by decide) (by decide) h

theorem isPlainAscii_of_isDigit {c : Char} (h : c.isDigit = true) : Text.isPlainAscii c = true := by
  simp only [Char.isDigit, ge_iff_le, Bool.and_eq_true, decide_eq_true_eq,
    UInt32.le_iff_toNat_le] at h
  simp only [Text.isPlainAscii, Bool.and_eq_true, decide_eq_true_eq]
  exact ⟨Nat.le_trans (by decide) h.1, Nat.le_trans h.2 (by decide)⟩

theorem toDigits_injective : Function.Injective (Nat.toDigits 10) :=
  Function.LeftInverse.injective fun _ => Nat.ofDigitChars_ten_toDigits

theorem colon_notMem_toDigits (n : Nat) : ':' ∉ Nat.toDigits 10 n := fun h =>
  absurd (isDigit_of_mem h) (by decide)

theorem blank_notMem_toDigits (n : Nat) : ' ' ∉ Nat.toDigits 10 n := fun h =>
  absurd (isDigit_of_mem h) (by decide)

/-- Two lists that are cut at the same element, which neither front has, are cut at the same
place. -/
theorem eq_of_append_cons {α : Type} {a : α} {front front' back back' : List α}
    (hf : a ∉ front) (hf' : a ∉ front') (h : front ++ a :: back = front' ++ a :: back') :
    front = front' ∧ back = back' := by
  induction front generalizing front' with
  | nil =>
      cases front' with
      | nil => exact ⟨rfl, (List.cons.inj h).2⟩
      | cons b _ =>
          obtain rfl : a = b := (List.cons.inj h).1
          exact absurd List.mem_cons_self hf'
  | cons b front ih =>
      cases front' with
      | nil =>
          obtain rfl : b = a := (List.cons.inj h).1
          exact absurd List.mem_cons_self hf
      | cons b' front' =>
          obtain ⟨rfl, hs⟩ := List.cons.inj h
          obtain ⟨rfl, rfl⟩ := ih (fun hm => hf (List.mem_cons_of_mem _ hm))
            (fun hm => hf' (List.mem_cons_of_mem _ hm)) hs
          exact ⟨rfl, rfl⟩

/-- **A line determines its token.** -/
theorem tokenLine_injective : Function.Injective tokenLine := by
  rintro ⟨kind, lexeme, line, column⟩ ⟨kind', lexeme', line', column'⟩ h
  have hl := congrArg String.toList h
  rw [toList_tokenLine, toList_tokenLine] at hl
  obtain ⟨hline, hl⟩ := eq_of_append_cons (colon_notMem_toDigits _) (colon_notMem_toDigits _) hl
  obtain ⟨hcolumn, hl⟩ := eq_of_append_cons (blank_notMem_toDigits _) (blank_notMem_toDigits _) hl
  obtain ⟨hname, hescape⟩ :=
    eq_of_append_cons kind.blank_notMem_name kind'.blank_notMem_name hl
  obtain rfl : line = line' := toDigits_injective hline
  obtain rfl : column = column' := toDigits_injective hcolumn
  obtain rfl : kind = kind' := Kind.name_injective (String.toList_inj.mp hname)
  obtain rfl : lexeme = lexeme' := String.toList_inj.mp (Text.escape_injective hescape)
  rfl

theorem isPrintable_of_mem_tokenLine {t : Token} {c : Char} (h : c ∈ (tokenLine t).toList) :
    Text.isPrintable c = true := by
  have hdigit {n : Nat} (h : c ∈ Nat.toDigits 10 n) : Text.isPrintable c = true :=
    Text.isPrintable_of_isPlainAscii (isPlainAscii_of_isDigit (isDigit_of_mem h))
  simp only [toList_tokenLine, List.mem_append, List.mem_cons] at h
  rcases h with h | rfl | h | rfl | h | rfl | h
  · exact hdigit h
  · exact Text.isPrintable_of_isPlainAscii (by decide)
  · exact hdigit h
  · exact Text.isPrintable_of_isPlainAscii (by decide)
  · exact Text.isPrintable_of_mem t.kind.all_plain_name h
  · exact Text.isPrintable_of_isPlainAscii (by decide)
  · exact Text.isPrintable_of_mem_escape h

theorem tokenLine_ne_success (t : Token) : tokenLine t ≠ "success" := by
  intro h
  have hl := congrArg String.toList h
  rw [toList_tokenLine] at hl
  cases hd : Nat.toDigits 10 t.location.line with
  | nil => exact Nat.toDigits_ne_nil hd
  | cons c ds =>
      have hc := isDigit_of_mem (hd ▸ List.mem_cons_self : c ∈ Nat.toDigits 10 t.location.line)
      rw [hd] at hl
      obtain rfl : c = 's' := (List.cons.inj hl).1
      exact absurd hc (by decide)

/-! ### What is printed about a text -/

/-- The lines on the standard output: one for each token, in order, and then the success, if there
is one. -/
def printout (source : String) : List String :=
  (Inspection.ofString source).tokens.map tokenLine ++
    match check source with
    | .ok () => ["success"]
    | .error _ => []

theorem isPrintable_of_mem_printout {source line : String} (h : line ∈ printout source) :
    ∀ c ∈ line.toList, Text.isPrintable c = true := by
  rcases List.mem_append.mp h with h | h
  · obtain ⟨t, -, rfl⟩ := List.mem_map.mp h
    exact fun c => isPrintable_of_mem_tokenLine
  · split at h
    · obtain rfl := List.mem_singleton.mp h
      exact fun c hc => Text.isPrintable_of_mem (by decide) hc
    · cases h

theorem lines_printout (source : String) :
    Text.lines (unlines (printout source)).toList = (printout source).map String.toList :=
  lines_unlines fun _ h => isPrintable_of_mem_printout h

theorem success_mem_printout_iff (source : String) :
    "success" ∈ printout source ↔ check source = .ok () := by
  have ht : "success" ∉ (Inspection.ofString source).tokens.map tokenLine := fun h => by
    obtain ⟨t, -, ht⟩ := List.mem_map.mp h
    exact tokenLine_ne_success t ht
  rw [printout, List.mem_append]
  split <;> simp [*]

theorem filter_printout (source : String) :
    (printout source).filter (· != "success") =
      (Inspection.ofString source).tokens.map tokenLine := by
  have ht : ∀ line ∈ (Inspection.ofString source).tokens.map tokenLine,
      (line != "success") = true := fun line h => by
    obtain ⟨t, -, rfl⟩ := List.mem_map.mp h
    exact bne_iff_ne.mpr (tokenLine_ne_success t)
  rw [printout, List.filter_append, List.filter_eq_self.mpr ht]
  split <;> simp

/-- **What is printed determines the tokens and the success.** -/
theorem tokens_of_printout {source source' : String} (h : printout source = printout source') :
    (Inspection.ofString source).tokens = (Inspection.ofString source').tokens ∧
      (check source = .ok () ↔ check source' = .ok ()) := by
  constructor
  · refine List.map_injective_iff.mpr tokenLine_injective ?_
    rw [← filter_printout, ← filter_printout, h]
  · rw [← success_mem_printout_iff, ← success_mem_printout_iff, h]

/-! ### Runs that list the tokens -/

/-- The text of a file is what it was saved from. -/
theorem text?_toUTF8 (source : String) : (FileState.bytes source.toUTF8).text? = .ok source := by
  have h : String.fromUTF8? source.toUTF8 = some source := dif_pos source.isValidUTF8
  rw [FileState.text?, h]

theorem checkSource_of_tokens {o : Options} (ht : o.tokens = true) (filter : Filter)
    (source : String) :
    (checkSource o filter source).stdout = unlines (printout source) ∧
      (checkSource o filter source).exit = match check source with
        | .ok () => 0
        | .error _ => 1 := by
  simp only [checkSource, printout, ht, if_true]
  cases check source with
  | ok _ => exact ⟨rfl, rfl⟩
  | error _ => exact ⟨by rw [List.append_nil]; rfl, rfl⟩

/-- The options of arguments that ask for the listing. -/
structure Options.ListsTokens (o : Options) : Prop where
  asked : ∃ args, Request.ofArguments args = .ok (.run o)
  tokens : o.tokens = true

theorem Options.ListsTokens.run_eq {o : Options} (h : o.ListsTokens) (setting : Option String)
    (source : String) :
    run o setting (.bytes source.toUTF8) =
      .done (checkSource o (logFilter setting o.verbosity) source) := by
  obtain ⟨args, ha⟩ := h.asked
  simp only [run, text?_toUTF8, Options.inspect_of_tokens ha h.tokens, Bool.false_eq_true,
    if_false]

/-- **The listing of the tokens is faithful.**  Whatever detail of the log is asked for, a run that
lists the tokens of a text ends with one line for each of them, in order, then `success` just if the
check succeeds, and with the exit code for that.  Another such run prints the same only for the
same tokens and the same success. -/
theorem token_listing_faithful {o : Options} (h : o.ListsTokens) (setting : Option String)
    (source : String) :
    ∃ output, run o setting (.bytes source.toUTF8) = .done output ∧
      output.stdout = unlines (printout source) ∧
      Text.lines output.stdout.toList = (printout source).map String.toList ∧
      (output.exit = match check source with
        | .ok () => 0
        | .error _ => 1) ∧
      ∀ {o' : Options} {setting' : Option String} {source' : String} {output' : Output},
        o'.ListsTokens → run o' setting' (.bytes source'.toUTF8) = .done output' →
        output.stdout = output'.stdout →
        (Inspection.ofString source).tokens = (Inspection.ofString source').tokens ∧
          (check source = .ok () ↔ check source' = .ok ()) := by
  obtain ⟨hout, hexit⟩ := checkSource_of_tokens h.tokens (logFilter setting o.verbosity) source
  refine ⟨_, h.run_eq setting source, hout, by rw [hout, lines_printout], hexit, ?_⟩
  intro o' setting' source' output' h' hrun hsame
  rw [h'.run_eq, Outcome.done.injEq] at hrun
  rw [hout, ← hrun, (checkSource_of_tokens h'.tokens _ source').1] at hsame
  refine tokens_of_printout (List.map_injective_iff.mpr (fun _ _ => String.toList_inj.mp) ?_)
  rw [← lines_printout, ← lines_printout, hsame]

/-- A string that looks like an escape and, behind a line feed, like a line of the listing; and
the same text with a line feed at its end. -/
theorem token_listing_faithful_string :
    Request.ofArguments ["-tvv", "input"] = .ok (.run ⟨"input", true, false, 2⟩) ∧
    ∃ output output',
      run ⟨"input", true, false, 2⟩ (some "trace")
        (.bytes "\"\\n\n1:1 IF\"".toUTF8) = .done output ∧
      run ⟨"input", true, false, 2⟩ none
        (.bytes "\"\\n\n1:1 IF\"\n".toUTF8) = .done output' ∧
      Text.lines output.stdout.toList = ["1:1 STRING \\\"\\\\n\\n1:1 IF\\\"".toList] ∧
      output.exit = 1 ∧ output.stdout = output'.stdout ∧
      (Inspection.ofString "\"\\n\n1:1 IF\"").tokens =
        (Inspection.ofString "\"\\n\n1:1 IF\"\n").tokens := by
  have hargs : Request.ofArguments ["-tvv", "input"] = .ok (.run ⟨"input", true, false, 2⟩) := rfl
  have h : Options.ListsTokens ⟨"input", true, false, 2⟩ := ⟨⟨_, hargs⟩, rfl⟩
  have hprintout : ∀ rest ∈ ["", "\n"],
      printout ("\"\\n\n1:1 IF\"" ++ rest) = ["1:1 STRING \\\"\\\\n\\n1:1 IF\\\""] := by
    decide +kernel
  obtain ⟨output, hrun, hout, hlines, hexit, hsame⟩ := token_listing_faithful h (some "trace")
    "\"\\n\n1:1 IF\""
  obtain ⟨output', hrun', hout', -⟩ := token_listing_faithful h none "\"\\n\n1:1 IF\"\n"
  have hfirst := hprintout "" (by decide)
  have hstdout : output.stdout = output'.stdout := by
    rw [hout, hout']
    exact congrArg unlines (hfirst.trans (hprintout "\n" (by decide)).symm)
  refine ⟨hargs, output, output', hrun, hrun', ?_, ?_, hstdout, (hsame h hrun' hstdout).1⟩
  · rw [hlines]
    exact congrArg (List.map String.toList) hfirst
  · rw [hexit]
    decide +kernel

end CommandLine

end SourceCheck

import SourceCheck.Log
import SourceCheck.Text.Alphanumeric

/-!
# Command line — log filters

A log setting is a list of directives between commas.  A directive is a level, a target, or a
target and a level with an equals sign between them; the target is the beginning of the names of
the parts it is about.  Behind the target can stand, in brackets, the name of a span of work and,
in braces, a field.  Of the directives that concern an event the most specific one decides, and of
several equally specific ones the last; an event that none concerns is not shown.  A setting with
a malformed directive is no setting at all.
-/

namespace SourceCheck.CommandLine

/-! ### Levels -/

/-- The greatest detail shown, from nothing at all upwards. -/
abbrev Detail := Nat

/-- A number in decimal digits, with or without a plus sign. -/
def number? (text : List Char) : Option Nat :=
  let digits := if text.head? = some '+' then text.tail else text
  if !digits.isEmpty && digits.all Char.isDigit then
    some (digits.foldl (fun n c => 10 * n + (c.toNat - '0'.toNat)) 0)
  else none

/-- The detail by its number or by the name of a level, in letters of either case. -/
def detail? (text : List Char) : Option Detail :=
  match number? text with
  | some n => if n ≤ Level.trace.detail then some n else none
  | none =>
    match String.ofList (text.map Char.toLower) with
    | "off" => some 0
    | "error" => some Level.error.detail
    | "warn" => some Level.warn.detail
    | "info" => some Level.info.detail
    | "debug" => some Level.debug.detail
    | "trace" => some Level.trace.detail
    | _ => none

/-! ### Directives -/

/-- What a log setting says about some of the events. -/
structure Directive where
  /-- The beginning of the names of the parts concerned, if not all are. -/
  target : Option (List Char) := none
  /-- Whether only events inside certain spans of work are concerned; there are no spans here. -/
  inSpan : Bool := false
  /-- The fields that an event must have to be concerned. -/
  fields : List (List Char) := []
  detail : Detail := Level.trace.detail

namespace Directive

/-- An event has one field, its message. -/
def eventFields : List (List Char) := ["message".toList]

def concerns (d : Directive) (e : Event) : Bool :=
  !d.inSpan && d.target.all (·.isPrefixOf e.part.name.toList) && d.fields.all eventFields.contains

/-- How specific a directive is: by the length of its target, then by the number of its fields. -/
def rank (d : Directive) : Nat × Nat :=
  (d.target.elim 0 fun t => t.length + 1, d.fields.length)

/-- Whether a directive decides against one that stands before it. -/
def overrules (d before : Directive) : Bool :=
  before.rank.1 < d.rank.1 || (before.rank.1 == d.rank.1 && before.rank.2 ≤ d.rank.2)

/-! ### Reading directives -/

/-- The blanks that can stand around a directive. -/
def isBlank (c : Char) : Bool :=
  let n := c.toNat
  (9 ≤ n && n ≤ 13) || n == 0x20 || n == 0x85 || n == 0xA0 || n == 0x1680 ||
    (0x2000 ≤ n && n ≤ 0x200A) || n == 0x2028 || n == 0x2029 || n == 0x202F || n == 0x205F ||
    n == 0x3000

/-- A text without the blanks around it. -/
def trim (text : List Char) : List Char :=
  ((text.dropWhile isBlank).reverse.dropWhile isBlank).reverse

/-- Whether a target can begin with a character. -/
def opensTarget (c : Char) : Bool :=
  c == '-' || c == ':' || c == '_' || Text.isAlphanumeric c

/-- A word alone is a level, or else a target that is to be shown in all detail. -/
def ofWord (word : List Char) : Directive :=
  match detail? word with
  | some detail => { detail := detail }
  | none => { target := some word }

/-- A directive with the level that is given behind its equals sign; no level is the greatest
detail. -/
def withLevel? (d : Directive) (level : List Char) : Option Directive :=
  if level.isEmpty then some d
  else (detail? level).map fun detail => { d with detail := detail }

/-- A directive whose text goes on at some place behind the brackets: with a level or not at
all. -/
def ending? (d : Directive) (raw text : List Char) (place : Nat) : Option Directive :=
  match text.drop place with
  | [] => some d
  | '=' :: _ => d.withLevel? (raw.drop (place + 1))
  | _ => none

/-- A directive with a field in braces, which are open before the given place. -/
def withField? (d : Directive) (raw text : List Char) (place : Nat) : Option Directive :=
  match (text.drop place).findIdx? (· == '\x7d') with
  | none => none
  | some length =>
    let field := (raw.drop place).take length
    let next := place + length + 1
    if field.isEmpty || text[next]? != some ']' then none
    else
      ending?
        { d with
          inSpan := d.inSpan || field.contains '='
          fields := [field.takeWhile (· != '=')] }
        raw text (next + 1)

/-- A directive with a span in brackets, which are open before the given place. -/
def withSpan? (d : Directive) (raw text : List Char) (place : Nat) : Option Directive :=
  match (text.drop place).findIdx? fun c => c == ']' || c == '\x7b' with
  | none => none
  | some length =>
    let stop := place + length
    if text[stop]? = some ']' then ending? { d with inSpan := true } raw text (stop + 1)
    else withField? { d with inSpan := !((raw.drop place).take length).isEmpty } raw text (stop + 1)

/-- The directive that a text is.  Blanks around it are passed over in finding its parts, but the
parts are cut out of the whole text at the places found, so that a blank in front moves all of
them. -/
def ofText? (raw : List Char) : Option Directive :=
  let text := trim raw
  match text with
  | [] => none
  | '[' :: _ => withSpan? {} raw text 1
  | c :: _ =>
    if !opensTarget c then none
    else
      match text.findIdx? fun c => c == '=' || c == '[' with
      | none => some (ofWord raw)
      | some i =>
        let d : Directive := { target := some (raw.take i) }
        if text[i]? = some '=' then d.withLevel? (raw.drop (i + 1))
        else d.withSpan? raw text (i + 1)

end Directive

/-! ### Filters -/

abbrev Filter := List Directive

namespace Filter

/-- The same detail for all events. -/
def ofDetail (detail : Detail) : Filter := [{ detail := detail }]

/-- The filter that a setting is; nothing between two commas is no directive. -/
def ofSetting? (setting : String) : Option Filter :=
  ((setting.toList.splitOn ',').filter (!·.isEmpty)).mapM Directive.ofText?

/-- The directive that decides about an event. -/
def deciding? (f : Filter) (e : Event) : Option Directive :=
  (f.filter (·.concerns e)).foldl
    (fun best d =>
      match best with
      | some b => if d.overrules b then some d else some b
      | none => some d)
    none

def shows (f : Filter) (e : Event) : Bool :=
  (f.deciding? e).any fun d => e.level.detail ≤ d.detail

theorem shows_ofDetail (detail : Detail) (e : Event) :
    (ofDetail detail).shows e = decide (e.level.detail ≤ detail) := by
  simp [ofDetail, shows, deciding?, Directive.concerns]

end Filter

end SourceCheck.CommandLine

import SourceCheck.Text.Emoji
import SourceCheck.Text.Marks
import SourceCheck.Text.Printable

/-!
# Text — width on a character grid

A character takes one cell, with two exceptions: ideographs and other wide characters take two,
and marks, joiners and invisible characters take none.  Controls take one cell like any other
character, but a line break takes none, be it a line feed alone or behind a carriage return.  The
width of a text is mostly the sum over its characters; an emoji made of several characters is two
cells wide, a selector can make a character wide or narrow, and a letter that is stacked below
another takes no room.  Each of these hangs on what stands to the right of a character, so a text
is measured from its end.
-/

namespace SourceCheck.Text

/-! ### Single characters -/

/-- The characters two cells wide. -/
def wide : Ranges :=
  [(0x1100, 0x115F), (0x231A, 0x231B), (0x2329, 0x232A), (0x23E9, 0x23EC), (0x23F0, 0x23F0),
  (0x23F3, 0x23F3), (0x25FD, 0x25FE), (0x2614, 0x2615), (0x2648, 0x2653), (0x267F, 0x267F),
  (0x2693, 0x2693), (0x26A1, 0x26A1), (0x26AA, 0x26AB), (0x26BD, 0x26BE), (0x26C4, 0x26C5),
  (0x26CE, 0x26CE), (0x26D4, 0x26D4), (0x26EA, 0x26EA), (0x26F2, 0x26F3), (0x26F5, 0x26F5),
  (0x26FA, 0x26FA), (0x26FD, 0x26FD), (0x2705, 0x2705), (0x270A, 0x270B), (0x2728, 0x2728),
  (0x274C, 0x274C), (0x274E, 0x274E), (0x2753, 0x2755), (0x2757, 0x2757), (0x2795, 0x2797),
  (0x27B0, 0x27B0), (0x27BF, 0x27BF), (0x2B1B, 0x2B1C), (0x2B50, 0x2B50), (0x2B55, 0x2B55),
  (0x2E80, 0x2E99), (0x2E9B, 0x2EF3), (0x2F00, 0x2FD5), (0x2FF0, 0x303E), (0x3041, 0x3096),
  (0x3099, 0x30FF), (0x3105, 0x312F), (0x3131, 0x318E), (0x3190, 0x31E3), (0x31EF, 0x321E),
  (0x3220, 0x3247), (0x3250, 0x4DBF), (0x4E00, 0xA48C), (0xA490, 0xA4C6), (0xA960, 0xA97C),
  (0xAC00, 0xD7A3), (0xF900, 0xFAFF), (0xFE10, 0xFE19), (0xFE30, 0xFE52), (0xFE54, 0xFE66),
  (0xFE68, 0xFE6B), (0xFF01, 0xFF60), (0xFFE0, 0xFFE6), (0x16FE0, 0x16FE4), (0x16FF0, 0x16FF1),
  (0x17000, 0x187F7), (0x18800, 0x18CD5), (0x18D00, 0x18D08), (0x1AFF0, 0x1AFF3),
  (0x1AFF5, 0x1AFFB), (0x1AFFD, 0x1AFFE), (0x1B000, 0x1B122), (0x1B132, 0x1B132),
  (0x1B150, 0x1B152), (0x1B155, 0x1B155), (0x1B164, 0x1B167), (0x1B170, 0x1B2FB),
  (0x1F004, 0x1F004), (0x1F0CF, 0x1F0CF), (0x1F18E, 0x1F18E), (0x1F191, 0x1F19A),
  (0x1F200, 0x1F202), (0x1F210, 0x1F23B), (0x1F240, 0x1F248), (0x1F250, 0x1F251),
  (0x1F260, 0x1F265), (0x1F300, 0x1F320), (0x1F32D, 0x1F335), (0x1F337, 0x1F37C),
  (0x1F37E, 0x1F393), (0x1F3A0, 0x1F3CA), (0x1F3CF, 0x1F3D3), (0x1F3E0, 0x1F3F0),
  (0x1F3F4, 0x1F3F4), (0x1F3F8, 0x1F43E), (0x1F440, 0x1F440), (0x1F442, 0x1F4FC),
  (0x1F4FF, 0x1F53D), (0x1F54B, 0x1F54E), (0x1F550, 0x1F567), (0x1F57A, 0x1F57A),
  (0x1F595, 0x1F596), (0x1F5A4, 0x1F5A4), (0x1F5FB, 0x1F64F), (0x1F680, 0x1F6C5),
  (0x1F6CC, 0x1F6CC), (0x1F6D0, 0x1F6D2), (0x1F6D5, 0x1F6D7), (0x1F6DC, 0x1F6DF),
  (0x1F6EB, 0x1F6EC), (0x1F6F4, 0x1F6FC), (0x1F7E0, 0x1F7EB), (0x1F7F0, 0x1F7F0),
  (0x1F90C, 0x1F93A), (0x1F93C, 0x1F945), (0x1F947, 0x1F9FF), (0x1FA70, 0x1FA7C),
  (0x1FA80, 0x1FA88), (0x1FA90, 0x1FABD), (0x1FABF, 0x1FAC5), (0x1FACE, 0x1FADB),
  (0x1FAE0, 0x1FAE8), (0x1FAF0, 0x1FAF8), (0x20000, 0x2FFFD), (0x30000, 0x3FFFD)]

/-- The signs and letters that are no marks and still take no room. -/
def roomless : Ranges :=
  [(0x605, 0x605), (0x70F, 0x70F), (0x890, 0x891), (0x8E2, 0x8E2), (0xD4E, 0xD4E),
  (0x1160, 0x11FF), (0xA8FA, 0xA8FA), (0xD7B0, 0xD7C6), (0xD7CB, 0xD7FB), (0xFF9E, 0xFF9F),
  (0x111C2, 0x111C3), (0x1171E, 0x1171E), (0x1193F, 0x1193F), (0x11941, 0x11941),
  (0x11A3A, 0x11A3A), (0x11A84, 0x11A89), (0x11D46, 0x11D46), (0x11F02, 0x11F02)]

/-- The marks and fillers that take room all the same. -/
def ownRoom : Ranges :=
  [(0x897, 0x897), (0x115F, 0x115F), (0x1715, 0x1715), (0x1734, 0x1734), (0x1ACF, 0x1ADD),
  (0x1AE0, 0x1AEB), (0x1B44, 0x1B44), (0x1BAA, 0x1BAA), (0x1BF2, 0x1BF3), (0x2D7F, 0x2D7F),
  (0xA953, 0xA953), (0xA9C0, 0xA9C0), (0x10D69, 0x10D6D), (0x10EFA, 0x10EFC), (0x111C0, 0x111C0),
  (0x11235, 0x11235), (0x1134D, 0x1134D), (0x113B8, 0x113B8), (0x113BB, 0x113C0),
  (0x113C2, 0x113C2), (0x113C5, 0x113C5), (0x113C7, 0x113C9), (0x113CE, 0x113D0),
  (0x113D2, 0x113D2), (0x113E1, 0x113E2), (0x116B6, 0x116B6), (0x1193D, 0x1193D),
  (0x11B60, 0x11B60), (0x11B62, 0x11B64), (0x11B66, 0x11B66), (0x11F41, 0x11F41),
  (0x11F5A, 0x11F5A), (0x1611E, 0x16129), (0x1612D, 0x1612F), (0x16FF0, 0x16FF1),
  (0x1D166, 0x1D166), (0x1D16D, 0x1D16D), (0x1E5EE, 0x1E5EF), (0x1E6E3, 0x1E6E3),
  (0x1E6E6, 0x1E6E6), (0x1E6EE, 0x1E6EF), (0x1E6F5, 0x1E6F5)]

/-- Whether a character takes no cell. -/
def isRoomless (c : Char) : Bool :=
  (isMark c || isIgnorable c || roomless.has c) && !ownRoom.has c

/-- The number of cells a character takes by itself. -/
def charWidth (c : Char) : Nat :=
  if ' ' ≤ c ∧ c ≤ '~' then 1
  else if c = '\n' || isRoomless c then 0
  else if c = '\u17d8' then 3
  else if c = '\u17a4' || wide.has c then 2
  else 1

theorem charWidth_le_three (c : Char) : charWidth c ≤ 3 := by
  unfold charWidth
  repeat' split
  all_goals omega

/-! ### Texts -/

/-- The letters that a stacking sign puts below the letter before it. -/
def stackable : Ranges :=
  [(0x1780, 0x1782), (0x1784, 0x1787), (0x1789, 0x178C), (0x178E, 0x1793), (0x1795, 0x1798),
  (0x179B, 0x179D), (0x17A0, 0x17A0), (0x17A2, 0x17A2), (0x17A7, 0x17A7), (0x17AB, 0x17AC),
  (0x17AF, 0x17AF)]

/-- Puts the letter after it below the letter before it. -/
def stackingSign : Char := '\u17d2'

/-- The marks that can stand anywhere in a stack. -/
def isStackMark (c : Char) : Bool :=
  c == joiner || (isMark c && isIgnorable c)

/-- What a text begins with, as far as the width of the character before it hangs on it. -/
inductive Opening where
  | plain
  | lineFeed
  | emoji
  | skinTone
  /-- One regional indicator. -/
  | regional
  /-- Several of them. -/
  | flag
  /-- A joiner and an emoji. -/
  | joined
  /-- The tags of a flag, first digits and then letters, in front of a joiner and an emoji. -/
  | tags (digits letters : Nat)
  /-- A letter that can be stacked, perhaps behind marks. -/
  | stackable
deriving DecidableEq

/-- A selector that the text begins with. -/
inductive Selector where
  | text | emoji
deriving DecidableEq

/-- What there is to know of a text in order to measure it with one more character in front. -/
structure Measured where
  width : Nat := 0
  opening : Opening := .plain
  selector : Option Selector := none

/-- What a character alone is at the beginning of a text. -/
def Opening.ofChar (c : Char) : Opening :=
  if c = '\n' then .lineFeed
  else if ' ' ≤ c ∧ c ≤ '~' then .plain
  else if isSkinTone c then .skinTone
  else if isRegional c then .regional
  else if emojiStyle.has c then .emoji
  else if Text.stackable.has c then .stackable
  else .plain

namespace Measured

/-- A character with its own width. -/
def plain (c : Char) (m : Measured) : Measured where
  width := m.width + charWidth c
  opening := .ofChar c

/-- A character that takes no room of its own because of what follows it. -/
def absorb (m : Measured) (opening : Opening) : Measured where
  width := m.width
  opening := opening

/-- A character in front of a text that begins with no selector. -/
def unselected (c : Char) (m : Measured) : Measured :=
  match m.opening with
  | .plain => m.plain c
  | .lineFeed => if c = '\r' then m.absorb .plain else m.plain c
  | .emoji => if c = joiner then m.absorb .joined else m.plain c
  | .skinTone =>
    if people.has c then m.absorb .emoji
    else if c = joiner then m.absorb .joined
    else m.plain c
  | .regional => if isRegional c then ⟨m.width + 1, .flag, none⟩ else m.plain c
  | .flag =>
    if isRegional c then ⟨m.width + 1, .flag, none⟩
    else if c = joiner then m.absorb .joined
    else m.plain c
  | .joined =>
    if isSkinTone c then m.absorb .skinTone
    else if emojiStyle.has c then m.absorb .emoji
    else if c = tagEnd then m.absorb (.tags 0 0)
    else m.plain c
  | .tags digits letters =>
    if isTagLetter c && digits == 0 && letters < 6 then m.absorb (.tags 0 (letters + 1))
    else if isTagDigit c && letters < 5 && digits < 3 then m.absorb (.tags (digits + 1) letters)
    else if c = blackFlag && (digits == 3 || (digits == 0 && 3 ≤ letters)) then m.absorb .emoji
    else m.plain c
  | .stackable =>
    if isStackMark c then m.absorb .stackable
    else if c = stackingSign then ⟨m.width - 1, .plain, none⟩
    else m.plain c

/-- A selector in front of a text. -/
def select (s : Selector) (m : Measured) : Measured :=
  match s, m.opening with
  | _, .stackable => ⟨m.width, .stackable, some s⟩
  | .emoji, .joined => ⟨m.width, .joined, some .emoji⟩
  | _, _ => ⟨m.width, .plain, some s⟩

/-- The text without the selector, which the character in front of it does not obey. -/
def ignoreSelector (m : Measured) : Measured :=
  match m.opening with
  | .stackable => m.absorb .stackable
  | _ => m.absorb .plain

/-- A character that the selector behind it may turn into text or into an emoji. -/
def selected (s : Selector) (c : Char) (m : Measured) : Option Measured :=
  match s with
  | .emoji =>
    if bothStyles.has c then
      some (if m.opening = .joined then m.absorb .emoji else ⟨m.width + 2, .emoji, none⟩)
    else none
  | .text =>
    if bothStyles.has c && emojiStyle.has c && !(0x1F200 ≤ c.toNat && c.toNat ≤ 0x1F2FF) then
      some ⟨m.width + 1, .plain, none⟩
    else none

/-- One more character in front of a text. -/
def push (c : Char) (m : Measured) : Measured :=
  let bare := if m.selector.isSome then m.ignoreSelector else m
  match m.selector.bind fun s => m.selected s c with
  | some m' => m'
  | none =>
    if c = emojiSelector then bare.select .emoji
    else if c = textSelector then bare.select .text
    else bare.unselected c

end Measured

/-- The number of cells a text takes. -/
def width (text : List Char) : Nat :=
  (text.foldr Measured.push {}).width

theorem width_singleton (c : Char) : width [c] = charWidth c := by
  by_cases emoji : c = emojiSelector
  · subst emoji
    decide +kernel
  · by_cases text : c = textSelector
    · subst text
      decide +kernel
    · simp [width, Measured.push, Measured.unselected, Measured.plain, emoji, text]

end SourceCheck.Text

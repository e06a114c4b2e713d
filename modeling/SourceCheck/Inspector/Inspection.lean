import SourceCheck.Check

/-!
# Inspector — what there is to show about a text

An inspection holds the tokens of a text up to its first flaw and the verdict of the check.  The
check may stop earlier than the scan, at a token the grammar does not allow.
-/

namespace SourceCheck

structure Inspection where
  /-- The tokens before the first flaw, or all of them. -/
  tokens : List Token
  /-- Whether a flaw cut the scan short. -/
  stoppedEarly : Bool
  verdict : Verdict

namespace Inspection

def ofString (source : String) : Inspection :=
  let stream := TokenStream.ofString source
  ⟨stream.tokens, stream.fault?.isSome, check source⟩

/-- Where the error is, if there is one and it has a place in the text. -/
def errorLocation? (i : Inspection) : Option Position :=
  i.verdict.location?

/-- The verdict in one line. -/
def summary (i : Inspection) : String :=
  match i.verdict with
  | .ok () => s!"{i.tokens.length} tokens, program is valid"
  | .error d => d.describe

end Inspection

end SourceCheck

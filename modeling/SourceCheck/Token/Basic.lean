import SourceCheck.Text.Position
import SourceCheck.Token.Kind

/-!
# Token — tokens

A token is a kind, the characters it was read from, and the position of the first of them.
-/

namespace SourceCheck

structure Token where
  kind : Kind
  lexeme : String
  location : Position
deriving DecidableEq

namespace Token

/-- The token as diagnostics and log lines show it: its kind's name around the raw lexeme. -/
def describe (t : Token) : String :=
  t.kind.name ++ "(" ++ t.lexeme ++ ")"

end Token

end SourceCheck

import SourceCheck.Scan.Scanner

/-!
# Scan — the token stream

The tokens of a text in order, up to the end of the input or the first flaw.  The end carries
the position just behind the last character.
-/

namespace SourceCheck

inductive TokenStream where
  | token (t : Token) (rest : TokenStream)
  | fault (e : LexicalError)
  | finish (stop : Position)

namespace TokenStream

/-- The stream of the text ahead of a reader. -/
def ofReader (r : Reader) : TokenStream :=
  match _h : r.scan with
  | .token t after => .token t (ofReader after)
  | .flaw e _ => .fault e
  | .finish after => .finish after.here
termination_by r.rest.length
decreasing_by exact Reader.length_lt_of_scan_token _h

/-- The stream goes on behind each token that the scan finds. -/
theorem ofReader_eq (r : Reader) :
    ofReader r = match r.scan with
      | .token t after => .token t (ofReader after)
      | .flaw e _ => .fault e
      | .finish after => .finish after.here := by
  rw [ofReader]
  split <;> simp only [*]

def ofString (source : String) : TokenStream :=
  ofReader (.ofString source)

/-- The tokens before the end or the first flaw. -/
def tokens : TokenStream → List Token
  | token t rest => t :: rest.tokens
  | fault _ | finish _ => []

/-- The flaw that cuts the stream short, if there is one. -/
def fault? : TokenStream → Option LexicalError
  | token _ rest => rest.fault?
  | fault e => some e
  | finish _ => none

/-- The first token, if scanning reaches one or the end of the input. -/
def head : TokenStream → Except LexicalError (Option Token)
  | token t _ => .ok (some t)
  | fault e => .error e
  | finish _ => .ok none

end TokenStream

/-- All tokens of a text, or its first flaw. -/
def tokenize (source : String) : Except LexicalError (List Token) :=
  let stream := TokenStream.ofString source
  match stream.fault? with
  | some e => .error e
  | none => .ok stream.tokens

theorem tokenize_eq_ok_iff {source : String} {ts : List Token} :
    tokenize source = .ok ts ↔
      (TokenStream.ofString source).fault? = none ∧ (TokenStream.ofString source).tokens = ts := by
  unfold tokenize
  cases h : (TokenStream.ofString source).fault? <;> simp [h]

theorem tokenize_eq_error_iff {source : String} {e : LexicalError} :
    tokenize source = .error e ↔ (TokenStream.ofString source).fault? = some e := by
  unfold tokenize
  cases h : (TokenStream.ofString source).fault? <;> simp [h]

end SourceCheck

import SourceCheck.Grammar.Symbol
import SourceCheck.Proofs.Grammar.Form

/-!
# Grammar — the rules of the language

The rules are given once, up to the reading of what stands where a parenthesised clause could
also stand: a condition, and an operand after `AND` or `OR`.  There are two readings.

* `documented`: either alternative may be taken, so an opening parenthesis there begins a group
  or a parenthesised factor.
* `committed`: an opening parenthesis there always begins a group.

`Symbol.form` says which form each symbol of the recogniser stands for, and `spelled` which
language a whole stack of them does.
-/

namespace SourceCheck.Grammar

namespace Form

/-- The rest of a term: further factors. -/
def productTail : Form :=
  many (sign ["*", "/"] ++ phrase .factor)

/-- The rest of an expression: further terms. -/
def sumTail : Form :=
  many (sign ["+", "-"] ++ phrase .term)

/-- The rest of a relation: its second side, if any. -/
def relationTail : Form :=
  optional (kind .relOperator ++ phrase .expression)

def relation : Form :=
  phrase .expression ++ relationTail

def group : Form :=
  parens (phrase .clause)

end Form

open Form (kind sign phrase many parens productTail sumTail relationTail relation group)

/-- The rules; `ungrouped` reads what is not meant as a group where a group could stand. -/
def rules (ungrouped : Form → Form) : Phrase → Form
  | .program =>
    kind .main ++ kind .leftBrace ++ (phrase .varSection).optional ++ phrase .commands ++
      kind .rightBrace
  | .varSection =>
    kind .var ++ kind .leftBrace ++ many (phrase .declaration) ++ kind .rightBrace
  | .declaration => kind .identifier ++ kind .colon ++ phrase .typeName ++ kind .semicolon
  | .typeName => kind .intType ∪ kind .floatType
  | .commands => many (phrase .command)
  | .command =>
    phrase .inputStatement ∪ phrase .printStatement ∪ phrase .ifStatement ∪ phrase .assignment
  | .inputStatement => kind .input ++ parens (kind .identifier) ++ kind .semicolon
  | .printStatement =>
    kind .print ++ parens (kind .stringLiteral ∪ phrase .expression) ++ kind .semicolon
  | .assignment => kind .identifier ++ kind .assign ++ phrase .expression ++ kind .semicolon
  | .ifStatement =>
    kind .ifWord ++ phrase .condition ++ kind .thenWord ++ kind .leftBrace ++ phrase .commands ++
      kind .rightBrace
  | .condition => group ∪ ungrouped (phrase .clause)
  | .clause => relation ++ phrase .clauseTail
  | .clauseTail => many ((kind .and ∪ kind .or) ++ (group ∪ ungrouped relation))
  | .expression => phrase .term ++ sumTail
  | .term => phrase .factor ++ productTail
  | .factor =>
    kind .identifier ∪ kind .intLiteral ∪ kind .floatLiteral ∪ parens (phrase .expression)

def documented : Phrase → Form :=
  rules id

def committed : Phrase → Form :=
  rules Form.bare

/-! ### The languages of the phrases -/

section

variable (u : Form → Form)

theorem words_program :
    words (rules u) (phrase .program) =
      kindWords .main * (kindWords .leftBrace * (words (rules u) (phrase .varSection).optional *
        (words (rules u) (phrase .commands) * kindWords .rightBrace))) := by
  simp only [words_phrase _ .program, rules, words_append, words_kind, mul_assoc]

theorem words_varSection :
    words (rules u) (phrase .varSection) =
      kindWords .var * (kindWords .leftBrace * (words (rules u) (many (phrase .declaration)) *
        kindWords .rightBrace)) := by
  simp only [words_phrase _ .varSection, rules, words_append, words_kind, mul_assoc]

theorem words_declaration :
    words (rules u) (phrase .declaration) =
      kindWords .identifier * (kindWords .colon * (words (rules u) (phrase .typeName) *
        kindWords .semicolon)) := by
  simp only [words_phrase _ .declaration, rules, words_append, words_kind, mul_assoc]

theorem words_typeName :
    words (rules u) (phrase .typeName) = kindWords .intType + kindWords .floatType := by
  simp only [words_phrase _ .typeName, rules, words_union, words_kind]

theorem words_commands :
    words (rules u) (phrase .commands) =
      1 + words (rules u) (phrase .command) * words (rules u) (phrase .commands) := by
  simp only [words_phrase _ .commands, rules]
  exact words_many _ _

theorem words_command :
    words (rules u) (phrase .command) =
      words (rules u) (phrase .inputStatement) + words (rules u) (phrase .printStatement) +
        words (rules u) (phrase .ifStatement) + words (rules u) (phrase .assignment) := by
  simp only [words_phrase _ .command, rules, words_union]

theorem words_inputStatement :
    words (rules u) (phrase .inputStatement) =
      kindWords .input * (kindWords .leftParen * (kindWords .identifier *
        (kindWords .rightParen * kindWords .semicolon))) := by
  simp only [words_phrase _ .inputStatement, rules, words_append, words_kind, words_parens,
    mul_assoc]

theorem words_printStatement :
    words (rules u) (phrase .printStatement) =
      kindWords .print * (kindWords .leftParen *
        (words (rules u) (kind .stringLiteral ∪ phrase .expression) *
          (kindWords .rightParen * kindWords .semicolon))) := by
  simp only [words_phrase _ .printStatement, rules, words_append, words_kind, words_parens,
    mul_assoc]

theorem words_ifStatement :
    words (rules u) (phrase .ifStatement) =
      kindWords .ifWord * (words (rules u) (phrase .condition) * (kindWords .thenWord *
        (kindWords .leftBrace * (words (rules u) (phrase .commands) *
          kindWords .rightBrace)))) := by
  simp only [words_phrase _ .ifStatement, rules, words_append, words_kind, mul_assoc]

theorem words_assignment :
    words (rules u) (phrase .assignment) =
      kindWords .identifier * (kindWords .assign * (words (rules u) (phrase .expression) *
        kindWords .semicolon)) := by
  simp only [words_phrase _ .assignment, rules, words_append, words_kind, mul_assoc]

theorem words_group :
    words (rules u) group =
      kindWords .leftParen * (words (rules u) (phrase .clause) * kindWords .rightParen) := by
  simp only [group, words_parens, mul_assoc]

theorem words_condition :
    words (rules u) (phrase .condition) =
      words (rules u) group + words (rules u) (u (phrase .clause)) := by
  simp only [words_phrase _ .condition, rules, words_union]

theorem words_clause :
    words (rules u) (phrase .clause) =
      words (rules u) relation * words (rules u) (phrase .clauseTail) := by
  simp only [words_phrase _ .clause, rules, words_append]

theorem words_clauseTail :
    words (rules u) (phrase .clauseTail) =
      1 + (kindWords .and + kindWords .or) * (words (rules u) (group ∪ u relation) *
        words (rules u) (phrase .clauseTail)) := by
  have h := words_many (rules u) ((kind .and ∪ kind .or) ++ (group ∪ u relation))
  rw [words_append, words_union _ (kind .and), words_kind, words_kind, mul_assoc] at h
  simpa only [words_phrase _ .clauseTail, rules] using h

theorem words_relation :
    words (rules u) relation =
      words (rules u) (phrase .expression) * words (rules u) relationTail := by
  simp only [relation, words_append]

theorem words_relationTail :
    words (rules u) relationTail =
      1 + kindWords .relOperator * words (rules u) (phrase .expression) := by
  simp only [relationTail, words_optional, words_append, words_kind]

theorem words_expression :
    words (rules u) (phrase .expression) =
      words (rules u) (phrase .factor) *
        (words (rules u) productTail * words (rules u) sumTail) := by
  simp only [words_phrase _ .expression, words_phrase _ .term, rules, words_append, mul_assoc]

theorem words_term :
    words (rules u) (phrase .term) =
      words (rules u) (phrase .factor) * words (rules u) productTail := by
  simp only [words_phrase _ .term, rules, words_append]

theorem words_sumTail :
    words (rules u) sumTail =
      1 + signWords ["+", "-"] * (words (rules u) (phrase .factor) *
        (words (rules u) productTail * words (rules u) sumTail)) := by
  have h := words_many (rules u) (sign ["+", "-"] ++ phrase .term)
  rw [words_append, words_sign, words_term, mul_assoc, mul_assoc] at h
  exact h

theorem words_productTail :
    words (rules u) productTail =
      1 + signWords ["*", "/"] * (words (rules u) (phrase .factor) *
        words (rules u) productTail) := by
  have h := words_many (rules u) (sign ["*", "/"] ++ phrase .factor)
  rw [words_append, words_sign, mul_assoc] at h
  exact h

theorem words_factor :
    words (rules u) (phrase .factor) =
      kindWords .identifier + kindWords .intLiteral + kindWords .floatLiteral +
        kindWords .leftParen * (words (rules u) (phrase .expression) *
          kindWords .rightParen) := by
  simp only [words_phrase _ .factor, rules, words_union, words_kind, words_parens, mul_assoc]

end

/-! ### The languages of the symbols -/

namespace Symbol

/-- The form that a symbol stands for. -/
def form : Symbol → Form
  | note _ => .empty
  | terminal k => kind k
  | varSection => (phrase .varSection).optional
  | declarations => many (phrase .declaration)
  | typeName => phrase .typeName
  | commands => phrase .commands
  | printArgument => kind .stringLiteral ∪ phrase .expression
  | factor => phrase .factor
  | productTail => Form.productTail
  | sumTail => Form.sumTail
  | condition => phrase .condition
  | operand => group ∪ Form.bare relation
  | relationTail => Form.relationTail
  | clauseTail => phrase .clauseTail

end Symbol

/-- The language of a stack of symbols. -/
def spelled : List Symbol → Language Token
  | [] => 1
  | s :: stack => words committed s.form * spelled stack

@[simp] theorem spelled_nil : spelled [] = 1 := rfl

@[simp] theorem spelled_cons (s : Symbol) (stack : List Symbol) :
    spelled (s :: stack) = words committed s.form * spelled stack := rfl

@[simp] theorem spelled_append (a b : List Symbol) :
    spelled (a ++ b) = spelled a * spelled b := by
  induction a with
  | nil => rw [List.nil_append, spelled_nil, one_mul]
  | cons s a ih => rw [List.cons_append, spelled_cons, spelled_cons, ih, mul_assoc]

/-- What follows the opening parenthesis of a group. -/
theorem spelled_groupTail :
    spelled Symbol.groupTail = words committed (phrase .clause) * kindWords .rightParen := by
  simp [Symbol.groupTail, Symbol.clause, Symbol.expression, Symbol.form, words_clause,
    words_relation, words_expression, words_kind, committed, mul_assoc]

/-- A program is what its stack of symbols stands for. -/
theorem spelled_program : spelled Symbol.program = words committed (phrase .program) := by
  simp only [Symbol.program, spelled_cons, spelled_nil, Symbol.form, words_empty, words_kind,
    one_mul, mul_one, committed, words_program]

end SourceCheck.Grammar

import LogSieve.Filter.Grammar
import LogSieve.Filter.Lexeme

/-!
# Compiling a filter

The expression that a text writes: its tokens, read by the grammar.
-/

namespace LogSieve

/-- The expression of a text. -/
def compile (source : Text) : Except FilterError Expr :=
  match tokenize source with
  | .error error => .error (.lexical error)
  | .ok tokens =>
    match parse tokens with
    | .error error => .error (.syntactic error)
    | .ok expr => .ok expr

end LogSieve


namespace QualityGate.Rule

def prettier : String := "prettier/prettier"

def eslintFallback : String := "eslint-error"

def typescript : String := "typescript-error"

/-- The pattern at the start of a text: one character or more in parentheses, no closing parenthesis
among them, and nothing after that. -/
def matchAt? : List Char → Option (List Char)
  | '(' :: cs =>
    match cs.span (· ≠ ')') with
    | ([], _) => none
    | (rule, [')']) => some rule
    | _ => none
  | _ => none

/-- The leftmost match of the pattern. -/
def trailingChars? : List Char → Option (List Char)
  | [] => none
  | c :: cs =>
    match matchAt? (c :: cs) with
    | some rule => some rule
    | none => trailingChars? cs

def trailing? (message : String) : Option String :=
  (trailingChars? message.toList).map String.ofList

end QualityGate.Rule

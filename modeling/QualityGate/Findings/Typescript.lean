import QualityGate.Findings.Lines

namespace QualityGate.Findings.Typescript

def error? (line : List Char) : Option String :=
  if Text.Lines.hasPart "error TS".toList line then some (String.ofList line) else none

theorem error?_eq_some_iff (line : List Char) (e : String) :
    error? line = some e ↔
      Text.Lines.hasPart "error TS".toList line = true ∧ String.ofList line = e := by
  rw [error?, Option.ite_none_right_eq_some, Option.some.injEq]

end QualityGate.Findings.Typescript

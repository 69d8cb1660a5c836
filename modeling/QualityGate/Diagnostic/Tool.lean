import QualityGate.Wire.Form

namespace QualityGate

inductive Tool
  | prettier
  | eslint
  | typescript
deriving DecidableEq, Repr, Inhabited

namespace Tool

/-- All tools, in the order in which they run and in which their findings are listed. -/
def all : List Tool :=
  [prettier, eslint, typescript]

def key : Tool → String
  | prettier => "prettier"
  | eslint => "eslint"
  | typescript => "typescript"

def label : Tool → String
  | prettier => "Prettier"
  | eslint => "ESLint"
  | typescript => "TypeScript"

def form : Wire.Form Tool :=
  .oneOf all key (by intro t; cases t <;> decide)

theorem mem_all (t : Tool) : t ∈ all := by
  cases t <;> decide

end Tool
end QualityGate

import QualityGate.Findings.Lines

namespace QualityGate.Findings.Prettier

def subject? (line : List Char) : Option (List Char) :=
  strip? "[warn] ".toList line <|> strip? "[error] ".toList line

def isSummary (subject : List Char) : Bool :=
  "Code style issues".toList.isPrefixOf subject

def error? (line : List Char) : Option String :=
  ((subject? line).filter (!isSummary ·)).map fun s =>
    String.ofList ("Formatting issues in ".toList ++ s)

end QualityGate.Findings.Prettier

import QualityGate.Text.Blank
import QualityGate.Text.CaseFold
import QualityGate.Text.Category

namespace QualityGate.Log

inductive CharSet
  | range (low high : Char)
  | digit
  | word
  | blank
  | category (k : Text.Category)
  | union (s t : CharSet)
  | inter (s t : CharSet)
  | complement (s : CharSet)
  /-- With every letter those that differ from it in their case, of ASCII only or of all scripts. -/
  | anyCase (ofAscii : Bool) (s : CharSet)
deriving DecidableEq, Repr

namespace CharSet

def has : CharSet → Char → Bool
  | range low high, c => low ≤ c && c ≤ high
  | digit, c => Text.Digits.isDecimal c
  | word, c => Text.Category.isWord c
  | blank, c => Text.Blank.isBlank c
  | category k, c => k.has c
  | union s t, c => s.has c || t.has c
  | inter s t, c => s.has c && t.has c
  | complement s, c => !s.has c
  | anyCase true s, c => s.has c || (Text.CaseFold.asciiVariants c).any s.has
  | anyCase false s, c => (Text.CaseFold.variants c).any s.has

def single (c : Char) : CharSet :=
  range c c

def empty : CharSet :=
  range '\x01' '\x00'

def all : CharSet :=
  complement empty

def ofList (ss : List CharSet) : CharSet :=
  ss.foldl union empty

def difference (s t : CharSet) : CharSet :=
  inter s (complement t)

def oneOnly (s t : CharSet) : CharSet :=
  union (difference s t) (difference t s)

/-- The characters of a line, which ends with a line feed or, if asked for, with a carriage return
too. -/
def ofLine (returns : Bool) : CharSet :=
  complement (if returns then union (single '\n') (single '\r') else single '\n')

def asciiDigit : CharSet :=
  range '0' '9'

def asciiLetter : CharSet :=
  union (range 'A' 'Z') (range 'a' 'z')

def asciiWord : CharSet :=
  union (union asciiDigit asciiLetter) (single '_')

def asciiBlank : CharSet :=
  union (range '\t' '\r') (single ' ')

def asciiNamed? (name : String) : Option CharSet :=
  match name with
  | "alnum" => some (union asciiDigit asciiLetter)
  | "alpha" => some asciiLetter
  | "ascii" => some (range '\x00' '\x7f')
  | "blank" => some (union (single '\t') (single ' '))
  | "cntrl" => some (union (range '\x00' '\x1f') (single '\x7f'))
  | "digit" => some asciiDigit
  | "graph" => some (range '!' '~')
  | "lower" => some (range 'a' 'z')
  | "print" => some (range ' ' '~')
  | "punct" => some (ofList [range '!' '/', range ':' '@', range '[' '\x60', range '\x7b' '~'])
  | "space" => some asciiBlank
  | "upper" => some (range 'A' 'Z')
  | "word" => some asciiWord
  | "xdigit" => some (ofList [asciiDigit, range 'A' 'F', range 'a' 'f'])
  | _ => none

end CharSet
end QualityGate.Log

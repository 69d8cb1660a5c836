import QualityGate.Text.Digits
import QualityGate.Text.Printable

namespace QualityGate.Text.Quoted

open Digits Printable

def escape (quote c : Char) : List Char :=
  if c = '\x00' then ['\\', '0']
  else if c = '\t' then ['\\', 't']
  else if c = '\r' then ['\\', 'r']
  else if c = '\n' then ['\\', 'n']
  else if c = '\\' ∨ c = quote then ['\\', c]
  else if isPrintable c then [c]
  else ['\\', 'u', '\x7b'] ++ hex 1 c.toNat ++ ['\x7d']

def quoteChars (quote : Char) (cs : List Char) : List Char :=
  quote :: (cs.flatMap (escape quote) ++ [quote])

def text (s : String) : String :=
  String.ofList (quoteChars '"' s.toList)

def char (c : Char) : String :=
  String.ofList (quoteChars '\'' [c])

end QualityGate.Text.Quoted

import QualityGate.Text.Digits

namespace QualityGate.Text.Uuid

def hexByte (b : UInt8) : List Char :=
  Digits.hex 2 b.toNat

/-- The two bytes that tell version and variant have these bits set, and others cleared. -/
def marked (n : Nat) (b : UInt8) : UInt8 :=
  if n = 6 then (b &&& 0x0F) ||| 0x40
  else if n = 8 then (b &&& 0x3F) ||| 0x80
  else b

def startsGroup (n : Nat) : Bool :=
  [4, 6, 8, 10].contains n

def ofBytes (bytes : List UInt8) : String :=
  String.ofList ((bytes.take 16).zipIdx.flatMap fun (b, n) =>
    (if startsGroup n then ['-'] else []) ++ hexByte (marked n b))

end QualityGate.Text.Uuid

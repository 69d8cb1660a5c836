
namespace QualityGate.Text.Utf8

def encode (s : String) : List UInt8 :=
  s.toUTF8.toList

def shape (b : UInt8) : Option (Nat × UInt8 × UInt8) :=
  if b < 0x80 then some (0, 0x80, 0xBF)
  else if b < 0xC2 then none
  else if b < 0xE0 then some (1, 0x80, 0xBF)
  else if b = 0xE0 then some (2, 0xA0, 0xBF)
  else if b = 0xED then some (2, 0x80, 0x9F)
  else if b < 0xF0 then some (2, 0x80, 0xBF)
  else if b = 0xF0 then some (3, 0x90, 0xBF)
  else if b < 0xF4 then some (3, 0x80, 0xBF)
  else if b = 0xF4 then some (3, 0x80, 0x8F)
  else none

def leading (b : UInt8) (count : Nat) : Nat :=
  match count with
  | 0 => b.toNat
  | 1 => b.toNat % 0x20
  | 2 => b.toNat % 0x10
  | _ => b.toNat % 0x08

/-- The bytes that continue a character, as many as are there of those that are missing; the code
point is complete when none is missing. -/
def complete (missing : Nat) (low high : UInt8) (point : Nat) (bs : List UInt8) :
    Option Nat × List UInt8 :=
  match missing, bs with
  | 0, bs => (some point, bs)
  | _ + 1, [] => (none, [])
  | n + 1, b :: bs =>
    if low ≤ b ∧ b ≤ high then
      complete n 0x80 0xBF (point * 0x40 + b.toNat % 0x40) bs
    else (none, b :: bs)

/-- The character that starts with the given byte, or nothing for an ill-formed piece, and the
bytes after it. -/
def next (b : UInt8) (bs : List UInt8) : Option Char × List UInt8 :=
  match shape b with
  | none => (none, bs)
  | some (count, low, high) =>
    let (point, rest) := complete count low high (leading b count) bs
    (point.map Char.ofNat, rest)

theorem length_complete_le (missing : Nat) (low high : UInt8) (point : Nat) (bs : List UInt8) :
    (complete missing low high point bs).2.length ≤ bs.length := by
  induction bs generalizing missing low high point with
  | nil => cases missing <;> simp [complete]
  | cons b bs ih =>
    cases missing with
    | zero => simp [complete]
    | succ n =>
      rw [complete]
      split
      · exact Nat.le_succ_of_le (ih n 0x80 0xBF _)
      · exact Nat.le_refl _

theorem length_next_le (b : UInt8) (bs : List UInt8) : (next b bs).2.length ≤ bs.length := by
  unfold next
  split
  · exact Nat.le_refl _
  · exact length_complete_le ..

/-- The characters of a byte sequence, with nothing in the place of each ill-formed piece. -/
def chars : List UInt8 → List (Option Char)
  | [] => []
  | b :: bs => (next b bs).1 :: chars (next b bs).2
termination_by bs => bs.length
decreasing_by exact Nat.lt_succ_of_le (length_next_le b bs)

def decode? (bs : List UInt8) : Option String :=
  ((chars bs).mapM id).map String.ofList

def decodeLossy (bs : List UInt8) : String :=
  String.ofList ((chars bs).map (·.getD '\uFFFD'))

end QualityGate.Text.Utf8

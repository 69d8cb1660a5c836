import QualityGate.Json.Flaw
import QualityGate.Number.Double

namespace QualityGate.Json

open Text.Digits

def isSpace (c : Char) : Bool :=
  c = ' ' || c = '\n' || c = '\t' || c = '\r'

def skipSpace (cs : List Char) : List Char :=
  cs.dropWhile isSpace

def skipWord : List Char → List Char → Except (Flaw Defect) (List Char)
  | [], cs => .ok cs
  | _ :: _, [] => failHere .unfinishedValue []
  | w :: ws, c :: cs => if c = w then skipWord ws cs else failNext .expectedWord (c :: cs)

/-- An integer, or a double where the numeral has a fraction or an exponent or is too large. -/
inductive Numeral
  | integer (z : Int)
  | real (x : Double)
deriving Repr

def maxSignificand : Nat := Nat.pow 2 64 - 1

/-- Digits are taken into the significand as long as it stays below `2 ^ 64`. The count of digits
taken is returned with it. -/
def takeDigits (significand count : Nat) : List Char → Nat × Nat × List Char
  | [] => (significand, count, [])
  | c :: cs =>
    match valueIn? 10 c with
    | none => (significand, count, c :: cs)
    | some d =>
      if 10 * significand + d ≤ maxSignificand then takeDigits (10 * significand + d) (count + 1) cs
      else (significand, count, c :: cs)

def dropDigits (cs : List Char) : Nat × List Char :=
  let rest := cs.dropWhile Char.isDigit
  (cs.length - rest.length, rest)

def startsWithDigit (cs : List Char) : Bool :=
  cs.head?.any Char.isDigit

def tenToThe (n : Nat) : Double :=
  .ofDecimal false 1 n

/-- A significand times a power of ten, by one multiplication or by divisions; every step rounds.
Nothing is returned when the result is too large. -/
def scale (x : Double) (exponent : Int) : Option Double :=
  if x.isZero then some x
  else if 308 < exponent then none
  else if 0 ≤ exponent then
    let y := x.multiply (tenToThe exponent.toNat)
    if y.isInfinite then none else some y
  else if -308 ≤ exponent then some (x.divide (tenToThe (-exponent).toNat))
  else scale (x.divide (tenToThe 308)) (exponent + 308)
termination_by (-exponent).toNat

def finish (negative : Bool) (significand : Nat) (exponent : Int) (rest : List Char) :
    Scan Numeral :=
  match scale (.ofNat significand) exponent with
  | none => failHere .numberOutOfRange rest
  | some x => .ok (.real (if negative then x.negate else x), rest)

def maxExponent : Nat := Nat.pow 2 31 - 1

/-- The digits of an exponent, as long as it stays below `2 ^ 31`. The rest of a longer one is
returned with `none`. -/
def exponentDigits (exponent : Nat) : List Char → Option Nat × List Char
  | [] => (some exponent, [])
  | c :: cs =>
    match valueIn? 10 c with
    | none => (some exponent, c :: cs)
    | some d =>
      if 10 * exponent + d ≤ maxExponent then exponentDigits (10 * exponent + d) cs
      else (none, cs)

def exponent (negative : Bool) (significand : Nat) (start : Int) (cs : List Char) :
    Scan Numeral :=
  let (down, cs) := match cs with
    | '+' :: cs => (false, cs)
    | '-' :: cs => (true, cs)
    | cs => (false, cs)
  match cs with
  | [] => failHere .unfinishedValue []
  | c :: rest =>
    if c.isDigit then
      match exponentDigits 0 (c :: rest) with
      | (some e, rest) =>
        finish negative significand (if down then start - e else start + e) rest
      | (none, rest) =>
        if significand ≠ 0 ∧ !down then failHere .numberOutOfRange rest
        else .ok (.real (.finite negative 0 (-1074)), (dropDigits rest).2)
    else failNext .invalidNumber (c :: rest)

def afterFraction (negative : Bool) (significand : Nat) (start : Int) (cs : List Char) :
    Scan Numeral :=
  match cs with
  | 'e' :: cs | 'E' :: cs => exponent negative significand start cs
  | cs => finish negative significand start cs

/-- The fraction of a number, after the point. At least one of its digits has to be within the
significand or after one that is not. -/
def fraction (negative : Bool) (significand : Nat) (start : Int) (cs : List Char) :
    Scan Numeral :=
  let (significand, count, rest) := takeDigits significand 0 cs
  if startsWithDigit rest then
    afterFraction negative significand (start - count) (dropDigits rest).2
  else if count = 0 then
    if rest.isEmpty then failHere .unfinishedValue [] else failNext .invalidNumber rest
  else afterFraction negative significand (start - count) rest

/-- A number without fraction and exponent; negative ones go down to `-2 ^ 63`, and minus zero is
no integer. -/
def plainNumber (negative : Bool) (significand : Nat) (rest : List Char) : Scan Numeral :=
  if negative then
    if significand = 0 ∨ Nat.pow 2 63 < significand then
      .ok (.real (Double.ofNat significand).negate, rest)
    else .ok (.integer (-significand), rest)
  else .ok (.integer significand, rest)

def number (negative : Bool) (cs : List Char) : Scan Numeral :=
  match cs with
  | [] => failHere .unfinishedValue []
  | '0' :: rest =>
    match rest with
    | '.' :: rest => fraction negative 0 0 rest
    | 'e' :: rest | 'E' :: rest => exponent negative 0 0 rest
    | rest => if startsWithDigit rest then failNext .invalidNumber rest
              else plainNumber negative 0 rest
  | c :: cs =>
    if c.isDigit then
      let (significand, _, rest) := takeDigits 0 0 (c :: cs)
      if startsWithDigit rest then
        let (count, rest) := dropDigits rest
        match rest with
        | '.' :: rest => fraction negative significand count rest
        | rest => afterFraction negative significand count rest
      else match rest with
        | '.' :: rest => fraction negative significand 0 rest
        | 'e' :: rest | 'E' :: rest => exponent negative significand 0 rest
        | rest => plainNumber negative significand rest
    else failNext .invalidNumber (c :: cs)

def skipExponent (cs : List Char) : Except (Flaw Defect) (List Char) :=
  let cs := match cs with
    | '+' :: cs | '-' :: cs => cs
    | cs => cs
  if startsWithDigit cs then .ok (dropDigits cs).2 else failNext .invalidNumber cs

def skipFraction (cs : List Char) : Except (Flaw Defect) (List Char) :=
  if startsWithDigit cs then
    match (dropDigits cs).2 with
    | 'e' :: cs | 'E' :: cs => skipExponent cs
    | cs => .ok cs
  else failNext .invalidNumber cs

def skipNumber (cs : List Char) : Except (Flaw Defect) (List Char) :=
  if startsWithDigit cs then
    let leadingZero := cs.head? = some '0'
    let rest := if leadingZero then cs.tail else (dropDigits cs).2
    if leadingZero && startsWithDigit rest then failNext .invalidNumber rest
    else match rest with
      | '.' :: cs => skipFraction cs
      | 'e' :: cs | 'E' :: cs => skipExponent cs
      | cs => .ok cs
  else failNext .invalidNumber cs

/-- Four hexadecimal digits; what stands in their place is four bytes long in any case. -/
def hexFour (cs : List Char) : Scan Nat :=
  match cs with
  | a :: b :: c :: d :: rest =>
    match natural? 16 [a, b, c, d] with
    | some n => .ok (n, rest)
    | none => .error ⟨.invalidEscape, cs, 4⟩
  | cs => if byteSize cs < 4 then failHere .unfinishedString [] else .error ⟨.invalidEscape, cs, 4⟩

def isLeadingSurrogate (n : Nat) : Bool :=
  0xD800 ≤ n && n ≤ 0xDBFF

def isTrailingSurrogate (n : Nat) : Bool :=
  0xDC00 ≤ n && n ≤ 0xDFFF

def expectInHex (wanted : Char) : List Char → Except (Flaw Defect) (List Char)
  | [] => failHere .unfinishedString []
  | c :: cs => if c = wanted then .ok cs else failNext .unfinishedHex (c :: cs)

def unicodeEscape (cs : List Char) : Except (Flaw Defect) (Char × List Char) := do
  let (n, rest) ← hexFour cs
  if isTrailingSurrogate n then failHere .loneSurrogate rest
  else if isLeadingSurrogate n then do
    let rest ← expectInHex '\\' rest
    let rest ← expectInHex 'u' rest
    let (m, rest) ← hexFour rest
    if isTrailingSurrogate m then
      return (Char.ofNat (0x10000 + (n - 0xD800) * 0x400 + (m - 0xDC00)), rest)
    else failHere .loneSurrogate rest
  else return (Char.ofNat n, rest)

def shortEscape? (c : Char) : Option Char :=
  if c = '"' ∨ c = '\\' ∨ c = '/' then some c
  else if c = 'b' then some '\x08'
  else if c = 'f' then some '\x0C'
  else if c = 'n' then some '\n'
  else if c = 'r' then some '\r'
  else if c = 't' then some '\t'
  else none

def escaped (cs : List Char) : Scan Char :=
  match cs with
  | [] => failHere .unfinishedString []
  | 'u' :: rest => unicodeEscape rest
  | c :: rest =>
    match shortEscape? c with
    | some e => .ok (e, rest)
    | none => failNext .invalidEscape (c :: rest)

def skipEscaped (cs : List Char) : Except (Flaw Defect) (List Char) :=
  match cs with
  | [] => failHere .unfinishedString []
  | 'u' :: rest => (hexFour rest).map (·.2)
  | c :: rest =>
    match shortEscape? c with
    | some _ => .ok rest
    | none => failNext .invalidEscape (c :: rest)

theorem length_hexFour {cs rest : List Char} {n : Nat} (h : hexFour cs = .ok (n, rest)) :
    rest.length < cs.length := by
  unfold hexFour at h
  split at h
  · split at h
    · cases h; simp only [List.length_cons]; omega
    · cases h
  · split at h <;> cases h

theorem length_expectInHex {w : Char} {cs rest : List Char} (h : expectInHex w cs = .ok rest) :
    rest.length < cs.length := by
  unfold expectInHex at h
  split at h
  · cases h
  · split at h
    · cases h; simp
    · cases h

theorem length_unicodeEscape {cs rest : List Char} {c : Char}
    (h : unicodeEscape cs = .ok (c, rest)) : rest.length < cs.length := by
  unfold unicodeEscape at h
  cases h₁ : hexFour cs with
  | error e => simp [h₁, bind, Except.bind] at h
  | ok p =>
    obtain ⟨n, r₁⟩ := p
    have l₁ := length_hexFour h₁
    simp only [h₁, bind, Except.bind] at h
    split at h
    · cases h
    · split at h
      · cases h₂ : expectInHex '\\' r₁ with
        | error e => simp [h₂] at h
        | ok r₂ =>
          have l₂ := length_expectInHex h₂
          simp only [h₂] at h
          cases h₃ : expectInHex 'u' r₂ with
          | error e => simp [h₃] at h
          | ok r₃ =>
            have l₃ := length_expectInHex h₃
            simp only [h₃] at h
            cases h₄ : hexFour r₃ with
            | error e => simp [h₄] at h
            | ok q =>
              obtain ⟨m, r₄⟩ := q
              have l₄ := length_hexFour h₄
              simp only [h₄] at h
              split at h
              · simp only [pure, Except.pure, Except.ok.injEq, Prod.mk.injEq] at h
                obtain ⟨_, rfl⟩ := h
                omega
              · cases h
      · simp only [pure, Except.pure, Except.ok.injEq, Prod.mk.injEq] at h
        obtain ⟨_, rfl⟩ := h
        omega

theorem length_escaped {cs rest : List Char} {c : Char} (h : escaped cs = .ok (c, rest)) :
    rest.length < cs.length := by
  unfold escaped at h
  split at h
  · cases h
  · have := length_unicodeEscape h
    simp only [List.length_cons]
    omega
  · split at h
    · cases h; simp
    · cases h

theorem length_skipEscaped {cs rest : List Char} (h : skipEscaped cs = .ok rest) :
    rest.length < cs.length := by
  unfold skipEscaped at h
  split at h
  · cases h
  · rename_i r
    cases h₁ : hexFour r with
    | error e => simp [h₁, Except.map] at h
    | ok p =>
      obtain ⟨n, after⟩ := p
      have := length_hexFour h₁
      simp only [h₁, Except.map, Except.ok.injEq] at h
      subst h
      simp only [List.length_cons]
      omega
  · split at h
    · cases h; simp
    · cases h

/-- The characters of a string after the opening quote, added in front of those before them. -/
def stringChars (before : List Char) (cs : List Char) : Scan (List Char) :=
  match cs with
  | [] => failHere .unfinishedString []
  | '"' :: rest => .ok (before.reverse, rest)
  | '\\' :: rest =>
    match h : escaped rest with
    | .error e => .error e
    | .ok (c, after) =>
      have := length_escaped h
      stringChars (c :: before) after
  | c :: rest =>
    if c.toNat < 0x20 then failNext .controlCharacter (c :: rest)
    else stringChars (c :: before) rest
termination_by cs.length
decreasing_by all_goals simp only [List.length_cons]; omega

def stringText (cs : List Char) : Scan String :=
  (stringChars [] cs).map fun r => (String.ofList r.1, r.2)

def skipString (cs : List Char) : Except (Flaw Defect) (List Char) :=
  match cs with
  | [] => failHere .unfinishedString []
  | '"' :: rest => .ok rest
  | '\\' :: rest =>
    match h : skipEscaped rest with
    | .error e => .error e
    | .ok after =>
      have := length_skipEscaped h
      skipString after
  | c :: rest =>
    if c.toNat < 0x20 then failHere .controlCharacter (c :: rest)
    else skipString rest
termination_by cs.length
decreasing_by all_goals simp only [List.length_cons]; omega

end QualityGate.Json

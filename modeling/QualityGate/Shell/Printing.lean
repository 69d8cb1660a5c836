import QualityGate.Number.Notation
import QualityGate.Shell.Numeral
import QualityGate.Text.Utf8

namespace QualityGate.Shell.Printing

def bytesOf (cs : List Char) : List UInt8 :=
  Text.Utf8.encode (String.ofList cs)

def isOctal (c : Char) : Bool :=
  '0' ≤ c && c ≤ '7'

def octal (cs : List Char) : UInt8 × List Char :=
  let digits := (cs.take 3).takeWhile isOctal
  (UInt8.ofNat ((Text.Digits.ofDigits? 8 digits).getD 0), cs.drop digits.length)

/-- What an escape stands for, once its backslash is read. A backslash before any other character
stands for itself. -/
def escape (cs : List Char) : List UInt8 × List Char :=
  match cs with
  | 'a' :: r => ([7], r)
  | 'b' :: r => ([8], r)
  | 'e' :: r => ([27], r)
  | 'f' :: r => ([12], r)
  | 'n' :: r => ([10], r)
  | 'r' :: r => ([13], r)
  | 't' :: r => ([9], r)
  | 'v' :: r => ([11], r)
  | '\\' :: r => ([92], r)
  | c :: _ =>
    if isOctal c then
      let (byte, rest) := octal cs
      ([byte], rest)
    else ([92], cs)
  | [] => ([92], [])

def escaped : Nat → List Char → List UInt8 × Bool
  | 0, _ => ([], false)
  | _ + 1, [] => ([], false)
  | _ + 1, '\\' :: 'c' :: _ => ([], true)
  | fuel + 1, '\\' :: '0' :: r =>
    let (byte, rest) := octal r
    let (bytes, stopped) := escaped fuel rest
    (byte :: bytes, stopped)
  | fuel + 1, '\\' :: r =>
    let (here, rest) := escape r
    let (bytes, stopped) := escaped fuel rest
    (here ++ bytes, stopped)
  | fuel + 1, c :: r =>
    let (bytes, stopped) := escaped fuel r
    (bytesOf [c] ++ bytes, stopped)

def escapedText (s : String) : List UInt8 × Bool :=
  escaped (s.toList.length + 1) s.toList

def echo (args : List String) : List UInt8 :=
  let (bare, args) := match args with
    | "-n" :: args => (true, args)
    | args => (false, args)
  let (bytes, stopped) := escapedText (" ".intercalate args)
  if bare || stopped then bytes else bytes ++ [10]

/-- What the program echo prints. Its options are words of the letters n, e and E after a dash. -/
def echoProgram (args : List String) : List UInt8 :=
  let isOption (s : String) : Bool := match s.toList with
    | '-' :: c :: cs => (c :: cs).all ['n', 'e', 'E'].contains
    | _ => false
  let letters := ((args.takeWhile isOption).map String.toList).flatten
  let text := " ".intercalate (args.dropWhile isOption)
  let escapes := (letters.reverse.find? fun c => c = 'e' || c = 'E') == some 'e'
  let (bytes, stopped) := if escapes then escapedText text else (Text.Utf8.encode text, false)
  if letters.contains 'n' || stopped then bytes else bytes ++ [10]

/-- What was printed, what was wrong with the arguments, which of them are left, and whether the
printing came to its end there, by an escape or because of a flaw in the format. -/
structure Printed where
  bytes : List UInt8
  warnings : List String
  rest : List String
  stopped : Bool
  flaw : Option String

structure Layout where
  flags : List Char
  width : Nat
  precision : Option Nat

namespace Layout

def pad (l : Layout) (bytes : List UInt8) : List UInt8 :=
  let blanks := List.replicate (l.width - bytes.length) 32
  if l.flags.contains '-' then bytes ++ blanks else blanks ++ bytes

def text (l : Layout) (bytes : List UInt8) : List UInt8 :=
  l.pad (match l.precision with
    | some n => bytes.take n
    | none => bytes)

def sign (l : Layout) (negative : Bool) : List Char :=
  if negative then ['-'] else if l.flags.contains '+' then ['+']
  else if l.flags.contains ' ' then [' '] else []

def filled (l : Layout) (zeros : Bool) (sign digits : List Char) : List UInt8 :=
  if zeros && l.flags.contains '0' && !l.flags.contains '-' then
    let missing := l.width - sign.length - digits.length
    bytesOf (sign ++ List.replicate missing '0' ++ digits)
  else l.pad (bytesOf (sign ++ digits))

def integer (l : Layout) (sign digits : List Char) : List UInt8 :=
  match l.precision with
  | some n =>
    let digits := if n = 0 && digits = ['0'] then [] else digits
    l.filled false sign (List.replicate (n - digits.length) '0' ++ digits)
  | none => l.filled true sign digits

end Layout

def quotedByte? (arg : String) : Option Nat :=
  match arg.toList with
  | '\'' :: cs | '"' :: cs => some (((bytesOf cs).head?.map UInt8.toNat).getD 0)
  | _ => none

def conversionWarning (arg : String) (isNumber : Bool) (rest : List Char) (fits : Bool) :
    List String :=
  if !isNumber then if arg.isEmpty then [] else [arg ++ ": expected numeric value"]
  else if !rest.isEmpty then [arg ++ ": not completely converted"]
  else if !fits then [arg ++ ": Numerical result out of range"]
  else []

def integerOf (signed : Bool) (arg : String) : Int × List String :=
  match quotedByte? arg, Numeral.leading? none arg.toList with
  | some byte, _ => (byte, [])
  | none, none => (0, conversionWarning arg false [] true)
  | none, some (z, rest) =>
    let fits := if signed then Numeral.smallest ≤ z && z ≤ Numeral.largest
      else z.natAbs < Nat.pow 2 64
    let value := if signed then max Numeral.smallest (min z Numeral.largest)
      else if fits then z % Int.pow 2 64 else Int.pow 2 64 - 1
    (value, conversionWarning arg true rest fits)

def doubleOf (arg : String) : Double × List String :=
  let zero := Double.ofNat 0
  match quotedByte? arg with
  | some byte => (Double.ofNat byte, [])
  | none =>
    let cs := arg.toList.dropWhile Numeral.isSpace
    let longest := (List.range (cs.length + 1)).reverse.findSome? fun n =>
      (Number.Notation.double? (cs.take n)).map (·, cs.drop n)
    match longest with
    | some (d, rest) => (d, conversionWarning arg true rest true)
    | none => (zero, conversionWarning arg false [] true)

def fixed (num den places : Nat) (point : Bool) : List Char :=
  let digits := (Text.Digits.decimal (Double.divideNearest (num * Nat.pow 10 places) den)).toList
  let digits := List.replicate (places + 1 - digits.length) '0' ++ digits
  let whole := digits.length - places
  digits.take whole ++ (if point || 0 < places then ['.'] else []) ++ digits.drop whole

/-- The exponent of the first digit of a number that is rounded to some places behind it. -/
def leadingExponent (num den places : Nat) : Int :=
  let whole : Int := (Text.Digits.decimal (num / den)).length - 1
  let start : Int :=
    if num = 0 || den ≤ num then whole
    else -((Text.Digits.decimal (den / num)).length : Int)
  let digitsAt (e : Int) : Nat :=
    let (up, down) := Double.powerOfTen (places - e)
    Double.divideNearest (num * up) (den * down)
  if num = 0 then 0
  else if Nat.pow 10 (places + 1) ≤ digitsAt start then start + 1
  else if digitsAt start < Nat.pow 10 places then start - 1
  else start

def scientific (num den places : Nat) (point : Bool) (trim : List Char → List Char) : List Char :=
  let e := leadingExponent num den places
  let (up, down) := Double.powerOfTen (-e)
  let exponent := (Text.Digits.decimal e.natAbs).toList
  trim (fixed (num * up) (den * down) places point) ++ ['e', if e < 0 then '-' else '+'] ++
    List.replicate (2 - exponent.length) '0' ++ exponent

def withoutZeros (cs : List Char) : List Char :=
  if cs.contains '.' then
    let kept := cs.reverse.dropWhile (· = '0')
    (if kept.head? = some '.' then kept.tail else kept).reverse
  else cs

def numeral (l : Layout) (kind : Char) (num den : Nat) : List Char :=
  let places := l.precision.getD 6
  let point := l.flags.contains '#'
  match kind with
  | 'f' => fixed num den places point
  | 'e' => scientific num den places point id
  | _ =>
    let size := max places 1
    let trim := if point then id else withoutZeros
    let e := leadingExponent num den (size - 1)
    if -4 ≤ e && e < size then trim (fixed num den ((size : Int) - 1 - e).toNat point)
    else scientific num den (size - 1) point trim

def double (l : Layout) (kind : Char) (d : Double) : List UInt8 :=
  let cased (cs : List Char) := if kind.isUpper then cs.map Char.toUpper else cs
  match d with
  | .finite negative m e =>
    let (num, den) := Double.ratio m e
    l.filled true (l.sign negative) (cased (numeral l kind.toLower num den))
  | .infinite negative => l.filled false (l.sign negative) (cased "inf".toList)
  | .nan => l.filled false (l.sign false) (cased "nan".toList)

def directive (l : Layout) (kind : Char) (arg : Option String) : Option Printed :=
  let s := arg.getD ""
  let printed (bytes : List UInt8) (warnings : List String) : Option Printed :=
    some ⟨bytes, warnings, [], false, none⟩
  let natural (base : Nat) (mark : List Char) : Option Printed :=
    let (z, warnings) := integerOf false s
    let digits := Nat.toDigits base z.toNat
    let mark := if l.flags.contains '#' && z ≠ 0 then mark else []
    let cased (cs : List Char) := if kind = 'X' then cs.map Char.toUpper else cs
    printed (l.integer (cased mark) (cased digits)) warnings
  match kind with
  | 's' => printed (l.text (Text.Utf8.encode s)) []
  | 'b' =>
    let (bytes, stopped) := escapedText s
    some ⟨l.text bytes, [], [], stopped, none⟩
  | 'c' => printed (l.pad [((Text.Utf8.encode s).head?).getD 0]) []
  | 'd' | 'i' =>
    let (z, warnings) := integerOf true s
    printed (l.integer (l.sign (z < 0)) (Text.Digits.decimal z.natAbs).toList) warnings
  | 'u' => natural 10 []
  | 'o' => natural 8 ['0']
  | 'x' | 'X' => natural 16 ['0', 'x']
  | 'e' | 'E' | 'f' | 'F' | 'g' | 'G' =>
    let (d, warnings) := doubleOf s
    printed (double l kind d) warnings
  | _ => none

def measure (cs : List Char) (args : List String) : Int × List Char × List String :=
  match cs with
  | '*' :: r => ((args.head?.map fun a => (integerOf true a).1).getD 0, r, args.tail)
  | _ =>
    let digits := cs.takeWhile Char.isDigit
    ((Text.Digits.ofDigits? 10 digits).getD 0, cs.drop digits.length, args)

def formatOnce : Nat → List Char → List String → Printed
  | 0, _, args => ⟨[], [], args, false, none⟩
  | _ + 1, [], args => ⟨[], [], args, false, none⟩
  | fuel + 1, c :: r, args =>
    let go (bytes : List UInt8) (warnings : List String) (rest : List Char) (args : List String) :
        Printed :=
      let p := formatOnce fuel rest args
      ⟨bytes ++ p.bytes, warnings ++ p.warnings, p.rest, p.stopped, p.flaw⟩
    if c = '\\' then
      let (bytes, rest) := escape r
      go bytes [] rest args
    else if c ≠ '%' then go (bytesOf [c]) [] r args
    else if r.head? = some '%' then go [37] [] r.tail args
    else
      let isFlag (x : Char) := ['#', '-', '+', ' ', '0'].contains x
      let flags := r.takeWhile isFlag
      let (width, cs, args) := measure (r.dropWhile isFlag) args
      let (precision, cs, args) := match cs with
        | '.' :: cs =>
          let (n, cs, args) := measure cs args
          (if 0 ≤ n then some n.toNat else none, cs, args)
        | _ => (none, cs, args)
      let flags := if width < 0 then '-' :: flags else flags
      match cs with
      | [] => ⟨[], [], [], true, some "missing format character"⟩
      | kind :: rest =>
        match directive ⟨flags, width.natAbs, precision⟩ kind args.head? with
        | none =>
          let shown := String.ofList ('%' :: r.take (r.length - rest.length))
          ⟨[], [], [], true, some (shown ++ ": invalid directive")⟩
        | some p =>
          if p.stopped then ⟨p.bytes, p.warnings, [], true, none⟩
          else go p.bytes p.warnings rest args.tail

def formatAll : Nat → String → List String → Printed
  | 0, _, args => ⟨[], [], args, false, none⟩
  | fuel + 1, format, args =>
    let p := formatOnce (format.toList.length + 1) format.toList args
    if p.stopped || p.rest.isEmpty || p.rest.length = args.length then p
    else
      let q := formatAll fuel format p.rest
      ⟨p.bytes ++ q.bytes, p.warnings ++ q.warnings, q.rest, q.stopped, q.flaw⟩

def format (f : String) (args : List String) : Printed :=
  formatAll (args.length + 1) f args

end QualityGate.Shell.Printing

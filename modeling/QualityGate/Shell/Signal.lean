import QualityGate.Text.Digits

namespace QualityGate.Shell.Signal

def names : List (String × Nat) :=
  [("HUP", 1), ("INT", 2), ("QUIT", 3), ("ILL", 4), ("TRAP", 5), ("ABRT", 6), ("BUS", 7),
    ("FPE", 8), ("KILL", 9), ("USR1", 10), ("SEGV", 11), ("USR2", 12), ("PIPE", 13), ("ALRM", 14),
    ("TERM", 15), ("16", 16), ("CHLD", 17), ("CONT", 18), ("STOP", 19), ("TSTP", 20), ("TTIN", 21),
    ("TTOU", 22), ("URG", 23), ("XCPU", 24), ("XFSZ", 25), ("VTALRM", 26), ("PROF", 27),
    ("WINCH", 28), ("IO", 29), ("PWR", 30), ("SYS", 31)]

def harmless : List Nat := [0, 17, 18, 19, 20, 21, 22, 23, 28]

def terminate : Nat := 15

def obituary (signal : Nat) : String :=
  match signal with
  | 1 => "Hangup"
  | 3 => "Quit"
  | 4 => "Illegal instruction"
  | 5 => "Trace/breakpoint trap"
  | 6 => "Aborted"
  | 7 => "Bus error"
  | 8 => "Floating point exception"
  | 9 => "Killed"
  | 10 => "User defined signal 1"
  | 11 => "Segmentation fault"
  | 12 => "User defined signal 2"
  | 14 => "Alarm clock"
  | 15 => "Terminated"
  | 16 => "Stack fault"
  | 24 => "CPU time limit exceeded"
  | 25 => "File size limit exceeded"
  | 26 => "Virtual timer expired"
  | 27 => "Profiling timer expired"
  | 29 => "I/O possible"
  | 30 => "Power failure"
  | 31 => "Bad system call"
  | _ =>
    if 34 ≤ signal then "Real-time signal " ++ Text.Digits.decimal (signal - 34)
    else "Unknown signal " ++ Text.Digits.decimal signal

def quiet : List Nat := [2, 13]

def name? (signal : Nat) : Option String :=
  if signal = 0 then some "EXIT" else (names.find? fun n => n.2 = signal).map Prod.fst

def ofText? (s : String) : Option Nat :=
  let upper := String.ofList (s.toList.map Char.toUpper)
  match Text.Digits.natural? 10 s.toList with
  | some n => if n < 65 then some n else none
  | none => if upper = "EXIT" then some 0 else names.lookup upper

def toSend? (s : String) : Option Nat :=
  if (Text.Digits.natural? 10 s.toList).isSome then ofText? s
  else (ofText? s).filter (· ≠ 0)

end QualityGate.Shell.Signal

import QualityGate.Json.Print
import QualityGate.Log.Logger
import QualityGate.Text.Digits

namespace QualityGate.Log

def padded (width n : Nat) : String :=
  let digits := Text.Digits.decimal n
  String.ofList (List.replicate (width - digits.length) '0') ++ digits

/-- The year, month and day that so many days lead to from the first of March of the year zero. A
year ends with February, so that a leap day is its last. -/
def dateOfDays (days : Nat) : Nat × Nat × Nat :=
  let era := days / 146097
  let dayOfEra := days % 146097
  let yearOfEra := (dayOfEra - dayOfEra / 1460 + dayOfEra / 36524 - dayOfEra / 146096) / 365
  let dayOfYear := dayOfEra - (365 * yearOfEra + yearOfEra / 4 - yearOfEra / 100)
  let month := (5 * dayOfYear + 2) / 153
  let day := dayOfYear - (153 * month + 2) / 5 + 1
  let year := yearOfEra + 400 * era
  if month < 10 then (year, month + 3, day) else (year + 1, month - 9, day)

def daysBefore1970 : Nat := 719468

def Moment.ofSeconds (seconds : Nat) : Moment :=
  let (year, month, day) := dateOfDays (seconds / 86400 + daysBefore1970)
  ⟨padded 4 year ++ "-" ++ padded 2 month ++ "-" ++ padded 2 day,
    padded 2 (seconds % 86400 / 3600)⟩

def timestamp (seconds : Nat) : String :=
  let now := Moment.ofSeconds seconds
  now.day ++ "T" ++ now.hour ++ ":" ++ padded 2 (seconds % 3600 / 60) ++ ":" ++
    padded 2 (seconds % 60) ++ "Z"

def Event.line (seconds : Nat) (e : Event) : String :=
  (Json.ofMembers [("timestamp", .string (timestamp seconds)), ("level", .string e.level.name),
    ("target", .string e.scope.target),
    ("fields", .ofMembers [("message", .string e.message)])]).compact

end QualityGate.Log

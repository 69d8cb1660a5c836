import QualityGate.Log.Event
import QualityGate.Text.Utf8

namespace QualityGate.Payload

inductive Ending
  | complete
  | failed
  | stalled
  | died
  /-- No thread could be had for the reading, so nothing is read. -/
  | unstarted
deriving DecidableEq, Repr

structure Delivery where
  chunks : List (List UInt8)
  ending : Ending
deriving DecidableEq, Repr

def substitute : String := "\x7b\x7d"

/-- The reads are taken one after another, each behind what has been read before it. At the end of
the stream all of it is a text, or the reading has failed. -/
def readOn? (before : List UInt8) : List (List UInt8) → Option String
  | chunk :: chunks => readOn? (before ++ chunk) chunks
  | [] => Text.Utf8.decode? before

def Delivery.text? (d : Delivery) : Option String :=
  match d.ending with
  | .complete => readOn? [] d.chunks
  | .failed | .stalled | .died | .unstarted => none

def Delivery.text (d : Delivery) : String :=
  d.text?.getD substitute

/-- What the log says of a delivery that is not taken, with the names of the fields. -/
def Delivery.complaint (d : Delivery) : String × List String :=
  match d.ending with
  | .complete | .failed => ("Failed to read payload", ["error"])
  | .stalled => ("Timed out waiting for payload", ["timeout_ms"])
  | .died => ("Payload reader exited without a result", [])
  | .unstarted => ("Failed to start payload reader", ["error"])

variable {m : Type → Type} [Monad m] [Log.Journal m]

def receive (d : Delivery) : m String := do
  if d.text?.isNone then Log.event .warn .payload d.complaint.1 d.complaint.2
  return d.text

end QualityGate.Payload

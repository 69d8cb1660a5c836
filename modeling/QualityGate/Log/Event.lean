
namespace QualityGate.Log

inductive Level
  | error
  | warn
  | info
  | debug
  | trace
deriving DecidableEq, Repr, Inhabited

namespace Level

def all : List Level :=
  [error, warn, info, debug, trace]

def verbosity : Level → Nat
  | error => 1
  | warn => 2
  | info => 3
  | debug => 4
  | trace => 5

def name : Level → String
  | error => "ERROR"
  | warn => "WARN"
  | info => "INFO"
  | debug => "DEBUG"
  | trace => "TRACE"

end Level

inductive Scope
  | run
  | remediation
  | aggregation
  | command
  | checker
  | fixer
  | payload
  | hook
  | logger
deriving DecidableEq, Repr

def Scope.target : Scope → String
  | run => "quality_hook::application::hook_runner"
  | remediation => "quality_hook::services::remediation"
  | aggregation => "quality_hook::services::aggregator"
  | command => "quality_hook::infrastructure::tools::command"
  | checker => "quality_hook::infrastructure::tools::checker"
  | fixer => "quality_hook::infrastructure::tools::fixer"
  | payload => "quality_hook::infrastructure::payload"
  | hook => "quality_hook::cli::commands::hook"
  | logger => "quality_hook::infrastructure::logging::logger"

/-- An event has a message, and other fields of which only the names are kept. -/
structure Event where
  level : Level
  scope : Scope
  message : String
  others : List String
deriving DecidableEq, Repr

def Event.fields (e : Event) : List String :=
  "message" :: e.others

/-- The work on one file. Its fields have values. -/
structure Span where
  fields : List (String × String)
deriving DecidableEq, Repr

namespace Span

def level : Level := .info

def name : String := "quality_hook"

def target : String := "quality_hook::domain::models::context"

end Span

structure Entry where
  event : Event
  span : Option Span
deriving DecidableEq, Repr

/-- Computations that can put events into a log, and do work within a span. -/
class Journal (m : Type → Type) where
  record : Event → m Unit
  within : {α : Type} → Span → m α → m α

variable {m : Type → Type} [Journal m]

def event (level : Level) (scope : Scope) (message : String) (others : List String) : m Unit :=
  Journal.record ⟨level, scope, message, others⟩

end QualityGate.Log

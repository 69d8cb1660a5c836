import QualityGate.Decision
import QualityGate.Json.Print

namespace QualityGate

structure Narration where
  message : String
  feedback : Json
deriving BEq, Repr

namespace Narration

/-- The object with the given feedback and other members, all of which are strings. -/
def feedbackOf (feedback : String) (others : List (String × String)) : Json :=
  .ofMembers (("feedback", .string feedback) :: others.map fun m => (m.1, .string m.2))

def started (correlationId : String) : Narration :=
  ⟨"🔍 Quality check hook starting...",
    feedbackOf "Quality check started" [("correlationId", correlationId)]⟩

def processing (fileName : String) : Narration :=
  ⟨"📝 Processing: " ++ fileName, feedbackOf "Processing file" [("file", fileName)]⟩

def invalidPayload (error : String) : Narration :=
  ⟨"❌ Invalid payload format", feedbackOf "Invalid payload format" [("error", error)]⟩

def checksPassed (file : String) : Narration :=
  ⟨"✅ All quality checks passed!", feedbackOf "All quality checks passed" [("file", file)]⟩

def decided (action : Action) (issueCount : Nat) : Narration :=
  ⟨"🤖 Autopilot: " ++ action.name ++ " (" ++ Text.Digits.decimal issueCount ++ " issues found)",
    .ofMembers [("feedback", .string "Autopilot decision"), ("action", .string action.name),
      ("issueCount", .ofNat issueCount)]⟩

def autoFixing (file : String) : Narration :=
  ⟨"🔧 Auto-fixing issues...", feedbackOf "Auto-fixing issues" [("file", file)]⟩

def autoFixed (file : String) : Narration :=
  ⟨"✅ All issues auto-fixed successfully!", feedbackOf "All issues auto-fixed" [("file", file)]⟩

def autoFixFailed (file : String) : Narration :=
  ⟨"❌ Auto-fix failed! Sending issues back to the agent...",
    feedbackOf "Auto-fix failed" [("file", file), ("action", "Agent will fix")]⟩

def hookError (error correlationId : String) : Narration :=
  ⟨"❌ Hook error occurred",
    feedbackOf "Hook error" [("error", error), ("correlationId", correlationId)]⟩

def line (n : Narration) : String :=
  n.feedback.compact

end Narration
end QualityGate

import QualityGate.Decision
import QualityGate.Payload.Basic
import QualityGate.Proofs.Wire.Printed
import QualityGate.Settings.Basic

namespace QualityGate

open Wire

theorem Payload.faithful_form : form.Faithful := by
  simp [form, ToolInput.form, Edit.form, Form.Faithful, Fields.Faithful, Fields.keys,
    Form.isOptional]

theorem CheckReport.faithful_form : form.Faithful := by
  simp [form, ToolReports.form, ToolReport.form, Form.Faithful, Fields.Faithful, Fields.keys,
    Form.isOptional]

theorem Issue.faithful_form : form.Faithful := by
  simp [form, Form.Faithful, Fields.Faithful, Fields.keys]

theorem CheckOutcome.faithful_form : form.Faithful := by
  simp [form, Issue.faithful_form, Form.Faithful, Fields.Faithful, Fields.keys]

theorem Decision.faithful_form : form.Faithful := by
  simp [form, Issue.faithful_form, Action.form, Form.Faithful, Fields.Faithful, Fields.keys]

theorem Settings.faithful_form : form.Faithful := by
  simp [form, LoggingSettings.form, HookSettings.form, ToolsSettings.form, ToolSettings.form,
    PolicySettings.form, RemediationSettings.form, Form.Faithful, Fields.Faithful, Fields.keys,
    Form.isOptional]

/-- Nothing is lost or made up when a value is written and read again, whichever of its optional
parts it has: a tool that did not run does not become one that ran without errors, settings without
a directory for logs do not get the usual one, and arguments without fields do not become none. -/
theorem forms_roundTrip :
    Payload.form.RoundTrips ∧ CheckReport.form.RoundTrips ∧ Issue.form.RoundTrips ∧
      CheckOutcome.form.RoundTrips ∧ Decision.form.RoundTrips ∧ Settings.form.RoundTrips ∧
      (∀ (r : CheckReport) (t : Tool), (CheckReport.form.ofJson
        (CheckReport.form.encode r)).toOption.map (fun r => r.tools.get t) =
          some (r.tools.get t)) ∧
      (∀ s : Settings, (Settings.form.ofJson (Settings.form.encode s)).toOption.map
        (fun s => s.logging.logDir) = some s.logging.logDir) ∧
      ∀ p : Payload, (Payload.form.ofJson (Payload.form.encode p)).toOption.map
        Payload.toolInput = some p.toolInput := by
  have hp := Payload.faithful_form.roundTrips
  have hr := CheckReport.faithful_form.roundTrips
  have hs := Settings.faithful_form.roundTrips
  refine ⟨hp, hr, Issue.faithful_form.roundTrips, CheckOutcome.faithful_form.roundTrips,
    Decision.faithful_form.roundTrips, hs, fun r t => ?_, fun s => ?_, fun p => ?_⟩
  · rw [hr.json r]
    rfl
  · rw [hs.json s]
    rfl
  · rw [hp.json p]
    rfl

end QualityGate

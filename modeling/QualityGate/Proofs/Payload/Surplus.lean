import QualityGate.Payload.Screening
import QualityGate.Proofs.RoundTrip

namespace QualityGate

open Json (Bare Document IsUnsigned bodyText?)
open Wire

section Places

variable {name : List Char} {key : String} {d d' : Document}

theorem Edit.indifferent_member (before after : List (List Char × Document)) (d : Document)
    (hn : bodyText? name = some key) (hk : key ∉ ["old_string", "new_string"]) :
    Edit.form.Indifferent (.object (before ++ after)) (.object (before ++ (name, d) :: after)) :=
  .of_extends (.member d hn hk)

theorem ToolInput.indifferent_member (before after : List (List Char × Document)) (d : Document)
    (hn : bodyText? name = some key)
    (hk : key ∉ ["file_path", "content", "old_string", "new_string", "edits"]) :
    ToolInput.form.Indifferent (.object (before ++ after))
      (.object (before ++ (name, d) :: after)) :=
  .of_extends (.member d hn hk)

theorem Payload.indifferent_member (before after : List (List Char × Document)) (d : Document)
    (hn : bodyText? name = some key) (hk : key ∉ ["tool_name", "tool_input"]) :
    Payload.form.Indifferent (.object (before ++ after)) (.object (before ++ (name, d) :: after)) :=
  .of_extends (.member d hn hk)

theorem ToolInput.indifferent_edit (before after : List (List Char × Document))
    (items items' : List Document) (hn : bodyText? name = some "edits")
    (h : Edit.form.Indifferent d d') :
    ToolInput.form.Indifferent (.object (before ++ (name, .array (items ++ d :: items')) :: after))
      (.object (before ++ (name, .array (items ++ d' :: items')) :: after)) := by
  have hg : Form.Indifferent (.optional (.list Edit.form)) (.array (items ++ d :: items'))
      (.array (items ++ d' :: items')) :=
    h.lift (fun h => .optional (.item h)) .item
  exact hg.lift (.field hn (.there (.there (.there (.there .here))))) .member

theorem Payload.indifferent_input (before after : List (List Char × Document))
    (hn : bodyText? name = some "tool_input") (h : ToolInput.form.Indifferent d d') :
    Payload.form.Indifferent (.object (before ++ (name, d) :: after))
      (.object (before ++ (name, d') :: after)) :=
  h.lift (fun h => .field hn (.there .here) (.optional h)) .member

end Places

namespace Payload

theorem parse_eq_ok_iff {d : Document} {text : String} (h : d.Spelled text) (p : Payload) :
    parse text = .ok p ↔ form.value? d = some p := by
  rw [← form.ofText_eq_ok_iff h p, parse]
  cases form.ofText text <;> simp [Except.mapError]

theorem parse_compact (p : Payload) : parse (form.encode p).compact = .ok p := by
  rw [parse, faithful_form.roundTrips.compact]
  rfl

theorem screen_congr {p p' : Payload} (hn : p.toolName = p'.toolName)
    (hf : p.toolInput.bind ToolInput.filePath = p'.toolInput.bind ToolInput.filePath)
    (hook : HookSettings) : p.screen hook = p'.screen hook := by
  have ho : p.operation? = p'.operation? := by rw [operation?, operation?, hn]
  have hp : p.filePath? = p'.filePath? := by rw [filePath?, filePath?, hf]
  rw [screen, screen, ho, hp]

/-- What the gate does not use it ignores. Texts whose documents differ only in members that no
record of the payload has a field for, and in the order of members, are read as the same payload or
not at all, whatever the values of such members are; and the verdict on a payload depends only on
the operation and the file that it names. -/
theorem ignores_unused :
    (∀ {d d' : Document} {text text' : String}, form.Indifferent d d' → d.Spelled text →
      d'.Spelled text' → ∀ p, parse text = .ok p ↔ parse text' = .ok p) ∧
    ∀ {text text' : String} {p p' : Payload}, parse text = .ok p → parse text' = .ok p' →
      p.toolName = p'.toolName →
      p.toolInput.bind ToolInput.filePath = p'.toolInput.bind ToolInput.filePath →
      ∀ hook, p.screen hook = p'.screen hook := by
  refine ⟨fun ha h h' p => ?_, fun _ _ hn hf => screen_congr hn hf⟩
  rw [parse_eq_ok_iff h, parse_eq_ok_iff h', ha.value? faithful_form]

def edited : Payload :=
  ⟨some "Edit", some ⟨some "a.ts", none, none, none, some [⟨"x", "y"⟩]⟩⟩

def written : Payload :=
  ⟨some "Edit", some ⟨some "a.ts", some "z", none, none, none⟩⟩

def plainEdit : Document :=
  .object [("new_string".toList, .string "y".toList), ("old_string".toList, .string "x".toList)]

def plainInput : Document :=
  .object [("edits".toList, .array [plainEdit]), ("file_path".toList, .string "a.ts".toList)]

def annotatedEdit : Document :=
  .object [("note".toList, .null), ("old_string".toList, .string "x".toList),
    ("new_string".toList, .string "y".toList)]

def annotatedInput : Document :=
  .object [("file_path".toList, .string "a.ts".toList),
    ("timeout".toList, .number ['1', 'e', '9', '9', '9']),
    ("edits".toList, .array [annotatedEdit])]

def annotatedDocument : Document :=
  .object [("cwd".toList, .array [.object []]), ("tool_name".toList, .string "Edit".toList),
    ("tool_input".toList, annotatedInput)]

theorem document_edited : (form.encode edited).document =
    .object [("tool_input".toList, plainInput), ("tool_name".toList, .string "Edit".toList)] := by
  rfl

theorem wellFormed_annotatedDocument : annotatedDocument.WellFormed := by
  have hd : Json.IsDigits ['9', '9', '9'] := List.all_eq_true.mp rfl
  have hn : Json.IsNumeral ['1', 'e', '9', '9', '9'] :=
    .unsigned (@IsUnsigned.parts ['1'] [] _ (.positive (by decide) (by decide) nofun) .none
      (.power (.inl rfl) (.inl rfl) (by decide) hd))
  unfold annotatedDocument annotatedInput annotatedEdit
  repeat' first
    | exact .number hn
    | exact .null
    | exact .object_nil
    | exact .array_nil
    | exact Bare.isBody ⟨by decide⟩
    | refine .string ?_
    | refine .object_cons ?_ ?_ ?_
    | refine .array_cons ?_ ?_

theorem indifferent_annotatedDocument :
    form.Indifferent (form.encode edited).document annotatedDocument := by
  have note : bodyText? "note".toList = some "note" := Bare.bodyText? ⟨by decide⟩
  have edits : bodyText? "edits".toList = some "edits" := Bare.bodyText? ⟨by decide⟩
  have timeout : bodyText? "timeout".toList = some "timeout" := Bare.bodyText? ⟨by decide⟩
  have input : bodyText? "tool_input".toList = some "tool_input" := Bare.bodyText? ⟨by decide⟩
  have cwd : bodyText? "cwd".toList = some "cwd" := Bare.bodyText? ⟨by decide⟩
  have he : Edit.form.Indifferent plainEdit annotatedEdit :=
    (Edit.indifferent_member [] _ .null note (by decide)).trans
      (.of_reordered (.object (.cons _ (.swap _ _ []))))
  have hi : ToolInput.form.Indifferent plainInput annotatedInput := by
    refine (ToolInput.indifferent_edit [] [_] [] [] edits he).trans ?_
    exact (ToolInput.indifferent_member [_] [_] (.number ['1', 'e', '9', '9', '9']) timeout
      (by decide)).trans (.of_reordered (.object (List.reverse_perm _).symm))
  rw [document_edited]
  refine (indifferent_input [] [_] input hi).trans ?_
  exact (indifferent_member [] _ (.array [.object []]) cwd (by decide)).trans
    (.of_reordered (.object (.cons _ (.swap _ _ []))))

theorem ignores_unused_annotated :
    parse annotatedDocument.text = .ok edited ∧ parse (form.encode written).compact = .ok written ∧
      ∀ hook, edited.screen hook = written.screen hook := by
  have hs := Json.spelled_compact (form.plain_encode edited)
  have ha : parse annotatedDocument.text = .ok edited :=
    (ignores_unused.1 indifferent_annotatedDocument hs wellFormed_annotatedDocument.spelled _).mp
      (parse_compact edited)
  have hw := parse_compact written
  exact ⟨ha, hw, ignores_unused.2 ha hw rfl rfl⟩

end Payload
end QualityGate

import QualityGate.Proofs.Settings.Environment
import QualityGate.Proofs.Settings.Files
import QualityGate.Proofs.Settings.Prune
import QualityGate.Proofs.Settings.Reading
import QualityGate.Proofs.Settings.Validation

namespace QualityGate

open Wire Setting

section Agreement

variable {α γ : Type} {f : Form α} {path : List String} {g : Form γ} {proj : α → γ}

/-- Whatever the tree has for a record of the form is a group. -/
def Wire.Form.Clear (f : Form α) (s : Setting) : Prop :=
  ∀ {γ : Type} {path : List String} {g : Form γ} {proj : α → γ}, f.Path path g proj → s.Open path

/-- The trees have the same values for the parts of the form that are no records. -/
def Wire.Form.Alike (f : Form α) (s t : Setting) : Prop :=
  ∀ {γ : Type} {path : List String} {g : Form γ} {proj : α → γ}, f.Path path g proj →
    g.isRecord = false → s.at? path = t.at? path

theorem Wire.Form.Path.exists_part (hp : f.Path path g proj) (hf : f.Regular)
    (hg : g.isRecord = true) :
    ∃ (δ : Type) (key : String) (k : Form δ) (part : α → δ), f.Path (path ++ [key]) k part := by
  induction hp with
  | @nil _ f =>
    cases f with
    | record name fields ofParts parts h =>
      obtain ⟨δ, key, k, part, hfield⟩ := Fields.exists_has hf.2.1
      exact ⟨δ, key, k, _, .cons hfield .nil⟩
    | text | flag | word64 | int32 | oneOf | optional | list => cases hg
  | cons hfield _ ih =>
    obtain ⟨δ, key, k, part, hp⟩ := ih (hfield.regular hf.1) hg
    exact ⟨δ, key, k, _, .cons hfield hp⟩

theorem Setting.filterMap_eq_of_alike {sources sources' : List Setting}
    (h : List.Forall₂ f.Alike sources sources') (hp : f.Path path g proj)
    (hg : g.isRecord = false) :
    sources'.filterMap (fun l => l.at? path) = sources.filterMap fun l => l.at? path := by
  induction h with
  | nil => rfl
  | cons hl _ ih => rw [List.filterMap_cons, List.filterMap_cons, hl hp hg, ih]

end Agreement

namespace Settings

variable {tree tree' : FileTree} {cwd : Place} {environment : List (String × String)}
  {file : Option String} {s : Settings} {sources : List Setting}

/-- Where settings come from, in this order: the defaults, the project's file and the local file, or
the one file that stands in for both, and the environment. -/
inductive Sources (tree : FileTree) (cwd : Place) (environment : List (String × String)) :
    Option String → List Setting → Prop
  | project {config own : Setting} (hc : Held tree cwd ".quality-hook/config.yaml" config)
      (hl : Held tree cwd ".quality-hook/local.yaml" own) :
      Sources tree cwd environment none
        [.ofJson .defaults (form.encode default), config, own, Environment.layer environment]
  | given {path : String} {single : Setting} (hf : Held tree cwd path single) :
      Sources tree cwd environment (some path)
        [.ofJson .defaults (form.encode default), single, Environment.layer environment]

/-- The files that are read. -/
inductive Consulted : Option String → String → Prop
  | config : Consulted none ".quality-hook/config.yaml"
  | own : Consulted none ".quality-hook/local.yaml"
  | given (path : String) : Consulted (some path) path

/-- Each part of the settings counts as the sources tell it, and one that is no record as the last
source that tells it does. -/
def Layered (sources : List Setting) (s : Settings) : Prop :=
  ∀ {γ : Type} {path : List String} {g : Form γ} {proj : Settings → γ}, form.Path path g proj →
    (∀ l ∈ sources, l.Open path) →
    ∃ v, overlay (sources.filterMap fun l => l.at? path) = some v ∧ g.decode v = .ok (proj s) ∧
      (g.isRecord = false → (sources.filterMap fun l => l.at? path).getLast? = some v)

/-- No directory is at the place, and no file of settings. -/
def Aside (tree : FileTree) (cwd : Place) (file : Option String) (place : Place) : Prop :=
  tree.find? place ≠ some .directory ∧
    ∀ path, Consulted file path → ∀ dir, dir <+: cwd → tree.fileAt? dir path ≠ some place

theorem regular_form : form.Regular := by
  simp [form, LoggingSettings.form, HookSettings.form, ToolsSettings.form, ToolSettings.form,
    PolicySettings.form, RemediationSettings.form, Form.Regular, Fields.Regular, Fields.keys,
    Form.isRecord, Presence.defaultTo, Presence.required]

theorem default_mem (h : Sources tree cwd environment file sources) : defaultLayer ∈ sources := by
  cases h <;> exact List.mem_cons_self

theorem neat_sources (h : Sources tree cwd environment file sources) : ∀ l ∈ sources, l.Neat := by
  have hd := neat_encode (o := .defaults) form default
  have he := Environment.neat_layer environment
  have hfile : ∀ {path s}, Held tree cwd path s → s.Neat :=
    fun h => neat_fileLayer? (fileLayer?_eq_some_iff.mpr h)
  cases h with
  | project hc hl => simp [hd, he, hfile hc, hfile hl]
  | given hf => simp [hd, he, hfile hf]

theorem mapM_id_cons_eq_some {α : Type} {x : Option α} {xs : List (Option α)} {ys : List α}
    (h : (x :: xs).mapM id = some ys) :
    ∃ y zs, x = some y ∧ xs.mapM id = some zs ∧ ys = y :: zs := by
  rw [List.mapM_cons] at h
  obtain ⟨y, hy, h⟩ := Option.bind_eq_some_iff.mp h
  obtain ⟨zs, hz, h⟩ := Option.bind_eq_some_iff.mp h
  exact ⟨y, zs, hy, hz, (Option.some.inj h).symm⟩

theorem layers?_eq_some_iff {all : Setting} :
    layers? ((files file).map (fileLayer? tree cwd)) (Environment.layer environment) = some all ↔
      ∃ sources, Sources tree cwd environment file sources ∧ overlay sources = some all := by
  constructor
  · intro h
    obtain ⟨layers, hl, rfl⟩ := Option.map_eq_some_iff.mp h
    cases file with
    | none =>
      obtain ⟨config, _, hc, hrest, rfl⟩ := mapM_id_cons_eq_some hl
      obtain ⟨own, _, ho, hn, rfl⟩ := mapM_id_cons_eq_some hrest
      obtain rfl := Option.some.inj hn
      exact ⟨_, .project (fileLayer?_eq_some_iff.mp hc) (fileLayer?_eq_some_iff.mp ho), rfl⟩
    | some path =>
      obtain ⟨single, _, hf, hn, rfl⟩ := mapM_id_cons_eq_some hl
      obtain rfl := Option.some.inj hn
      exact ⟨_, .given (fileLayer?_eq_some_iff.mp hf), rfl⟩
  · rintro ⟨sources, hs, ha⟩
    cases hs with
    | project hc hl =>
      rw [← fileLayer?_eq_some_iff] at hc hl
      simpa [layers?, files, configFile, localFile, defaultLayer, hc, hl, overlay] using ha
    | given hf =>
      rw [← fileLayer?_eq_some_iff] at hf
      simpa [layers?, files, defaultLayer, hf, overlay] using ha

theorem load_iff_sources : load tree cwd environment file = .ok s ↔
    ∃ sources all, Sources tree cwd environment file sources ∧
      overlay sources = some all ∧ form.decode all = .ok s ∧ s.validate = .ok () := by
  rw [load_eq_ok_iff]
  constructor
  · rintro ⟨all, hb, h⟩
    obtain ⟨sources, hs, ha⟩ := layers?_eq_some_iff.mp hb
    exact ⟨sources, all, hs, ha, h⟩
  · rintro ⟨sources, all, hs, ha, h⟩
    exact ⟨all, layers?_eq_some_iff.mpr ⟨sources, hs, ha⟩, h⟩

variable {all : Setting}

theorem exists_overlay_filterMap {γ : Type} {path : List String} {g : Form γ}
    {proj : Settings → γ} (hd : defaultLayer ∈ sources) (hp : form.Path path g proj) :
    ∃ v, overlay (sources.filterMap fun l => l.at? path) = some v := by
  have hat := hp.at?_encode regular_form (o := .defaults) default
  exact exists_overlay (List.ne_nil_of_mem (List.mem_filterMap.mpr ⟨defaultLayer, hd, hat⟩))

theorem layered_of_decode (hd : defaultLayer ∈ sources) (hn : ∀ l ∈ sources, l.Neat)
    (ha : overlay sources = some all) (h : form.decode all = .ok s) : Layered sources s := by
  intro γ path g proj hp ho
  obtain ⟨v, hv⟩ := exists_overlay_filterMap hd hp
  have hall : all.at? path = some v := (at?_of_overlay ha hn ho).trans hv
  have hg : g.decode v = .ok (proj s) :=
    hp.decode regular_form (neat_of_overlay ha hn) (open_of_overlay ha hn ho) h hall
  exact ⟨v, hv, hg, fun hr =>
    getLast?_of_overlay hv (Form.not_decode_group (hp.regular regular_form) hr hg)⟩

theorem decode_of_prune {sources' : List Setting} {all' : Setting}
    (hn : ∀ l ∈ sources, l.Neat) (hn' : ∀ l ∈ sources', l.Neat) (ha : overlay sources = some all)
    (ha' : overlay sources' = some all')
    (he : sources'.map form.prune = sources.map form.prune) (h : form.decode all = .ok s) :
    form.decode all' = .ok s := by
  have hp : form.prune all' = form.prune all := by
    have ho := congrArg overlay he
    rw [Form.overlay_map_prune form hn', Form.overlay_map_prune form hn, ha, ha'] at ho
    exact Option.some.inj ho
  rw [← Form.decode_prune form regular_form (neat_of_overlay ha hn), ← hp] at h
  exact (Form.decode_prune form regular_form (neat_of_overlay ha' hn') s).mp h

theorem decode_of_alike {sources' : List Setting} {all' : Setting}
    (hd : defaultLayer ∈ sources') (hn' : ∀ l ∈ sources', l.Neat)
    (ha' : overlay sources' = some all') (hc : ∀ l ∈ sources, form.Clear l)
    (hc' : ∀ l ∈ sources', form.Clear l) (he : List.Forall₂ form.Alike sources sources')
    (h : Layered sources s) : form.decode all' = .ok s := by
  refine Form.Tells.decode ?_ regular_form (neat_of_overlay ha' hn')
  intro γ path g proj hp
  have hat := at?_of_overlay ha' hn' fun l hl => hc' l hl hp
  obtain ⟨v, hv⟩ := exists_overlay_filterMap hd hp
  refine ⟨v, hat.trans hv, ?_⟩
  split_ifs with hg
  · -- a record has a part, and on the way to a part there are only groups
    obtain ⟨δ, key, k, part, hpart⟩ := hp.exists_part regular_form hg
    have ho := open_of_overlay ha' hn' fun l hl => hc' l hl hpart
    exact ho path key (List.prefix_refl _) v (hat.trans hv)
  · have hr : g.isRecord = false := Bool.eq_false_iff.mpr hg
    obtain ⟨w, hw, hdec, -⟩ := h hp fun l hl => hc l hl hp
    rw [filterMap_eq_of_alike he hp hr, hw] at hv
    exact Option.some.inj hv ▸ hdec

section OtherFiles

variable (h : ∀ place, tree'.find? place = tree.find? place ∨
  Aside tree cwd file place ∧ Aside tree' cwd file place)

include h

theorem fileAt?_eq {path : String} (hp : Consulted file path) {dir : Place} (hdir : dir <+: cwd) :
    tree'.fileAt? dir path = tree.fileAt? dir path := by
  have hsame : ∀ d, tree.find? d = some .directory ↔ tree'.find? d = some .directory := by
    intro d
    rcases h d with he | ⟨ha, ha'⟩
    · rw [he]
    · exact iff_of_false ha.1 ha'.1
  refine Option.ext fun place => ⟨fun hf => ?_, fun hf => ?_⟩
  · rcases h place with he | ⟨-, ha'⟩
    · exact FileTree.fileAt?_congr (fun d => (hsame d).symm) hf he.symm
    · exact absurd hf (ha'.2 path hp dir hdir)
  · rcases h place with he | ⟨ha, -⟩
    · exact FileTree.fileAt?_congr hsame hf he
    · exact absurd hf (ha.2 path hp dir hdir)

theorem held_other {path : String} (hp : Consulted file path) {s : Setting}
    (hs : Held tree cwd path s) : Held tree' cwd path s := by
  cases hs with
  | missing hm => exact .missing fun dir hd => (fileAt?_eq h hp hd).trans (hm dir hd)
  | read hn ht hy =>
    obtain ⟨place, hf, hb⟩ := hn.holds
    have hplace : tree'.find? place = tree.find? place := by
      rcases h place with he | ⟨ha, -⟩
      · exact he
      · exact absurd hf (ha.2 path hp _ hn.above)
    refine .read ⟨hn.above, ⟨place, (fileAt?_eq h hp hn.above).trans hf, hplace.trans hb⟩, ?_⟩ ht hy
    intro dir' hd hl
    exact (fileAt?_eq h hp hd).trans (hn.nearest dir' hd hl)

theorem Sources.other (hs : Sources tree cwd environment file sources) :
    Sources tree' cwd environment file sources := by
  cases hs with
  | project hc hl => exact .project (held_other h .config hc) (held_other h .own hl)
  | given hf => exact .given (held_other h (.given _) hf)

end OtherFiles

/-- Settings that load have each part from the last source that tells it, and they are valid. What
the environment tells at a path is what its variables tell there, which is the value of the variable
that is named for the path if there is no more than one. Members that are not declared make no
difference in any source, nor do files that are not those of the settings. -/
theorem load_layered (h : load tree cwd environment file = .ok s) :
    (∃ sources, Sources tree cwd environment file sources ∧ Layered sources s ∧
      ∀ tree' cwd' environment' file' sources', Sources tree' cwd' environment' file' sources' →
        sources'.map form.prune = sources.map form.prune ∨
          (∀ l ∈ sources ++ sources', form.Clear l) ∧ List.Forall₂ form.Alike sources sources' →
        load tree' cwd' environment' file' = .ok s) ∧
    (∀ step path, (∀ v ∈ Environment.assignments environment, v.Open (step :: path)) →
      (Environment.layer environment).at? (step :: path) =
        overlay ((Environment.assignments environment).filterMap
          fun v => v.at? (step :: path))) ∧
    (∀ step path v, Environment.Told environment (step :: path) v →
      (Environment.layer environment).at? (step :: path) = v) ∧
    (∀ tree', (∀ place, tree'.find? place = tree.find? place ∨
        Aside tree cwd file place ∧ Aside tree' cwd file place) →
      load tree' cwd environment file = .ok s) ∧
    s.validate = .ok () := by
  obtain ⟨sources, all, hs, ha, hdec, hv⟩ := load_iff_sources.mp h
  have hn := neat_sources hs
  have hlayered : Layered sources s := layered_of_decode (default_mem hs) hn ha hdec
  refine ⟨⟨sources, hs, hlayered, ?_⟩, fun step path => Environment.at?_layer,
    fun step path v ht => ht.at?_layer, ?_, hv⟩
  · intro tree' cwd' environment' file' sources' hs' hsame
    obtain ⟨all', ha'⟩ := exists_overlay (List.ne_nil_of_mem (default_mem hs'))
    refine load_iff_sources.mpr ⟨sources', all', hs', ha', ?_, hv⟩
    rcases hsame with he | ⟨hc, he⟩
    · exact decode_of_prune hn (neat_sources hs') ha ha' he hdec
    · obtain ⟨hc, hc'⟩ := List.forall_mem_append.mp hc
      exact decode_of_alike (default_mem hs') (neat_sources hs') ha' hc hc' he hlayered
  · intro tree' htree
    exact load_iff_sources.mpr ⟨sources, all, hs.other htree, ha, hdec, hv⟩

theorem Layered.last {γ : Type} {path : List String} {g : Form γ} {proj : Settings → γ}
    (h : Layered sources s) (hp : form.Path path g proj) (ho : ∀ l ∈ sources, l.Open path)
    (hr : g.isRecord = false) :
    ∃ v, (sources.filterMap fun l => l.at? path).getLast? = some v ∧ g.decode v = .ok (proj s) := by
  obtain ⟨v, -, hd, hl⟩ := h hp ho
  exact ⟨v, hl hr, hd⟩

def overriddenTree : FileTree :=
  ((FileTree.empty.addFile ["work", ".quality-hook", "config.yaml"]
    (Text.Utf8.encode "logging:\n  level: warn\n  format: pretty\n  rotation: hourly\n")).addFile
    ["work", ".quality-hook", "local.yaml"]
    (Text.Utf8.encode "logging:\n  level: debug\n  rotation: never\nextra: 1\n")).addFile
    ["work", "given.yaml"] (Text.Utf8.encode "logging:\n  rotation: hourly\n")

def overriding : List (String × String) :=
  [("QUALITY_HOOK_LOGGING__LEVEL", "error")]

def overridden : Settings :=
  { default with
    logging := { LoggingSettings.default with
      level := "error", format := "pretty", rotation := "never" } }

def overriddenAlone : Settings :=
  { default with
    logging := { LoggingSettings.default with level := "error", rotation := "hourly" } }

theorem path_rotation : form.Path ["logging", "rotation"] .text fun s => s.logging.rotation :=
  .cons .here (.cons (.there (.there (.there (.there .here)))) .nil)

theorem open_overriddenTree (h : Sources overriddenTree ["work"] overriding file sources)
    (hf : file = none ∨ file = some "given.yaml") :
    ∀ l ∈ sources, l.Open ["logging", "rotation"] := by
  have hfiles : ∀ f ∈ [".quality-hook/config.yaml", ".quality-hook/local.yaml", "given.yaml"],
      ∀ l ∈ fileLayer? overriddenTree ["work"] f, l.Open ["logging", "rotation"] := by
    decide +kernel
  have hd : defaultLayer.Open ["logging", "rotation"] := by decide +kernel
  have he : (Environment.layer overriding).Open ["logging", "rotation"] := by decide +kernel
  cases h with
  | project hc hl =>
    simp only [List.forall_mem_cons]
    rw [← fileLayer?_eq_some_iff] at hc hl
    exact ⟨hd, hfiles _ (by simp) _ hc, hfiles _ (by simp) _ hl, he, List.forall_mem_nil _⟩
  | given hp =>
    obtain rfl : _ = "given.yaml" := by simpa using hf
    simp only [List.forall_mem_cons]
    rw [← fileLayer?_eq_some_iff] at hp
    exact ⟨hd, hfiles _ (by simp) _ hp, he, List.forall_mem_nil _⟩

theorem told_overriding :
    Environment.Told overriding ["logging", "level"] (some (Environment.ofText "error")) := by
  have hn : Environment.Names "QUALITY_HOOK_LOGGING__LEVEL" ["logging", "level"] :=
    Environment.path?_eq_some_iff.mp (by decide +kernel)
  exact .set (List.mem_singleton.mpr rfl) hn fun v hv _ _ _ => List.mem_singleton.mp hv

theorem load_layered_overriddenTree :
    load overriddenTree ["work"] overriding none = .ok overridden ∧
      load overriddenTree ["work"] overriding (some "given.yaml") = .ok overriddenAlone ∧
      (Environment.layer overriding).at? ["logging", "level"] =
        some (Environment.ofText "error") ∧
      (∃ sources v, Sources overriddenTree ["work"] overriding none sources ∧
        (sources.filterMap fun l => l.at? ["logging", "rotation"]).getLast? = some v ∧
        Form.text.decode v = .ok "never") ∧
      ∃ sources v, Sources overriddenTree ["work"] overriding (some "given.yaml") sources ∧
        (sources.filterMap fun l => l.at? ["logging", "rotation"]).getLast? = some v ∧
        Form.text.decode v = .ok "hourly" := by
  have h : load overriddenTree ["work"] overriding none = .ok overridden := by decide +kernel
  have h' : load overriddenTree ["work"] overriding (some "given.yaml") = .ok overriddenAlone := by
    decide +kernel
  obtain ⟨⟨sources, hs, hl, -⟩, -, he, -⟩ := load_layered h
  obtain ⟨⟨sources', hs', hl', -⟩, -⟩ := load_layered h'
  obtain ⟨v, hv, hd⟩ := hl.last path_rotation (open_overriddenTree hs (.inl rfl)) rfl
  obtain ⟨v', hv', hd'⟩ := hl'.last path_rotation (open_overriddenTree hs' (.inr rfl)) rfl
  exact ⟨h, h', he _ _ _ told_overriding, ⟨sources, v, hs, hv, hd⟩, sources', v', hs', hv', hd'⟩

end Settings
end QualityGate

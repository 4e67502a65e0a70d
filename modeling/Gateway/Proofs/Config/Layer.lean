import Gateway.Config.Loader

namespace Gateway

namespace Json

def Value.member? (names : List String) (name : String) : Value → Option Value
  | .object members => members.lookup name
  | .array items => (names.zip items).lookup name
  | _ => none

namespace Fields

theorem lookup_select? {names : List String} {rules : RecordRules} {members : List (String × Value)}
    {fields : Fields} (selected : select? names rules members = some fields) {name : String}
    (known : name ∈ names) : fields.lookup name = members.lookup name := by
  induction members generalizing fields with
  | nil =>
    cases selected
    rfl
  | cons member rest ih =>
    obtain ⟨other, value⟩ := member
    simp only [select?] at selected
    cases others : select? names rules rest with
    | none => simp [others] at selected
    | some kept =>
      simp only [others] at selected
      split at selected
      · split at selected
        · cases selected
        · cases selected
          rw [List.lookup_cons, List.lookup_cons, ih others]
      · rename_i unknown
        have different : (name == other) = false := by
          rw [beq_eq_false_iff_ne]
          rintro rfl
          exact unknown (List.contains_iff_mem.mpr known)
        split at selected
        · cases selected
        · cases selected
          rw [List.lookup_cons, different, ih others]

theorem get?_read? {names : List String} {rules : RecordRules} {value : Value} {fields : Fields}
    (taken : read? names rules value = some fields) {name : String} (known : name ∈ names) :
    fields.get? name = value.member? names name := by
  cases value with
  | object members => exact lookup_select? taken known
  | array items =>
    simp only [read?] at taken
    split at taken
    · cases taken
      rfl
    · cases taken
  | _ => cases taken

theorem optional?_eq_some {α : Type} {fields : Fields} {name : String} {read? : Value → Option α} {default a : α}
    {print : α → Value} (exact : ∀ value a, read? value = some a → value = print a)
    (taken : fields.optional? name read? default = some a) : print a = (fields.get? name).getD (print default) := by
  unfold optional? at taken
  cases said : fields.get? name with
  | none =>
    rw [said] at taken
    cases taken
    rfl
  | some value =>
    rw [said] at taken
    exact (exact value a taken).symm

end Fields

theorem text?_exact (value : Value) (s : String) (taken : text? value = some s) : value = .string s := by
  cases value <;> cases taken
  rfl

theorem bool?_exact (value : Value) (b : Bool) (taken : bool? value = some b) : value = .bool b := by
  cases value <;> cases taken
  rfl

theorem word?_exact (value : Value) (n : Nat) (taken : word? value = some n) : value = .natural n := by
  cases value with
  | natural m =>
    simp only [word?, Option.ite_none_right_eq_some, Option.some.injEq] at taken
    rw [taken.2]
  | _ => cases taken

end Json

/-- The fields of a configuration: those of the server, and those of its log. -/
inductive ConfigField where
  | host | maxPayloadSize | maxBackpressure | idleTimeoutSecs | maxLifetimeMinutes | sendPingsAutomatically
  | closeOnBackpressureLimit | resetIdleTimeoutOnSend | compression | echo | shutdownTimeoutSecs
  | logEnabled | logLevel | logJson
  deriving DecidableEq, Repr

namespace ConfigField

def home : ConfigField → String × List String
  | logEnabled | logLevel | logJson => ("logging", LoggingSection.fieldNames)
  | _ => ("server", ServerSection.fieldNames)

def key : ConfigField → String
  | host => "host"
  | maxPayloadSize => "max_payload_size"
  | maxBackpressure => "max_backpressure"
  | idleTimeoutSecs => "idle_timeout_secs"
  | maxLifetimeMinutes => "max_lifetime_minutes"
  | sendPingsAutomatically => "send_pings_automatically"
  | closeOnBackpressureLimit => "close_on_backpressure_limit"
  | resetIdleTimeoutOnSend => "reset_idle_timeout_on_send"
  | compression => "compression"
  | echo => "echo"
  | shutdownTimeoutSecs => "shutdown_timeout_secs"
  | logEnabled => "enabled"
  | logLevel => "level"
  | logJson => "json"

def value (c : Config) : ConfigField → Json.Value
  | host => .string c.server.host
  | maxPayloadSize => .natural c.server.maxPayloadSize
  | maxBackpressure => .natural c.server.maxBackpressure
  | idleTimeoutSecs => .natural c.server.idleTimeoutSecs
  | maxLifetimeMinutes => .natural c.server.maxLifetimeMinutes
  | sendPingsAutomatically => .bool c.server.sendPingsAutomatically
  | closeOnBackpressureLimit => .bool c.server.closeOnBackpressureLimit
  | resetIdleTimeoutOnSend => .bool c.server.resetIdleTimeoutOnSend
  | compression => .string c.server.compression
  | echo => .bool c.server.echo
  | shutdownTimeoutSecs => .natural c.server.shutdownTimeoutSecs
  | logEnabled => .bool c.logging.enabled
  | logLevel => .string c.logging.level
  | logJson => .bool c.logging.json

def mentioned? (field : ConfigField) (tree : Json.Value) : Option Json.Value :=
  (tree.member? Config.fieldNames field.home.1).bind (Json.Value.member? field.home.2 field.key)

theorem value_server {field : ConfigField} (home : field.home = ("server", ServerSection.fieldNames))
    (s : ServerSection) (l l' : LoggingSection) : field.value ⟨s, l⟩ = field.value ⟨s, l'⟩ := by
  cases field with
  | logEnabled | logLevel | logJson => exact absurd home (by decide)
  | _ => rfl

theorem value_logging {field : ConfigField} (home : field.home = ("logging", LoggingSection.fieldNames))
    (s s' : ServerSection) (l : LoggingSection) : field.value ⟨s, l⟩ = field.value ⟨s', l⟩ := by
  cases field with
  | logEnabled | logLevel | logJson => rfl
  | _ => exact absurd home (by decide)

end ConfigField

open ConfigField (value)

theorem ServerSection.ofJson?_eq_some {rules : Json.RecordRules} {tree : Json.Value} {s : ServerSection}
    (taken : ofJson? rules tree = some s) (logging : LoggingSection) {field : ConfigField}
    (home : field.home = ("server", fieldNames)) :
    value ⟨s, logging⟩ field = (tree.member? fieldNames field.key).getD (value {} field) := by
  simp only [ofJson?, Option.bind_eq_bind, Option.bind_eq_some_iff, Option.pure_def, Option.some.injEq] at taken
  obtain ⟨fields, read, host, a, payload, b, backpressure, c, idle, d, lifetime, e, pings, f, closes, g, resets, h,
    compression, i, echo, j, shutdown, k, rfl⟩ := taken
  have said {name : String} (known : name ∈ fieldNames) := Json.Fields.get?_read? read known
  cases field with
  | host | compression =>
    rw [← said (by decide)]
    exact Json.Fields.optional?_eq_some Json.text?_exact ‹_›
  | maxPayloadSize | maxBackpressure | idleTimeoutSecs | maxLifetimeMinutes | shutdownTimeoutSecs =>
    rw [← said (by decide)]
    exact Json.Fields.optional?_eq_some Json.word?_exact ‹_›
  | sendPingsAutomatically | closeOnBackpressureLimit | resetIdleTimeoutOnSend | echo =>
    rw [← said (by decide)]
    exact Json.Fields.optional?_eq_some Json.bool?_exact ‹_›
  | logEnabled | logLevel | logJson => exact absurd home (by decide)

theorem LoggingSection.ofJson?_eq_some {rules : Json.RecordRules} {tree : Json.Value} {s : LoggingSection}
    (taken : ofJson? rules tree = some s) (server : ServerSection) {field : ConfigField}
    (home : field.home = ("logging", fieldNames)) :
    value ⟨server, s⟩ field = (tree.member? fieldNames field.key).getD (value {} field) := by
  simp only [ofJson?, Option.bind_eq_bind, Option.bind_eq_some_iff, Option.pure_def, Option.some.injEq] at taken
  obtain ⟨fields, read, enabled, a, level, b, json, c, rfl⟩ := taken
  have said {name : String} (known : name ∈ fieldNames) := Json.Fields.get?_read? read known
  cases field with
  | logLevel =>
    rw [← said (by decide)]
    exact Json.Fields.optional?_eq_some Json.text?_exact ‹_›
  | logEnabled | logJson =>
    rw [← said (by decide)]
    exact Json.Fields.optional?_eq_some Json.bool?_exact ‹_›
  | _ => exact absurd home (by decide)

/-- A configuration that is read from a tree has in each field what the tree says of it, or the default. -/
theorem Config.ofJson?_eq_some {rules : Json.RecordRules} {tree : Json.Value} {c : Config}
    (taken : ofJson? rules tree = some c) (field : ConfigField) :
    value c field = (field.mentioned? tree).getD (value {} field) := by
  simp only [ofJson?, Option.bind_eq_bind, Option.bind_eq_some_iff, Option.pure_def, Option.some.injEq] at taken
  obtain ⟨fields, read, server, a, logging, b, rfl⟩ := taken
  have home : field.home = ("server", ServerSection.fieldNames) ∨
      field.home = ("logging", LoggingSection.fieldNames) := by
    cases field <;> simp [ConfigField.home]
  unfold ConfigField.mentioned?
  -- a section that is left out has the defaults of all its fields
  rcases home with home | home
  · rw [home, ← Json.Fields.get?_read? read (by decide)]
    unfold Json.Fields.optional? at a
    cases said : fields.get? "server" with
    | none =>
      rw [said] at a
      cases a
      exact ConfigField.value_server home {} logging {}
    | some tree =>
      rw [said] at a
      exact ServerSection.ofJson?_eq_some a logging home
  · rw [home, ← Json.Fields.get?_read? read (by decide)]
    unfold Json.Fields.optional? at b
    cases said : fields.get? "logging" with
    | none =>
      rw [said] at b
      cases b
      exact ConfigField.value_logging home server {} {}
    | some tree =>
      rw [said] at b
      exact LoggingSection.ofJson?_eq_some b server home

def ConfigFormat.tree? : ConfigFormat → String → Option Json.Value
  | toml, text => Toml.read? text
  | json, text => Json.read? text

/-- The configuration that a tree holds, as texts of a format are taken. -/
def ConfigFormat.config? : ConfigFormat → Json.Value → Option Config
  | toml, tree => Config.ofJson? ⟨true, true⟩ tree
  | json, tree => Config.ofJson? ⟨true, false⟩ tree

/-- The text that a layer is, and its format: for a file, what is in it and what its name tells. -/
def ConfigLayer.source? (files : FileSystem) : ConfigLayer → Option (ConfigFormat × String)
  | .text content format => (ConfigFormat.ofName? (Text.Case.lower format)).map (·, content)
  | .file path | .optionalFile path =>
    match files.find? path with
    | some (.file content) => do
      let text ← Text.ofBytes? content
      let extension ← (Directory.fileName? path).bind Directory.extension?
      let format ← ConfigFormat.ofName? (Text.Case.lower extension)
      return (format, text)
    | _ => none
  | _ => none

theorem ConfigFormat.read_ok {format : ConfigFormat} {text : String} {tree : Json.Value} {config : Config}
    (spelt : format.tree? text = some tree) (fits : format.config? tree = some config) :
    format.read text = .ok config := by
  cases format with
  | toml =>
    simp only [tree?] at spelt
    simp only [config?] at fits
    simp only [read, spelt, Option.bind_some, fits]
  | json =>
    simp only [tree?] at spelt
    simp only [config?] at fits
    simp only [read, spelt, Option.bind_some, fits]

theorem ConfigFormat.config?_eq_some {format : ConfigFormat} {tree : Json.Value} {c : Config}
    (fits : format.config? tree = some c) (field : ConfigField) :
    value c field = (field.mentioned? tree).getD (value {} field) := by
  cases format with
  | toml => exact Config.ofJson?_eq_some fits field
  | json => exact Config.ofJson?_eq_some fits field

namespace ConfigLoader

theorem withFile_source (loader : ConfigLoader) {files : FileSystem} {path : String} {format : ConfigFormat}
    {text : String} {config : Config} (source : (ConfigLayer.file path).source? files = some (format, text))
    (readable : format.read text = .ok config) : loader.withFile files path = .ok { loader with config } := by
  simp only [ConfigLayer.source?] at source
  cases found : files.find? path with
  | none => simp [found] at source
  | some node =>
    cases node with
    | directory => simp [found] at source
    | file content =>
      simp only [found, Option.bind_eq_bind, Option.bind_eq_some_iff, Option.pure_def, Option.some.injEq,
        Prod.mk.injEq] at source
      obtain ⟨_, spelt, extension, ⟨name, named, ends⟩, _, known, rfl, rfl⟩ := source
      simp only [withFile, found, spelt, named, Option.bind_some, ends, known, readable]

theorem apply_source (loader : ConfigLoader) (files : FileSystem) (env : Environment) {layer : ConfigLayer}
    {format : ConfigFormat} {text : String} {config : Config} (source : layer.source? files = some (format, text))
    (readable : format.read text = .ok config) : loader.apply files env layer = .ok ({ loader with config }, env) := by
  cases layer with
  | text text name =>
    simp only [ConfigLayer.source?, Option.map_eq_some_iff, Prod.mk.injEq] at source
    obtain ⟨_, known, rfl, rfl⟩ := source
    simp only [apply, withText, known, readable]
    rfl
  | file path => simp only [apply, loader.withFile_source source readable, Except.map]
  | optionalFile path =>
    have there : files.find? path ≠ none := by
      intro missing
      simp [ConfigLayer.source?, missing] at source
    obtain ⟨node, found⟩ := Option.ne_none_iff_exists'.mp there
    simp only [apply, withOptionalFile, found, loader.withFile_source source readable, Except.map]
  | defaults | development | dotenv | environment => cases source

/-- For every loader, whatever it holds, and every text or file that spells a configuration: the layer is
    taken, and then each field has the value that the text says of it, or else its default. So a field that
    the text does not mention keeps what the loader had exactly if the loader had the default there. -/
theorem layer_fields (loader : ConfigLoader) (files : FileSystem) (env : Environment) (layer : ConfigLayer)
    (format : ConfigFormat) (text : String) (tree : Json.Value) (config : Config)
    (source : layer.source? files = some (format, text)) (spelt : format.tree? text = some tree)
    (fits : format.config? tree = some config) :
    loader.apply files env layer = .ok ({ loader with config }, env) ∧
    (∀ field : ConfigField, field.value config = (field.mentioned? tree).getD (field.value {})) ∧
    ((∀ field : ConfigField, field.value config = (field.mentioned? tree).getD (field.value loader.config)) ↔
      ∀ field : ConfigField, field.mentioned? tree = none → field.value loader.config = field.value {}) := by
  have fields := ConfigFormat.config?_eq_some fits
  refine ⟨loader.apply_source files env source (ConfigFormat.read_ok spelt fits), fields, ?_, ?_⟩
  · intro layered field silent
    have kept := layered field
    rw [fields field, silent] at kept
    exact kept.symm
  · intro agree field
    rw [fields field]
    cases said : field.mentioned? tree with
    | none => exact (agree field said).symm
    | some v => rfl

def echoing : String := "\x7b\"server\": \x7b\"echo\": true\x7d\x7d"

theorem source?_echoing : (ConfigLayer.text echoing "json").source? ⟨[], []⟩ = some (.json, echoing) := by decide

theorem tree?_echoing : ConfigFormat.json.tree? echoing =
    some (.object [("server", .object [("echo", .bool true)])]) := by cbv

/-- On top of the development preset it sets this field, and takes back the host that the preset has. -/
theorem layer_fields_echoing :
    let loader := withDevelopment {}
    let config : Config := { server := { echo := true } }
    loader.apply ⟨[], []⟩ [] (.text echoing "json") = .ok ({ loader with config }, []) ∧
      ConfigField.echo.value config = .bool true ∧
      ConfigField.host.value loader.config = .string "127.0.0.1" ∧
      ConfigField.host.value config = .string "0.0.0.0" := by
  intro loader config
  obtain ⟨applied, fields, _⟩ := layer_fields loader ⟨[], []⟩ [] (.text echoing "json") .json echoing _ config
    source?_echoing tree?_echoing rfl
  exact ⟨applied, fields .echo, rfl, fields .host⟩

/-- So it is not true that a layer keeps the fields that it does not mention. -/
theorem layer_takes_back :
    ¬ ∀ (loader after : ConfigLoader) (files : FileSystem) (env : Environment) (layer : ConfigLayer)
      (format : ConfigFormat) (text : String) (tree : Json.Value), layer.source? files = some (format, text) →
      format.tree? text = some tree → loader.apply files env layer = .ok (after, env) →
      ∀ field : ConfigField, field.value after.config = (field.mentioned? tree).getD (field.value loader.config) := by
  intro layered
  let config : Config := { server := { echo := true } }
  have applied := apply_source (withDevelopment {}) ⟨[], []⟩ [] source?_echoing
    (ConfigFormat.read_ok tree?_echoing (show _ = some config from rfl))
  have kept : Json.Value.string "0.0.0.0" = .string "127.0.0.1" :=
    layered _ _ ⟨[], []⟩ [] _ .json echoing _ source?_echoing tree?_echoing applied .host
  simp at kept

end ConfigLoader

end Gateway

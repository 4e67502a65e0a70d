import Gateway.Proofs.Config.Overrides
import Gateway.Proofs.Config.Text

namespace Gateway

namespace Json

def record? {α : Type} (ofJson? : Value → Option α) (text : String) : Option α := (read? text).bind ofJson?

theorem record?_text {α : Type} (ofJson? : Value → Option α) (v : Value) : record? ofJson? v.text = ofJson? v := by
  rw [record?, read?_text]
  rfl

theorem Fields.read?_all {names : List String} {rules : RecordRules} {members : List (String × Value)}
    (all : members.map Prod.fst = names) (apart : names.Nodup) :
    read? names rules (.object members) = some members := by
  refine select?_of_once ⟨?_, ?_⟩
  · rintro ⟨name, v⟩ within
    obtain ⟨⟨known, w⟩, there, ⟨⟩⟩ := List.mem_map.mp within
    exact ⟨known, all ▸ List.mem_map_of_mem there, rfl⟩
  · rw [map_named, all]
    exact List.Pairwise.map some (fun _ _ => mt (Option.some.inj)) apart

end Json

variable {rules : Json.RecordRules}

def ServerSection.Sized (s : ServerSection) : Prop :=
  ∀ n ∈ [s.maxPayloadSize, s.maxBackpressure, s.idleTimeoutSecs, s.maxLifetimeMinutes, s.shutdownTimeoutSecs],
    n ≤ Text.Decimal.maxWord

theorem ConfigField.takes_value {c : Config} (sized : c.server.Sized) (field : ConfigField) :
    field.Takes (field.value c) := by
  simp only [ServerSection.Sized, List.forall_mem_cons, List.not_mem_nil, false_implies, implies_true,
    and_true] at sized
  obtain ⟨payload, backpressure, idle, lifetime, shutdown⟩ := sized
  cases field with
  | maxPayloadSize => exact ⟨_, payload, rfl⟩
  | maxBackpressure => exact ⟨_, backpressure, rfl⟩
  | idleTimeoutSecs => exact ⟨_, idle, rfl⟩
  | maxLifetimeMinutes => exact ⟨_, lifetime, rfl⟩
  | shutdownTimeoutSecs => exact ⟨_, shutdown, rfl⟩
  | _ => exact ⟨_, rfl⟩

theorem ServerSection.member?_json (s : ServerSection) (logging : LoggingSection) {field : ConfigField}
    (home : field.home = ("server", fieldNames)) :
    s.json.member? fieldNames field.key = some (field.value ⟨s, logging⟩) := by
  cases field with
  | logEnabled | logLevel | logJson => exact absurd home (by decide)
  | _ => rfl

theorem LoggingSection.member?_toJson (s : LoggingSection) (server : ServerSection) {field : ConfigField}
    (home : field.home = ("logging", fieldNames)) :
    s.toJson.member? fieldNames field.key = some (field.value ⟨server, s⟩) := by
  cases field with
  | logEnabled | logLevel | logJson => rfl
  | _ => exact absurd home (by decide)

theorem ServerSection.sized_default : ({} : ServerSection).Sized := by
  simp [Sized, Text.Decimal.maxWord]

theorem ServerSection.ofJson?_json {s : ServerSection} (sized : s.Sized) : ofJson? rules s.json = some s := by
  obtain ⟨t, taken⟩ : ∃ t, ofJson? rules s.json = some t := by
    refine exists_ofJson?.mpr ⟨_, Json.Fields.read?_all rfl (by decide), fun field v said home => ?_⟩
    cases said.symm.trans (member?_json s {} home)
    exact ConfigField.takes_value (c := ⟨s, {}⟩) sized field
  -- a section is what its fields say, and each says what is written in it
  have same : (⟨t, {}⟩ : Config) = ⟨s, {}⟩ := by
    refine ConfigField.eq_of_value_eq fun field => ?_
    rcases field.home_cases with home | home
    · rw [ofJson?_eq_some taken {} home, member?_json s {} home]
      rfl
    · exact ConfigField.value_logging home t s {}
  exact taken.trans (congrArg (fun c : Config => some c.server) same)

theorem LoggingSection.ofJson?_toJson (s : LoggingSection) : ofJson? rules s.toJson = some s := by
  obtain ⟨t, taken⟩ : ∃ t, ofJson? rules s.toJson = some t := by
    refine exists_ofJson?.mpr ⟨_, Json.Fields.read?_all rfl (by decide), fun field v said home => ?_⟩
    cases said.symm.trans (member?_toJson s {} home)
    exact ConfigField.takes_value (c := ⟨{}, s⟩) ServerSection.sized_default field
  have same : (⟨{}, t⟩ : Config) = ⟨{}, s⟩ := by
    refine ConfigField.eq_of_value_eq fun field => ?_
    rcases field.home_cases with home | home
    · exact ConfigField.value_server home {} t s
    · rw [ofJson?_eq_some taken {} home, member?_toJson s {} home]
      rfl
  exact taken.trans (congrArg (fun c : Config => some c.logging) same)

theorem Config.ofJson?_json {c : Config} (sized : c.server.Sized) : ofJson? rules c.json = some c := by
  have all : Json.Fields.read? fieldNames rules c.json =
      some [("server", c.server.json), ("logging", c.logging.toJson)] := Json.Fields.read?_all rfl (by decide)
  have server : Json.Fields.optional? [("server", c.server.json), ("logging", c.logging.toJson)] "server"
      (ServerSection.ofJson? rules) {} = some c.server := ServerSection.ofJson?_json sized
  have logging : Json.Fields.optional? [("server", c.server.json), ("logging", c.logging.toJson)] "logging"
      (LoggingSection.ofJson? rules) {} = some c.logging := c.logging.ofJson?_toJson
  rw [ofJson?, all]
  simp only [Option.bind_eq_bind, Option.bind_some, server, logging, Option.pure_def]

theorem LogConfig.ofJson?_json (c : LogConfig) : ofJson? c.json = some c := by
  have all : Json.Fields.read? fieldNames ⟨false, false⟩ c.json = some _ := Json.Fields.read?_all rfl (by decide)
  rw [ofJson?, all]
  rfl

theorem ServerSection.takes_of_ofJson? {tree : Json.Value} {s : ServerSection} (taken : ofJson? rules tree = some s)
    (field : ConfigField) (home : field.home = ("server", fieldNames)) : field.Takes (field.value ⟨s, {}⟩) := by
  obtain ⟨fields, read, each⟩ := exists_ofJson?.mp ⟨s, taken⟩
  have known : field.key ∈ fieldNames := by
    cases field with
    | logEnabled | logLevel | logJson => exact absurd home (by decide)
    | _ => decide
  rw [ofJson?_eq_some taken {} home, ← Json.Fields.get?_read? read known]
  -- where nothing is said the default stands, which is of the kind of its field too
  cases said : fields.get? field.key with
  | none => exact ConfigField.takes_value (c := {}) sized_default field
  | some v => exact each field v said home

theorem ServerSection.sized_of_ofJson? {tree : Json.Value} {s : ServerSection} (taken : ofJson? rules tree = some s) :
    s.Sized := by
  have number {n : Nat} (takes : ∃ m, m ≤ Text.Decimal.maxWord ∧ Json.Value.natural n = .natural m) :
      n ≤ Text.Decimal.maxWord := by
    obtain ⟨m, small, same⟩ := takes
    cases same
    exact small
  have takes := takes_of_ofJson? taken
  simp only [Sized, List.forall_mem_cons, List.not_mem_nil, false_implies, implies_true, and_true]
  exact ⟨number (takes .maxPayloadSize rfl), number (takes .maxBackpressure rfl),
    number (takes .idleTimeoutSecs rfl), number (takes .maxLifetimeMinutes rfl),
    number (takes .shutdownTimeoutSecs rfl)⟩

theorem Config.sized_of_ofJson? {tree : Json.Value} {c : Config} (taken : ofJson? rules tree = some c) :
    c.server.Sized := by
  simp only [ofJson?, Option.bind_eq_bind, Option.bind_eq_some_iff, Option.pure_def, Option.some.injEq] at taken
  obtain ⟨fields, read, server, a, logging, b, rfl⟩ := taken
  unfold Json.Fields.optional? at a
  cases said : fields.get? "server" with
  | none =>
    rw [said] at a
    cases a
    exact ServerSection.sized_default
  | some tree =>
    rw [said] at a
    exact ServerSection.sized_of_ofJson? a

/-- What is written for a configuration is JSON text, and if its numbers have at most 64 bits, then the configuration
    is read from it, whatever characters are in its texts. So if any text is taken as a configuration, as one of its
    sections, or as what tells how to log, then what is written for it is taken as the same. -/
theorem Config.json_round_trip :
    (∀ c : Config, Json.IsText c.json.text.toList c.json ∧
      (c.server.Sized → Json.record? (ofJson? ⟨true, false⟩) c.json.text = some c)) ∧
    (∀ text c, Json.record? (ofJson? ⟨true, false⟩) text = some c →
      Json.record? (ofJson? ⟨true, false⟩) c.json.text = some c) ∧
    (∀ text s, Json.record? (ServerSection.ofJson? ⟨true, false⟩) text = some s →
      Json.record? (ServerSection.ofJson? ⟨true, false⟩) s.json.text = some s) ∧
    (∀ text s, Json.record? (LoggingSection.ofJson? ⟨true, false⟩) text = some s →
      Json.record? (LoggingSection.ofJson? ⟨true, false⟩) s.toJson.text = some s) ∧
    ∀ text c, Json.record? LogConfig.ofJson? text = some c → Json.record? LogConfig.ofJson? c.json.text = some c := by
  simp only [Json.record?_text]
  refine ⟨fun c => ⟨Json.isText_text c.json, ofJson?_json⟩, fun text c taken => ?_, fun text s taken => ?_,
    fun text s _ => s.ofJson?_toJson, fun text c _ => c.ofJson?_json⟩
  · obtain ⟨tree, -, taken⟩ := Option.bind_eq_some_iff.mp taken
    exact ofJson?_json (sized_of_ofJson? taken)
  · obtain ⟨tree, -, taken⟩ := Option.bind_eq_some_iff.mp taken
    exact ServerSection.ofJson?_json (ServerSection.sized_of_ofJson? taken)

def quoted : Config :=
  { server := { host := "\x01\"\\\n😀", maxPayloadSize := 18446744073709551615 }, logging := { level := "é\x7f" } }

theorem Config.json_round_trip_quoted : Json.record? (ofJson? ⟨true, false⟩) quoted.json.text = some quoted ∧
    Json.record? (ServerSection.ofJson? ⟨true, false⟩) ({} : ServerSection).json.text = some {} ∧
    Json.record? (LoggingSection.ofJson? ⟨true, false⟩) ({} : LoggingSection).toJson.text = some {} ∧
    Json.record? LogConfig.ofJson? ({} : LogConfig).json.text = some {} := by
  have empty : Json.read? "\x7b \x7d" = some (.object []) := Json.read?_of_isText
    ⟨[], _, [], rfl, Json.blanks_nil, @Json.Derives.emptyObject [' '] (by simp [Json.Blanks]), Json.blanks_nil⟩
  have server : Json.record? (ServerSection.ofJson? ⟨true, false⟩) "\x7b \x7d" = some {} := by
    rw [Json.record?, empty]
    rfl
  have logging : Json.record? (LoggingSection.ofJson? ⟨true, false⟩) "\x7b \x7d" = some {} := by
    rw [Json.record?, empty]
    rfl
  have log : Json.record? LogConfig.ofJson? "[true,\"info\",true,false,false,false,true]" = some {} := by
    have list : Json.read? "[true,\"info\",true,false,false,false,true]" = some (.array [.bool true, .string "info",
        .bool true, .bool false, .bool false, .bool false, .bool true]) := Json.read?_of_isText
      ⟨[], _, [], rfl, Json.blanks_nil, Json.Value.derives _, Json.blanks_nil⟩
    rw [Json.record?, list]
    rfl
  have sized : quoted.server.Sized := by simp [ServerSection.Sized, quoted, Text.Decimal.maxWord]
  obtain ⟨written, read, sections, sections', logs⟩ := json_round_trip
  exact ⟨read _ _ ((written quoted).2 sized), sections _ _ server, sections' _ _ logging, logs _ _ log⟩

end Gateway

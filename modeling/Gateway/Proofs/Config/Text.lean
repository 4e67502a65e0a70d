import Gateway.Proofs.Config.Layer
import Gateway.Proofs.Json.Printer

namespace Gateway

namespace Json

namespace Fields

def Once (names : List String) (members : List (Option String × Value)) : Prop :=
  (∀ m ∈ members, ∃ name ∈ names, m.1 = some name) ∧ (members.map Prod.fst).Nodup

instance (names : List String) (members : List (Option String × Value)) : Decidable (Once names members) :=
  inferInstanceAs (Decidable (_ ∧ _))

theorem mem_named {name : String} {v : Value} {members : List (String × Value)} :
    (some name, v) ∈ named members ↔ (name, v) ∈ members := by
  simp [named]

theorem map_named (members : List (String × Value)) :
    (named members).map Prod.fst = (members.map Prod.fst).map some := by
  rw [named, List.map_map, List.map_map]
  rfl

theorem once_cons {names : List String} {name : String} {v : Value} {members : List (String × Value)} :
    Once names (named ((name, v) :: members)) ↔
      name ∈ names ∧ name ∉ members.map Prod.fst ∧ Once names (named members) := by
  have front : named ((name, v) :: members) = (some name, v) :: named members := rfl
  have known : (∃ other ∈ names, some name = some other) ↔ name ∈ names := by simp
  have fresh : some name ∉ (named members).map Prod.fst ↔ name ∉ members.map Prod.fst := by
    rw [map_named]
    simp
  rw [Once, Once, front, List.forall_mem_cons, List.map_cons, List.nodup_cons, fresh, known]
  exact ⟨fun ⟨⟨known, others⟩, fresh, apart⟩ => ⟨known, fresh, others, apart⟩,
    fun ⟨known, fresh, others, apart⟩ => ⟨⟨known, others⟩, fresh, apart⟩⟩

variable {names : List String} {rules : RecordRules}

theorem Once.named {members : List (Option String × Value)} (once : Once names members) :
    ∃ ms, members = Json.named ms := by
  rcases objectOf_cases members with ⟨ms, same, -⟩ | ⟨⟨v, within⟩, -⟩
  · exact ⟨ms, same⟩
  · obtain ⟨name, -, same⟩ := once.1 _ within
    cases same

theorem select?_of_once {members : List (String × Value)} (once : Once names (named members)) :
    select? names rules members = some members := by
  induction members with
  | nil => rfl
  | cons member members ih =>
    obtain ⟨name, v⟩ := member
    obtain ⟨known, fresh, others⟩ := once_cons.mp once
    have again : ¬ members.any (·.1 == name) = true := by simpa using fresh
    rw [select?, ih others]
    exact (if_pos (List.contains_iff_mem.mpr known)).trans (if_neg again)

theorem select?_eq_some_iff (strict : rules.refusesUnknown = true) {members : List (String × Value)}
    {fields : Fields} : select? names rules members = some fields ↔ fields = members ∧ Once names (named members) := by
  refine ⟨fun taken => ?_, by rintro ⟨rfl, once⟩; exact select?_of_once once⟩
  induction members generalizing fields with
  | nil =>
    cases taken
    exact ⟨rfl, nofun, List.nodup_nil⟩
  | cons member members ih =>
    obtain ⟨name, v⟩ := member
    rw [select?] at taken
    cases others : select? names rules members with
    | none => simp [others] at taken
    | some kept =>
      obtain ⟨rfl, once⟩ := ih others
      simp only [others, List.contains_iff_mem, strict, if_true] at taken
      split_ifs at taken with known there
      cases taken
      exact ⟨rfl, once_cons.mpr ⟨known, by simpa using there, once⟩⟩

theorem read?_objectOf (strict : rules.refusesUnknown = true) {members : List (Option String × Value)}
    {fields : Fields} :
    read? names rules (objectOf members) = some fields ↔ members = named fields ∧ Once names members := by
  rcases objectOf_cases members with ⟨ms, rfl, object⟩ | ⟨⟨v, within⟩, object⟩
  · rw [object, read?, select?_eq_some_iff strict, named_inj, eq_comm]
  · rw [object]
    constructor
    · intro taken
      cases taken
    · rintro ⟨-, known, -⟩
      obtain ⟨name, -, same⟩ := known _ within
      cases same

theorem get?_eq_some_iff {fields : Fields} (once : Once names (named fields)) {name : String} {v : Value} :
    fields.get? name = some v ↔ (some name, v) ∈ named fields := by
  induction fields with
  | nil => exact ⟨nofun, nofun⟩
  | cons field fields ih =>
    obtain ⟨other, w⟩ := field
    obtain ⟨-, fresh, others⟩ := once_cons.mp once
    have front : named ((other, w) :: fields) = (some other, w) :: named fields := rfl
    rw [get?] at ih ⊢
    rw [List.lookup_cons, front, List.mem_cons, ← ih others]
    by_cases same : name = other
    · subst same
      have alone : fields.lookup name ≠ some v := by
        intro again
        exact fresh (List.mem_map_of_mem (f := Prod.fst) (mem_named.mp ((ih others).mp again)))
      simp [alone, eq_comm]
    · have different : (name == other) = false := beq_eq_false_iff_ne.mpr same
      simp [different, same]

theorem exists_read?_objectOf {ι : Type} (strict : rules.refusesUnknown = true)
    {members : List (Option String × Value)} (key : ι → String) (takes : ι → Value → Prop) :
    (∃ fields, read? names rules (objectOf members) = some fields ∧
      ∀ i v, fields.get? (key i) = some v → takes i v) ↔
      Once names members ∧ ∀ i v, (some (key i), v) ∈ members → takes i v := by
  constructor
  · rintro ⟨fields, taken, each⟩
    obtain ⟨rfl, once⟩ := (read?_objectOf strict).mp taken
    exact ⟨once, fun i v within => each i v ((get?_eq_some_iff once).mpr within)⟩
  · rintro ⟨once, each⟩
    obtain ⟨ms, rfl⟩ := once.named
    exact ⟨ms, (read?_objectOf strict).mpr ⟨rfl, once⟩, fun i v found =>
      each i v ((get?_eq_some_iff once).mp found)⟩

theorem exists_optional? {α : Type} {fields : Fields} {name : String} {read? : Value → Option α} {default : α} :
    (∃ a, fields.optional? name read? default = some a) ↔
      ∀ v, fields.get? name = some v → ∃ a, read? v = some a := by
  unfold optional?
  cases fields.get? name with
  | none => simp
  | some v => simp

end Fields

theorem member?_objectOf {names : List String} {members : List (Option String × Value)}
    (once : Fields.Once names members) {name : String} {v : Value} :
    (objectOf members).member? names name = some v ↔ (some name, v) ∈ members := by
  obtain ⟨ms, rfl⟩ := once.named
  rw [objectOf_named]
  exact Fields.get?_eq_some_iff once

theorem exists_bool? {v : Value} : (∃ b, bool? v = some b) ↔ ∃ b, v = .bool b := by
  refine ⟨fun ⟨b, taken⟩ => ⟨b, bool?_exact v b taken⟩, ?_⟩
  rintro ⟨b, rfl⟩
  exact ⟨b, rfl⟩

theorem exists_text? {v : Value} : (∃ s, text? v = some s) ↔ ∃ s, v = .string s := by
  refine ⟨fun ⟨s, taken⟩ => ⟨s, text?_exact v s taken⟩, ?_⟩
  rintro ⟨s, rfl⟩
  exact ⟨s, rfl⟩

theorem exists_word? {v : Value} : (∃ n, word? v = some n) ↔ ∃ n, n ≤ Text.Decimal.maxWord ∧ v = .natural n := by
  constructor
  · rintro ⟨n, taken⟩
    obtain rfl := word?_exact v n taken
    exact ⟨n, (Option.ite_none_right_eq_some.mp taken).1, rfl⟩
  · rintro ⟨n, small, rfl⟩
    exact ⟨n, if_pos small⟩

end Json

namespace ConfigField

/-- Whether a value is of the kind of a field: a flag, a text or a number of 64 bits. -/
def Takes (v : Json.Value) : ConfigField → Prop
  | host | compression | logLevel => ∃ s, v = .string s
  | maxPayloadSize | maxBackpressure | idleTimeoutSecs | maxLifetimeMinutes | shutdownTimeoutSecs =>
    ∃ n, n ≤ Text.Decimal.maxWord ∧ v = .natural n
  | sendPingsAutomatically | closeOnBackpressureLimit | resetIdleTimeoutOnSend | echo | logEnabled | logJson =>
    ∃ b, v = .bool b

theorem home_cases (field : ConfigField) :
    field.home = ("server", ServerSection.fieldNames) ∨ field.home = ("logging", LoggingSection.fieldNames) := by
  cases field <;> simp [home]

end ConfigField

theorem exists_bind {α β : Type} {x : Option α} {f : α → Option β} :
    (∃ b, x.bind f = some b) ↔ ∃ a, x = some a ∧ ∃ b, f a = some b := by
  cases x with
  | none => simp
  | some a => simp

variable {rules : Json.RecordRules}

theorem ConfigField.home_known (field : ConfigField) : field.home.1 ∈ Config.fieldNames := by
  rcases field.home_cases with home | home <;> simp [home, Config.fieldNames]

theorem ServerSection.exists_ofJson? {tree : Json.Value} :
    (∃ s, ofJson? rules tree = some s) ↔ ∃ fields, Json.Fields.read? fieldNames rules tree = some fields ∧
      ∀ (field : ConfigField) v, fields.get? field.key = some v → field.home = ("server", fieldNames) →
        field.Takes v := by
  unfold ofJson?
  simp only [Option.bind_eq_bind, exists_bind, Option.pure_def, Option.some.injEq, exists_eq', and_true,
    exists_and_right, Json.Fields.exists_optional?, Json.exists_text?, Json.exists_word?, Json.exists_bool?]
  refine exists_congr fun fields => and_congr_right fun _ => ⟨?_, fun each => ?_⟩
  · rintro ⟨host, payload, backpressure, idle, lifetime, pings, closes, resets, compression, echo, shutdown⟩ field v
      said home
    cases field with
    | host => exact host v said
    | maxPayloadSize => exact payload v said
    | maxBackpressure => exact backpressure v said
    | idleTimeoutSecs => exact idle v said
    | maxLifetimeMinutes => exact lifetime v said
    | sendPingsAutomatically => exact pings v said
    | closeOnBackpressureLimit => exact closes v said
    | resetIdleTimeoutOnSend => exact resets v said
    | compression => exact compression v said
    | echo => exact echo v said
    | shutdownTimeoutSecs => exact shutdown v said
    | logEnabled | logLevel | logJson => exact absurd home (by decide)
  · have each field home v said := each field v said home
    exact ⟨each .host rfl, each .maxPayloadSize rfl, each .maxBackpressure rfl, each .idleTimeoutSecs rfl,
      each .maxLifetimeMinutes rfl, each .sendPingsAutomatically rfl, each .closeOnBackpressureLimit rfl,
      each .resetIdleTimeoutOnSend rfl, each .compression rfl, each .echo rfl, each .shutdownTimeoutSecs rfl⟩

theorem LoggingSection.exists_ofJson? {tree : Json.Value} :
    (∃ s, ofJson? rules tree = some s) ↔ ∃ fields, Json.Fields.read? fieldNames rules tree = some fields ∧
      ∀ (field : ConfigField) v, fields.get? field.key = some v → field.home = ("logging", fieldNames) →
        field.Takes v := by
  unfold ofJson?
  simp only [Option.bind_eq_bind, exists_bind, Option.pure_def, Option.some.injEq, exists_eq', and_true,
    exists_and_right, Json.Fields.exists_optional?, Json.exists_text?, Json.exists_bool?]
  refine exists_congr fun fields => and_congr_right fun _ => ⟨?_, fun each => ?_⟩
  · rintro ⟨enabled, level, json⟩ field v said home
    cases field with
    | logEnabled => exact enabled v said
    | logLevel => exact level v said
    | logJson => exact json v said
    | _ => exact absurd home (by decide)
  · have each field home v said := each field v said home
    exact ⟨each .logEnabled rfl, each .logLevel rfl, each .logJson rfl⟩

def SectionFits (home : String × List String) (members : List (Option String × Json.Value)) : Prop :=
  Json.Fields.Once home.2 members ∧
    ∀ (field : ConfigField) v, (some field.key, v) ∈ members → field.home = home → field.Takes v

theorem ServerSection.exists_ofJson?_objectOf (strict : rules.refusesUnknown = true)
    {members : List (Option String × Json.Value)} :
    (∃ s, ofJson? rules (Json.objectOf members) = some s) ↔ SectionFits ("server", fieldNames) members :=
  exists_ofJson?.trans (Json.Fields.exists_read?_objectOf strict ConfigField.key _)

theorem LoggingSection.exists_ofJson?_objectOf (strict : rules.refusesUnknown = true)
    {members : List (Option String × Json.Value)} :
    (∃ s, ofJson? rules (Json.objectOf members) = some s) ↔ SectionFits ("logging", fieldNames) members :=
  exists_ofJson?.trans (Json.Fields.exists_read?_objectOf strict ConfigField.key _)

def ConfigField.TakesSection (rules : Json.RecordRules) (field : ConfigField) (v : Json.Value) : Prop :=
  (field.home = ("server", ServerSection.fieldNames) → ∃ s, ServerSection.ofJson? rules v = some s) ∧
    (field.home = ("logging", LoggingSection.fieldNames) → ∃ s, LoggingSection.ofJson? rules v = some s)

theorem ConfigField.takesSection_iff (strict : rules.refusesUnknown = true) (field : ConfigField)
    {members : List (Option String × Json.Value)} :
    field.TakesSection rules (Json.objectOf members) ↔ SectionFits field.home members := by
  rw [TakesSection, ServerSection.exists_ofJson?_objectOf strict, LoggingSection.exists_ofJson?_objectOf strict]
  rcases field.home_cases with home | home
  · simp [home]
  · simp [home]

/-- What an object has under the names of the sections are objects. -/
def Config.Sectioned (members : List (Option String × Json.Value)) : Prop :=
  ∀ name ∈ fieldNames, ∀ v, (some name, v) ∈ members → ∃ inner, v = Json.objectOf inner

theorem Config.exists_ofJson? {tree : Json.Value} :
    (∃ c, ofJson? rules tree = some c) ↔ ∃ fields, Json.Fields.read? fieldNames rules tree = some fields ∧
      ∀ (field : ConfigField) v, fields.get? field.home.1 = some v → field.TakesSection rules v := by
  unfold ofJson?
  simp only [Option.bind_eq_bind, exists_bind, Option.pure_def, Option.some.injEq, exists_eq', and_true,
    exists_and_right, Json.Fields.exists_optional?]
  refine exists_congr fun fields => and_congr_right fun _ => ⟨?_, fun each => ?_⟩
  · rintro ⟨server, logging⟩ field v said
    refine ⟨fun home => server v ?_, fun home => logging v ?_⟩
    · rwa [home] at said
    · rwa [home] at said
  · exact ⟨fun v said => (each .host v said).1 rfl, fun v said => (each .logEnabled v said).2 rfl⟩

theorem Config.exists_ofJson?_objectOf (strict : rules.refusesUnknown = true)
    {members : List (Option String × Json.Value)} (sections : Sectioned members) :
    (∃ c, ofJson? rules (Json.objectOf members) = some c) ↔ Json.Fields.Once fieldNames members ∧
      ∀ (field : ConfigField) inner, (some field.home.1, Json.objectOf inner) ∈ members →
        SectionFits field.home inner := by
  rw [exists_ofJson?, Json.Fields.exists_read?_objectOf strict fun field : ConfigField => field.home.1]
  refine and_congr_right fun _ => ⟨fun each field inner within => ?_, fun each field v within => ?_⟩
  · exact (field.takesSection_iff strict).mp (each field _ within)
  · obtain ⟨inner, rfl⟩ := sections field.home.1 field.home_known v within
    exact (field.takesSection_iff strict).mpr (each field inner within)

def Mentions (members : List (Option String × Json.Value)) (field : ConfigField) (v : Json.Value) : Prop :=
  ∃ inner, (some field.home.1, Json.objectOf inner) ∈ members ∧ (some field.key, v) ∈ inner

/-- Whether the members of an object are those of a configuration: every name at both levels is a known one, none
    is there twice at its level, and flags, texts and numbers have values of their kinds. -/
structure Config.Fits (members : List (Option String × Json.Value)) : Prop where
  known : Json.Fields.Once Config.fieldNames members
  sections : ∀ (field : ConfigField) inner, (some field.home.1, Json.objectOf inner) ∈ members →
    Json.Fields.Once field.home.2 inner
  kinds : ∀ (field : ConfigField) v, Mentions members field v → field.Takes v

theorem Config.fits_iff {members : List (Option String × Json.Value)} :
    Fits members ↔ Json.Fields.Once fieldNames members ∧
      ∀ (field : ConfigField) inner, (some field.home.1, Json.objectOf inner) ∈ members →
        SectionFits field.home inner := by
  constructor
  · intro fits
    refine ⟨fits.known, fun field inner within => ⟨fits.sections field inner within, fun other v said home => ?_⟩⟩
    -- the section of one field is that of every field with the same home
    rw [← home] at within
    exact fits.kinds other v ⟨inner, within, said⟩
  · rintro ⟨known, sections⟩
    refine ⟨known, fun field inner within => (sections field inner within).1, ?_⟩
    rintro field v ⟨inner, within, said⟩
    exact (sections field inner within).2 field v said rfl

theorem Config.Fits.mentioned?_eq_some_iff {members : List (Option String × Json.Value)} (fits : Fits members)
    (sections : Sectioned members) (field : ConfigField) (v : Json.Value) :
    field.mentioned? (Json.objectOf members) = some v ↔ Mentions members field v := by
  rw [ConfigField.mentioned?, Option.bind_eq_some_iff]
  constructor
  · rintro ⟨tree, there, said⟩
    rw [Json.member?_objectOf fits.known] at there
    obtain ⟨inner, rfl⟩ := sections field.home.1 field.home_known tree there
    exact ⟨inner, there, (Json.member?_objectOf (fits.sections field inner there)).mp said⟩
  · rintro ⟨inner, there, said⟩
    exact ⟨_, (Json.member?_objectOf fits.known).mpr there,
      (Json.member?_objectOf (fits.sections field inner there)).mpr said⟩

theorem ConfigFormat.json_read_ok {text : String} {c : Config} :
    json.read text = .ok c ↔ (Json.read? text).bind (Config.ofJson? ⟨true, false⟩) = some c := by
  rw [read]
  cases (Json.read? text).bind (Config.ofJson? ⟨true, false⟩) with
  | none => simp
  | some config => rw [Except.ok.injEq, Option.some.injEq]

/-- For every JSON text of an object whose sections are objects, however its members are ordered, escaped and
    spaced: it is taken as a configuration exactly if they are those of one. Then each field that it mentions has
    the value that is written, and every other field has its default. A string in which half of a surrogate pair is
    named is no text, and so is refused for a field that is one. -/
theorem ConfigFormat.json_configs (text : String) (members : List (Option String × Json.Value))
    (spelt : Json.IsText text.toList (Json.objectOf members)) (sections : Config.Sectioned members) :
    ((∃ c, json.read text = .ok c) ↔ Config.Fits members) ∧
    ∀ c, json.read text = .ok c → ∀ field : ConfigField,
      (∀ v, Mentions members field v → field.value c = v) ∧
      ((∀ v, ¬ Mentions members field v) → field.value c = field.value {}) := by
  have taken (c : Config) : json.read text = .ok c ↔ Config.ofJson? ⟨true, false⟩ (Json.objectOf members) = some c := by
    rw [json_read_ok, Json.read?_of_isText spelt]
    exact Iff.rfl
  have accepts : (∃ c, json.read text = .ok c) ↔ Config.Fits members := by
    rw [exists_congr taken, Config.exists_ofJson?_objectOf rfl sections, Config.fits_iff]
  refine ⟨accepts, fun c read field => ?_⟩
  have fits := accepts.mp ⟨c, read⟩
  have said := fits.mentioned?_eq_some_iff sections field
  have holds := Config.ofJson?_eq_some ((taken c).mp read) field
  constructor
  · intro v mentions
    rw [holds, (said v).mpr mentions]
    rfl
  · intro silent
    have none : field.mentioned? (Json.objectOf members) = none :=
      Option.eq_none_iff_forall_ne_some.mpr fun v mentions => silent v ((said v).mp mentions)
    rw [holds, none]
    rfl

/-- The sections come in another order than they are declared, one of them is empty, and the number is the greatest
    that is taken. -/
def patient : String := "\x7b\"logging\":\x7b\x7d,\"server\":\x7b\"idle_timeout_secs\":18446744073709551615\x7d\x7d"

def patientMembers : List (Option String × Json.Value) :=
  [(some "logging", Json.objectOf []), (some "server",
    Json.objectOf [(some "idle_timeout_secs", .natural 18446744073709551615)])]

theorem isText_patient : Json.IsText patient.toList (Json.objectOf patientMembers) :=
  ⟨[], _, [], rfl, Json.blanks_nil, (Json.objectOf patientMembers).derives, Json.blanks_nil⟩

theorem mem_patientMembers {name : String} {inner : List (Option String × Json.Value)}
    (within : (some name, Json.objectOf inner) ∈ patientMembers) : name = "logging" ∧ inner = [] ∨
      name = "server" ∧ inner = [(some "idle_timeout_secs", .natural 18446744073709551615)] := by
  simp only [patientMembers, List.mem_cons, Prod.mk.injEq, Option.some.injEq, List.not_mem_nil, or_false] at within
  rcases within with ⟨rfl, same⟩ | ⟨rfl, same⟩
  · exact .inl ⟨rfl, Json.objectOf_eq_object.mp same⟩
  · exact .inr ⟨rfl, Json.objectOf_eq_object.mp same⟩

/-- It is taken, and the fields that it does not mention have their defaults. -/
theorem ConfigFormat.json_configs_patient : Config.Fits patientMembers ∧
    ∃ c, json.read patient = .ok c ∧ ConfigField.idleTimeoutSecs.value c = .natural 18446744073709551615 ∧
      ConfigField.echo.value c = .bool false := by
  have sections : Config.Sectioned patientMembers := by
    intro name _ v within
    simp only [patientMembers, List.mem_cons, Prod.mk.injEq, List.not_mem_nil, or_false] at within
    rcases within with ⟨-, rfl⟩ | ⟨-, rfl⟩ <;> exact ⟨_, rfl⟩
  obtain ⟨accepts, holds⟩ := json_configs patient patientMembers isText_patient sections
  have read : json.read patient = .ok { server := { idleTimeoutSecs := 18446744073709551615 } } := by
    rw [json_read_ok, Json.read?_of_isText isText_patient]
    decide +kernel
  refine ⟨accepts.mp ⟨_, read⟩, _, read, (holds _ read .idleTimeoutSecs).1 _ ?_, (holds _ read .echo).2 ?_⟩
  · exact ⟨_, List.mem_cons_of_mem _ List.mem_cons_self, List.mem_cons_self⟩
  · rintro v ⟨inner, within, said⟩
    rcases mem_patientMembers within with ⟨home, -⟩ | ⟨-, rfl⟩
    · exact absurd home (by decide)
    · simp [ConfigField.key] at said

def halfHost : String := "\x7b\"server\":\x7b\"host\":\"\\ud800\"\x7d\x7d"

def halfHostMembers : List (Option String × Json.Value) :=
  [(some "server", Json.objectOf [(some "host", Json.stringOf [.code 0xD800])])]

theorem isText_halfHost : Json.IsText halfHost.toList (Json.objectOf halfHostMembers) :=
  ⟨[], _, [], rfl, Json.blanks_nil, (Json.objectOf halfHostMembers).derives, Json.blanks_nil⟩

/-- So it is not true that any string is taken as a text. -/
theorem ConfigFormat.json_string_refused :
    ¬ ∀ (text : String) (members : List (Option String × Json.Value)),
      Json.IsText text.toList (Json.objectOf members) → Config.Sectioned members →
      ((∃ c, json.read text = .ok c) ↔ Json.Fields.Once Config.fieldNames members ∧
        (∀ (field : ConfigField) inner, (some field.home.1, Json.objectOf inner) ∈ members →
          Json.Fields.Once field.home.2 inner) ∧
        ∀ (field : ConfigField) v, Mentions members field v →
          field.Takes v ∨ field.Takes (.string "") ∧ ∃ parts, v = Json.stringOf parts) := by
  intro accepts
  have sections : Config.Sectioned halfHostMembers := by
    rintro name - v within
    cases List.mem_singleton.mp within
    exact ⟨_, rfl⟩
  have member {name : String} {inner : List (Option String × Json.Value)}
      (within : (some name, Json.objectOf inner) ∈ halfHostMembers) :
      name = "server" ∧ inner = [(some "host", Json.stringOf [.code 0xD800])] := by
    simp only [halfHostMembers, List.mem_cons, Prod.mk.injEq, Option.some.injEq, List.not_mem_nil, or_false] at within
    exact ⟨within.1, Json.objectOf_eq_object.mp within.2⟩
  obtain ⟨c, read⟩ := (accepts halfHost halfHostMembers isText_halfHost sections).mpr (by
    refine ⟨by decide, ?_, ?_⟩
    · intro field inner within
      obtain ⟨home, rfl⟩ := member within
      rcases field.home_cases with same | same <;> rw [same] at home ⊢
      · decide
      · exact absurd home (by decide)
    · rintro field v ⟨inner, within, said⟩
      obtain ⟨-, rfl⟩ := member within
      obtain ⟨key, rfl⟩ : field.key = "host" ∧ v = Json.stringOf [.code 0xD800] := by simpa using said
      cases field with
      | host => exact .inr ⟨⟨"", rfl⟩, _, rfl⟩
      | _ => exact absurd key (by decide))
  rw [json_read_ok, Json.read?_of_isText isText_halfHost] at read
  cases read

end Gateway

import Gateway.Proofs.Config.Layer
import Gateway.Proofs.Text.Decimal
import Mathlib.Data.List.Nodup

namespace Gateway

/-- The variables that override fields: one with the name of each, and a second one for the form of log lines. -/
inductive ConfigVariable where
  | own (field : ConfigField)
  | logForm
  deriving DecidableEq, Repr

inductive ValueForm where
  | text
  | lowered
  | number
  /-- One of a few words, in any case; what another word is refused with. -/
  | word (meanings : List (String × Bool)) (refusal : String)

namespace ValueForm

def flag : ValueForm :=
  word [("true", true), ("1", true), ("yes", true), ("on", true), ("false", false), ("0", false), ("no", false),
    ("off", false)] "expected boolean"

def read? : ValueForm → String → Option Json.Value
  | text, value => some (.string value)
  | lowered, value => some (.string (Text.Case.lower value))
  | number, value => (Text.Decimal.read? Text.Decimal.maxWord (Text.trim value.toList)).map .natural
  | word meanings _, value => (meanings.lookup (Text.Case.lower value)).map .bool

def refusal : ValueForm → String
  | number => "expected non-negative integer"
  | word _ refusal => refusal
  | text | lowered => ""

def reading (form : ValueForm) (name value : String) : Except ConfigError Json.Value :=
  match form.read? value with
  | some said => .ok said
  | none => .error (.environment name form.refusal)

end ValueForm

def ConfigField.form : ConfigField → ValueForm
  | host | logLevel => .text
  | compression => .lowered
  | maxPayloadSize | maxBackpressure | idleTimeoutSecs | maxLifetimeMinutes | shutdownTimeoutSecs => .number
  | sendPingsAutomatically | closeOnBackpressureLimit | resetIdleTimeoutOnSend | echo | logEnabled | logJson => .flag

def ConfigField.set (c : Config) : ConfigField → Json.Value → Config
  | host, .string s => { c with server := { c.server with host := s } }
  | maxPayloadSize, .natural n => { c with server := { c.server with maxPayloadSize := n } }
  | maxBackpressure, .natural n => { c with server := { c.server with maxBackpressure := n } }
  | idleTimeoutSecs, .natural n => { c with server := { c.server with idleTimeoutSecs := n } }
  | maxLifetimeMinutes, .natural n => { c with server := { c.server with maxLifetimeMinutes := n } }
  | sendPingsAutomatically, .bool b => { c with server := { c.server with sendPingsAutomatically := b } }
  | closeOnBackpressureLimit, .bool b => { c with server := { c.server with closeOnBackpressureLimit := b } }
  | resetIdleTimeoutOnSend, .bool b => { c with server := { c.server with resetIdleTimeoutOnSend := b } }
  | compression, .string s => { c with server := { c.server with compression := s } }
  | echo, .bool b => { c with server := { c.server with echo := b } }
  | shutdownTimeoutSecs, .natural n => { c with server := { c.server with shutdownTimeoutSecs := n } }
  | logEnabled, .bool b => { c with logging := { c.logging with enabled := b } }
  | logLevel, .string s => { c with logging := { c.logging with level := s } }
  | logJson, .bool b => { c with logging := { c.logging with json := b } }
  | _, _ => c

theorem ConfigField.value_set_of_ne {c : Config} {said : Json.Value} {field other : ConfigField}
    (different : other ≠ field) : other.value (field.set c said) = other.value c := by
  fun_cases ConfigField.set c field said with
  | case15 => rfl
  | _ => cases other <;> first | rfl | exact absurd rfl different

namespace ConfigVariable

def field : ConfigVariable → ConfigField
  | own field => field
  | logForm => .logJson

def form : ConfigVariable → ValueForm
  | own field => field.form
  | logForm => .word [("json", true), ("pretty", false), ("text", false)] "expected 'json' or 'pretty'"

def capitals (word : String) : String := String.ofList (word.toList.map Char.toUpper)

def address : ConfigVariable → String × String
  | own field => (capitals field.home.1, capitals field.key)
  | logForm => ("LOGGING", "FORMAT")

/-- The name of a variable, which begins with a word that the operator may choose. -/
def name (word : String) (v : ConfigVariable) : String :=
  word ++ "__" ++ (v.address.1 ++ "__" ++ v.address.2)

end ConfigVariable

namespace ConfigVariable

def all : List ConfigVariable :=
  [own .host, own .maxPayloadSize, own .maxBackpressure, own .idleTimeoutSecs, own .maxLifetimeMinutes,
    own .sendPingsAutomatically, own .closeOnBackpressureLimit, own .resetIdleTimeoutOnSend, own .compression,
    own .echo, own .shutdownTimeoutSecs, own .logEnabled, own .logLevel, own .logJson, logForm]

theorem mem_all (v : ConfigVariable) : v ∈ all := by
  cases v with
  | own field => cases field <;> decide
  | logForm => decide

theorem address_injective : Function.Injective address := by
  have once : (all.map address).Nodup := by decide
  intro v w same
  exact List.inj_on_of_nodup_map once v.mem_all w.mem_all same

theorem eq_or_of_field_eq {v w : ConfigVariable} (same : v.field = w.field) :
    v = w ∨ v = own .logJson ∧ w = logForm ∨ v = logForm ∧ w = own .logJson := by
  cases v with
  | own f =>
    cases w with
    | own g => exact .inl (congrArg own same)
    | logForm => exact .inr (.inl ⟨congrArg own same, rfl⟩)
  | logForm =>
    cases w with
    | own g => exact .inr (.inr ⟨rfl, congrArg own same.symm⟩)
    | logForm => exact .inl rfl

theorem value_set {v : ConfigVariable} {value : String} {said : Json.Value} (means : v.form.read? value = some said)
    (c : Config) : v.field.value (v.field.set c said) = said := by
  have shape : match v.form with
      | .text | .lowered => ∃ s, said = .string s
      | .number => ∃ n, said = .natural n
      | .word _ _ => ∃ b, said = .bool b := by
    cases form : v.form with
    | text => exact ⟨value, by simpa [form, ValueForm.read?, eq_comm] using means⟩
    | lowered => exact ⟨_, by simpa [form, ValueForm.read?, eq_comm] using means⟩
    | number =>
      simp only [form, ValueForm.read?, Option.map_eq_some_iff] at means
      obtain ⟨n, -, rfl⟩ := means
      exact ⟨n, rfl⟩
    | word meanings refusal =>
      simp only [form, ValueForm.read?, Option.map_eq_some_iff] at means
      obtain ⟨b, -, rfl⟩ := means
      exact ⟨b, rfl⟩
  cases v with
  | own field =>
    cases field <;>
    · obtain ⟨a, rfl⟩ := shape
      rfl
  | logForm =>
    obtain ⟨b, rfl⟩ := shape
    rfl

end ConfigVariable

namespace ConfigLoader

theorem nameParts_ne_nil (cs : List Char) : nameParts cs ≠ [] := by
  fun_cases nameParts cs <;> simp_all

theorem intercalate_nameParts (cs : List Char) : List.intercalate ['_', '_'] (nameParts cs) = cs := by
  fun_induction nameParts cs with
  | case1 => rfl
  | case2 rest ih =>
    obtain ⟨part, parts, split⟩ := List.exists_cons_of_ne_nil (nameParts_ne_nil rest)
    rw [split] at ih ⊢
    rw [List.intercalate_cons_cons, ih]
    rfl
  | case3 c rest _ none => exact absurd none (nameParts_ne_nil rest)
  | case4 c rest _ part parts split ih =>
    rw [split] at ih
    rw [← ih]
    cases parts with
    | nil => rfl
    | cons next parts => rw [List.intercalate_cons_cons, List.intercalate_cons_cons]; rfl

theorem target?_eq_some {word name section' key : String} (found : target? (marker word) name = some (section', key)) :
    name = word ++ "__" ++ (section' ++ "__" ++ key) := by
  unfold target? at found
  split at found
  · rename_i begins
    obtain ⟨rest, split⟩ := List.isPrefixOf_iff_prefix.mp begins
    have left : name.toList.drop (marker word).length = rest := by
      rw [← split]
      exact List.drop_left
    rw [left] at found
    split at found
    · rename_i part last parts
      cases found
      have whole := intercalate_nameParts rest
      rw [parts] at whole
      rw [← String.toList_inj, ← split, ← whole]
      simp [marker, List.intercalate_cons_cons]
    · cases found
  · cases found

theorem target?_name (word : String) (v : ConfigVariable) : target? (marker word) (v.name word) = some v.address := by
  have parts : nameParts (v.address.1 ++ "__" ++ v.address.2).toList = [v.address.1.toList, v.address.2.toList] := by
    cases v with
    | own field => cases field <;> decide
    | logForm => decide
  have left : (v.name word).toList = (marker word).toList ++ (v.address.1 ++ "__" ++ v.address.2).toList :=
    String.toList_append
  unfold target?
  rw [if_pos (List.isPrefixOf_iff_prefix.mpr ⟨_, left.symm⟩), left]
  have dropped : ((marker word).toList ++ (v.address.1 ++ "__" ++ v.address.2).toList).drop (marker word).length =
      (v.address.1 ++ "__" ++ v.address.2).toList := List.drop_left
  rw [dropped, parts]
  simp only [String.ofList_toList]

theorem map_number (name value : String) :
    (number name value).map .natural = ValueForm.number.reading name value := by
  simp only [number, ValueForm.reading, ValueForm.read?]
  cases Text.Decimal.read? Text.Decimal.maxWord (Text.trim value.toList) <;> rfl

theorem map_flag (name value : String) : (flag name value).map .bool = ValueForm.flag.reading name value := by
  simp only [flag, ValueForm.reading, ValueForm.flag, ValueForm.read?]
  generalize Text.Case.lower value = word
  by_cases known : word ∈ ["true", "1", "yes", "on", "false", "0", "no", "off"]
  · simp only [List.mem_cons, List.not_mem_nil, or_false] at known
    rcases known with rfl | rfl | rfl | rfl | rfl | rfl | rfl | rfl <;> rfl
  · simp only [List.mem_cons, List.not_mem_nil, or_false, not_or, ← beq_eq_false_iff_ne] at known
    simp only [List.contains_cons, List.lookup_cons, known]
    rfl

theorem map_logForm (name value : String) :
    (logForm name value).map .bool = ConfigVariable.logForm.form.reading name value := by
  simp only [logForm, ValueForm.reading, ConfigVariable.form, ValueForm.read?]
  generalize Text.Case.lower value = word
  by_cases known : word ∈ ["json", "pretty", "text"]
  · simp only [List.mem_cons, List.not_mem_nil, or_false] at known
    rcases known with rfl | rfl | rfl <;> rfl
  · simp only [List.mem_cons, List.not_mem_nil, or_false, not_or, ← beq_eq_false_iff_ne] at known
    simp only [List.lookup_cons, known]
    simp only [beq_eq_false_iff_ne] at known
    simp only [known]
    rfl

theorem override_server {word : String} {v : ConfigVariable} (key : String) (address : v.address = ("SERVER", key))
    (c : Config) (value : String) : override (marker word) c (v.name word, value) =
      (overrideServer c.server key (v.name word) value).map fun server => { c with server } := by
  unfold override
  rw [target?_name, address]
  rfl

theorem override_logging {word : String} {v : ConfigVariable} (key : String)
    (address : v.address = ("LOGGING", key)) (c : Config) (value : String) :
    override (marker word) c (v.name word, value) =
      (overrideLogging c.logging key (v.name word) value).map fun logging => { c with logging } := by
  unfold override
  rw [target?_name, address]
  rfl

theorem override_name (word : String) (c : Config) (v : ConfigVariable) (value : String) :
    override (marker word) c (v.name word, value) =
      (v.form.reading (v.name word) value).map (v.field.set c) := by
  cases v with
  | logForm =>
    rw [override_logging "FORMAT" rfl, ← map_logForm]
    simp only [overrideLogging]
    cases logForm (ConfigVariable.logForm.name word) value <;> rfl
  | own field =>
    cases field with
    | host => rw [override_server "HOST" (by decide)]; rfl
    | compression => rw [override_server "COMPRESSION" (by decide)]; rfl
    | logLevel => rw [override_logging "LEVEL" (by decide)]; rfl
    | maxPayloadSize =>
      rw [override_server "MAX_PAYLOAD_SIZE" (by decide), ConfigVariable.form, ConfigField.form, ← map_number]
      simp only [overrideServer]
      cases number _ value <;> rfl
    | maxBackpressure =>
      rw [override_server "MAX_BACKPRESSURE" (by decide), ConfigVariable.form, ConfigField.form, ← map_number]
      simp only [overrideServer]
      cases number _ value <;> rfl
    | idleTimeoutSecs =>
      rw [override_server "IDLE_TIMEOUT_SECS" (by decide), ConfigVariable.form, ConfigField.form, ← map_number]
      simp only [overrideServer]
      cases number _ value <;> rfl
    | maxLifetimeMinutes =>
      rw [override_server "MAX_LIFETIME_MINUTES" (by decide), ConfigVariable.form, ConfigField.form, ← map_number]
      simp only [overrideServer]
      cases number _ value <;> rfl
    | shutdownTimeoutSecs =>
      rw [override_server "SHUTDOWN_TIMEOUT_SECS" (by decide), ConfigVariable.form, ConfigField.form, ← map_number]
      simp only [overrideServer]
      cases number _ value <;> rfl
    | sendPingsAutomatically =>
      rw [override_server "SEND_PINGS_AUTOMATICALLY" (by decide), ConfigVariable.form, ConfigField.form, ← map_flag]
      simp only [overrideServer]
      cases flag _ value <;> rfl
    | closeOnBackpressureLimit =>
      rw [override_server "CLOSE_ON_BACKPRESSURE_LIMIT" (by decide), ConfigVariable.form, ConfigField.form, ← map_flag]
      simp only [overrideServer]
      cases flag _ value <;> rfl
    | resetIdleTimeoutOnSend =>
      rw [override_server "RESET_IDLE_TIMEOUT_ON_SEND" (by decide), ConfigVariable.form, ConfigField.form, ← map_flag]
      simp only [overrideServer]
      cases flag _ value <;> rfl
    | echo =>
      rw [override_server "ECHO" (by decide), ConfigVariable.form, ConfigField.form, ← map_flag]
      simp only [overrideServer]
      cases flag _ value <;> rfl
    | logEnabled =>
      rw [override_logging "ENABLED" (by decide), ConfigVariable.form, ConfigField.form, ← map_flag]
      simp only [overrideLogging]
      cases flag _ value <;> rfl
    | logJson =>
      rw [override_logging "JSON" (by decide), ConfigVariable.form, ConfigField.form, ← map_flag]
      simp only [overrideLogging]
      cases flag _ value <;> rfl

theorem override_other {word : String} {entry : String × String} (unknown : ∀ v : ConfigVariable, entry.1 ≠ v.name word)
    (c : Config) : override (marker word) c entry = .ok c := by
  have apart : ∀ v : ConfigVariable, target? (marker word) entry.1 ≠ some v.address :=
    fun v same => unknown v (target?_eq_some same)
  unfold override
  split
  · rename_i key target
    rw [target] at apart
    have same : overrideServer c.server key entry.1 entry.2 = .ok c.server := by
      unfold overrideServer
      split
      · exact absurd (by decide) (apart (.own .host))
      · exact absurd (by decide) (apart (.own .maxPayloadSize))
      · exact absurd (by decide) (apart (.own .maxBackpressure))
      · exact absurd (by decide) (apart (.own .idleTimeoutSecs))
      · exact absurd (by decide) (apart (.own .maxLifetimeMinutes))
      · exact absurd (by decide) (apart (.own .sendPingsAutomatically))
      · exact absurd (by decide) (apart (.own .closeOnBackpressureLimit))
      · exact absurd (by decide) (apart (.own .resetIdleTimeoutOnSend))
      · exact absurd (by decide) (apart (.own .compression))
      · exact absurd (by decide) (apart (.own .echo))
      · exact absurd (by decide) (apart (.own .shutdownTimeoutSecs))
      · rfl
    rw [same]
    rfl
  · rename_i key target
    rw [target] at apart
    have same : overrideLogging c.logging key entry.1 entry.2 = .ok c.logging := by
      unfold overrideLogging
      split
      · exact absurd (by decide) (apart (.own .logEnabled))
      · exact absurd (by decide) (apart (.own .logLevel))
      · exact absurd (by decide) (apart (.own .logJson))
      · exact absurd (by decide) (apart .logForm)
      · rfl
    rw [same]
    rfl
  · rfl

theorem name_injective (word : String) : Function.Injective (ConfigVariable.name word) := by
  intro v w same
  have found := target?_name word v
  rw [same, target?_name] at found
  exact ConfigVariable.address_injective (Option.some.inj found).symm

end ConfigLoader

end Gateway

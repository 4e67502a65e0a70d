import Gateway.Proofs.Config.Variables
import Gateway.Proofs.Text.Utf8
import Mathlib.Data.List.Perm.Basic

namespace Gateway

theorem ConfigField.eq_of_value_eq {a b : Config} (same : ∀ field : ConfigField, field.value a = field.value b) :
    a = b := by
  obtain ⟨⟨⟩, ⟨⟩⟩ := a
  obtain ⟨⟨⟩, ⟨⟩⟩ := b
  simp only [Config.mk.injEq, ServerSection.mk.injEq, LoggingSection.mk.injEq]
  exact ⟨⟨Json.Value.string.inj (same .host), Json.Value.natural.inj (same .maxPayloadSize),
    Json.Value.natural.inj (same .maxBackpressure), Json.Value.natural.inj (same .idleTimeoutSecs),
    Json.Value.natural.inj (same .maxLifetimeMinutes), Json.Value.bool.inj (same .sendPingsAutomatically),
    Json.Value.bool.inj (same .closeOnBackpressureLimit), Json.Value.bool.inj (same .resetIdleTimeoutOnSend),
    Json.Value.string.inj (same .compression), Json.Value.bool.inj (same .echo),
    Json.Value.natural.inj (same .shutdownTimeoutSecs)⟩, Json.Value.bool.inj (same .logEnabled),
    Json.Value.string.inj (same .logLevel), Json.Value.bool.inj (same .logJson)⟩

namespace Environment

/-- Whether a variable can be read. -/
def Legible (entry : Bytes × Bytes) : Prop := Text.ofBytes? entry.1 ≠ none ∧ Text.ofBytes? entry.2 ≠ none

theorem texts?_cons_eq_some_iff {entry : Bytes × Bytes} {env : Environment} {vars : Variables} :
    texts? (entry :: env) = some vars ↔ ∃ name value rest, Text.ofBytes? entry.1 = some name ∧
      Text.ofBytes? entry.2 = some value ∧ env.texts? = some rest ∧ (name, value) :: rest = vars := by
  simp [texts?, Option.bind_eq_some_iff]

theorem texts?_ne_none_iff (env : Environment) : env.texts? ≠ none ↔ ∀ entry ∈ env, Legible entry := by
  induction env with
  | nil => simp [texts?]
  | cons entry env ih =>
    rw [List.forall_mem_cons, ← ih]
    simp only [Legible, Option.ne_none_iff_exists', texts?_cons_eq_some_iff]
    constructor
    · rintro ⟨_, name, value, rest, first, second, others, rfl⟩
      exact ⟨⟨⟨name, first⟩, value, second⟩, rest, others⟩
    · rintro ⟨⟨⟨name, first⟩, value, second⟩, rest, others⟩
      exact ⟨_, name, value, rest, first, second, others, rfl⟩

theorem texts?_perm {env visited : Environment} (order : visited.Perm env) {vars : Variables}
    (read : env.texts? = some vars) : ∃ there, visited.texts? = some there ∧ there.Perm vars := by
  induction order generalizing vars with
  | nil => exact ⟨vars, read, .refl vars⟩
  | cons entry _ ih =>
    obtain ⟨name, value, rest, first, second, others, rfl⟩ := texts?_cons_eq_some_iff.mp read
    obtain ⟨there, read, same⟩ := ih others
    exact ⟨_, texts?_cons_eq_some_iff.mpr ⟨name, value, there, first, second, read, rfl⟩, same.cons _⟩
  | swap one other env =>
    obtain ⟨name, value, _, first, second, others, rfl⟩ := texts?_cons_eq_some_iff.mp read
    obtain ⟨name', value', rest, first', second', remaining, rfl⟩ := texts?_cons_eq_some_iff.mp others
    have inner := texts?_cons_eq_some_iff.mpr ⟨name, value, rest, first, second, remaining, rfl⟩
    exact ⟨_, texts?_cons_eq_some_iff.mpr ⟨name', value', _, first', second', inner, rfl⟩, .swap _ _ _⟩
  | trans _ _ first second =>
    obtain ⟨middle, read, same⟩ := second read
    obtain ⟨there, read, equal⟩ := first read
    exact ⟨there, read, equal.trans same⟩

end Environment

namespace ConfigLoader

/-- A configuration is another one with the fields that variables name replaced by what the values mean. -/
structure Overridden (word : String) (vars : Variables) (before after : Config) : Prop where
  named : ∀ (v : ConfigVariable) (value : String), (v.name word, value) ∈ vars →
    v.form.read? value = some (v.field.value after)
  unnamed : ∀ field : ConfigField, (∀ v : ConfigVariable, v.field = field → ∀ value, (v.name word, value) ∉ vars) →
    field.value after = field.value before

def Apart (word : String) (vars : Variables) : Prop :=
  ∀ (v w : ConfigVariable) (a b : String), v.field = w.field → (v.name word, a) ∈ vars → (w.name word, b) ∈ vars →
    v = w

/-- Every variable that overrides a field has a value that means something. -/
def Sound (word : String) (vars : Variables) : Prop :=
  ∀ (v : ConfigVariable) (value : String), (v.name word, value) ∈ vars → v.form.read? value ≠ none

theorem Apart.of_not_both {word : String} {vars : Variables}
    (single : ¬ (word ++ "__LOGGING__JSON" ∈ vars.map Prod.fst ∧ word ++ "__LOGGING__FORMAT" ∈ vars.map Prod.fst)) :
    Apart word vars := by
  have json : (ConfigVariable.own .logJson).name word = word ++ "__LOGGING__JSON" := String.append_assoc
  have form : ConfigVariable.logForm.name word = word ++ "__LOGGING__FORMAT" := String.append_assoc
  rw [← json, ← form] at single
  intro v w a b same left right
  have left := List.mem_map_of_mem (f := Prod.fst) left
  have right := List.mem_map_of_mem (f := Prod.fst) right
  rcases ConfigVariable.eq_or_of_field_eq same with same | ⟨rfl, rfl⟩ | ⟨rfl, rfl⟩
  · exact same
  · exact absurd ⟨left, right⟩ single
  · exact absurd ⟨right, left⟩ single

theorem Overridden.unique {word : String} {vars : Variables} {c a b : Config} (left : Overridden word vars c a)
    (right : Overridden word vars c b) : a = b := by
  refine ConfigField.eq_of_value_eq fun field => ?_
  by_cases set : ∃ v : ConfigVariable, v.field = field ∧ ∃ value, (v.name word, value) ∈ vars
  · obtain ⟨v, rfl, value, within⟩ := set
    exact Option.some.inj ((left.named v value within).symm.trans (right.named v value within))
  · have unset : ∀ v : ConfigVariable, v.field = field → ∀ value, (v.name word, value) ∉ vars :=
      fun v same value within => set ⟨v, same, value, within⟩
    exact (left.unnamed field unset).trans (right.unnamed field unset).symm

theorem Overridden.perm {word : String} {vars visited : Variables} {c c' : Config} (order : visited.Perm vars)
    (overridden : Overridden word vars c c') : Overridden word visited c c' where
  named v value within := overridden.named v value (order.mem_iff.mp within)
  unnamed field unset := overridden.unnamed field fun v same value within =>
    unset v same value (order.mem_iff.mpr within)

theorem Overridden.cons {word value : String} {vars : Variables} {v : ConfigVariable} {said : Json.Value}
    {c c' : Config} (means : v.form.read? value = some said)
    (alone : ∀ w : ConfigVariable, w.field = v.field → ∀ other, (w.name word, other) ∉ vars)
    (rest : Overridden word vars (v.field.set c said) c') : Overridden word ((v.name word, value) :: vars) c c' where
  named w other within := by
    rcases List.mem_cons.mp within with same | within
    · obtain ⟨named, rfl⟩ := Prod.mk.inj same
      obtain rfl := name_injective word named
      rw [rest.unnamed _ alone, ConfigVariable.value_set means]
      exact means
    · exact rest.named w other within
  unnamed field unset := by
    have different : field ≠ v.field := fun same => unset v same.symm value List.mem_cons_self
    rw [rest.unnamed field fun w same other within => unset w same other (List.mem_cons_of_mem _ within)]
    exact ConfigField.value_set_of_ne different

theorem Overridden.cons_other {word : String} {entry : String × String} {vars : Variables} {c c' : Config}
    (unknown : ∀ v : ConfigVariable, entry.1 ≠ v.name word) (rest : Overridden word vars c c') :
    Overridden word (entry :: vars) c c' where
  named v value within := by
    rcases List.mem_cons.mp within with rfl | within
    · exact absurd rfl (unknown v)
    · exact rest.named v value within
  unnamed field unset := rest.unnamed field fun v same value within =>
    unset v same value (List.mem_cons_of_mem _ within)

theorem known_or_unknown (word : String) (entry : String × String) :
    (∃ (v : ConfigVariable) (value : String), entry = (v.name word, value)) ∨
      ∀ v : ConfigVariable, entry.1 ≠ v.name word := by
  by_cases known : ∃ v : ConfigVariable, entry.1 = v.name word
  · obtain ⟨v, named⟩ := known
    exact .inl ⟨v, entry.2, Prod.ext named rfl⟩
  · exact .inr (not_exists.mp known)

theorem overrideAll_sound {word : String} {vars : Variables} (distinct : (vars.map Prod.fst).Nodup)
    (apart : Apart word vars) (sound : Sound word vars) (c : Config) :
    ∃ c', overrideAll (marker word) c vars = .ok c' ∧ Overridden word vars c c' := by
  induction vars generalizing c with
  | nil => exact ⟨c, rfl, nofun, fun _ _ => rfl⟩
  | cons entry vars ih =>
    rw [List.map_cons, List.nodup_cons] at distinct
    have rest := ih distinct.2
      (fun v w a b same left right =>
        apart v w a b same (List.mem_cons_of_mem _ left) (List.mem_cons_of_mem _ right))
      (fun v value within => sound v value (List.mem_cons_of_mem _ within))
    unfold overrideAll
    rcases known_or_unknown word entry with ⟨v, value, rfl⟩ | unknown
    · obtain ⟨said, means⟩ := Option.ne_none_iff_exists'.mp (sound v value List.mem_cons_self)
      rw [override_name, ValueForm.reading, means]
      obtain ⟨c', runs, overridden⟩ := rest (v.field.set c said)
      refine ⟨c', runs, .cons means (fun w same other within => ?_) overridden⟩
      -- a variable for the same field would be this one, and so be set twice
      obtain rfl := apart w v other value same (List.mem_cons_of_mem _ within) List.mem_cons_self
      exact distinct.1 (List.mem_map.mpr ⟨_, within, rfl⟩)
    · rw [override_other unknown]
      obtain ⟨c', runs, overridden⟩ := rest c
      exact ⟨c', runs, .cons_other unknown overridden⟩

theorem overrideAll_refused {word value : String} {vars : Variables} {v : ConfigVariable}
    (within : (v.name word, value) ∈ vars) (means : v.form.read? value = none)
    (lone : ∀ (w : ConfigVariable) (other : String), (w.name word, other) ∈ vars → w.form.read? other = none → w = v)
    (c : Config) : overrideAll (marker word) c vars = .error (.environment (v.name word) v.form.refusal) := by
  induction vars generalizing c with
  | nil => cases within
  | cons entry vars ih =>
    have rest (here : (v.name word, value) ≠ entry) := ih ((List.mem_cons.mp within).resolve_left here)
      (fun w other within => lone w other (List.mem_cons_of_mem _ within))
    unfold overrideAll
    rcases known_or_unknown word entry with ⟨w, other, rfl⟩ | unknown
    · rw [override_name, ValueForm.reading]
      cases meant : w.form.read? other with
      | none =>
        obtain rfl := lone w other List.mem_cons_self meant
        rfl
      | some said =>
        refine rest (fun same => ?_) _
        obtain ⟨named, rfl⟩ := Prod.mk.inj same
        obtain rfl := name_injective word named
        rw [means] at meant
        cases meant
    · rw [override_other unknown]
      exact rest (fun same => unknown v (congrArg Prod.fst same).symm) c

def build (files : FileSystem) : ConfigLoader → Environment → List ConfigLayer →
    Except ConfigError (ConfigLoader × Environment)
  | loader, env, [] => .ok (loader, env)
  | loader, env, layer :: layers =>
    match apply files loader env layer with
    | .ok (loader, env) => build files loader env layers
    | .error e => .error e

theorem build_append (files : FileSystem) (loader : ConfigLoader) (env : Environment) (before after : List ConfigLayer) :
    build files loader env (before ++ after) =
      (build files loader env before).bind fun built => build files built.1 built.2 after := by
  induction before generalizing loader env with
  | nil => rfl
  | cons layer before ih =>
    rw [List.cons_append, build, build]
    cases apply files loader env layer with
    | error e => rfl
    | ok built => exact ih built.1 built.2

theorem withText_withVariables (loader : ConfigLoader) (text format name : String) :
    (loader.withVariables name).withText text format = (loader.withText text format).map (·.withVariables name) := by
  simp only [withText]
  cases ConfigFormat.ofName? (Text.Case.lower format) with
  | none => rfl
  | some format =>
    simp only
    cases format.read text <;> rfl

theorem withFile_withVariables (loader : ConfigLoader) (files : FileSystem) (path name : String) :
    (loader.withVariables name).withFile files path = (loader.withFile files path).map (·.withVariables name) := by
  unfold withFile
  cases files.find? path with
  | none => rfl
  | some node =>
    cases node with
    | directory => rfl
    | file content =>
      simp only
      cases Text.ofBytes? content with
      | none => rfl
      | some text =>
        simp only
        cases (Directory.fileName? path).bind Directory.extension? with
        | none => rfl
        | some extension =>
          simp only
          cases ConfigFormat.ofName? (Text.Case.lower extension) with
          | none => rfl
          | some format =>
            simp only
            cases format.read text <;> rfl

theorem apply_withVariables (files : FileSystem) (loader : ConfigLoader) (env : Environment) {layer : ConfigLayer}
    (plain : ∀ name, layer ≠ .environment name) (name : String) :
    apply files (loader.withVariables name) env layer =
      (apply files loader env layer).map fun built => (built.1.withVariables name, built.2) := by
  cases layer with
  | defaults | development | dotenv => rfl
  | text text format =>
    simp only [apply, withText_withVariables]
    cases loader.withText text format <;> rfl
  | file path =>
    simp only [apply, withFile_withVariables]
    cases loader.withFile files path <;> rfl
  | optionalFile path =>
    simp only [apply, withOptionalFile]
    cases files.find? path with
    | none => rfl
    | some node =>
      simp only [withFile_withVariables]
      cases loader.withFile files path <;> rfl
  | environment other => exact absurd rfl (plain other)

theorem build_withVariables (files : FileSystem) {layers : List ConfigLayer}
    (plain : ∀ layer ∈ layers, ∀ name, layer ≠ .environment name) (loader : ConfigLoader) (env : Environment)
    (name : String) : build files (loader.withVariables name) env layers =
      (build files loader env layers).map fun built => (built.1.withVariables name, built.2) := by
  induction layers generalizing loader env with
  | nil => rfl
  | cons layer layers ih =>
    rw [build, build, apply_withVariables files loader env (plain layer List.mem_cons_self)]
    cases apply files loader env layer with
    | error e => rfl
    | ok built => exact ih (fun layer within => plain layer (List.mem_cons_of_mem _ within)) built.1 built.2

theorem build_environment (files : FileSystem) (loader : ConfigLoader) (env : Environment)
    (before : List ConfigLayer) {after : List ConfigLayer}
    (plain : ∀ layer ∈ after, ∀ name, layer ≠ .environment name) (name : String) :
    build files loader env (before ++ .environment name :: after) =
      (build files loader env (before ++ after)).map fun built => (built.1.withVariables name, built.2) := by
  rw [build_append, build_append]
  cases build files loader env before with
  | error e => rfl
  | ok built => exact build_withVariables files plain built.1 built.2 name

theorem load_withVariables (loader : ConfigLoader) (name : String) (env : Environment) :
    load (loader.withVariables name) env =
      env.texts?.map fun vars => (overrideAll (marker (Text.Case.upper name)) loader.config vars).bind checked := rfl

theorem read?_number (value : String) (said : Json.Value) : ValueForm.number.read? value = some said ↔
    ∃ n, said = .natural n ∧ Text.Decimal.Writes value.toList n ∧ n < 2 ^ 64 := by
  simp only [ValueForm.read?, Option.map_eq_some_iff, Text.Decimal.read?_trim_eq_some_iff, Text.Decimal.maxWord]
  constructor
  · rintro ⟨n, ⟨writes, small⟩, rfl⟩
    exact ⟨n, rfl, writes, by omega⟩
  · rintro ⟨n, rfl, writes, small⟩
    exact ⟨n, ⟨writes, by omega⟩, rfl⟩

/-- Variables of different names, of which not both set the form of log lines, and at most one that overrides a field
    has a value that means nothing. -/
structure Settled (word : String) (vars : Variables) : Prop where
  distinct : (vars.map Prod.fst).Nodup
  single : ¬ (word ++ "__LOGGING__JSON" ∈ vars.map Prod.fst ∧ word ++ "__LOGGING__FORMAT" ∈ vars.map Prod.fst)
  lone : ∀ (v w : ConfigVariable) (a b : String), (v.name word, a) ∈ vars → (w.name word, b) ∈ vars →
    v.form.read? a = none → w.form.read? b = none → v = w

theorem Settled.perm {word : String} {vars visited : Variables} (order : visited.Perm vars)
    (settled : Settled word vars) : Settled word visited where
  distinct := (order.map Prod.fst).nodup_iff.mpr settled.distinct
  single both := settled.single ⟨(order.map Prod.fst).mem_iff.mp both.1, (order.map Prod.fst).mem_iff.mp both.2⟩
  lone v w a b left right := settled.lone v w a b (order.mem_iff.mp left) (order.mem_iff.mp right)

theorem Settled.overrideAll {word : String} {vars : Variables} (settled : Settled word vars)
    (sound : Sound word vars) (c : Config) :
    ∃ c', overrideAll (marker word) c vars = .ok c' ∧ Overridden word vars c c' :=
  overrideAll_sound settled.distinct (.of_not_both settled.single) sound c

theorem Settled.refused {word value : String} {vars : Variables} (settled : Settled word vars) {v : ConfigVariable}
    (within : (v.name word, value) ∈ vars) (means : v.form.read? value = none) (c : Config) :
    ConfigLoader.overrideAll (marker word) c vars = .error (.environment (v.name word) v.form.refusal) :=
  overrideAll_refused within means
    (fun w other there nothing => settled.lone w v other value there within nothing means) c

theorem Settled.overrideAll_perm {word : String} {vars visited : Variables} (settled : Settled word vars)
    (order : visited.Perm vars) (c : Config) :
    ConfigLoader.overrideAll (marker word) c visited = ConfigLoader.overrideAll (marker word) c vars := by
  have settled' := settled.perm order
  by_cases sound : Sound word vars
  · have sound' : Sound word visited := fun v value within => sound v value (order.mem_iff.mp within)
    obtain ⟨a, runs, overridden⟩ := settled.overrideAll sound c
    obtain ⟨b, runs', overridden'⟩ := settled'.overrideAll sound' c
    rw [runs, runs', overridden'.unique (overridden.perm order)]
  · simp only [Sound, not_forall, not_not] at sound
    obtain ⟨v, value, within, means⟩ := sound
    rw [settled.refused within means c, settled'.refused (order.mem_iff.mpr within) means c]

/-- For every stack of layers and every name, whatever variables the stack leaves: wherever the environment is put into
    the stack, and in whatever order the variables are visited, loading breaks off if one of them is not legible, and
    gives a result if they all are. If they are settled besides, the result does not depend on either. If each value
    means something, what is checked is the configuration of the other layers with the fields replaced that variables
    name. If one means nothing, it is refused. And a number is the one that is written, or is refused. -/
theorem load_layers (files : FileSystem) (start : ConfigLoader) (env : Environment) (layers : List ConfigLayer)
    (name : String) (loader : ConfigLoader) (left : Environment)
    (plain : ∀ layer ∈ layers, ∀ other, layer ≠ .environment other)
    (built : build files start env layers = .ok (loader, left)) :
    ((∃ entry ∈ left, ¬Environment.Legible entry) ↔ left.texts? = none) ∧
    (left.texts? = none → ∀ before after visited, layers = before ++ after → visited.Perm left →
      (build files start env (before ++ .environment name :: after)).map (fun built => built.1.load visited) =
        .ok none) ∧
    ∀ vars, left.texts? = some vars → Settled (Text.Case.upper name) vars → ∃ result : Except ConfigError Config,
      (∀ before after visited, layers = before ++ after → visited.Perm left →
        (build files start env (before ++ .environment name :: after)).map (fun built => built.1.load visited) =
          .ok (some result)) ∧
      (Sound (Text.Case.upper name) vars → ∃ c, Overridden (Text.Case.upper name) vars loader.config c ∧
        (∀ other, Overridden (Text.Case.upper name) vars loader.config other → other = c) ∧
        result = c.validate.map fun _ => c) ∧
      (∀ (v : ConfigVariable) (value : String), (v.name (Text.Case.upper name), value) ∈ vars →
        v.form.read? value = none →
        result = .error (.environment (v.name (Text.Case.upper name)) v.form.refusal)) ∧
      ∀ (field : ConfigField) (value : String), field.form = .number →
        ((ConfigVariable.own field).name (Text.Case.upper name), value) ∈ vars →
        (∀ c, Overridden (Text.Case.upper name) vars loader.config c →
          ∃ n, field.value c = .natural n ∧ Text.Decimal.Writes value.toList n ∧ n < 2 ^ 64) ∧
        ((∀ n, Text.Decimal.Writes value.toList n → 2 ^ 64 ≤ n) → result =
          .error (.environment ((ConfigVariable.own field).name (Text.Case.upper name))
            "expected non-negative integer")) := by
  have anywhere {before after : List ConfigLayer} (split : layers = before ++ after) (visited : Environment) :
      (build files start env (before ++ .environment name :: after)).map (fun built => built.1.load visited) =
        .ok ((loader.withVariables name).load visited) := by
    subst split
    have last : ∀ layer ∈ after, ∀ other, layer ≠ .environment other :=
      fun layer within => plain layer (List.mem_append_right before within)
    rw [build_environment files start env before last, built]
    rfl
  have lost : (∃ entry ∈ left, ¬Environment.Legible entry) ↔ left.texts? = none := by
    rw [← not_iff_not, ← ne_eq (left.texts?), left.texts?_ne_none_iff]
    push Not
    rfl
  refine ⟨lost, fun none before after visited split order => ?_, fun vars read settled => ?_⟩
  · rw [anywhere split visited, load_withVariables]
    have same : visited.texts? = .none := by
      by_contra read
      obtain ⟨vars, read⟩ := Option.ne_none_iff_exists'.mp read
      obtain ⟨_, some, _⟩ := Environment.texts?_perm order.symm read
      cases none.symm.trans some
    rw [same]
    rfl
  let result := (overrideAll (marker (Text.Case.upper name)) loader.config vars).bind checked
  have refused (v : ConfigVariable) (value : String) (within : (v.name (Text.Case.upper name), value) ∈ vars)
      (means : v.form.read? value = none) :
      result = .error (.environment (v.name (Text.Case.upper name)) v.form.refusal) := by
    show (overrideAll _ loader.config vars).bind checked = _
    rw [settled.refused within means]
    rfl
  refine ⟨result, fun before after visited split order => ?_, fun every => ?_, refused,
    fun field value number within => ?_⟩
  · obtain ⟨there, visits, same⟩ := Environment.texts?_perm order read
    rw [anywhere split visited, load_withVariables, visits, Option.map_some,
      settled.overrideAll_perm same loader.config]
  · obtain ⟨c, runs, overridden⟩ := settled.overrideAll every loader.config
    refine ⟨c, overridden, fun other also => also.unique overridden, ?_⟩
    show (overrideAll _ loader.config vars).bind checked = _
    rw [runs]
    rfl
  · have read := read?_number value
    rw [← number] at read
    refine ⟨fun c overridden => (read _).mp (overridden.named (.own field) value within), fun great => ?_⟩
    have means : (ConfigVariable.own field).form.read? value = none := by
      refine Option.eq_none_iff_forall_ne_some.mpr fun said there => ?_
      obtain ⟨n, -, writes, small⟩ := (read said).mp there
      exact absurd (great n writes) (by omega)
    rw [refused _ value within means]
    simp only [ConfigVariable.form, number, ValueForm.refusal]

/-- The development preset, and the name of the variables between it and the defaults. A payload size with blanks
    around it overrides the default, an unknown key and another name do nothing. -/
theorem load_layers_payload :
    let vars : Variables := [("PYLON__SERVER__THREADS", "4"), ("PYLON__SERVER__MAX_PAYLOAD_SIZE", " 12 "),
      ("OTHER__SERVER__ECHO", "maybe")]
    let env : Environment := vars.map fun (name, value) => (Text.bytes name, Text.bytes value)
    (build ⟨[], []⟩ {} env [.development, .environment "pylon", .defaults]).map
      (fun built => built.1.load env.reverse) = .ok (some (.ok { server := { maxPayloadSize := 12 } })) := by
  intro vars env
  have names : ∀ v ∈ ConfigVariable.all, ∀ e ∈ vars, e.1 = v.name "PYLON" → v.form.read? e.2 ≠ none := by decide
  have upper : Text.Case.upper "pylon" = "PYLON" := by decide
  have sound : Sound (Text.Case.upper "pylon") vars := by
    rw [upper]
    exact fun v value within => names v v.mem_all _ within rfl
  have settled : Settled (Text.Case.upper "pylon") vars := by
    refine ⟨by decide, ?_, fun v w a b left right nothing => absurd nothing (sound v a left)⟩
    rw [upper]
    decide
  have texts : env.texts? = some vars := by decide
  obtain ⟨-, -, read⟩ :=
    load_layers ⟨[], []⟩ {} env [.development, .defaults] "pylon" {} env (by simp) rfl
  obtain ⟨result, anywhere, -⟩ := read vars texts settled
  have last := anywhere [.development, .defaults] [] env rfl (.refl env)
  have overridden : overrideAll (marker "PYLON") {} vars = .ok { server := { maxPayloadSize := 12 } } := by decide
  have first : load (withVariables {} "pylon") env = some (.ok { server := { maxPayloadSize := 12 } }) := by
    rw [load_withVariables, texts, upper, Option.map_some, overridden]
    rfl
  have same : result = .ok { server := { maxPayloadSize := 12 } } :=
    Option.some.inj (Except.ok.inj (last.symm.trans (congrArg Except.ok first)))
  exact same ▸ anywhere [.development] [.defaults] env.reverse rfl env.reverse_perm

/-- A variable of another name, with a value that is no text: no variable overrides a field, and loading breaks off. -/
theorem load_broken_off :
    let env : Environment := [(Text.bytes "BAD", [0xFF])]
    (∀ (v : ConfigVariable) (value : Bytes), (Text.bytes (v.name "PYLON"), value) ∉ env) ∧
    (withVariables {} "PYLON").load env = none ∧
    ¬∀ env : Environment, (∀ (v : ConfigVariable) (value : Bytes), (Text.bytes (v.name "PYLON"), value) ∉ env) →
      (withVariables {} "PYLON").load env = some (.ok {}) := by
  intro env
  have names : ∀ v ∈ ConfigVariable.all, Text.bytes (v.name "PYLON") ≠ Text.bytes "BAD" := by decide
  have others (v : ConfigVariable) (value : Bytes) : (Text.bytes (v.name "PYLON"), value) ∉ env := by
    intro within
    exact names v v.mem_all (congrArg Prod.fst (List.mem_singleton.mp within))
  have broken : (withVariables {} "PYLON").load env = none := by decide
  refine ⟨others, broken, fun all => ?_⟩
  cases broken.symm.trans (all env others)

end ConfigLoader

end Gateway

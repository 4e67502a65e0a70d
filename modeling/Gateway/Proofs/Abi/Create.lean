import Gateway.Proofs.Abi.Field

namespace Gateway

/-- A section that can be passed in a call: the sizes have 64 bits, the times 32, and the host ends where it should. -/
structure ServerSection.Passable (s : ServerSection) : Prop where
  host : ZeroFree s.host
  maxPayloadSize : s.maxPayloadSize < 2 ^ 64
  maxBackpressure : s.maxBackpressure < 2 ^ 64
  idleTimeout : s.idleTimeoutSecs < 2 ^ 32
  maxLifetime : s.maxLifetimeMinutes < 2 ^ 32
  shutdownTimeout : s.shutdownTimeoutSecs < 2 ^ 32

namespace Abi

namespace Settings

structure Typed (settings : Settings) : Prop where
  maxPayloadSize : settings.maxPayloadSize < 2 ^ 64
  maxBackpressure : settings.maxBackpressure < 2 ^ 64
  idleTimeout : settings.idleTimeoutSecs < 2 ^ 32
  maxLifetime : settings.maxLifetimeMinutes < 2 ^ 32
  shutdownTimeout : settings.shutdownTimeoutSecs < 2 ^ 32

theorem exists_matches {s : ServerSection} (passable : s.Passable) {mode : CompressionMode}
    (denotes : CompressionMode.Denotes s.compression mode) :
    ∃ settings : Settings, settings.Typed ∧ settings.Matches s := by
  have spelt : TextPointer.terminated (Text.bytes s.host ++ [0]) = Text.bytes s.host :=
    Buffer.terminated_append passable.host.bytes
  let settings : Settings := {
    host := some (Text.bytes s.host ++ [0])
    maxPayloadSize := s.maxPayloadSize
    maxBackpressure := s.maxBackpressure
    idleTimeoutSecs := s.idleTimeoutSecs
    maxLifetimeMinutes := s.maxLifetimeMinutes
    sendPingsAutomatically := s.sendPingsAutomatically
    closeOnBackpressureLimit := s.closeOnBackpressureLimit
    resetIdleTimeoutOnSend := s.resetIdleTimeoutOnSend
    compression := mode
    echo := s.echo
    shutdownTimeoutSecs := s.shutdownTimeoutSecs }
  have typed : settings.Typed := ⟨passable.maxPayloadSize, passable.maxBackpressure, passable.idleTimeout,
    passable.maxLifetime, passable.shutdownTimeout⟩
  exact ⟨settings, typed, .inr ⟨_, rfl, spelt⟩, rfl, rfl, rfl, rfl, rfl, rfl, rfl, denotes, rfl, rfl⟩

end Settings

namespace Host

theorem create_of_serverConfig {settings : Settings} {config : ServerConfig}
    (taken : settings.serverConfig = .ok config) (h : Host) :
    h.create (some settings) = (true, { h with server := some (.create config) }) := by
  unfold create hold
  dsimp only
  rw [taken]
  rfl

theorem serverConfig_of_create {h : Host} {settings : Settings} (accepted : (h.create (some settings)).1 = true) :
    ∃ config, settings.serverConfig = .ok config := by
  unfold create hold at accepted
  dsimp only at accepted
  cases taken : settings.serverConfig with
  | ok config => exact ⟨config, rfl⟩
  | error reason =>
    rw [taken] at accepted
    cases accepted

theorem createFromFile_eq_create {h after : Host} {files : FileSystem} {env : Environment} {path : TextPointer}
    (accepted : h.createFromFile files env path = some (true, after)) :
    ∃ (loader : ConfigLoader) (vars : Environment) (c : Config), loader.load vars = some (.ok c) ∧
      ∀ settings : Settings, settings.Matches c.server → h.create (some settings) = (true, after) := by
  obtain ⟨read, made, held⟩ := Option.map_eq_some_iff.mp accepted
  cases read with
  | error failure => cases held
  | ok config =>
    obtain ⟨loader, vars, c, loaded, served⟩ := fileConfig_loaded made
    have sound := c.validate_eq_ok_iff.mp (ConfigLoader.load_valid loaded)
    have follows := (c.serverConfig_eq_ok_iff config).mp served
    refine ⟨loader, vars, c, loaded, fun settings matched => ?_⟩
    rw [create_of_serverConfig (matched.serverConfig follows sound.maxPayloadSize sound.maxBackpressure), ← held]
    rfl

/-- Every configuration that is loaded makes a server with exactly its settings, of which the two sizes are not zero,
    and a logger whose filter is never the reason that it is not installed. If it can be passed in a call at all, there
    are settings that say the same, and all settings that say the same make the same server. And whatever settings a
    call takes, if their host is not blank, there is a configuration that says the same, passes the checks with any
    filter that is well-formed, and makes the same server. -/
theorem create_agrees :
    (∀ (loader : ConfigLoader) (env : Environment) (c : Config), loader.load env = some (.ok c) →
      ∃ config, c.serverConfig = .ok config ∧ config.Follows c.server ∧ 1 ≤ config.maxPayloadSize ∧
        1 ≤ config.maxBackpressure ∧
        (c.logConfig.enabled = c.logging.enabled ∧ c.logConfig.level = c.logging.level ∧
          c.logConfig.jsonFormat = c.logging.json) ∧
        (∀ (logger : Logger) reason, logger.install c.logConfig ≠ .error (.invalidConfig reason)) ∧
        (c.server.Passable → ∃ settings : Settings, settings.Typed ∧ settings.Matches c.server) ∧
        ∀ settings : Settings, settings.Matches c.server → settings.serverConfig = .ok config ∧
          ∀ h : Host, h.create (some settings) = (true, { h with server := some (.create config) })) ∧
    ∀ (h : Host) (settings : Settings), (h.create (some settings)).1 = true →
      ∃ config, settings.serverConfig = .ok config ∧
        h.create (some settings) = (true, { h with server := some (.create config) }) ∧
        (Text.trim config.host.toList ≠ [] → ∀ level, LogFilter.validate level = .ok () →
          ∃ c : Config, c.logging.level = level ∧ settings.Matches c.server ∧ c.validate = .ok () ∧
            c.serverConfig = .ok config) := by
  constructor
  · intro loader env c loaded
    obtain ⟨-, maxPayload, maxBackpressure, ⟨mode, denotes⟩, level⟩ :=
      c.validate_eq_ok_iff.mp (ConfigLoader.load_valid loaded)
    have compression := (c.compression_eq_ok_iff mode).mpr denotes
    obtain ⟨config, made⟩ : ∃ config, c.serverConfig = .ok config := by
      unfold Config.serverConfig
      rw [compression]
      exact ⟨_, rfl⟩
    have follows := (c.serverConfig_eq_ok_iff config).mp made
    refine ⟨config, made, follows, ?_, ?_, ⟨rfl, rfl, rfl⟩, Logger.install_of_level level,
      fun passable => Settings.exists_matches passable denotes, fun settings matched => ?_⟩
    · rw [follows.maxPayloadSize]
      exact maxPayload
    · rw [follows.maxBackpressure]
      exact maxBackpressure
    · have taken := matched.serverConfig follows maxPayload maxBackpressure
      exact ⟨taken, create_of_serverConfig taken⟩
  · intro h settings accepted
    obtain ⟨config, taken⟩ := serverConfig_of_create accepted
    refine ⟨config, taken, create_of_serverConfig taken h, fun host level valid => ?_⟩
    obtain ⟨matched, follows, maxPayload, maxBackpressure⟩ := Settings.matches_of_serverConfig taken
    let c : Config := { server := settings.asSection config.host, logging := { level := level } }
    have sound : c.Sound := ⟨host, maxPayload, maxBackpressure, ⟨_, follows.compression⟩, valid⟩
    exact ⟨c, rfl, matched, c.validate_eq_ok_iff.mpr sound, (c.serverConfig_eq_ok_iff config).mpr follows⟩

def dashed : Config :=
  { server := { host := "localhost", compression := "Dedicated-Compressor" }, logging := { level := "warn,hyper=off" } }

theorem create_agrees_dashed :
    (∃ config settings, dashed.serverConfig = .ok config ∧ config.compression = .dedicatedCompressor ∧
      config.shutdownTimeoutMs = 5000 ∧ settings.Typed ∧
      start.create (some settings) = (true, { start with server := some (.create config) })) ∧
    ∃ c : Config, c.logging.level = "off" ∧ c.server.host = "0.0.0.0" ∧ c.validate = .ok () := by
  obtain ⟨forth, back⟩ := create_agrees
  constructor
  · obtain ⟨config, made, follows, -, -, -, -, passed, served⟩ :=
      forth { config := dashed } [] dashed (by decide +kernel)
    obtain ⟨settings, typed, matched⟩ := passed ⟨by decide, by decide, by decide, by decide, by decide, by decide⟩
    refine ⟨config, settings, made, ?_, follows.shutdownTimeout, typed, (served settings matched).2 start⟩
    have read := (CompressionMode.read_eq_ok_iff _ _).mpr follows.compression
    exact Except.ok.inj (read.symm.trans (by decide))
  · obtain ⟨config, taken, -, alike⟩ := back start {} (by decide)
    cases taken
    obtain ⟨c, level, -, valid, served⟩ := alike (by decide) "off" (by decide)
    exact ⟨c, level, ((c.serverConfig_eq_ok_iff _).mp served).host.symm, valid⟩

end Host

end Abi

end Gateway

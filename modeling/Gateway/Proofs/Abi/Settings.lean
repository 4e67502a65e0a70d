import Gateway.Abi.Argument
import Gateway.Proofs.Config.Served
import Gateway.Proofs.Text.Utf8

namespace Gateway

namespace Abi

namespace Settings

/-- The settings say what a section does; a null pointer stands for every address of the machine. -/
structure Matches (settings : Settings) (s : ServerSection) : Prop where
  host : settings.host = none ∧ s.host = "0.0.0.0" ∨
    ∃ bytes, settings.host = some bytes ∧ TextPointer.terminated bytes = Text.bytes s.host
  maxPayloadSize : settings.maxPayloadSize = s.maxPayloadSize
  maxBackpressure : settings.maxBackpressure = s.maxBackpressure
  idleTimeout : settings.idleTimeoutSecs = s.idleTimeoutSecs
  maxLifetime : settings.maxLifetimeMinutes = s.maxLifetimeMinutes
  sendPings : settings.sendPingsAutomatically = s.sendPingsAutomatically
  closeOnLimit : settings.closeOnBackpressureLimit = s.closeOnBackpressureLimit
  resetIdle : settings.resetIdleTimeoutOnSend = s.resetIdleTimeoutOnSend
  compression : CompressionMode.Denotes s.compression settings.compression
  echo : settings.echo = s.echo
  shutdownTimeout : settings.shutdownTimeoutSecs = s.shutdownTimeoutSecs

variable {settings : Settings} {s : ServerSection} {config : ServerConfig}

theorem Matches.serverConfig (matched : settings.Matches s) (follows : config.Follows s)
    (maxPayload : 0 < s.maxPayloadSize) (maxBackpressure : 0 < s.maxBackpressure) :
    settings.serverConfig = .ok config := by
  have compression : settings.compression = config.compression := by
    have read := (CompressionMode.read_eq_ok_iff _ _).mpr matched.compression
    rw [(CompressionMode.read_eq_ok_iff _ _).mpr follows.compression] at read
    exact (Except.ok.inj read).symm
  have payloadSome : settings.maxPayloadSize ≠ 0 := by
    rw [matched.maxPayloadSize]
    exact Nat.ne_of_gt maxPayload
  have backpressureSome : settings.maxBackpressure ≠ 0 := by
    rw [matched.maxBackpressure]
    exact Nat.ne_of_gt maxBackpressure
  unfold Settings.serverConfig
  rw [if_neg payloadSome, if_neg backpressureSome]
  simp only [compression, matched.maxPayloadSize, matched.maxBackpressure, matched.idleTimeout, matched.maxLifetime,
    matched.sendPings, matched.closeOnLimit, matched.resetIdle, matched.echo, matched.shutdownTimeout,
    ← follows.maxPayloadSize, ← follows.maxBackpressure, ← follows.idleTimeout, ← follows.maxLifetime,
    ← follows.sendPings, ← follows.closeOnLimit, ← follows.resetIdle, ← follows.echo, ← follows.shutdownTimeout]
  rcases matched.host with ⟨null, every⟩ | ⟨bytes, pointer, spelt⟩
  · rw [null, show "0.0.0.0" = config.host from every.symm.trans follows.host.symm]
  · have text : settings.host.text? = some config.host := by
      rw [pointer, follows.host]
      exact (Text.ofBytes?_eq_some_iff _ _).mpr spelt
    rw [text, pointer]

def asSection (settings : Settings) (host : String) : ServerSection where
  host := host
  maxPayloadSize := settings.maxPayloadSize
  maxBackpressure := settings.maxBackpressure
  idleTimeoutSecs := settings.idleTimeoutSecs
  maxLifetimeMinutes := settings.maxLifetimeMinutes
  sendPingsAutomatically := settings.sendPingsAutomatically
  closeOnBackpressureLimit := settings.closeOnBackpressureLimit
  resetIdleTimeoutOnSend := settings.resetIdleTimeoutOnSend
  compression := settings.compression.name
  echo := settings.echo
  shutdownTimeoutSecs := settings.shutdownTimeoutSecs

theorem matches_of_serverConfig (taken : settings.serverConfig = .ok config) :
    let s := settings.asSection config.host
    settings.Matches s ∧ config.Follows s ∧ 0 < s.maxPayloadSize ∧ 0 < s.maxBackpressure := by
  have named := CompressionMode.denotes_name settings.compression
  unfold Settings.serverConfig at taken
  split at taken
  · cases taken
  · rename_i maxPayload
    split at taken
    · cases taken
    · rename_i maxBackpressure
      have sizes := And.intro (Nat.pos_of_ne_zero maxPayload) (Nat.pos_of_ne_zero maxBackpressure)
      dsimp only at taken
      split at taken
      · rename_i null
        cases taken
        exact ⟨⟨.inl ⟨null, rfl⟩, rfl, rfl, rfl, rfl, rfl, rfl, rfl, named, rfl, rfl⟩,
          ⟨rfl, rfl, rfl, rfl, rfl, rfl, rfl, rfl, named, rfl, rfl⟩, sizes⟩
      · rename_i bytes pointer
        split at taken
        · rename_i host spelt
          cases taken
          rw [pointer] at spelt
          have text := (Text.ofBytes?_eq_some_iff _ _).mp spelt
          exact ⟨⟨.inr ⟨bytes, pointer, text⟩, rfl, rfl, rfl, rfl, rfl, rfl, rfl, named, rfl, rfl⟩,
            ⟨rfl, rfl, rfl, rfl, rfl, rfl, rfl, rfl, named, rfl, rfl⟩, sizes⟩
        · cases taken

end Settings

end Abi

end Gateway

import Gateway.Config.Section
import Mathlib.Data.List.Forall2

namespace Gateway

namespace CompressionMode

def words : List (String × CompressionMode) :=
  [("disabled", disabled), ("none", disabled), ("shared_compressor", sharedCompressor), ("shared", sharedCompressor),
    ("dedicated_compressor", dedicatedCompressor), ("dedicated", dedicatedCompressor)]

def WrittenAs (letter c : Char) : Prop := Text.Ascii.lowerChar c = letter ∨ letter = '_' ∧ c = '-'

def Denotes (s : String) (mode : CompressionMode) : Prop :=
  ∃ word, (word, mode) ∈ words ∧ List.Forall₂ WrittenAs word.toList s.toList

theorem normalize_eq_iff {s word : String} (plain : '-' ∉ word.toList) :
    normalize s = word ↔ List.Forall₂ WrittenAs word.toList s.toList := by
  have letter {d c : Char} (other : d ≠ '-') :
      (if c = '-' then '_' else Text.Ascii.lowerChar c) = d ↔ WrittenAs d c := by
    unfold WrittenAs
    split
    · rename_i dash
      subst dash
      have lower : Text.Ascii.lowerChar '-' = '-' := by decide
      rw [lower, or_iff_right other.symm, and_iff_left rfl, eq_comm]
    · rename_i noDash
      simp [noDash]
  rw [normalize, ← String.toList_inj, String.toList_ofList]
  generalize s.toList = chars
  generalize word.toList = letters at plain
  induction chars generalizing letters with
  | nil => cases letters <;> simp
  | cons c chars ih =>
    cases letters with
    | nil => simp
    | cons d letters =>
      obtain ⟨other, rest⟩ := List.ne_and_not_mem_of_not_mem_cons plain
      rw [List.map_cons, List.cons.injEq, List.forall₂_cons, letter other.symm]
      exact and_congr_right fun _ => ih letters rest

theorem read_eq_ok_iff (s : String) (mode : CompressionMode) : read s = .ok mode ↔ Denotes s mode := by
  have plain : ∀ entry ∈ words, '-' ∉ entry.1.toList := by decide
  have spelt : Denotes s mode ↔ (normalize s, mode) ∈ words := by
    constructor
    · rintro ⟨word, listed, written⟩
      rw [(normalize_eq_iff (plain _ listed)).mpr written]
      exact listed
    · intro listed
      exact ⟨normalize s, listed, (normalize_eq_iff (plain _ listed)).mp rfl⟩
  rw [spelt, read]
  simp only [words, List.mem_cons, Prod.mk.injEq, List.not_mem_nil, or_false]
  split
  · rename_i word
    rcases word with word | word <;> simp [word, eq_comm]
  · split
    · rename_i word
      rcases word with word | word <;> simp [word, eq_comm]
    · split
      · rename_i word
        rcases word with word | word <;> simp [word, eq_comm]
      · simp_all

theorem denotes_name (mode : CompressionMode) : Denotes mode.name mode := by
  rw [← read_eq_ok_iff]
  cases mode <;> decide

end CompressionMode

/-- A server is configured as a section says. -/
structure ServerConfig.Follows (config : ServerConfig) (s : ServerSection) : Prop where
  host : config.host = s.host
  maxPayloadSize : config.maxPayloadSize = s.maxPayloadSize
  maxBackpressure : config.maxBackpressure = s.maxBackpressure
  idleTimeout : config.idleTimeoutSecs = s.idleTimeoutSecs
  maxLifetime : config.maxLifetimeMinutes = s.maxLifetimeMinutes
  sendPings : config.sendPingsAutomatically = s.sendPingsAutomatically
  closeOnLimit : config.closeOnBackpressureLimit = s.closeOnBackpressureLimit
  resetIdle : config.resetIdleTimeoutOnSend = s.resetIdleTimeoutOnSend
  compression : CompressionMode.Denotes s.compression config.compression
  echo : config.echo = s.echo
  shutdownTimeout : config.shutdownTimeoutMs = s.shutdownTimeoutSecs * 1000

namespace Config

theorem compression_eq_ok_iff (c : Config) (mode : CompressionMode) :
    c.compression = .ok mode ↔ CompressionMode.Denotes c.server.compression mode := by
  rw [← CompressionMode.read_eq_ok_iff, compression]
  cases CompressionMode.read c.server.compression <;> simp

theorem serverConfig_eq_ok_iff (c : Config) (config : ServerConfig) :
    c.serverConfig = .ok config ↔ config.Follows c.server := by
  unfold serverConfig
  constructor
  · intro made
    split at made
    · cases made
    · rename_i mode read
      cases made
      exact ⟨rfl, rfl, rfl, rfl, rfl, rfl, rfl, rfl, (c.compression_eq_ok_iff mode).mp read, rfl, rfl⟩
  · intro follows
    rw [(c.compression_eq_ok_iff _).mpr follows.compression]
    simp only [← follows.host, ← follows.maxPayloadSize, ← follows.maxBackpressure, ← follows.idleTimeout,
      ← follows.maxLifetime, ← follows.sendPings, ← follows.closeOnLimit, ← follows.resetIdle, ← follows.echo,
      ← follows.shutdownTimeout]

/-- What the checks ask of a configuration. -/
structure Sound (c : Config) : Prop where
  host : Text.trim c.server.host.toList ≠ []
  maxPayloadSize : 0 < c.server.maxPayloadSize
  maxBackpressure : 0 < c.server.maxBackpressure
  compression : ∃ mode, CompressionMode.Denotes c.server.compression mode
  level : LogFilter.validate c.logging.level = .ok ()

theorem validate_eq_ok_iff (c : Config) : c.validate = .ok () ↔ c.Sound := by
  unfold validate
  constructor
  · intro valid
    split at valid
    · cases valid
    · rename_i host
      split at valid
      · cases valid
      · rename_i maxPayload
        split at valid
        · cases valid
        · rename_i maxBackpressure
          split at valid
          · cases valid
          · rename_i mode read
            split at valid
            · cases valid
            · rename_i level
              exact ⟨mt List.isEmpty_iff.mpr host, Nat.pos_of_ne_zero maxPayload, Nat.pos_of_ne_zero maxBackpressure,
                ⟨mode, (c.compression_eq_ok_iff mode).mp read⟩, level⟩
  · rintro ⟨host, maxPayload, maxBackpressure, ⟨mode, denotes⟩, level⟩
    rw [if_neg (mt List.isEmpty_iff.mp host), if_neg (Nat.ne_of_gt maxPayload), if_neg (Nat.ne_of_gt maxBackpressure),
      (c.compression_eq_ok_iff mode).mpr denotes, level]

end Config

/-- A logger may be there already, but a well-formed filter is never the reason that none is installed. -/
theorem Logger.install_of_level {config : LogConfig} (valid : LogFilter.validate config.level = .ok ())
    (logger : Logger) (reason : String) : logger.install config ≠ .error (.invalidConfig reason) := by
  unfold install
  split
  · nofun
  · rw [valid]
    dsimp only
    split <;> nofun

end Gateway

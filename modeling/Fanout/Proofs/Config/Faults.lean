import Fanout.Proofs.Config.Valid
import Mathlib.Algebra.Ring.Nat

namespace Fanout

namespace Config

/-- Everything that a configuration needs to be served. -/
structure Usable (c : Config) : Prop where
  listen : ∀ text, c.listen = some text → ∃ endpoint, Endpoint.ofText? text = some endpoint
  replay : ∀ n, c.broker.replayMebibytes = some n → n * 2 ^ 20 < 2 ^ 64
  pipe : ∀ n, c.broker.pipeKibibytes = some n → n * 1024 ≠ 0 ∧ n * 1024 < 2 ^ 64
  sources : (c.sources.map Source.name).Nodup
  room : ∀ s ∈ c.sources, 1 ≤ s.maxStreams
  channels : (c.channels.map Channel.name).Nodup
  url : ∀ ch ∈ c.channels, Text.isBlankText ch.url = false
  command : ∀ ch ∈ c.channels, ∀ command, ch.command = some command →
    ∃ program arguments, command = program :: arguments ∧ Text.isBlankText program = false
  listed : ∀ ch ∈ c.channels, ∀ source, ch.source = some source → ∃ s ∈ c.sources, s.name = source

def fault (wrong : Prop) [Decidable wrong] (e : ConfigError) : List ConfigError :=
  if wrong then [e] else []

def listenFaults (c : Config) : List ConfigError :=
  match c.listen with
  | none => []
  | some text => fault (Endpoint.ofText? text = none) (.invalidListen text)

def replayFaults (s : BrokerSettings) : List ConfigError :=
  match s.replayMebibytes with
  | none => []
  | some n => fault (2 ^ 64 ≤ n * 2 ^ 20) (.invalidSize "replay_buffer_mib" n)

def pipeFaults (s : BrokerSettings) : List ConfigError :=
  match s.pipeKibibytes with
  | none => []
  | some n => fault (n * 1024 = 0 ∨ 2 ^ 64 ≤ n * 1024) (.invalidSize "pipe_capacity_kib" n)

def sourceFaults (before : List Source) (s : Source) : List ConfigError :=
  fault (s.name ∈ before.map Source.name) (.duplicateSource s.name) ++
    fault (s.maxStreams = 0) (.zeroCapacity s.name)

def referenceFaults (sources : List String) (c : Channel) : List ConfigError :=
  match c.source with
  | none => []
  | some source => fault (source ∉ sources) (.unknownSource c.name source)

def channelFaults (sources : List String) (before : List Channel) (c : Channel) :
    List ConfigError :=
  fault (c.name ∈ before.map Channel.name) (.duplicateChannel c.name) ++
    (fault (Text.isBlankText c.url = true) (.emptyUrl c.name) ++
      (fault (∃ command ∈ c.command, hasProgram command = false) (.emptyCommand c.name) ++
        referenceFaults sources c))

def faultsOf {α : Type} (faults : List α → α → List ConfigError) :
    List α → List α → List ConfigError
  | _, [] => []
  | before, x :: rest => faults before x ++ faultsOf faults (before ++ [x]) rest

/-- All that is wrong with a configuration, in the order of the file. -/
def faults (c : Config) : List ConfigError :=
  c.listenFaults ++ (replayFaults c.broker ++ (pipeFaults c.broker ++
    (faultsOf sourceFaults [] c.sources ++
      faultsOf (channelFaults (c.sources.map Source.name)) [] c.channels)))

/-- The first fault is the one that is named. -/
def verdict : List ConfigError → Except ConfigError Unit
  | [] => .ok ()
  | e :: _ => .error e

theorem verdict_append (first second : List ConfigError) :
    verdict (first ++ second) = verdict first >>= fun _ => verdict second := by
  cases first <;> rfl

theorem verdict_fault_append (wrong : Prop) [Decidable wrong] (e : ConfigError)
    (rest : List ConfigError) :
    verdict (fault wrong e ++ rest) = if wrong then .error e else verdict rest := by
  unfold fault
  split <;> rfl

theorem verdict_fault (wrong : Prop) [Decidable wrong] (e : ConfigError) :
    verdict (fault wrong e) = if wrong then .error e else .ok () := by
  unfold fault
  split <;> rfl

theorem verdict_eq_error_iff {es : List ConfigError} {e : ConfigError} :
    verdict es = .error e ↔ es.head? = some e := by
  cases es <;> simp [verdict]

theorem checkListen_eq (c : Config) : c.checkListen = verdict c.listenFaults := by
  unfold checkListen listenFaults
  cases c.listen with
  | none => rfl
  | some text => cases read : Endpoint.ofText? text <;> simp [verdict_fault, read]

theorem discard_replayBytes (s : BrokerSettings) :
    discard s.replayBytes = verdict (replayFaults s) := by
  unfold BrokerSettings.replayBytes replayFaults
  cases s.replayMebibytes with
  | none => rfl
  | some n =>
    have bound : BrokerSettings.sizeBound = 2 ^ 64 := rfl
    have size : Nat.pow 2 20 = 2 ^ 20 := rfl
    simp only [verdict_fault, bound, size]
    by_cases fits : n * 2 ^ 20 < 2 ^ 64
    · rw [if_pos fits, if_neg (Nat.not_le_of_lt fits)]
      rfl
    · rw [if_neg fits, if_pos (Nat.le_of_not_lt fits)]
      rfl

theorem discard_pipeBytes (s : BrokerSettings) :
    discard s.pipeBytes = verdict (pipeFaults s) := by
  unfold BrokerSettings.pipeBytes pipeFaults
  cases s.pipeKibibytes with
  | none => rfl
  | some n =>
    have bound : BrokerSettings.sizeBound = 2 ^ 64 := rfl
    simp only [verdict_fault, bound]
    by_cases fits : 0 < n ∧ n * 1024 < 2 ^ 64
    · rw [if_pos fits, if_neg (by omega)]
      rfl
    · rw [if_neg fits, if_pos (by omega)]
      rfl

theorem checkSources_eq (names : List String) {before : List Source} (sources : List Source)
    (met : ∀ name, name ∈ names ↔ name ∈ before.map Source.name) :
    checkSources names sources = verdict (faultsOf sourceFaults before sources) := by
  induction sources generalizing names before with
  | nil => rfl
  | cons s rest ih =>
    have next : ∀ name, name ∈ s.name :: names ↔ name ∈ (before ++ [s]).map Source.name := by
      intro name
      simp [met, or_comm]
    simp only [checkSources, faultsOf, sourceFaults, List.append_assoc, verdict_fault_append, ih _ next,
      met]

theorem checkChannel_eq (sources : List String) (c : Channel) :
    checkChannel sources c =
      verdict (fault (Text.isBlankText c.url = true) (.emptyUrl c.name) ++
        (fault (∃ command ∈ c.command, hasProgram command = false) (.emptyCommand c.name) ++
          referenceFaults sources c)) := by
  have commands : c.command.any (!hasProgram ·) = true ↔
      ∃ command ∈ c.command, hasProgram command = false := by
    simp [Option.any_eq_true]
  rw [verdict_fault_append, verdict_fault_append]
  simp only [checkChannel, throw, throwThe, MonadExceptOf.throw, bind, Except.bind, pure, Except.pure,
    ← commands]
  split
  · rfl
  · split
    · rfl
    · unfold referenceFaults
      cases c.source with
      | none => rfl
      | some source => simp [verdict_fault]

theorem checkChannels_eq {sources : List String} (names : List String) {before : List Channel}
    (channels : List Channel) (met : ∀ name, name ∈ names ↔ name ∈ before.map Channel.name) :
    checkChannels sources names channels =
      verdict (faultsOf (channelFaults sources) before channels) := by
  induction channels generalizing names before with
  | nil => rfl
  | cons c rest ih =>
    have next : ∀ name, name ∈ c.name :: names ↔ name ∈ (before ++ [c]).map Channel.name := by
      intro name
      simp [met, or_comm]
    rw [checkChannels, faultsOf, channelFaults, List.append_assoc, verdict_fault_append,
      verdict_append, ← checkChannel_eq, ← ih _ next]
    simp only [met]

theorem validate_eq (c : Config) : c.validate = verdict c.faults := by
  rw [faults, verdict_append, verdict_append, verdict_append, verdict_append, ← checkListen_eq,
    ← discard_replayBytes, ← discard_pipeBytes, ← checkSources_eq [] c.sources (by simp),
    ← checkChannels_eq [] c.channels (by simp)]
  rfl

theorem hasProgram_iff {command : List String} :
    hasProgram command = true ↔
      ∃ program arguments, command = program :: arguments ∧ Text.isBlankText program = false := by
  cases command with
  | nil => simp [hasProgram]
  | cons program arguments => simp [hasProgram]

theorem listenFaults_eq_nil_iff {c : Config} :
    c.listenFaults = [] ↔
      ∀ text, c.listen = some text → ∃ endpoint, Endpoint.ofText? text = some endpoint := by
  unfold listenFaults fault
  cases c.listen with
  | none => simp
  | some text => cases read : Endpoint.ofText? text <;> simp [read]

theorem replayFaults_eq_nil_iff {s : BrokerSettings} :
    replayFaults s = [] ↔ ∀ n, s.replayMebibytes = some n → n * 2 ^ 20 < 2 ^ 64 := by
  unfold replayFaults fault
  cases s.replayMebibytes <;> simp

theorem pipeFaults_eq_nil_iff {s : BrokerSettings} :
    pipeFaults s = [] ↔
      ∀ n, s.pipeKibibytes = some n → n * 1024 ≠ 0 ∧ n * 1024 < 2 ^ 64 := by
  unfold pipeFaults fault
  cases s.pipeKibibytes <;> simp

theorem verdict_eq_ok_iff {es : List ConfigError} : verdict es = .ok () ↔ es = [] := by
  cases es <;> simp [verdict]

theorem sourceFaults_eq_nil_iff {sources : List Source} :
    faultsOf sourceFaults [] sources = [] ↔ Entered Source.name (·.maxStreams ≠ 0) [] sources := by
  rw [← verdict_eq_ok_iff, ← checkSources_eq [] sources (by simp), checkSources_eq_ok_iff]

theorem channelFaults_eq_nil_iff {sources : List String} {channels : List Channel} :
    faultsOf (channelFaults sources) [] channels = [] ↔
      Entered Channel.name (·.Usable sources) [] channels := by
  rw [← verdict_eq_ok_iff, ← checkChannels_eq [] channels (by simp),
    checkChannels_eq_ok_iff]

theorem faults_eq_nil_iff {c : Config} : c.faults = [] ↔ c.Usable := by
  simp only [faults, List.append_eq_nil_iff, listenFaults_eq_nil_iff, replayFaults_eq_nil_iff,
    pipeFaults_eq_nil_iff, sourceFaults_eq_nil_iff, channelFaults_eq_nil_iff]
  constructor
  · rintro ⟨listen, replay, pipe, ⟨sources, room⟩, channels, each⟩
    refine ⟨listen, replay, pipe, sources, ?_, channels, ?_, ?_, ?_⟩
    · intro s member
      exact Nat.one_le_iff_ne_zero.mpr (room s member).2
    · intro ch member
      exact (each ch member).2.url
    · intro ch member command given
      exact hasProgram_iff.mp ((each ch member).2.command command given)
    · intro ch member source given
      exact List.mem_map.mp ((each ch member).2.source source given)
  · intro h
    refine ⟨h.listen, h.replay, h.pipe, ⟨h.sources, ?_⟩, h.channels, ?_⟩
    · intro s member
      exact ⟨List.not_mem_nil, Nat.one_le_iff_ne_zero.mp (h.room s member)⟩
    · intro ch member
      refine ⟨List.not_mem_nil, h.url ch member, ?_, ?_⟩
      · intro command given
        exact hasProgram_iff.mpr (h.command ch member command given)
      · intro source given
        exact List.mem_map.mpr (h.listed ch member source given)

end Config

namespace BrokerSettings

variable {s : BrokerSettings} {n : Nat}

theorem replayCapacity_of_valid (given : s.replayMebibytes = some n) (fits : n * 2 ^ 20 < 2 ^ 64) :
    s.brokerConfig.relay.replayCapacity = n * 2 ^ 20 := by
  have valid : s.replayBytes = .ok (some (n * 2 ^ 20)) := by
    simp only [replayBytes, given]
    exact if_pos fits
  simp only [brokerConfig, valid]
  rfl

theorem pipeCapacity_of_valid (given : s.pipeKibibytes = some n)
    (valid : n * 1024 ≠ 0 ∧ n * 1024 < 2 ^ 64) : s.brokerConfig.pipeCapacity = n * 1024 := by
  have valid : s.pipeBytes = .ok (some (n * 1024)) := by
    simp only [pipeBytes, given]
    exact if_pos ⟨by omega, valid.2⟩
  simp only [brokerConfig, valid]
  rfl

theorem pipeCapacity_pos (s : BrokerSettings) : 0 < s.brokerConfig.pipeCapacity := by
  simp only [brokerConfig, pipeBytes]
  split
  · decide
  · split
    · rename_i valid
      exact Nat.mul_pos valid.1 (by decide)
    · exact (by decide : 0 < 256 * 1024)

end BrokerSettings

/-- Validation accepts the usable configurations and no others, and otherwise names the first fault.
The sizes given in an accepted configuration are used as they are, and even a configuration that is
not accepted has pipes of a byte or more. -/
theorem Config.accepts_usable (c : Config) :
    (c.validate = .ok () ↔ c.Usable) ∧
      (∀ e, c.validate = .error e ↔ c.faults.head? = some e) ∧
      (c.validate = .ok () → ∀ n,
        (c.broker.replayMebibytes = some n →
          c.broker.brokerConfig.relay.replayCapacity = n * 2 ^ 20) ∧
        (c.broker.pipeKibibytes = some n → c.broker.brokerConfig.pipeCapacity = n * 1024)) ∧
      0 < c.broker.brokerConfig.pipeCapacity := by
  have accepted : c.validate = .ok () ↔ c.Usable := by
    rw [validate_eq, verdict_eq_ok_iff, faults_eq_nil_iff]
  refine ⟨accepted, ?_, ?_, c.broker.pipeCapacity_pos⟩
  · intro e
    rw [validate_eq, verdict_eq_error_iff]
  · intro valid n
    have usable := accepted.mp valid
    exact ⟨fun given => BrokerSettings.replayCapacity_of_valid given (usable.replay n given),
      fun given => BrokerSettings.pipeCapacity_of_valid given (usable.pipe n given)⟩

example :
    ({ sources := [⟨"s", 2⟩, ⟨"s", 0⟩] } : Config).faults =
      [.duplicateSource "s", .zeroCapacity "s"] := by
  decide

end Fanout

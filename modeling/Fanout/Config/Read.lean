import Fanout.Config.Basic
import Fanout.Toml.Document

namespace Fanout

open Toml (Value)

abbrev Fields := List (String × Value)

namespace Fields

def optional {α : Type} (fields : Fields) (key : String) (read : Value → Option α) :
    Option (Option α) :=
  match fields.lookup key with
  | none => some none
  | some v => (read v).map some

def required {α : Type} (fields : Fields) (key : String) (read : Value → Option α) : Option α :=
  (fields.lookup key).bind read

def section? (fields : Fields) (key : String) : Option Fields :=
  (fields.optional key Value.asTable?).map (·.getD [])

def itemsOf {α : Type} (fields : Fields) (key : String) (read : Value → Option α) :
    Option (List α) := do
  (((← fields.optional key Value.asList?).getD []).mapM read)

end Fields

def short (v : Value) : Option Nat := v.asNat? (Nat.pow 2 32)

def long (v : Value) : Option Nat := v.asNat? (Nat.pow 2 64)

namespace BrokerSettings

def ofFields? (f : Fields) : Option BrokerSettings :=
  return { maxFeeds := ← f.optional "max_upstreams" short
           acquireSeconds := ← f.optional "acquire_timeout_secs" long
           replayMebibytes := ← f.optional "replay_buffer_mib" long
           queueDepth := ← f.optional "client_queue_depth" long
           pipeKibibytes := ← f.optional "pipe_capacity_kib" long
           sweepSeconds := ← f.optional "sweep_interval_secs" long }

end BrokerSettings

namespace LogSettings

def ofFields? (f : Fields) : Option LogSettings :=
  return { directory := ← f.optional "log_dir" Value.asText?
           retentionDays := ← f.optional "retention_days" long
           level := ← f.optional "level" Value.asText? }

end LogSettings

namespace Source

def ofValue? (v : Value) : Option Source := do
  let f ← v.asTable?
  return { name := ← Fields.required f "name" Value.asText?
           maxStreams := ← Fields.required f "max_streams" short }

end Source

namespace Channel

def ofValue? (v : Value) : Option Channel := do
  let f ← v.asTable?
  return { name := ← Fields.required f "name" Value.asText?
           url := ← Fields.required f "url" Value.asText?
           source := ← Fields.optional f "source" Value.asText?
           command := ← Fields.optional f "command" fun v => do
             (← v.asList?).mapM Value.asText?
           userAgent := ← Fields.optional f "user_agent" Value.asText? }

end Channel

namespace Config

def ofFields? (f : Fields) : Option Config :=
  return { listen := ← (← f.section? "server").optional "listen" Value.asText?
           broker := ← BrokerSettings.ofFields? (← f.section? "broker")
           log := ← LogSettings.ofFields? (← f.section? "logging")
           sources := ← f.itemsOf "sources" Source.ofValue?
           channels := ← f.itemsOf "channels" Channel.ofValue? }

def ofText (text : String) : Except ConfigError Config := do
  let some c := (Toml.parse text).bind ofFields? | throw .malformed
  c.validate
  return c

def ofFile (path : String) (content : Except String Bytes) : Except ConfigError Config :=
  match content with
  | .error reason => .error (.unreadable path reason)
  | .ok data =>
    match String.fromUTF8? ⟨data.toArray⟩ with
    | some text => ofText text
    | none => .error (.unreadable path "stream did not contain valid UTF-8")

end Config

end Fanout

import TieredLedger.Json.Value
import TieredLedger.Text.Lowercase

/-! Settings of the log: level, format and filter. -/
namespace TieredLedger

inductive LogLevel
  | trace
  | debug
  | info
  | warn
  | error
deriving DecidableEq, Repr, Inhabited

inductive LogFormat
  | pretty
  | json
  | compact
deriving DecidableEq, Repr, Inhabited

namespace LogLevel

def all : List LogLevel := [trace, debug, info, warn, error]

def name : LogLevel → String
  | trace => "trace"
  | debug => "debug"
  | info => "info"
  | warn => "warn"
  | error => "error"

/-- The level of a name, in any case and with white space around it; warnings may be spelled out. -/
def parse? (s : String) : Option LogLevel :=
  let s := Text.lowercase (Text.trim s)
  if s = "warning" then some warn else all.find? fun l => l.name == s

def toJson (l : LogLevel) : Json := .text l.name

def ofJson? (j : Json) : Option LogLevel := j.choice?.bind fun s => all.find? fun l => l.name == s

end LogLevel

namespace LogFormat

def all : List LogFormat := [pretty, json, compact]

def name : LogFormat → String
  | pretty => "pretty"
  | json => "json"
  | compact => "compact"

def parse? (s : String) : Option LogFormat :=
  let s := Text.lowercase (Text.trim s)
  all.find? fun f => f.name == s

def toJson (f : LogFormat) : Json := .text f.name

def ofJson? (j : Json) : Option LogFormat := j.choice?.bind fun s => all.find? fun f => f.name == s

end LogFormat

structure LogSettings where
  level : LogLevel
  format : LogFormat
  includeSource : Bool
  includeThread : Bool
  includeSpans : Bool
  filter : Option String
deriving DecidableEq, Repr

namespace LogSettings

def standard : LogSettings := ⟨.info, .pretty, true, false, false, none⟩

def production : LogSettings := ⟨.info, .json, false, true, true, none⟩

def development : LogSettings := ⟨.debug, .pretty, true, false, false, none⟩

instance : Inhabited LogSettings := ⟨standard⟩

def targets : List String := ["strata_core", "strata_storage"]

def directive (s : LogSettings) : String :=
  s.filter.getD (String.intercalate "," (targets.map fun target => target ++ "=" ++ s.level.name))

def toJson (s : LogSettings) : Json :=
  .record [("level", s.level.toJson), ("format", s.format.toJson), ("include_source", .bool s.includeSource),
    ("include_thread_id", .bool s.includeThread), ("include_span_events", .bool s.includeSpans),
    ("filter", .option .text s.filter)]

def ofJson? (j : Json) : Option LogSettings := do
  match ← j.record? ["level", "format", "include_source", "include_thread_id", "include_span_events", "filter"] with
  | [level, format, source, thread, spans, filter] =>
    return {
      level := ← Json.required LogLevel.ofJson? level
      format := ← Json.required LogFormat.ofJson? format
      includeSource := ← Json.required Json.bool? source
      includeThread := ← Json.required Json.bool? thread
      includeSpans := ← Json.required Json.bool? spans
      filter := ← Json.optional Json.text? filter }
  | _ => none

end LogSettings

inductive LogFault (φ : Type)
  /-- The reader of filters refuses the filter. -/
  | filter (fault : φ)
  /-- Logging has started before. -/
  | started
deriving DecidableEq, Repr

def LogFault.message {φ : Type} (ofFilter : φ → String) : LogFault φ → String
  | filter fault => ofFilter fault
  | started => "a global default trace dispatcher has already been set"

/-- Starts logging, unless the reader of filters refuses the filter or logging has started before. -/
def LogSettings.start {φ : Type} (readFilter : String → Except φ Unit) (s : LogSettings) (started : Bool) :
    Except (LogFault φ) Unit := do
  (readFilter s.directive).mapError .filter
  if started then throw .started

end TieredLedger

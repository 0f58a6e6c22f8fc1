/-!
# Log events

An event has a level, a message and fields. A threshold lets through the events
of a level and of all more severe ones, or none at all.
-/

namespace Blake2b.Log

/-- How severe an event is, the most severe first. -/
inductive Level where
  | error
  | warn
  | info
  | debug
  | trace
deriving DecidableEq

namespace Level

/-- The place of a level, counted from the most severe. -/
def rank : Level → Nat
  | error => 0
  | warn => 1
  | info => 2
  | debug => 3
  | trace => 4

def label : Level → String
  | error => "ERROR"
  | warn => "WARN"
  | info => "INFO"
  | debug => "DEBUG"
  | trace => "TRACE"

end Level

structure Event where
  level : Level
  message : String
  fields : List (String × String)
deriving DecidableEq

/-- The event on one line: level, message, and the fields in order. -/
def Event.line (event : Event) : String :=
  event.level.label ++ " " ++ event.message ++
    String.join (event.fields.map fun field => " " ++ field.1 ++ "=" ++ field.2)

/-- Which events are shown. -/
inductive Threshold where
  | off
  | upTo (level : Level)
deriving DecidableEq

namespace Threshold

def standard : Threshold := .upTo .info

/-- The threshold of a level, which is named in letters of either case or by its number. -/
def ofName? (name : String) : Option Threshold :=
  match name.toLower with
  | "off" | "0" => some .off
  | "error" | "1" => some (.upTo .error)
  | "warn" | "2" => some (.upTo .warn)
  | "info" | "3" => some (.upTo .info)
  | "debug" | "4" => some (.upTo .debug)
  | "trace" | "5" => some (.upTo .trace)
  | _ => none

/-- The threshold of a text, in which names stand with commas between them. The last name
counts, and without any name only errors are shown. Filters for single targets, spans or
fields are not read. -/
def ofText? (text : String) : Option Threshold := do
  let names := (text.splitOn ",").filter fun name => !name.isEmpty
  let thresholds ← names.mapM ofName?
  return thresholds.getLastD (.upTo .error)

/-- The threshold of a setting: the standard one if there is no text, or one that cannot be
read. -/
def ofSetting (setting : Option String) : Threshold :=
  (setting.bind ofText?).getD standard

def admits : Threshold → Level → Bool
  | off, _ => false
  | upTo limit, level => level.rank ≤ limit.rank

def lines (threshold : Threshold) (events : List Event) : List String :=
  (events.filter fun event => threshold.admits event.level).map Event.line

end Threshold

end Blake2b.Log

import ClassDiagram.Journal
import ClassDiagram.Text.Blank

/-!
# Settings from the environment

Settings come from environment variables.  White space around a value is
dropped and told, and so is a value that cannot be understood.
-/

namespace ClassDiagram

abbrev Environment := List (String × String)

namespace Environment

/-- The value of a variable, stripped if asked for, and what there is to tell about it. -/
def clean (environment : Environment) (key : String) (strip : Bool) :
    Option String × List Event :=
  match environment.lookup key with
  | none => (none, [])
  | some value =>
      if strip && value != Text.strip value then
        (some (Text.strip value), [.variableStripped key value])
      else (some value, [])

def yesWords : List String := ["true", "1", "yes", "on"]

def noWords : List String := ["false", "0", "no", "off", ""]

def flag (environment : Environment) (key : String) (usual : Option Bool) :
    Option Bool × List Event :=
  match environment.clean key true with
  | (none, events) => (usual, events)
  | (some value, events) =>
      if Text.lower value ∈ yesWords then (some true, events)
      else if Text.lower value ∈ noWords then (some false, events)
      else (usual, events ++ [.variableUnclear key value usual])

end Environment

/-- What ingestions go by unless they are told otherwise. -/
structure Settings where
  database : String
  strict : Bool
  level : String
  deriving DecidableEq, Repr, Inhabited

namespace Settings

def read (environment : Environment) : Settings × List Event :=
  let (database, first) := environment.clean "XMI_DEFAULT_DATABASE_TYPE" true
  let (strict, second) := environment.flag "XMI_STRICT_ELEMENT_KINDS" false
  let (level, third) := environment.clean "XMI_LOG_LEVEL" true
  (⟨Text.lower (database.getD "sql"), strict.getD false, Text.upper (level.getD "INFO")⟩,
    first ++ second ++ third)

def knownLevels : List String := ["CRITICAL", "ERROR", "WARNING", "INFO", "DEBUG"]

/-- The level to report from; an unknown one counts as `INFO` and is told. -/
def reportLevel (settings : Settings) : String × List Event :=
  if settings.level ∈ knownLevels then (settings.level, [])
  else ("INFO", [.levelUnknown settings.level])

theorem reportLevel_known (settings : Settings) : settings.reportLevel.1 ∈ knownLevels := by
  unfold reportLevel
  split
  · assumption
  · simp [knownLevels]

end Settings

end ClassDiagram

import ClassDiagram.Settings

/-!
# Reporting

Records are reported from a level on.  One threshold holds for the records of
this package, which are named after it, and one for all others; where the
package has none, the other one counts.
-/

namespace ClassDiagram

inductive LevelWish where
  | name (name : String)
  | rank (rank : Int)
  | neither
  deriving DecidableEq, Repr

namespace Reporting

def ranks : List (String × Int) :=
  [("CRITICAL", 50), ("ERROR", 40), ("WARNING", 30), ("INFO", 20), ("DEBUG", 10), ("NOTSET", 0),
    ("FATAL", 50), ("WARN", 30)]

def rank? (name : String) : Option Int := ranks.lookup name

def rankName (rank : Int) : String :=
  match ranks.find? (·.2 = rank) with
  | some (name, _) => name
  | none => "Level " ++ toString rank

structure Thresholds where
  others : Int
  package : Int
  deriving DecidableEq, Repr, Inhabited

/-- The rank of a level asked for; one that is empty or zero stands for the settings. -/
def chosenRank? (settings : Settings) : Option LevelWish → Option Int
  | some (.name name) => if name.isEmpty then rank? settings.reportLevel.1 else rank? name
  | some (.rank rank) => if rank = 0 then rank? settings.reportLevel.1 else some rank
  | some .neither => none
  | none => rank? settings.reportLevel.1

def setUp (settings : Settings) (wish : Option LevelWish) : Except Fault Thresholds :=
  match chosenRank? settings wish with
  | some rank => .ok ⟨rank, rank⟩
  | none => .error .unknownLevel

def package : String := "uml_ingest"

def isPackaged (name : String) : Bool :=
  name = package || (package ++ ".").toList.isPrefixOf name.toList

def Thresholds.of (thresholds : Thresholds) (name : String) : Int :=
  if isPackaged name && thresholds.package != 0 then thresholds.package else thresholds.others

/-- Whether a record is reported; one without a rank never is. -/
def Thresholds.pass (thresholds : Thresholds) (name : String) (rank : Int) : Bool :=
  0 < rank && thresholds.of name ≤ rank

def rootName : String := "root"

def recordName (name : String) : String := if name.isEmpty then rootName else name

def ownParts : List String :=
  ["args", "asctime", "created", "exc_info", "exc_text", "filename", "funcName", "levelname",
    "levelno", "lineno", "message", "module", "msecs", "msg", "name", "pathname", "process",
    "processName", "relativeCreated", "stack_info", "thread", "threadName"]

def isPrivate (name : String) : Bool := name.toList.head? = some '_'

/-- What is added to a record: it may not take the place of the record's own parts. -/
def additions {α : Type} (parts : List (String × α)) : Except Fault (List (String × α)) :=
  match parts.find? fun part => ownParts.contains part.1 with
  | some part => .error (.partTaken part.1)
  | none => .ok (parts.filter fun part => !isPrivate part.1)

def levelRank (level : Level) : Int := (rank? level.name).getD 0

def Thresholds.passEntry (thresholds : Thresholds) (entry : Entry) : Bool :=
  thresholds.pass entry.event.channel.name (levelRank entry.event.level)

@[simp] theorem levelRank_debug : levelRank .debug = 10 := rfl

@[simp] theorem levelRank_error : levelRank .error = 40 := rfl

end Reporting

end ClassDiagram

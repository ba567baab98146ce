import ClassDiagram.Fault
import ClassDiagram.Table

/-!
# Registries of scalar types

Each database has a registry of the scalar types its entities may use.  Names
are looked up without regard to case and have one canonical form.
-/

namespace ClassDiagram

open Text (capitalize lower)

inductive Database where
  | sql
  | mongodb
  | cassandra
  deriving DecidableEq, Repr, Inhabited

namespace Database

def name : Database → String
  | .sql => "sql"
  | .mongodb => "mongodb"
  | .cassandra => "cassandra"

def ofName? : String → Option Database
  | "sql" => some .sql
  | "mongodb" => some .mongodb
  | "cassandra" => some .cassandra
  | _ => none

def typeNames : Database → List String
  | .sql | .mongodb =>
      ["String", "Integer", "Long", "BigDecimal", "Float", "Double", "Enum", "Boolean",
        "LocalDate", "ZonedDateTime", "Instant", "Duration", "UUID", "Blob", "AnyBlob",
        "ImageBlob", "TextBlob"]
  | .cassandra =>
      ["String", "Integer", "Long", "BigDecimal", "Float", "Double", "Boolean", "LocalDate",
        "Instant", "UUID", "Blob", "AnyBlob", "ImageBlob", "TextBlob"]

@[simp] theorem ofName?_name (database : Database) : ofName? database.name = some database := by
  cases database <;> rfl

end Database

structure Registry where
  database : Database
  types : Table String String
  deriving Inhabited

namespace Registry

/-- The entry for a type name: its lower case, and the name capitalized. -/
def entry (name : String) : String × String := (lower name, capitalize name)

/-- The registry of a list of names; of names that differ in case alone the last one counts. -/
def ofNames (database : Database) (names : List String) : Registry :=
  ⟨database, .ofList (names.map entry)⟩

def ofDatabase (database : Database) : Registry := ofNames database database.typeNames

def size (registry : Registry) : Nat := registry.types.size

def contains (registry : Registry) : Option String → Bool
  | none => false
  | some name => !name.isEmpty && registry.types.contains (lower (capitalize name))

def canonical (registry : Registry) (name : Option String) : Except Fault String :=
  match name with
  | some name =>
      if registry.contains (some name) then
        match registry.types.get? (lower name) with
        | some canonical => .ok canonical
        | none => .error (.unregistered (lower name))
      else .error (.ingest (.wrongType (.text name) .absent .absent))
  | none => .error (.ingest (.wrongType .absent .absent .absent))

def named (database : Option String) (names : List String) : Except Fault Registry :=
  match database.bind Database.ofName? with
  | some database => .ok (ofNames database names)
  | none => .error (.notADatabase database)

def forDatabase (database : Option String) : Except Fault Registry :=
  match database.bind Database.ofName? with
  | some database => .ok (ofDatabase database)
  | none => .error (.unknownDatabase database)

@[simp] theorem contains_none (registry : Registry) : registry.contains none = false := rfl

@[simp] theorem canonical_none (registry : Registry) :
    registry.canonical none = .error (.ingest (.wrongType .absent .absent .absent)) := rfl

end Registry

end ClassDiagram

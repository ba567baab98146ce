import ClassDiagram.Registry
import ClassDiagram.Store

/-!
# The journal

Everything worth telling about an ingestion is an event.  An event has a
level, a channel that it is told on, and a wording; inside a stage it is told
together with the document and the stage.
-/

namespace ClassDiagram

open Text (quoted quoted? plain? truthWord)

inductive Level where
  | debug
  | info
  | warning
  | error
  deriving DecidableEq, Repr, Inhabited

def Level.name : Level → String
  | .debug => "DEBUG"
  | .info => "INFO"
  | .warning => "WARNING"
  | .error => "ERROR"

inductive Channel where
  | environment
  | settings
  | loading
  | opening
  | parsing
  | indexing
  | typing
  | classes
  | associations
  | enumerations
  deriving DecidableEq, Repr, Inhabited

def Channel.name : Channel → String
  | .environment => "uml_ingest.core.env_utils"
  | .settings => "uml_ingest.core.config"
  | .loading => "uml_ingest.services.document_loader"
  | .opening => "uml_ingest.services.parser_factory"
  | .parsing => "uml_ingest.services.domain.xmi.genmymodel_parser"
  | .indexing => "uml_ingest.services.domain.xmi.indexer"
  | .typing => "uml_ingest.services.domain.xmi.type_resolver"
  | .classes => "uml_ingest.services.domain.xmi.class_builder"
  | .associations => "uml_ingest.services.domain.xmi.association_builder"
  | .enumerations => "uml_ingest.services.domain.xmi.enum_builder"

inductive Stage where
  | index
  | types
  | classes
  | associations
  | enumerations
  deriving DecidableEq, Repr, Inhabited

def Stage.name : Stage → String
  | .index => "find_elements"
  | .types => "fill_types"
  | .classes => "fill_classes_and_fields"
  | .associations => "fill_associations"
  | .enumerations => "fill_enums"

def Stage.all : List Stage := [.index, .types, .classes, .associations, .enumerations]

structure Tally where
  elements : Nat
  classes : Nat
  types : Nat
  associations : Nat
  enumerations : Nat
  skipped : Nat
  deriving DecidableEq, Repr

inductive Event where
  | variableStripped (key value : String)
  | variableUnclear (key value : String) (usual : Option Bool)
  | levelUnknown (level : String)
  | loading (path : String)
  | opened (editor : String) (document : Option String)
  | started (database : Database)
  | alreadyDone
  | finished (summary : Store.Summary)
  | stageCompleted (stage : Stage)
  | stageFailed (stage : Stage) (cause : IngestFault)
  | elementSkipped (position : Nat) (declared : Option String)
  | indexed (tally : Tally)
  | typeUnsupported (name : Option String) (database : Database)
  | typeRegistered (id name : String)
  | typeInferred (name : String) (field : Option String)
  | classAdded (name id : String)
  | fieldAdded (name type owner : String)
  | boundUnreadable (bound : String) (side : Option String)
  | endClassUnknown (association owner : Option String)
  | endUnlisted (side : Option String) (owner : String) (association : Option String)
  | associationAdded (association : Association)
  | enumerationUnnamed (id : Option String)
  | literalUnnamed (enumeration : String)
  | enumerationAdded (name : String) (count : Nat)
  deriving DecidableEq, Repr

namespace Event

def level : Event → Level
  | .variableStripped _ _ | .variableUnclear _ _ _ | .levelUnknown _ | .boundUnreadable _ _ =>
      .warning
  | .loading _ | .opened _ _ | .started _ | .finished _ | .stageCompleted _ | .indexed _ => .info
  | .stageFailed _ _ | .typeUnsupported _ _ | .endClassUnknown _ _ | .endUnlisted _ _ _
  | .enumerationUnnamed _ | .literalUnnamed _ => .error
  | .alreadyDone | .elementSkipped _ _ | .typeRegistered _ _ | .typeInferred _ _
  | .classAdded _ _ | .fieldAdded _ _ _ | .associationAdded _ | .enumerationAdded _ _ => .debug

def channel : Event → Channel
  | .variableStripped _ _ | .variableUnclear _ _ _ => .environment
  | .levelUnknown _ => .settings
  | .loading _ => .loading
  | .opened _ _ => .opening
  | .started _ | .alreadyDone | .finished _ | .stageCompleted _ | .stageFailed _ _ => .parsing
  | .elementSkipped _ _ | .indexed _ => .indexing
  | .typeUnsupported _ _ | .typeRegistered _ _ | .typeInferred _ _ => .typing
  | .classAdded _ _ | .fieldAdded _ _ _ => .classes
  | .boundUnreadable _ _ | .endClassUnknown _ _ | .endUnlisted _ _ _ | .associationAdded _ =>
      .associations
  | .enumerationUnnamed _ | .literalUnnamed _ | .enumerationAdded _ _ => .enumerations

def summaryText (summary : Store.Summary) : String :=
  "\x7b'classes': " ++ toString summary.classes ++ ", 'fields': " ++ toString summary.fields ++
    ", 'types': " ++ toString summary.types ++ ", 'associations': " ++
    toString summary.associations ++ ", 'enums': " ++ toString summary.enumerations ++ "\x7d"

def message : Event → String
  | .variableStripped key value =>
      "Stripped whitespace from environment variable " ++ key ++ ": " ++ quoted value
  | .variableUnclear key value usual =>
      "Environment variable " ++ key ++ " has unexpected boolean value: " ++ quoted value ++
        ". Using default: " ++ plain? (usual.map truthWord)
  | .levelUnknown level => "Unknown log level " ++ quoted level ++ ", using INFO"
  | .loading path => "Loading XMI document " ++ path
  | .opened editor document =>
      "Created " ++ editor ++ " parser for " ++
        (if Text.isPresent document then plain? document else "in-memory document")
  | .started database => "Starting XMI parsing for " ++ database.name ++ " database"
  | .alreadyDone => "Document already parsed"
  | .finished summary => "Parsed " ++ summaryText summary
  | .stageCompleted stage => "Completed " ++ stage.name
  | .stageFailed stage cause =>
      "XMI parsing failed during " ++ stage.name ++ ": " ++ cause.message
  | .elementSkipped position declared =>
      "Skipping element " ++ toString position ++ " of unknown kind " ++ quoted? declared
  | .indexed tally =>
      "Indexed " ++ toString tally.elements ++ " elements: " ++ toString tally.classes ++
        " classes, " ++ toString tally.types ++ " types, " ++ toString tally.associations ++
        " associations, " ++ toString tally.enumerations ++ " enumerations, " ++
        toString tally.skipped ++ " skipped"
  | .typeUnsupported name database =>
      "Type '" ++ plain? name ++ "' is not supported by the " ++ database.name ++ " registry"
  | .typeRegistered id name => "Registered type " ++ id ++ " as " ++ name
  | .typeInferred name field =>
      "Inferred undeclared type " ++ name ++ " from field " ++ plain? field
  | .classAdded name id => "Added class " ++ name ++ " (" ++ id ++ ")"
  | .fieldAdded name type owner =>
      "Added field " ++ name ++ " of type " ++ type ++ " to class " ++ owner
  | .boundUnreadable bound side =>
      "Unreadable upper bound " ++ quoted bound ++ " on end " ++ plain? side ++ ", assuming 1"
  | .endClassUnknown association owner =>
      "Association " ++ plain? association ++ " references unknown class " ++ quoted? owner
  | .endUnlisted side owner association =>
      "Attribute " ++ plain? side ++ " of class " ++ owner ++ " is an end of association " ++
        quoted? association ++ ", which does not list it"
  | .associationAdded association =>
      "Added " ++ association.cardinality.name ++ " association " ++ association.id ++ ": " ++
        association.sourceId ++ " -> " ++ association.destinationId
  | .enumerationUnnamed id => "Enumeration " ++ plain? id ++ " has no name"
  | .literalUnnamed enumeration => "A literal of enumeration " ++ enumeration ++ " has no name"
  | .enumerationAdded name count =>
      "Added enumeration " ++ name ++ " with " ++ toString count ++ " values"

end Event

structure Place where
  document : String
  stage : String
  deriving DecidableEq, Repr

structure Entry where
  event : Event
  place : Option Place
  deriving DecidableEq, Repr

abbrev Journal := List Entry

def Journal.ofEvents (events : List Event) : Journal := events.map (⟨·, none⟩)

end ClassDiagram

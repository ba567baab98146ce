import ClassDiagram.Entity
import ClassDiagram.Remark

/-!
# What can go wrong

An ingestion fault says that a document cannot be turned into entities, and
makes the store that was being filled unusable.  All other faults leave the
store as it is.
-/

namespace ClassDiagram

open Text (quoted quoted?)

inductive IngestFault where
  | general (remarks : List Remark)
  | unreadable (remarks : List Remark)
  | unsupportedEditor (remarks : List Remark)
  | unknownKind (declared position : Remark)
  | wrongType (name field owner : Remark)
  | nameMissing (what element : Remark)
  | unresolved (reference kind referrer : Remark)
  | invalidData (cause : IngestFault)
  /-- The data cannot be used, for something that is no fault. -/
  | invalidRemark (cause : Remark)
  deriving DecidableEq, Repr, Inhabited

inductive IngestKind where
  | general
  | unreadable
  | unsupportedEditor
  | unknownKind
  | wrongType
  | nameMissing
  | unresolved
  | invalidData
  deriving DecidableEq, Repr, Inhabited

namespace IngestKind

def label : IngestKind → String
  | .general => "ModelParseError"
  | .unreadable => "DocumentLoadError"
  | .unsupportedEditor => "UnsupportedEditorError"
  | .unknownKind => "UnknownElementKindError"
  | .wrongType => "WrongTypeException"
  | .nameMissing => "NullPointerException"
  | .unresolved => "UnresolvedReferenceException"
  | .invalidData => "InvalidModelError"

def ofLabel? : String → Option IngestKind
  | "ModelParseError" => some .general
  | "DocumentLoadError" => some .unreadable
  | "UnsupportedEditorError" => some .unsupportedEditor
  | "UnknownElementKindError" => some .unknownKind
  | "WrongTypeException" => some .wrongType
  | "NullPointerException" => some .nameMissing
  | "UnresolvedReferenceException" => some .unresolved
  | "InvalidModelError" => some .invalidData
  | _ => none

def required : IngestKind → List String
  | .general | .unreadable | .unsupportedEditor => []
  | .unknownKind => ["kind", "position"]
  | .wrongType => ["type_name"]
  | .nameMissing => ["what"]
  | .unresolved => ["reference", "kind"]
  | .invalidData => ["cause"]

/-- How many remarks more a fault of a kind may be told with. -/
def spare : IngestKind → Nat
  | .wrongType => 2
  | .nameMissing | .unresolved => 1
  | _ => 0

@[simp] theorem ofLabel?_label (kind : IngestKind) : ofLabel? kind.label = some kind := by
  cases kind <;> rfl

end IngestKind

namespace IngestFault

def kind : IngestFault → IngestKind
  | .general _ => .general
  | .unreadable _ => .unreadable
  | .unsupportedEditor _ => .unsupportedEditor
  | .unknownKind _ _ => .unknownKind
  | .wrongType _ _ _ => .wrongType
  | .nameMissing _ _ => .nameMissing
  | .unresolved _ _ _ => .unresolved
  | .invalidData _ | .invalidRemark _ => .invalidData

def unusable : String := "Parsed data is unusable, ingestion failed: "

def message : IngestFault → String
  | .general remarks | .unreadable remarks | .unsupportedEditor remarks => Remark.saying remarks
  | .unknownKind declared position =>
      "Unknown element kind " ++ declared.spelled ++ " at position " ++ position.plain
  | .wrongType name field owner =>
      "The type '" ++ name.plain ++ "' is not supported by the selected database" ++
        (if field.isPresent then
          " (field '" ++ field.plain ++ "'" ++
            (if owner.isPresent then " of class '" ++ owner.plain ++ "')" else ")")
        else "")
  | .nameMissing what element =>
      "The " ++ what.plain ++ " must have a name" ++
        (if element.isPresent then " (element '" ++ element.plain ++ "')" else "")
  | .unresolved reference kind referrer =>
      "No " ++ kind.plain ++ " with id '" ++ reference.plain ++ "'" ++
        (if referrer.isPresent then " (referenced by '" ++ referrer.plain ++ "')" else "")
  | .invalidData cause => unusable ++ cause.message
  | .invalidRemark cause => unusable ++ cause.plain

/-- What a fault is told with: its remarks, or its wording if it has one of its own. -/
def remarks : IngestFault → List Remark
  | .general remarks | .unreadable remarks | .unsupportedEditor remarks => remarks
  | fault => [.text fault.message]

def toRemark (fault : IngestFault) : Remark :=
  .fault fault.message (fault.kind.label ++ "(" ++ Remark.spelledAll fault.remarks ++ ")")

end IngestFault

inductive Fault where
  | ingest (cause : IngestFault)
  | invalidEntity (kind : EntityKind) (defects : List Defect)
  | unregistered (key : String)
  | frozen
  | brokenName
  | notADatabase (name : Option String)
  | unknownDatabase (name : Option String)
  | nothingToLoad
  | unknownEncoding (name : String)
  | multibyteEncoding
  | notAnEncoding (name : String)
  | undecodable (name reason : String)
  | beyondAscii (byte position : Nat)
  /-- A text holds surrogates in a row: the first of them, its position and their number. -/
  | surrogates (code position count : Nat)
  | nullInPath
  | absentText (use : String)
  | partTaken (name : String)
  | unknownLevel
  /-- An ingestion fault is told with too few remarks, or with too many. -/
  | remarkCount (kind : IngestKind) (given : Nat)
  deriving DecidableEq, Repr, Inhabited

def longestName : Nat := 400

/--
The wording of a wrong number of remarks, which counts the fault itself as one
of those that are taken and given.
-/
def remarkCountMessage (kind : IngestKind) (given : Nat) : String :=
  let least := kind.required.length + 1
  kind.label ++ ".__init__() " ++
    match kind.required.drop given with
    | [] =>
        "takes " ++ (if kind.spare = 0 then toString least
          else "from " ++ toString least ++ " to " ++ toString (least + kind.spare)) ++
          " positional arguments but " ++ toString (given + 1) ++ " were given"
    | missing =>
        "missing " ++ toString missing.length ++ " required positional argument" ++
          (if missing.length = 1 then "" else "s") ++ ": " ++
          " and ".intercalate (missing.map quoted)

/-- The wording of a fault; the defects of an entity have wordings of their own. -/
def Fault.message : Fault → String
  | .ingest cause => cause.message
  | .invalidEntity _ defects => ", ".intercalate (defects.map (·.flaw.message))
  | .unregistered key => quoted key
  | .frozen => "Parsed data is frozen and can no longer be modified"
  | .brokenName => "substring not found"
  | .notADatabase name => quoted? name ++ " is not a valid DatabaseType"
  | .unknownDatabase name =>
      "Unknown database type " ++ quoted? name ++ ", expected one of: sql, mongodb, cassandra"
  | .nothingToLoad => "Either a path or the document content is required"
  | .unknownEncoding name => "unknown encoding: " ++ name
  | .multibyteEncoding => "multi-byte encodings are not supported"
  | .notAnEncoding name =>
      "'" ++ String.ofList (name.toList.take longestName) ++ "' is not a text encoding; " ++
        "use codecs.decode() to handle arbitrary codecs"
  | .undecodable name reason =>
      "decoding with '" ++ name ++ "' codec failed (UnicodeError: " ++ reason ++ ")"
  | .beyondAscii byte position =>
      "'ascii' codec can't decode byte 0x" ++ String.ofList (Text.hexDigits 2 byte) ++
        " in position " ++ toString position ++ ": ordinal not in range(128)"
  | .surrogates code position count =>
      "'utf-8' codec can't encode character" ++
        (if count = 1 then
          " '\\u" ++ String.ofList (Text.hexDigits 4 code) ++ "' in position " ++ toString position
        else
          "s in position " ++ toString position ++ "-" ++ toString (position + count - 1)) ++
        ": surrogates not allowed"
  | .absentText use => "'NoneType' object has no attribute '" ++ use ++ "'"
  | .nullInPath => "embedded null byte"
  | .partTaken name => quoted ("Attempt to overwrite " ++ quoted name ++ " in LogRecord")
  | .unknownLevel => "Unable to configure logger ''"
  | .remarkCount kind given => remarkCountMessage kind given

def Fault.cause? : Fault → Option IngestFault
  | .ingest cause => some cause
  | _ => none

inductive Argument where
  | remark (remark : Remark)
  | fault (fault : IngestFault)
  deriving DecidableEq, Repr

def Argument.toRemark : Argument → Remark
  | .remark told => told
  | .fault inner => inner.toRemark

def Argument.toInvalid : Argument → IngestFault
  | .remark told => .invalidRemark told
  | .fault inner => .invalidData inner

def IngestFault.ofArguments (kind : IngestKind) (arguments : List Argument) :
    Except Fault IngestFault :=
  match kind, arguments.map Argument.toRemark, arguments with
  | .general, remarks, _ => .ok (.general remarks)
  | .unreadable, remarks, _ => .ok (.unreadable remarks)
  | .unsupportedEditor, remarks, _ => .ok (.unsupportedEditor remarks)
  | .unknownKind, [declared, position], _ => .ok (.unknownKind declared position)
  | .wrongType, [name], _ => .ok (.wrongType name .absent .absent)
  | .wrongType, [name, field], _ => .ok (.wrongType name field .absent)
  | .wrongType, [name, field, owner], _ => .ok (.wrongType name field owner)
  | .nameMissing, [what], _ => .ok (.nameMissing what .absent)
  | .nameMissing, [what, element], _ => .ok (.nameMissing what element)
  | .unresolved, [reference, kind], _ => .ok (.unresolved reference kind .absent)
  | .unresolved, [reference, kind, referrer], _ => .ok (.unresolved reference kind referrer)
  | .invalidData, _, [cause] => .ok cause.toInvalid
  | kind, _, arguments => .error (.remarkCount kind arguments.length)

def Check.orFault {α : Type} (kind : EntityKind) : Check α → Except Fault α
  | .ok value => .ok value
  | .error defects => .error (.invalidEntity kind defects)

@[simp] theorem orFault_ok {α : Type} (kind : EntityKind) (value : α) :
    Check.orFault kind (.ok value) = .ok value := rfl

@[simp] theorem orFault_error {α : Type} (kind : EntityKind) (defects : List Defect) :
    Check.orFault kind (.error defects : Check α) = .error (.invalidEntity kind defects) := rfl

end ClassDiagram

import ClassDiagram.Lookup
import ClassDiagram.Journal
import ClassDiagram.Path
import ClassDiagram.Xml.Source

/-!
# Loading documents

A document comes from a file or from memory, and a library reads it.  Its model
is the root element, or the first child of the root that is one.
-/

namespace ClassDiagram

open Xml (Node Reader Source Refusal)

inductive Origin where
  | nowhere
  | memory (source : Source)
  /-- A file with its content, if it is there. -/
  | file (path : String) (content : Option (List UInt8))
  deriving DecidableEq, Repr

namespace Origin

def entityWording (name : String) (systemId publicId : Option String) : String :=
  "EntitiesForbidden(name='" ++ name ++ "', system_id=" ++ Text.quoted? systemId ++
    ", public_id=" ++ Text.quoted? publicId ++ ")"

def refusalFault : Refusal → Fault
  | .malformed => .ingest (.unreadable [.text "Invalid XML: not well-formed"])
  | .entityDeclared name systemId publicId =>
      .ingest (.unreadable
        [.text ("Forbidden XML construct: " ++ entityWording name systemId publicId)])
  | .unknownEncoding name => .unknownEncoding name
  | .multibyteEncoding => .multibyteEncoding
  | .notAnEncoding name => .notAnEncoding name
  | .undecodable name reason => .undecodable name reason
  | .beyondAscii byte position => .beyondAscii byte position
  | .surrogates code position count => .surrogates code position count

def blocked (path : String) (obstacle : Path.Obstacle) : Fault :=
  .ingest (.unreadable [.text ("Cannot read XMI document " ++ path ++ ": " ++ obstacle.text ++
    ": " ++ Text.quoted path)])

/-- The fault of a file that is not there; a path may not hold the null character. -/
def missingFile (path : String) : Fault :=
  if path.toList.contains '\x00' then .nullInPath else blocked path (Path.obstacle path)

def root (read : Reader) : Origin → Except Fault Node
  | .nowhere => .error .nothingToLoad
  | .memory source => (read source).mapError refusalFault
  | .file path none => .error (missingFile path)
  | .file path (some content) =>
      if Path.endsOpen path then .error (blocked path .notDirectory)
      else (read (.bytes content)).mapError refusalFault

def isModel (node : Node) : Bool := node.name?.bind (·.localPart?) = some "Model"

def notAModel (root : Node) : Fault :=
  .ingest (.unreadable [.text ("Root element is not a UML model: " ++
    (root.name?.map (·.toText)).getD "")])

/-- The model of a document: its root, or the first child of the root that is one. -/
def model (root : Node) : Except Fault Node :=
  if isModel root then .ok root
  else
    match firstOf (root.select "Model") with
    | .ok (some node) => .ok node
    | .ok none => .error (notAModel root)
    | .error fault => .error fault

def load (read : Reader) (origin : Origin) : Except Fault Node := do
  let root ← origin.root read
  model root

def events : Origin → List Event
  | .file path _ => [.loading path]
  | _ => []

def document? : Origin → Option String
  | .file path _ => some (Path.baseName path)
  | _ => none

end Origin

end ClassDiagram

import ClassDiagram.Ingestion
import ClassDiagram.Loading
import ClassDiagram.Settings

/-!
# Opening a document for ingestion

The editor that exported a document is recognised by its annotations.  Only
documents of one editor can be read; it leaves no mark of its own, so a
document without marks counts as one of its.
-/

namespace ClassDiagram

open Text (isPresent)
open Xml (Node Reader)

namespace Editor

def supported : String := "genmymodel"

def marks : List (String × String) :=
  [("Objing", "modelio"), ("http://www.obeo.fr/dsl/viewpoint", "umldesigner")]

def marked? (note : Node) : Option String :=
  let source := ((note.plain? "source").getD "").toList
  (marks.find? fun mark => occursIn mark.1.toList source).map Prod.snd

def detect (model : Node) : Except Fault String :=
  let annotations := model.select "eAnnotations"
  match annotations.found.findSome? marked? with
  | some editor => .ok editor
  | none => if annotations.cut then .error .brokenName else .ok supported

def unsupported (editor : String) : Fault :=
  .ingest (.unsupportedEditor [.text ("Documents exported by " ++ editor ++
    " are not supported (supported: " ++ supported ++ ")")])

end Editor

/-- What an ingestion is asked to go by; what is absent comes from the settings. -/
structure Wishes where
  database : Option String
  editor : Option String
  registry : Option Registry
  strict : Option Bool
  deriving Inhabited

namespace Ingestion

def presentOr (wish : Option String) (usual : String) : String :=
  (wish.filter (!·.isEmpty)).getD usual

def ofModel (settings : Settings) (wishes : Wishes) (document : Option String) (model : Node) :
    Except Fault Ingestion :=
  let name := presentOr wishes.database settings.database
  match Database.ofName? name with
  | none => .error (.notADatabase (some name))
  | some database =>
      .ok
        { model
          database
          registry := wishes.registry.getD (.ofDatabase database)
          strict := wishes.strict.getD settings.strict
          document := presentOr document ((model.plain? "name").getD "") }

def editorOf (wishes : Wishes) (model : Node) : Except Fault String :=
  match wishes.editor.filter (!·.isEmpty) with
  | some editor => .ok (Text.lower editor)
  | none => (Editor.detect model).map Text.lower

/-- Open a document for ingestion; also gives what there is to tell. -/
def «open» (read : Reader) (settings : Settings) (wishes : Wishes) (origin : Origin) :
    Except Fault Ingestion × List Event :=
  match origin.load read with
  | .error fault => (.error fault, origin.events)
  | .ok model =>
      match editorOf wishes model with
      | .error fault => (.error fault, origin.events)
      | .ok editor =>
          if editor = Editor.supported then
            (ofModel settings wishes origin.document? model,
              origin.events ++ [.opened editor origin.document?])
          else (.error (Editor.unsupported editor), origin.events)

end Ingestion

end ClassDiagram

/-!
# Paths of documents

A path is taken apart at its slashes; empty components and single dots lead
nowhere.  Beside a document stands nothing else, so a path alone tells why
nothing can be opened under it.
-/

namespace ClassDiagram.Path

def components (path : String) : List String :=
  (path.splitOn "/").filter fun part => part != "" && part != "."

def baseName (path : String) : String := (components path).getLast?.getD ""

def endsOpen (path : String) : Bool :=
  match (path.splitOn "/").getLast? with
  | some last => last = "" || last = "."
  | none => true

inductive Obstacle where
  | missing
  | notDirectory
  | directory
  | tooLong
  deriving DecidableEq, Repr

def Obstacle.text : Obstacle → String
  | .missing => "[Errno 2] No such file or directory"
  | .notDirectory => "[Errno 20] Not a directory"
  | .directory => "[Errno 21] Is a directory"
  | .tooLong => "[Errno 36] File name too long"

def longestPath : Nat := 4095

def longestComponent : Nat := 255

def obstacle (path : String) : Obstacle :=
  if path.isEmpty then .missing
  else if longestPath < path.utf8ByteSize then .tooLong
  else
    match (components path).dropWhile (· = "..") with
    | [] => .directory
    | first :: _ => if longestComponent < first.utf8ByteSize then .tooLong else .missing

@[simp] theorem obstacle_empty : obstacle "" = .missing := rfl

end ClassDiagram.Path

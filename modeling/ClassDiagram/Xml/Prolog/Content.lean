import ClassDiagram.Xml.Prolog.AttributeList

/-!
# Declarations of elements

The content that an element may have is empty, anything, text mixed with
elements, or a group of items.  A group uses one connector throughout.  The
declaration has to be well formed and has no further use.
-/

namespace ClassDiagram.Xml.Prolog

def afterMixed? : List Token → Option (List Token)
  | .closeGroup (some .repeated) :: rest => some rest
  | .bar :: .word _ :: rest => afterMixed? rest
  | .bar :: .label _ :: rest => afterMixed? rest
  | _ => none

def isItem : Token → Bool
  | .word _ | .label _ | .marked _ _ => true
  | _ => false

/--
The rest after the open groups of an element's content.  Each group holds the
connector it has used so far; `item` says that an item comes next.
-/
def afterGroups? (item : Bool) (groups : List (Option Token)) :
    List Token → Option (List Token)
  | [] => none
  | token :: rest =>
      if item then
        if token = .openGroup then afterGroups? true (none :: groups) rest
        else if isItem token then afterGroups? false groups rest
        else none
      else
        match token, groups with
        | .closeGroup _, [_] => some rest
        | .closeGroup _, _ :: outer => afterGroups? false outer rest
        | token, used :: outer =>
            if (token = .comma || token = .bar) && (used.isNone || used = some token) then
              afterGroups? true (some token :: outer) rest
            else none
        | _, [] => none

def afterContent? : List Token → Option (List Token)
  | .word "EMPTY" :: rest | .word "ANY" :: rest => some rest
  | .openGroup :: .keyword "PCDATA" :: rest =>
      match rest with
      | .closeGroup none :: rest => some rest
      | _ => afterMixed? rest
  | .openGroup :: rest => afterGroups? true [none] rest
  | _ => none

def elementDeclaration (rules : Rules) : List Token → Reading
  | name :: rest =>
      if (rawNameOf? name).isSome then
        match afterContent? rest with
        | some rest => closing rules rest
        | none => .error .malformed
      else .error .malformed
  | [] => .error .malformed

end ClassDiagram.Xml.Prolog

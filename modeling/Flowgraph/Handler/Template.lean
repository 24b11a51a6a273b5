import Flowgraph.Run.Context

/-!
# Message templates

A template is text with places for variables, each a name between braces.  It is cut into pieces
once, from left to right, and what is put into a place is not looked at again.
-/

namespace Flowgraph

namespace Template

/-- **A piece of a template.** -/
inductive Piece where
  /-- A character that stands for itself. -/
  | literal (c : Char)
  /-- A place for the variable of this name. -/
  | place (name : List Char)
  deriving DecidableEq, Repr

/-- A character that may stand in a name. -/
def isNameChar (c : Char) : Bool := c != '\x7b' && c != '\x7d'

/-- The name behind an opening brace and the text behind the closing one.  A name is not empty and
holds no brace. -/
def name? (cs : List Char) :
    Option (List Char × { rest : List Char // rest.length < cs.length }) :=
  match h : cs.dropWhile isNameChar with
  | '\x7d' :: rest =>
    let name := cs.takeWhile isNameChar
    if name.isEmpty then none
    else some (name, ⟨rest, by
      have := (List.dropWhile_suffix isNameChar (l := cs)).length_le
      simp only [h, List.length_cons] at this
      exact this⟩)
  | _ => none

/-- **The pieces of a template**, in order. -/
def pieces : List Char → List Piece
  | [] => []
  | '\x7b' :: rest =>
    match name? rest with
    | some (name, after) => .place name :: pieces after.1
    | none => .literal '\x7b' :: pieces rest
  | c :: rest => .literal c :: pieces rest
termination_by cs => cs.length
decreasing_by
  all_goals simp only [List.length_cons]
  · have := after.2; omega
  · omega
  · omega

/-- What a piece becomes: a place without a variable stays as it is. -/
def fill (bindings : Bindings) : Piece → List Char
  | .literal c => [c]
  | .place name =>
    match Json.lookup (String.ofList name) bindings with
    | some value => value.asText.toList
    | none => '\x7b' :: name ++ ['\x7d']

/-- **The text of a template** for the given bindings. -/
def render (template : String) (bindings : Bindings) : String :=
  String.ofList ((pieces template.toList).flatMap (fill bindings))

end Template

end Flowgraph

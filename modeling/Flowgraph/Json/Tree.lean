import Flowgraph.Json.Value

/-!
# Data before it is decoded

A `Tree` is data as it was written, before anything has been asked of it: members keep the order of
the text, a key may come twice, and the text may stop making sense half way.  Decoding walks a tree
in that order, so the first problem it meets is the first problem of the text, whether it is a
value of the wrong shape or the place where the text breaks off.
-/

namespace Flowgraph

/-- How a list or an object of a tree comes to its end. -/
inductive Tree.Closing where
  /-- It ends where it should, and items beyond those asked for are an error. -/
  | strict
  /-- It ends where it should, and items beyond those asked for are not looked at. -/
  | lenient
  /-- The text makes no sense after the last item. -/
  | broken
  deriving DecidableEq, Repr

/-- **Data as it was written.** -/
inductive Tree where
  | null
  | bool (b : Bool)
  | num (n : Number)
  /-- A number that is infinite or not a number. -/
  | special (x : Extended .double)
  | str (s : String)
  | arr (items : List Tree) (closing : Tree.Closing)
  | obj (members : List (String × Tree)) (closing : Tree.Closing)
  /-- Text in good form that stands for no value: a number too large, half a surrogate pair, or
  nesting beyond the limit. -/
  | unreadable
  /-- The text makes no sense here. -/
  | broken
  deriving Repr, Inhabited

namespace Tree

mutual

/-- The tree of a value: its members in the order of their keys. -/
def ofJson : Json → Tree
  | .null => .null
  | .bool b => .bool b
  | .num n => .num n
  | .str s => .str s
  | .arr items => .arr (ofItems items) .strict
  | .obj members => .obj (ofMembers members) .strict

/-- The trees of the items. -/
def ofItems : List Json → List Tree
  | [] => []
  | j :: rest => ofJson j :: ofItems rest

/-- The trees of the members. -/
def ofMembers : List (String × Json) → List (String × Tree)
  | [] => []
  | (k, j) :: rest => (k, ofJson j) :: ofMembers rest

end

mutual

/-- **Text in good form throughout**, whether or not every part stands for a value. -/
def isWhole : Tree → Bool
  | .broken => false
  | .arr items closing => closing != .broken && areWhole items
  | .obj members closing => closing != .broken && membersWhole members
  | _ => true

/-- Each item is in good form. -/
def areWhole : List Tree → Bool
  | [] => true
  | t :: rest => isWhole t && areWhole rest

/-- Each member's value is in good form. -/
def membersWhole : List (String × Tree) → Bool
  | [] => true
  | (_, t) :: rest => isWhole t && membersWhole rest

end

end Tree

end Flowgraph

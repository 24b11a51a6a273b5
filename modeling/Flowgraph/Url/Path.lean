import Flowgraph.Url.Basic

/-!
# Paths of addresses

A path is a list of segments.  A segment of one dot leads nowhere, and one of two dots leads back.
`pathText` walks a path and gives the text of the place that it leads to.
-/

namespace Flowgraph.Url

/-- A character between segments. -/
def isSlash (special : Bool) (c : Char) : Bool := c = '/' || (special && c = '\\')

/-- A character behind a path. -/
def endsPath (c : Char) : Bool := c = '?' || c = '#'

/-- The segments of a path. -/
def segments (special : Bool) : List Char → List (List Char)
  | [] => [[]]
  | c :: rest =>
    if isSlash special c then [] :: segments special rest
    else
      match segments special rest with
      | s :: more => (c :: s) :: more
      | [] => [[c]]

/-- A segment with the dots at its start not escaped. -/
def plainDots : List Char → List Char
  | '%' :: '2' :: 'e' :: rest | '%' :: '2' :: 'E' :: rest | '.' :: rest => '.' :: plainDots rest
  | cs => cs

/-- The segment leads nowhere. -/
def isHere (segment : List Char) : Bool := plainDots segment = ['.']

/-- The segment leads back. -/
def isBack (segment : List Char) : Bool := plainDots segment = ['.', '.']

/-- A drive of files: a letter and a colon, for which a bar may stand. -/
def drive? : List Char → Option String
  | [letter, mark] =>
    if letter.isAlpha && (mark = ':' || mark = '|') then some (String.ofList [letter, ':'])
    else none
  | _ => none

/-- The segment is a drive, and is written as one. -/
def isDrive (segment : String) : Bool := drive? segment.toList = some segment

/-- The place without its last segment.  One cannot go back from a drive. -/
def back (files : Bool) (place : List String) : List String :=
  match place.filter (· != "") with
  | [drive] => if files && isDrive drive then place else place.dropLast
  | _ => place.dropLast

/-- What a segment leads to from a place; the first one of a file may be a drive. -/
def next (files : Bool) (place : List String) (segment : List Char) : String :=
  (if files && place.all (· = "") then drive? segment else none).getD
    (escaped isEscapedInPath segment)

/-- **Follows a path** from a place.  A path that ends with dots leads to a directory. -/
def walk (files : Bool) (place : List String) : List (List Char) → List String
  | [] => place
  | s :: rest =>
    let directory := if rest.isEmpty then [""] else []
    let place :=
      if isBack s then back files place ++ directory
      else if isHere s then place ++ directory
      else place ++ [next files place s]
    walk files place rest

/-- The text of a place. -/
def placeText (place : List String) : String := String.join (place.map ("/" ++ ·))

/-- The path in front of a query or a fragment, and the rest. -/
def splitPath (cs : List Char) : List Char × List Char := cs.span fun c => !endsPath c

/-- A text without its first slash. -/
def withoutSlash (special : Bool) : List Char → List Char
  | c :: rest => if isSlash special c then rest else c :: rest
  | [] => []

/-- **The text of the place that a path leads to.** -/
def pathText (special : Bool) (path : List Char) : String :=
  placeText (walk false [] (segments special (withoutSlash special path)))

/-- The place of a file. -/
def filePlace (path : List Char) : List String := walk true [] (segments true path)

/-- The place is on a drive. -/
def isOnDrive (place : List String) : Bool := (place.find? (· != "")).any isDrive

/-- The text of the place of a file, where slashes at the start do not count. -/
def fileText (place : List String) : String :=
  "/" ++ ((placeText place).dropWhile (· = '/')).toString

end Flowgraph.Url

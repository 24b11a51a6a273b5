/-!
# Media types

Whether the content of a request is announced as data: as `application/json`, or as an application
type whose suffix is `json`, with or without parameters.
-/

namespace Flowgraph

namespace MediaType

/-- A character that a name in a media type may hold. -/
def isTokenChar (c : Char) : Bool := c.isAlphanum || "!#$%&'*+-.^_\u0060|~".toList.contains c

/-- A character that may stand between quotes. -/
def isQuotedChar (c : Char) : Bool := ' ' ≤ c && c.toNat < 127

/-- What follows a value between quotes whose opening quote has been read.  A quote right behind the
opening one is part of the value. -/
def afterQuoted? : List Char → Option (List Char)
  | [] => none
  | c :: rest =>
    let value := rest.takeWhile fun d => isQuotedChar d && d != '"'
    match rest.drop value.length with
    | '"' :: after => if isQuotedChar c then some after else none
    | _ => none

/-- The text is a list of parameters, as it follows a semicolon.  At most `left` are read. -/
def areParameters : (left : Nat) → List Char → Bool
  | 0, cs => cs.isEmpty
  | left + 1, cs =>
    match cs.dropWhile (· = ' ') with
    | [] => true
    | cs =>
      let name := cs.takeWhile isTokenChar
      match name, cs.drop name.length with
      | _ :: _, '=' :: '"' :: rest =>
        match (afterQuoted? rest).map (·.dropWhile (· = ' ')) with
        | some [] => true
        | some (';' :: rest) => areParameters left rest
        | _ => false
      | _ :: _, '=' :: rest =>
        match rest.dropWhile isTokenChar with
        | [] => true
        | ';' :: after => after.length + 1 < rest.length && areParameters left after
        | _ => false
      | _, _ => false

/-- A subtype is cut at its last plus, if something stands before it: the stem and the suffix. -/
def stemAndSuffix (sub : List Char) : List Char × Option (List Char) :=
  let suffix := (sub.reverse.takeWhile (· != '+')).reverse
  if suffix.length + 1 < sub.length then
    (sub.take (sub.length - suffix.length - 1), some suffix)
  else (sub, none)

/-- **The media type is one of data.** -/
def isData (s : String) : Bool :=
  let cs := s.toList.map Char.toLower
  let top := cs.takeWhile fun c => isTokenChar c
  match cs.drop top.length with
  | '/' :: rest =>
    let sub := rest.takeWhile isTokenChar
    let parameters :=
      match rest.drop sub.length with
      | [] => true
      | ';' :: after => areParameters after.length after
      | _ => false
    let (stem, suffix) := stemAndSuffix sub
    let json := "json".toList
    top == "application".toList && parameters && (stem == json || suffix == some json)
  | _ => false

end MediaType

end Flowgraph

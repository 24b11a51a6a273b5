import Flowgraph.Text.Percent

/-!
# Addresses of requests

An address is a path and a query, perhaps behind a scheme and a host.  Path and query may hold
percent escapes.
-/

namespace Flowgraph

namespace Address

/-- A part of a path with its escapes undone, if the bytes are a text. -/
def decode? (part : String) : Option String := Text.unescaped? part

/-- A character of the name of a scheme. -/
def isSchemeChar (c : Char) : Bool := c.isAlphanum || c = '+' || c = '-' || c = '.'

/-- An address without the scheme and the host that it may name. -/
def withoutHost (address : String) : List Char :=
  match address.toList.dropWhile isSchemeChar with
  | ':' :: '/' :: '/' :: rest =>
    match rest.dropWhile fun c => !(c = '/' || c = '?' || c = '#') with
    | '/' :: rest => '/' :: rest
    | rest => '/' :: rest
  | _ => address.toList

/-- The path of an address: all before a query or a fragment. -/
def path (address : String) : String :=
  String.ofList ((withoutHost address).takeWhile fun c => c != '?' && c != '#')

/-- The query of an address: what is between a question mark and a fragment. -/
def query (address : String) : String :=
  String.ofList
    ((((withoutHost address).takeWhile (· != '#')).dropWhile (· != '?')).drop 1)

/-- What stands for bytes that are no text. -/
def replacement : String := "\uFFFD"

/-- A name or a value of a query: a plus stands for a blank. -/
def queryText (part : List Char) : String :=
  let spaced := String.ofList (part.map fun c => if c = '+' then ' ' else c)
  (decode? spaced).getD replacement

/-- **The names and values of a query**, in order.  A name without a value has the empty one. -/
def pairs (query : String) : List (String × String) :=
  let parts := ((query.splitOn "&").map String.toList).filter fun p => !p.isEmpty
  parts.map fun p =>
    (queryText (p.takeWhile (· != '=')), queryText ((p.dropWhile (· != '=')).drop 1))

end Address

end Flowgraph

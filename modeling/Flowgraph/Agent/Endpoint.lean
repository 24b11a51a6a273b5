import Flowgraph.Url.Reader

/-!
# Addresses of models

Requests to a model go to an address of the web, whose scheme is `http` or `https`.  Who asks is not
part of the address that they go to.  `Endpoint.read` gives this address, or what is said when there
is none, and `Endpoint.isRequestable` tells whether a request can be made for it.
-/

namespace Flowgraph.Endpoint

/-- The schemes of requests. -/
def schemes : List String := ["http", "https"]

/-- How many bytes the address of a request may have. -/
def maxSize : Nat := 65534

/-- What is said when no request can be made. -/
def refusal : String := "builder error"

/-- What is said when no request can be made for an address. -/
def refusalFor (u : Url) : String := refusal ++ " for url (" ++ u.toString ++ ")"

/-- **The address that a text gives**; it has a host. -/
def read (text : String) : Except String Url :=
  match Url.read? text with
  | none => .error refusal
  | some u => if u.host?.isSome then .ok u.withoutUser else .error (refusalFor u)

/-- The host can stand in a request. -/
def isHostText : Url.Host → Bool
  | .name text => !text.toList.any fun c => "\"`\x7b\x7d".toList.contains c
  | _ => true

/-- **A request can be made for the address.** -/
def isRequestable (u : Url) : Bool :=
  schemes.contains u.scheme && u.host?.all isHostText && u.toString.utf8ByteSize ≤ maxSize

end Flowgraph.Endpoint

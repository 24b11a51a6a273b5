import Flowgraph.Text.Percent
import Flowgraph.Url.Ip

/-!
# Addresses of the web

An address has a scheme, and then either a host with a path below it, or a path alone.  The parts
are kept as they are written: what a part may not hold has been escaped, and so `Url.toString` only
puts the parts together.
-/

namespace Flowgraph

namespace Url

/-- **What an address leads to.** -/
inductive Host where
  | name (text : String)
  | ip4 (number : Nat)
  | ip6 (groups : List Nat)
  deriving DecidableEq, Repr

/-- The text of a host. -/
def Host.toString : Host → String
  | .name text => text
  | .ip4 number => ip4Text number
  | .ip6 groups => "[" ++ ip6Text groups ++ "]"

/-- **The host of an address**, who asks it, and where. -/
structure Authority where
  user : String
  password : Option String
  /-- Some schemes do without a host. -/
  host : Option Host
  /-- Nothing for the usual port of the scheme. -/
  port : Option Nat
  deriving DecidableEq, Repr

namespace Authority

/-- Nothing at all. -/
def empty : Authority := ⟨"", none, none, none⟩

/-- The authority names who asks. -/
def hasUser (a : Authority) : Bool := a.user != "" || a.password.isSome

/-- The text of an authority. -/
def toString (a : Authority) : String :=
  (if a.hasUser then a.user ++ a.password.elim "" (":" ++ ·) ++ "@" else "")
    ++ a.host.elim "" Host.toString ++ a.port.elim "" fun n => ":" ++ ToString.toString n

end Authority

end Url

/-- **An address of the web.** -/
structure Url where
  scheme : String
  authority : Option Url.Authority
  path : String
  query : Option String
  fragment : Option String
  deriving DecidableEq, Repr

namespace Url

/-- The host of an address. -/
def host? (u : Url) : Option Host := u.authority.bind Authority.host

/-- **The text of an address.**  A path that could be taken for a host is kept apart by a dot. -/
def toString (u : Url) : String :=
  u.scheme ++ ":"
    ++ (match u.authority with
      | some a => "//" ++ a.toString
      | none => if u.path.startsWith "//" then "/." else "")
    ++ u.path ++ u.query.elim "" ("?" ++ ·) ++ u.fragment.elim "" ("#" ++ ·)

/-- The text has its escapes undone to a text. -/
def isReadable (part : String) : Bool := (Text.unescaped? part).isSome

/-- The address without who asks, if that can be read. -/
def withoutUser (u : Url) : Url :=
  match u.authority with
  | some a =>
    if isReadable a.user && (a.user != "" || a.password.any isReadable) then
      { u with authority := some { a with user := "", password := none } }
    else u
  | none => u

/-! ### Schemes -/

/-- The schemes of the web, and the port that each of them uses. -/
def usualPorts : List (String × Nat) :=
  [("http", 80), ("https", 443), ("ws", 80), ("wss", 443), ("ftp", 21)]

/-- The usual port of a scheme. -/
def usualPort? (scheme : String) : Option Nat := usualPorts.lookup scheme

/-- The scheme of files. -/
def fileScheme : String := "file"

/-- A scheme whose addresses have a host and a path of directories. -/
def isSpecial (scheme : String) : Bool := (usualPort? scheme).isSome || scheme = fileScheme

/-! ### What is escaped -/

/-- A control, or a character that is not of ASCII. -/
def isOpaque (c : Char) : Bool := c.toNat < 0x20 || 0x7F ≤ c.toNat

/-- Escaped in a fragment. -/
def isEscapedInFragment (c : Char) : Bool := isOpaque c || " \"<>`".toList.contains c

/-- Escaped in a query; a special scheme escapes one more character. -/
def isEscapedInQuery (special : Bool) (c : Char) : Bool :=
  isOpaque c || " \"#<>".toList.contains c || (special && c = '\'')

/-- Escaped in a path. -/
def isEscapedInPath (c : Char) : Bool :=
  isEscapedInFragment c || "#?\x7b\x7d".toList.contains c

/-- Escaped in the name and the password of who asks. -/
def isEscapedInUser (c : Char) : Bool :=
  isEscapedInPath c || "/:;=@[\\]^|".toList.contains c

/-- A text with these characters escaped. -/
def escaped (isEscaped : Char → Bool) (cs : List Char) : String :=
  String.ofList (Text.percentEncode isEscaped cs)

end Url

end Flowgraph

import Flowgraph.Url.Name
import Flowgraph.Url.Path

/-!
# Reading addresses

`Url.read?` reads an address of the web as people write them: with blanks around it, with letters
and escapes of their own, with slashes of either kind.  What has been read is written in one way
only, so addresses that mean the same become equal.
-/

namespace Flowgraph.Url

/-! ### Hosts -/

/-- A character that no host holds whose name is not looked up. -/
def isForbidden (c : Char) : Bool := "\x00\t\n\r #/:<>?@[\\]^|".toList.contains c

/-- A number between brackets. -/
def bracketed? : List Char → Option (List Char)
  | '[' :: rest => if rest.getLast? = some ']' then some rest.dropLast else none
  | _ => none

/-- Reads the host of a special scheme: a number, or a name in which bytes may be escaped. -/
def lookedUp? (cs : List Char) : Option Host := do
  let name ← Name.ascii? (← Text.unescaped? (String.ofList cs)).toList
  if name = "" then none
  else if endsInNumber name.toList then (ip4? name.toList).map .ip4
  else some (.name name)

/-- **Reads a host**, unless there is none. -/
def readHost? (special : Bool) (cs : List Char) : Option Host :=
  if cs.head? = some '[' then ((bracketed? cs).bind ip6?).map .ip6
  else if special then lookedUp? cs
  else if cs.any isForbidden then none
  else some (.name (escaped isOpaque cs))

/-! ### Authorities -/

/-- A character behind an authority. -/
def endsAuthority (special : Bool) (c : Char) : Bool := isSlash special c || endsPath c

/-- The host at the start of a text, and the rest; in brackets a colon is part of the host. -/
def splitHost (special inside : Bool) : List Char → List Char × List Char
  | [] => ([], [])
  | c :: rest =>
    if endsAuthority special c || (c = ':' && !inside) then ([], c :: rest)
    else
      let (host, rest) := splitHost special (c = '[' || (inside && c != ']')) rest
      (c :: host, rest)

/-- Reads the name and the password in front of an at sign. -/
def readUser (cs : List Char) : Authority :=
  let user := cs.takeWhile (· != ':')
  let password := cs.drop (user.length + 1)
  { Authority.empty with
    user := escaped isEscapedInUser user
    password := if password.isEmpty then none else some (escaped isEscapedInUser password) }

/-- Who asks, and the text of the host and what follows it.  The last at sign counts.  If nothing
stands in front of it, then the host must stand behind it. -/
def splitUser? (special : Bool) (cs : List Char) : Option (Authority × List Char) :=
  let text := cs.takeWhile fun c => !endsAuthority special c
  if text.contains '@' then
    let behind := (text.reverse.takeWhile (· != '@')).reverse
    let user := text.take (text.length - behind.length - 1)
    let rest := cs.drop (user.length + 1)
    if user.isEmpty && behind.isEmpty && !rest.isEmpty then none
    else some (readUser user, rest)
  else some (.empty, cs)

/-- Reads a port, which need not have digits.  The usual port of the scheme is left out. -/
def readPort? (scheme : String) (digits : List Char) : Option (Option Nat) := do
  let port ← (numberIn? 10 digits).filter (· < 65536)
  return if digits.isEmpty || usualPort? scheme = some port then none else some port

/-- Reads what stands behind a host: perhaps a port, and the path. -/
def splitPort? (scheme : String) : List Char → Option (Option Nat × List Char)
  | ':' :: rest => do
    let digits := rest.takeWhile Char.isDigit
    let port ← readPort? scheme digits
    let rest := rest.drop digits.length
    if rest.head?.all (endsAuthority true) then some (port, rest) else none
  | rest => some (none, rest)

/-- **Reads an authority**, and gives the text behind it.  Special schemes do not go without a
host, nor does a port or the name of who asks. -/
def readAuthority? (scheme : String) (cs : List Char) : Option (Authority × List Char) := do
  let special := isSpecial scheme
  let (who, rest) ← splitUser? special cs
  let (text, rest) := splitHost special false rest
  if text.isEmpty && (special || who.hasUser || rest.head? = some ':') then none
  let host ← if text.isEmpty then some none else (readHost? special text).map some
  let (port, rest) ← splitPort? scheme rest
  return ({ who with host, port }, rest)

/-! ### Addresses -/

/-- The address with the query and the fragment that a text begins with. -/
def withQuery (u : Url) (cs : List Char) : Url :=
  let query := (cs.takeWhile (· != '#'))
  let fragment := cs.drop query.length
  { u with
    query := if query.isEmpty then none
      else some (escaped (isEscapedInQuery (isSpecial u.scheme)) (query.drop 1))
    fragment := if fragment.isEmpty then none
      else some (escaped isEscapedInFragment (fragment.drop 1)) }

/-- The host of a file, if it is another machine, and the text of its path.  A drive is no host. -/
def fileHost? (cs : List Char) : Option (Option Host × List Char) :=
  let text := cs.takeWhile fun c => !endsAuthority true c
  if text.isEmpty || (drive? text).isSome then some (none, cs)
  else do
    let host ← readHost? true text
    return (if host = .name "localhost" then none else some host, cs.drop text.length)

/-- Reads the address of a file from what stands behind its scheme. -/
def readFile? (cs : List Char) : Option Url := do
  let (host, rest) ←
    match cs with
    | a :: b :: rest => if isSlash true a && isSlash true b then fileHost? rest else some (none, cs)
    | _ => some (none, cs)
  let (path, rest) := splitPath rest
  let place := filePlace path
  let host := if isOnDrive place then none else host
  return withQuery ⟨fileScheme, some { Authority.empty with host }, fileText place, none, none⟩ rest

/-- Reads an address with a host from what stands behind the two slashes. -/
def readHosted? (scheme : String) (cs : List Char) : Option Url := do
  let (authority, rest) ← readAuthority? scheme cs
  let (path, rest) := splitPath rest
  let text := if path.isEmpty && !isSpecial scheme then "" else pathText (isSpecial scheme) path
  return withQuery ⟨scheme, some authority, text, none, none⟩ rest

/-- Reads an address without a host. -/
def readHostless (scheme : String) (cs : List Char) : Url :=
  let (path, rest) := splitPath cs
  let text := if path.head? = some '/' then pathText false path else escaped isOpaque path
  withQuery ⟨scheme, none, text, none, none⟩ rest

/-- A character that the name of a scheme may hold. -/
def isSchemeChar (c : Char) : Bool := c.isAlphanum || c = '+' || c = '-' || c = '.'

/-- The name of the scheme, in lower case, and the text behind its colon. -/
def splitScheme? (cs : List Char) : Option (String × List Char) :=
  let name := cs.takeWhile isSchemeChar
  match name.head?, cs.drop name.length with
  | some c, ':' :: rest =>
    if c.isAlpha then some (String.ofList (name.map Char.toLower), rest) else none
  | _, _ => none

/-- A control or a blank, which does not count at the ends of an address. -/
def isMargin (c : Char) : Bool := c.toNat ≤ 0x20

/-- The text without its margins, and without what breaks lines. -/
def trimmed (cs : List Char) : List Char :=
  let inner := ((cs.dropWhile isMargin).reverse.dropWhile isMargin).reverse
  inner.filter fun c => !(c = '\t' || c = '\n' || c = '\r')

/-- **Reads an address.** -/
def read? (text : String) : Option Url := do
  let (scheme, rest) ← splitScheme? (trimmed text.toList)
  if scheme = fileScheme then readFile? rest
  else if isSpecial scheme then readHosted? scheme (rest.dropWhile (isSlash true))
  else
    match rest with
    | '/' :: '/' :: rest => readHosted? scheme rest
    | rest => some (readHostless scheme rest)

end Flowgraph.Url

import Flowgraph.Text.Percent

/-!
# Addresses of stores

A store is kept in the file at a path, or in memory alone.  The path may be given as an address that
begins with `file:`; behind a question mark such an address has options that say how the store is
to be used.  `StoreAddress.read?` reads both.
-/

namespace Flowgraph

/-- **What a store may be opened for.** -/
inductive StoreAccess where
  /-- To be read only. -/
  | read
  /-- To be changed, if there is one. -/
  | change
  /-- To be changed, or made if there is none. -/
  | make
  /-- To be kept in memory alone. -/
  | memory
  deriving DecidableEq, Repr

namespace StoreAccess

/-- The access of this name. -/
def ofName? : String → Option StoreAccess
  | "ro" => some read
  | "rw" => some change
  | "rwc" => some make
  | "memory" => some memory
  | _ => none

/-- How much an access allows. -/
def rank : StoreAccess → Nat
  | read => 0
  | change => 1
  | make => 2
  | memory => 3

/-- The access may be asked for where another one was: it allows no more, or needs no file. -/
def isWithin (new old : StoreAccess) : Bool := new = memory || new.rank ≤ old.rank

end StoreAccess

/-- **Where a store is kept**, and how it is to be used. -/
structure StoreAddress where
  file : String
  access : StoreAccess
  /-- Nothing keeps others from the file, and so no log can lie beside it. -/
  unlocked : Bool
  /-- The file does not change while the store is open. -/
  frozen : Bool
  /-- A file that a new one is to be like. -/
  likeness : Option String
  deriving DecidableEq, Repr

namespace StoreAddress

/-- The address that is a path. -/
def ofPath (path : String) : StoreAddress := ⟨path, .make, false, false, none⟩

/-- The store is gone once it is closed. -/
def isFleeting (a : StoreAddress) : Bool :=
  a.access = .memory || a.file = "" || a.file = ":memory:"

/-! ### Options -/

/-- A part of an address with its escapes undone.  It ends where it has a byte that is zero. -/
def decode (part : String) : String :=
  (Text.ofBytes? ((Text.unescape (Text.bytes part)).takeWhile (· != 0))).getD part

/-- **The options of an address**, each with its value.  Those without a name do not count. -/
def options (text : String) : List (String × String) :=
  let parts := (text.splitOn "&").map fun part =>
    let cs := part.toList
    (decode (String.ofList (cs.takeWhile (· != '='))),
      decode (String.ofList ((cs.dropWhile (· != '=')).drop 1)))
  parts.filter fun option => option.1 != ""

/-- The value of an option says yes: with a word, or with a number whose last byte is not zero. -/
def isYes (value : String) : Bool :=
  let digits := value.toList.takeWhile Char.isDigit
  if digits.isEmpty then
    ["on", "yes", "true"].contains (String.ofList (value.toList.map Char.toLower))
  else
    let n := digits.foldl (fun n c => n * 10 + (c.toNat - '0'.toNat)) 0
    n < Nat.pow 2 31 && n % 256 != 0

/-- The first option of a name has a value that says yes. -/
def isSet (options : List (String × String)) (name : String) : Bool :=
  (options.find? (·.1 == name)).any fun option => isYes option.2

/-- The ways in which files are kept: those that lock a file for a log beside it, and those that
cannot. -/
def lockingWays : List String := ["unix", "unix-excl"]

/-- The ways in which files are kept without such locks. -/
def unlockedWays : List String := ["unix-none", "unix-dotfile"]

/-- The way that keeps nothing in a file. -/
def memoryWay : String := "memdb"

/-- The address with one more option, unless the option asks for something that does not exist. -/
def withOption? (a : StoreAddress) : String × String → Option StoreAddress
  | ("mode", value) => do
    let access ← StoreAccess.ofName? value
    if access.isWithin a.access then some { a with access } else none
  | ("cache", value) => if value = "shared" || value = "private" then some a else none
  | _ => some a

/-- The address kept in one of the ways, if there is such a way. -/
def keptIn? (a : StoreAddress) (way : String) : Option StoreAddress :=
  if lockingWays.contains way then some a
  else if unlockedWays.contains way then some { a with unlocked := true }
  else if way = memoryWay then
    some (if a.access = .read then { a with file := "" } else { a with access := .memory })
  else none

/-! ### Reading -/

/-- What stands behind the host of an address; the host is this machine, if one is named. -/
def behindHost? (text : String) : Option String :=
  match text.toList with
  | '/' :: '/' :: rest =>
    let host := rest.takeWhile (· != '/')
    if host.isEmpty || host = "localhost".toList then
      some (String.ofList (rest.drop host.length))
    else none
  | _ => some text

/-- Reads what stands behind the scheme of an address. -/
def readFile? (text : String) : Option StoreAddress := do
  let cs := (← behindHost? text).toList.takeWhile (· != '#')
  let file := decode (String.ofList (cs.takeWhile (· != '?')))
  let given := options (String.ofList ((cs.dropWhile (· != '?')).drop 1))
  let a ← given.foldlM withOption? (ofPath file)
  let a := { a with
    unlocked := isSet given "nolock"
    frozen := isSet given "immutable"
    likeness := (given.find? (·.1 == "modeof")).map (·.2) }
  match given.reverse.find? (·.1 == "vfs") with
  | some (_, way) => a.keptIn? way
  | none => some a

/-- **Reads an address**, which may be a path and nothing else.  No address holds the character
zero. -/
def read? (text : String) : Option StoreAddress :=
  if text.toList.contains '\x00' then none
  else if text.startsWith "file:" then readFile? (text.drop 5).toString
  else some (ofPath text)

end StoreAddress

end Flowgraph

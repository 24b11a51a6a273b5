import Flowgraph.CommandLine.Basic
import Flowgraph.CommandLine.Files
import Flowgraph.Session.World
import Flowgraph.Store.Address

/-!
# Hosts

A host is a place where the program is called: variables of an environment, files below a root, and
a clock.  `Host.run` answers the requests of a script there.  What a command stores is in the file
of its store for the commands that follow.
-/

namespace Flowgraph.CommandLine

/-- **How a store has been opened.** -/
structure Opened where
  /-- Its file, if it has one. -/
  place : Option Place
  /-- It may only be read. -/
  readOnly : Bool
  /-- Its changes go through a log beside the file. -/
  logged : Bool
  deriving DecidableEq, Repr

namespace Opened

/-- A store in memory. -/
def fleeting : Opened := ⟨none, false, false⟩

/-- A file that is new or has nothing in it becomes a store, if it may change. -/
def fresh? (a : StoreAddress) (place : Place) : Option (RowStore × Opened) :=
  if a.access = .read || a.frozen then none
  else some (.empty, ⟨some place, false, !a.unlocked⟩)

/-- **Opens the store in a file.**  A file of one byte counts as empty.  A store with a log beside
it cannot be opened without locks, unless nothing changes; and one without a log gets one where
there are locks, unless it may only be read. -/
def file? (a : StoreAddress) (place : Place) : Option Content → Option (RowStore × Opened)
  | none => if a.access = .make then fresh? a place else none
  | some (.text s) => if s.utf8ByteSize ≤ 1 then fresh? a place else none
  | some (.store rows logged) =>
    if a.frozen then some (rows, ⟨some place, true, logged⟩)
    else if logged && a.unlocked then none
    else if a.access = .read then
      if logged || a.unlocked then some (rows, ⟨some place, true, logged⟩) else none
    else some (rows.reopened, ⟨some place, false, !a.unlocked⟩)
  | some .bytes | some .directory => none

end Opened

/-- **A place where the program is called.** -/
structure Host where
  environment : Environment
  /-- The directory that a path begins at, unless it begins at the root. -/
  directory : Place
  files : Files
  /-- The store in use, the clock and the ids. -/
  world : World
  /-- How the store in use has been opened. -/
  opened : Opened

namespace Host

/-! ### Paths -/

/-- Where a path begins. -/
def beginning (h : Host) (path : String) : Place :=
  if path.startsWith "/" then [] else h.directory

/-- **What stands at a path.** -/
def contentAt? (h : Host) (path : String) : Option Content :=
  if path.isEmpty then none
  else (h.files.walk? (h.beginning path) (path.splitOn "/")).bind h.files.at?

/-! ### Stores -/

/-- Puts the store in use into its file. -/
def save (h : Host) : Host :=
  match h.opened.place, h.world.store with
  | some place, .rows rows => { h with files := h.files.put place (.store rows h.opened.logged) }
  | _, _ => h

/-- The host with another store in use. -/
def use (h : Host) (rows : RowStore) (opened : Opened) : Host :=
  { h with world := { h.world with store := .rows rows }, opened }.save

/-- Opens the store at an address.  A missing file that a store was to be made in is there
afterwards, even if the store is not. -/
def openAddress (h : Host) (a : StoreAddress) : Bool × Host :=
  if a.isFleeting then
    if a.access = .read then (false, h) else (true, h.use .empty .fleeting)
  else
    let place := (h.beginning a.file).ofParts (a.file.splitOn "/")
    let isLike := a.likeness.all fun path => (h.contentAt? path).isSome
    if place.isEmpty || !place.isNameable || !isLike || !h.files.hasDirectory place.dropLast then
      (false, h)
    else
      let content := h.files.at? place
      match Opened.file? a place content with
      | some (rows, opened) => (true, h.use rows opened)
      | none =>
        (false, if content.isNone && a.access = .make then
            { h with files := h.files.put place (.text "") }
          else h)

/-- **Opens a store**, and tells whether it could.  The directories that its path leads through are
made first. -/
def openStore (h : Host) (path : String) : Bool × Host :=
  match h.files.makeDirectories? (h.beginning path) (parentParts path) with
  | none => (false, h)
  | some files =>
    let h := { h with files }
    match StoreAddress.read? path with
    | some a => h.openAddress a
    | none => (false, h)

/-! ### Running -/

/-- The world of the host, some milliseconds later if the request is to wait. -/
def worldFor (h : Host) : Flowgraph.Request → World
  | .wait n => { h.world with time := h.world.time + n }
  | _ => h.world

/-- The answer to a request of an operation. -/
def operate (h : Host) (q : Flowgraph.Request) : q.Answer × Host :=
  let refusal? := if h.opened.readOnly then q.refusal? (.database .readOnly) else none
  match refusal? with
  | some a => (a, h)
  | none =>
    let (a, w) := (h.worldFor q).answer false q
    (a, { h with world := w }.save)

/-- **The answer to a request of a script.** -/
def answer (h : Host) : (q : Script.Request) → q.Answer × Host
  | .variable name => (h.environment name, h)
  | .pathExists path => ((h.contentAt? path).isSome, h)
  | .readText path =>
    (match h.contentAt? path with
      | some (.text s) => some s
      | _ => none, h)
  | .openStore path => h.openStore path
  | .operate q => h.operate q

/-- **Runs a script.** -/
def run {α : Type} : Interaction Script.Request Script.Request.Answer α → Host → α × Host
  | .done a, h => (a, h)
  | .ask q next, h =>
    let (a, h) := h.answer q
    run (next a) h

/-- Calls the program. -/
def call (h : Host) (arguments : List String) : Outcome × Host := run (program arguments) h

end Host

end Flowgraph.CommandLine

import Flowgraph.CommandLine.Basic
import Flowgraph.Session.World
import Flowgraph.Store.Address
import Flowgraph.Store.Text
import Std.Time.DateTime.Timestamp

/-!
# The program

Answers the requests of a script where the program is called: in the environment of the process, on
its files and by its clock.
-/

namespace Flowgraph.CommandLine

/-- **The store in use**, in a world of its own, and the file that it is kept in. -/
structure Open where
  file : Option String
  /-- The store may only be read. -/
  readOnly : Bool
  world : World

/-- The clock of the system. -/
def systemClock : IO Instant := do
  let nanos : Int := (← Std.Time.Timestamp.now).toNanosecondsSinceUnixEpoch.val
  return ⟨nanos / Instant.second, (nanos % Instant.second).toNat⟩

/-- Reads the text of a file, if it has one. -/
def textOf? (path : String) : IO (Option String) :=
  try return some (← IO.FS.readFile path) catch _ => return none

/-- Tells whether anything stands at a path. -/
def existsAt (path : String) : IO Bool := do
  let here ← IO.currentDir
  (here / path).pathExists

/-- The directory of a file. -/
def parentOf (path : String) : IO String := do
  let here ← IO.currentDir
  return ((here / path).parent.getD here).toString

/-- Reads the store that is kept in a file, a new one if there is no file and one may be made. -/
def readStore (a : StoreAddress) : IO (Option RowStore) := do
  if ← existsAt a.file then
    let fresh := if a.access = .read || a.frozen then none else some RowStore.empty
    return (← textOf? a.file).bind fun text =>
      if text.utf8ByteSize ≤ 1 then fresh else (RowStore.ofText? text).map RowStore.reopened
  else return if a.access = .make && !a.frozen then some .empty else none

/-- Keeps the store in use. -/
def keep (o : Open) : IO Unit :=
  match o.file, o.world.store with
  | some path, .rows rows => if o.readOnly then return () else IO.FS.writeFile path rows.text
  | _, _ => return ()

/-- Opens the store at an address, if it can be. -/
def openAddress (world : World) (a : StoreAddress) : IO (Option Open) := do
  if a.isFleeting then
    return if a.access = .read then none
      else some ⟨none, false, { world with store := .rows .empty }⟩
  else
    let isLike ← match a.likeness with
      | some path => existsAt path
      | none => pure true
    let rows? ← readStore a
    return if isLike then
        rows?.map fun rows =>
          ⟨some a.file, a.access = .read || a.frozen, { world with store := .rows rows }⟩
      else none

/-- Opens a store, in directories that are made if they are missing, and tells whether it could. -/
def openStore (ref : IO.Ref Open) (path : String) : IO Bool := do
  try
    IO.FS.createDirAll (← parentOf path)
    let o ← ref.get
    match StoreAddress.read? path with
    | none => return false
    | some a =>
      match ← openAddress o.world a with
      | none => return false
      | some o =>
        keep o
        ref.set o
        return true
  catch _ => return false

/-- Answers a request of an operation. -/
def operate (ref : IO.Ref Open) (q : Request) : IO q.Answer := do
  if let .wait n := q then IO.sleep (min n (Nat.pow 2 32 - 1)).toUInt32
  let o ← ref.get
  match if o.readOnly then q.refusal? (.database .readOnly) else none with
  | some answer => return answer
  | none =>
    let (answer, world) := { o.world with clock := ← systemClock }.answer false q
    let o : Open := { o with world }
    keep o
    ref.set o
    return answer

/-- **Answers a request of a script.** -/
def respond (ref : IO.Ref Open) : (q : Script.Request) → IO q.Answer
  | .variable name => IO.getEnv name
  | .pathExists path => existsAt path
  | .readText path => textOf? path
  | .openStore path => openStore ref path
  | .operate q => operate ref q

/-- Runs a script. -/
def execute {α : Type} (ref : IO.Ref Open) :
    Interaction Script.Request Script.Request.Answer α → IO α
  | .done a => return a
  | .ask q next => do execute ref (next (← respond ref q))

/-- Calls the program, says what there is to say and gives the code. -/
def call (arguments : List String) : IO UInt32 := do
  let made ← IO.rand 0 (Nat.pow 2 122)
  let world := { World.start (.rows .empty) (← systemClock) with made }
  let outcome ← execute (← IO.mkRef ⟨none, false, world⟩) (program arguments)
  for line in outcome.lines do IO.println line
  if let some text := outcome.complaint? then IO.eprintln text
  return outcome.code.toUInt32

end Flowgraph.CommandLine

/-- **The program**, called with the arguments of the process. -/
def main (arguments : List String) : IO UInt32 := Flowgraph.CommandLine.call arguments

import Flowgraph.Json.Tree

/-!
# Tables under construction

A settings file builds one table, line by line.  A header moves to a table, a line `key = value`
gives a member to the table that the last header moved to, and both may lead through further tables
that come to be on the way.  How a table came to be decides what may still be done with it:

* a table with a header of its own gets no second one, and dotted keys do not lead through it;
* a table that lies on the way to a header may still get its own;
* a table that dotted keys made takes members from dotted keys alone.
-/

namespace Flowgraph.Toml

/-- **How a table came to be.** -/
inductive Origin where
  /-- It has a header of its own, or is the whole file. -/
  | headed
  /-- It lies on the way to a table with a header. -/
  | passed
  /-- It lies on the way of a dotted key. -/
  | dotted
  deriving DecidableEq, Repr

/-- **What a key is bound to** in a table under construction. -/
inductive Entry where
  | value (t : Tree)
  | table (origin : Origin) (members : List (String × Entry))
  /-- A list of tables, each begun by a header of its own; the latest comes first. -/
  | tables (latestFirst : List (List (String × Entry)))
  deriving Inhabited

/-- The members of a table, in the order in which they came to be. -/
abbrev Members := List (String × Entry)

namespace Members

/-- The members with what `f` makes of the entry of a key, which is absent if there is none. -/
def update (key : String) (f : Option Entry → Option Entry) : Members → Option Members
  | [] => (f none).map fun e => [(key, e)]
  | (k, e) :: rest =>
    if k = key then (f (some e)).map fun e => (k, e) :: rest
    else (update key f rest).map ((k, e) :: ·)

/-- **Follows a path of keys** and lets `f` act on the table at its end.  Tables that are missing on
the way come to be as `origin`; a value bars the way, and a table with a header bars it to a dotted
key. -/
def within (origin : Origin) (f : Origin → Members → Option Members) :
    List String → Origin → Members → Option Members
  | [], here, ms => f here ms
  | key :: path, _, ms =>
    update key (fun
      | none => (within origin f path origin []).map (Entry.table origin)
      | some (.value _) => none
      | some (.table there ms) =>
        if origin = .dotted && there = .headed then none
        else (within origin f path there ms).map (Entry.table there)
      | some (.tables []) => none
      | some (.tables (ms :: older)) =>
        (within origin f path .headed ms).map fun ms => .tables (ms :: older)) ms

/-- **Binds a dotted key to a value.**  A member is new, and a table takes it from a dotted key if
and only if dotted keys made the table. -/
def assign (path : List String) (key : String) (t : Tree) : Members → Option Members :=
  within .dotted
    (fun here ms =>
      if (here == .dotted) == path.isEmpty then none
      else update key (fun e => if e.isNone then some (.value t) else none) ms)
    path .headed

/-- **A header**: the table at this path gets it unless it has one. -/
def addTable (path : List String) (key : String) : Members → Option Members :=
  within .passed
    (fun _ ms => update key (fun
      | none => some (.table .headed [])
      | some (.table .passed ms) => some (.table .headed ms)
      | some _ => none) ms)
    path .headed

/-- **A header of a list**: one more table at the end of the list at this path. -/
def addToList (path : List String) (key : String) : Members → Option Members :=
  within .passed
    (fun _ ms => update key (fun
      | none => some (.tables [[]])
      | some (.tables all) => some (.tables ([] :: all))
      | some _ => none) ms)
    path .headed

/-- Acts on the table that the last header moved to. -/
def inside (header : List String) (f : Members → Option Members) : Members → Option Members :=
  within .passed (fun _ ms => f ms) header .headed

end Members

/-! ### The finished table -/

mutual

/-- The data that an entry stands for. -/
def Entry.toTree : Entry → Tree
  | .value t => t
  | .table _ ms => .obj (Members.toTrees ms) .strict
  | .tables all => .arr (Members.listToTrees all).reverse .lenient

/-- The data of each member. -/
def Members.toTrees : List (String × Entry) → List (String × Tree)
  | [] => []
  | (k, e) :: rest => (k, e.toTree) :: Members.toTrees rest

/-- The data of each table. -/
def Members.listToTrees : List (List (String × Entry)) → List Tree
  | [] => []
  | ms :: rest => .obj (Members.toTrees ms) .strict :: Members.listToTrees rest

end

/-- The data of a whole table. -/
def Members.toTree (ms : Members) : Tree := .obj (Members.toTrees ms) .strict

end Flowgraph.Toml

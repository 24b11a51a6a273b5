import Flowgraph.Json.DecodeError
import Flowgraph.Json.Reader

/-!
# Decoding data

A decoder asks a tree for a value of some type.  Decoders of plain values say what they expect;
`Decoder.list`, `Decoder.optional` and `Decoder.table` build on others; and `Decoder.record` reads
the members of a record, given as a list of `Field`s, from an object or from a list of its values
in the order of declaration.

The members of an object are decoded in the order in which they stand in the text, members of other
names are passed over, and only then are the missing ones noticed.
-/

namespace Flowgraph

/-- Reads a value from a tree. -/
abbrev Decoder (α : Type) := Tree → Except DecodeError α

namespace Decoder

/-! ### Plain values -/

/-- A text. -/
def string : Decoder String
  | .str s => .ok s
  | t => .error (t.mismatch "a string")

/-- A truth value. -/
def boolean : Decoder Bool
  | .bool b => .ok b
  | t => .error (t.mismatch "a boolean")

/-- A number that may be infinite or none; an integer is taken as the nearest binary number. -/
def extended (expected : String) : Decoder (Extended .double)
  | .num (.int i) => .ok (.finite (Binary.ofInt i))
  | .num (.real x) => .ok (.finite x)
  | .special x => .ok x
  | t => .error (t.mismatch expected)

/-- A binary number. -/
def double : Decoder Double := fun t =>
  match extended "f64" t with
  | .ok (.finite x) => .ok x
  | .ok _ => .error (t.mismatch "f64")
  | .error e => .error e

/-- A number of 32 bits: a number too large for it becomes infinite. -/
def single : Decoder (Extended .single)
  | .num (.int i) => .ok (.finite (Binary.ofInt i))
  | .num (.real x) => .ok x.convert
  | .special x => .ok x.convert
  | t => .error (t.mismatch "f32")

/-- A natural number below a bound. -/
def natural (bound : Nat) (expected : String) : Decoder Nat
  | .num (.int i) =>
    if 0 ≤ i && i.toNat < bound then .ok i.toNat else .error (.invalidValue (.integer i) expected)
  | t => .error (t.mismatch expected)

/-- Nothing is asked of the tree but to be in good form. -/
def skip (t : Tree) : Except DecodeError Unit :=
  if t.isWhole then .ok () else .error .malformed

/-- What a list's end says once its items have been decoded. -/
def close (closing : Tree.Closing) : Except DecodeError Unit :=
  if closing = .broken then .error .malformed else .ok ()

/-! ### Any value -/

mutual

/-- **Any value.**  The last of several members with one key wins, and a number that is none
becomes `null`. -/
def value (t : Tree) : Except DecodeError Json :=
  match t with
  | .null => .ok .null
  | .bool b => .ok (.bool b)
  | .num n => .ok (.num n)
  | .special (.finite x) => .ok (.num (.real x))
  | .special _ => .ok .null
  | .str s => .ok (.str s)
  | .arr ts closing => do
    let js ← values ts
    close closing
    return .arr js
  | .obj ms closing => do
    let members ← memberValues ms []
    close closing
    return .obj members
  | .unreadable | .broken => .error .malformed

/-- The values of the items. -/
def values (ts : List Tree) : Except DecodeError (List Json) :=
  match ts with
  | [] => .ok []
  | t :: rest => do
    let j ← value t
    let js ← values rest
    return j :: js

/-- The values of the members, added to those found before. -/
def memberValues (ms : List (String × Tree)) (done : List (String × Json)) :
    Except DecodeError (List (String × Json)) :=
  match ms with
  | [] => .ok done
  | (k, t) :: rest => do
    let j ← value t
    memberValues rest (Json.insert k j done)

end

/-! ### Lists, options and tables -/

/-- Each of the trees, in order. -/
def each {α : Type} (d : Decoder α) : List Tree → Except DecodeError (List α)
  | [] => .ok []
  | t :: rest => do
    let a ← d t
    let as ← each d rest
    return a :: as

/-- A list of values. -/
def list {α : Type} (d : Decoder α) : Decoder (List α)
  | .arr ts closing => do
    let as ← each d ts
    close closing
    return as
  | t => .error (t.mismatch "a sequence")

/-- A value that `null` stands for the absence of. -/
def optional {α : Type} (d : Decoder α) : Decoder (Option α)
  | .null => .ok none
  | t => (d t).map some

/-- A table of values of any kind, by name. -/
def table : Decoder (List (String × Json))
  | .obj ms closing => do
    let members ← memberValues ms []
    close closing
    return members
  | t => .error (t.mismatch "a map")

/-! ### Records -/

end Decoder

/-- **A member of a record**: its name, the other names it goes by, how its value is decoded, and
the value it has when it is left out, if it may be. -/
structure Field where
  name : String
  aliases : List String
  Value : Type
  decode : Decoder Value
  absent : Option Value

namespace Field

/-- A member that may not be left out. -/
def required (name : String) {α : Type} (d : Decoder α) : Field := ⟨name, [], α, d, none⟩

/-- A member with a value of its own when it is left out. -/
def withDefault (name : String) {α : Type} (d : Decoder α) (absent : α) : Field :=
  ⟨name, [], α, d, some absent⟩

/-- The member goes by this name. -/
def answersTo (f : Field) (key : String) : Bool := f.name == key || f.aliases.contains key

end Field

/-- What has been found of a record's members. -/
@[reducible] def Slots : List Field → Type
  | [] => Unit
  | f :: fs => Option f.Value × Slots fs

/-- A record's members. -/
@[reducible] def Row : List Field → Type
  | [] => Unit
  | f :: fs => f.Value × Row fs

namespace Slots

/-- Nothing has been found. -/
def none : (fs : List Field) → Slots fs
  | [] => ()
  | _ :: fs => (Option.none, none fs)

/-- One more member is found, unless it was found before; other names are passed over. -/
def put (key : String) (t : Tree) : (fs : List Field) → Slots fs → Except DecodeError (Slots fs)
  | [], () => Decoder.skip t
  | f :: fs, (slot, rest) =>
    if f.answersTo key then
      match slot with
      | some _ => .error (.duplicateField f.name)
      | Option.none => (f.decode t).map fun v => (some v, rest)
    else (put key t fs rest).map fun rest => (slot, rest)

/-- Each of the members is found in turn. -/
def putAll (fs : List Field) : List (String × Tree) → Slots fs → Except DecodeError (Slots fs)
  | [], slots => .ok slots
  | (key, t) :: rest, slots => do
    let slots ← put key t fs slots
    putAll fs rest slots

/-- The record, once no further member will be found. -/
def complete : (fs : List Field) → Slots fs → Except DecodeError (Row fs)
  | [], () => .ok ()
  | f :: fs, (slot, rest) =>
    match slot.or f.absent with
    | some v => (complete fs rest).map fun row => (v, row)
    | Option.none => .error (.missingField f.name)

end Slots

namespace Row

/-- **The record whose members are the items of a list**, in the order of declaration, and the
items left over.  Members that may be left out may be missing at the end; of the others the first
that is missing is an error, which says at which place it is.  `n` members have come before. -/
def ofItems (expected : String) (closing : Tree.Closing) (n : Nat) :
    (fs : List Field) → List Tree → Except DecodeError (Row fs × List Tree)
  | [], ts => .ok ((), ts)
  | f :: fs, t :: ts => do
    let v ← f.decode t
    let (row, rest) ← ofItems expected closing (n + 1) fs ts
    return ((v, row), rest)
  | f :: fs, [] => do
    Decoder.close closing
    match f.absent with
    | some v => do
      let (row, rest) ← ofItems expected closing (n + 1) fs []
      return ((v, row), rest)
    | none => .error (.invalidLength n expected)

end Row

namespace Decoder

/-- How many items a record has, for a message. -/
def elements (n : Nat) : String := toString n ++ (if n = 1 then " element" else " elements")

/-- **A record** with the given title. -/
def record (title : String) (fs : List Field) : Decoder (Row fs)
  | .obj ms closing => do
    let slots ← Slots.putAll fs ms (Slots.none fs)
    close closing
    Slots.complete fs slots
  | .arr ts closing => do
    let expected := "struct " ++ title ++ " with " ++ elements fs.length
    let (row, rest) ← Row.ofItems expected closing 0 fs ts
    match closing with
    | .strict => if rest.isEmpty then .ok row else .error (.tooLong ts.length)
    | .lenient => .ok row
    | .broken => .error .malformed
  | t => .error (t.mismatch ("struct " ++ title))

/-- One of several names, alone or as the only member of an object, whose value is then `null`. -/
def choice {α : Type} (choices : List (String × α)) : Decoder α
  | .str s => pick s
  | .obj [(s, t)] _ => do
    let a ← pick s
    match t with
    | .null => .ok a
    | t => .error (t.mismatch "unit")
  | .obj _ _ => .error (.invalidValue .map "map with a single key")
  | t => .error (t.mismatch "string or map")
where
  /-- The choice of this name. -/
  pick (s : String) : Except DecodeError α :=
    match choices.find? (·.1 == s) with
    | some (_, a) => .ok a
    | none => .error (.unknownVariant s (choices.map (·.1)))

/-! ### From a value and from text -/

/-- Decodes a value. -/
def ofJson {α : Type} (d : Decoder α) (j : Json) : Except DecodeError α := d (Tree.ofJson j)

/-- Decodes a whole text: what stands in it, with nothing but a gap behind it. -/
def ofText {α : Type} (d : Decoder α) (s : String) : Except DecodeError α :=
  let (t, rest) := Tree.read s
  match d t with
  | .ok a =>
    match rest with
    | some rest => if (Tree.skipGap rest).isEmpty then .ok a else .error .malformed
    | none => .error .malformed
  | .error (.tooLong _) => .error .malformed
  | .error e => .error e

end Decoder

/-- The value that a whole text stands for. -/
def Json.ofText? (s : String) : Option Json := (Decoder.ofText Decoder.value s).toOption

end Flowgraph

import Flowgraph.Number.Layout

/-!
# JSON values

The data that flows carry.  A number is an exact integer of at most 64 bits or a finite binary
number.  An object lists its members in increasing order of their keys, each key once; `insert` and
`ofMembers` keep it so, and `Sorted` states it.
-/

namespace Flowgraph

/-- **A JSON number.**  An integer between `-2 ^ 63` and `2 ^ 64 - 1` stays exact. -/
inductive Number where
  | int (i : Int)
  | real (x : Double)
  deriving DecidableEq, Repr

/-- **A JSON value.** -/
inductive Json where
  | null
  | bool (b : Bool)
  | num (n : Number)
  | str (s : String)
  | arr (items : List Json)
  | obj (members : List (String × Json))
  deriving Repr, Inhabited

namespace Json

/-! ### Equality is decidable -/

mutual

/-- Decides whether two values are equal. -/
def decEq : (a b : Json) → Decidable (a = b)
  | .null, b =>
    match b with
    | .null => isTrue rfl
    | .bool _ | .num _ | .str _ | .arr _ | .obj _ => isFalse nofun
  | .bool x, b =>
    match b with
    | .bool y => if h : x = y then isTrue (h ▸ rfl) else isFalse fun e => h (Json.bool.inj e)
    | .null | .num _ | .str _ | .arr _ | .obj _ => isFalse nofun
  | .num x, b =>
    match b with
    | .num y => if h : x = y then isTrue (h ▸ rfl) else isFalse fun e => h (Json.num.inj e)
    | .null | .bool _ | .str _ | .arr _ | .obj _ => isFalse nofun
  | .str x, b =>
    match b with
    | .str y => if h : x = y then isTrue (h ▸ rfl) else isFalse fun e => h (Json.str.inj e)
    | .null | .bool _ | .num _ | .arr _ | .obj _ => isFalse nofun
  | .arr xs, b =>
    match b with
    | .arr ys =>
      match decEqItems xs ys with
      | isTrue h => isTrue (h ▸ rfl)
      | isFalse h => isFalse fun e => h (Json.arr.inj e)
    | .null | .bool _ | .num _ | .str _ | .obj _ => isFalse nofun
  | .obj xs, b =>
    match b with
    | .obj ys =>
      match decEqMembers xs ys with
      | isTrue h => isTrue (h ▸ rfl)
      | isFalse h => isFalse fun e => h (Json.obj.inj e)
    | .null | .bool _ | .num _ | .str _ | .arr _ => isFalse nofun

/-- Decides whether two lists of items are equal. -/
def decEqItems : (xs ys : List Json) → Decidable (xs = ys)
  | [], [] => isTrue rfl
  | [], _ :: _ => isFalse nofun
  | _ :: _, [] => isFalse nofun
  | x :: xs, y :: ys =>
    match decEq x y, decEqItems xs ys with
    | isTrue h, isTrue hs => isTrue (h ▸ hs ▸ rfl)
    | isFalse h, _ => isFalse fun e => h (List.cons.inj e).1
    | _, isFalse hs => isFalse fun e => hs (List.cons.inj e).2

/-- Decides whether two lists of members are equal. -/
def decEqMembers : (xs ys : List (String × Json)) → Decidable (xs = ys)
  | [], [] => isTrue rfl
  | [], _ :: _ => isFalse nofun
  | _ :: _, [] => isFalse nofun
  | (k, x) :: xs, (l, y) :: ys =>
    if hk : k = l then
      match decEq x y, decEqMembers xs ys with
      | isTrue h, isTrue hs => isTrue (hk ▸ h ▸ hs ▸ rfl)
      | isFalse h, _ => isFalse fun e => h (Prod.mk.inj (List.cons.inj e).1).2
      | _, isFalse hs => isFalse fun e => hs (List.cons.inj e).2
    else isFalse fun e => hk (Prod.mk.inj (List.cons.inj e).1).1

end

instance : DecidableEq Json := decEq

/-! ### Members of an object -/

/-- The members with `key` bound to `value`: in its place by the order of keys, instead of an older
binding. -/
def insert (key : String) (value : Json) : List (String × Json) → List (String × Json)
  | [] => [(key, value)]
  | (k, v) :: rest =>
    if key < k then (key, value) :: (k, v) :: rest
    else if key = k then (key, value) :: rest
    else (k, v) :: insert key value rest

/-- The object with the given members; of two members with one key the later wins. -/
def ofMembers (members : List (String × Json)) : Json :=
  .obj (members.foldl (fun done m => insert m.1 m.2 done) [])

/-- The value bound to a key. -/
def lookup (key : String) (members : List (String × Json)) : Option Json :=
  (members.find? (·.1 == key)).map (·.2)

/-- The value of a member, if the value is an object that has it. -/
def member? (j : Json) (key : String) : Option Json :=
  match j with
  | .obj members => lookup key members
  | _ => none

/-- The text, if the value is one. -/
def text? : Json → Option String
  | .str s => some s
  | _ => none

/-- An object without members. -/
def empty : Json := .obj []

/-- An optional value, `null` standing for absence. -/
def ofOption (o : Option Json) : Json := o.getD .null

/-- A natural number. -/
def ofNat (n : Nat) : Json := .num (.int n)

/-- An integer. -/
def ofInt (i : Int) : Json := .num (.int i)

/-- A binary number. -/
def ofDouble (x : Double) : Json := .num (.real x)

/-- A number of 32 bits, by the shortest decimal that reads back; `null` if it is none. -/
def ofSingle : Extended .single → Json
  | .finite x =>
    let d := x.shortest
    .ofDouble ((Binary.ofDecimal? x.negative d.digits d.exponent).getD Binary.zero)
  | .infinite _ | .nan => .null

/-- A number of 64 bits; `null` if it is none. -/
def ofExtended : Extended .double → Json
  | .finite x => .ofDouble x
  | .infinite _ | .nan => .null

mutual

/-- **Every object lists its keys in increasing order**, each once, all the way down. -/
def Sorted : Json → Prop
  | .arr items => SortedItems items
  | .obj members => (members.map (·.1)).Pairwise (· < ·) ∧ SortedMembers members
  | _ => True

/-- Each item is sorted. -/
def SortedItems : List Json → Prop
  | [] => True
  | j :: rest => Sorted j ∧ SortedItems rest

/-- Each member's value is sorted. -/
def SortedMembers : List (String × Json) → Prop
  | [] => True
  | (_, j) :: rest => Sorted j ∧ SortedMembers rest

end

end Json

end Flowgraph

import Flowgraph.Json.Decode
import Flowgraph.Json.Writer
import Flowgraph.Proofs.Except

/-!
# Reading back what was written

Between a value and its text stands the tree of the value.  That the text is read as the tree is what
`Json.Faithful` says of a value; that the tree is decoded as the value is proved here, for any value
(`Decoder.value_ofJson`) and for lists and options of what is decoded otherwise
(`Decoder.list_ofJson`, `Decoder.optional_ofJson`).
-/

namespace Flowgraph

/-! ### Trees and their text -/

/-- **A value is read back from its text**: its members are in order, and the reader of the text
finds the tree of the value with nothing behind it. -/
def Json.Faithful (j : Json) : Prop := j.Sorted ∧ Tree.read j.compact = (Tree.ofJson j, some [])

/-- What is decoded from the tree of a value is decoded from its text. -/
theorem Json.Faithful.ofText {α : Type} {d : Decoder α} {j : Json} {a : α} (hj : j.Faithful)
    (h : d (Tree.ofJson j) = .ok a) : d.ofText j.compact = .ok a := by
  simp only [Decoder.ofText, hj.2, h]
  rfl

/-! ### The characters of a text -/

namespace Json

/-- The characters that one character is written as inside a string. -/
def charChars (c : Char) : List Char :=
  if c = '"' ∨ c = '\\' ∨ c.toNat < 0x20 then (writeChar c).toList else [c]

/-- The characters of a string between its quotes. -/
def stringChars (s : String) : List Char := '"' :: (s.toList.flatMap charChars ++ ['"'])

mutual

/-- The characters of the compact text of a value. -/
def chars : Json → List Char
  | .null => ['n', 'u', 'l', 'l']
  | .bool b => if b then ['t', 'r', 'u', 'e'] else ['f', 'a', 'l', 's', 'e']
  | .num n => (writeNumber n).toList
  | .str s => stringChars s
  | .arr items => '[' :: (itemsChars items ++ [']'])
  | .obj members => '\x7b' :: (membersChars members ++ ['\x7d'])

/-- The characters of the items of an array. -/
def itemsChars : List Json → List Char
  | [] => []
  | [j] => chars j
  | j :: rest => chars j ++ ',' :: itemsChars rest

/-- The characters of the members of an object. -/
def membersChars : List (String × Json) → List Char
  | [] => []
  | [(k, j)] => stringChars k ++ ':' :: chars j
  | (k, j) :: rest => stringChars k ++ ':' :: (chars j ++ ',' :: membersChars rest)

end

theorem toList_writeChar (c : Char) : (writeChar c).toList = charChars c := by
  unfold charChars
  split
  · rfl
  · next hplain =>
    simp only [not_or] at hplain
    obtain ⟨hquote, hslash, hcontrol⟩ := hplain
    -- the other escapes are those of control characters
    have hne : ∀ d : Char, d.toNat < 0x20 → c ≠ d := fun d hd heq => hcontrol (heq ▸ hd)
    unfold writeChar
    rw [if_neg hquote, if_neg hslash, if_neg (hne _ (by decide)), if_neg (hne _ (by decide)),
      if_neg (hne _ (by decide)), if_neg (hne _ (by decide)), if_neg (hne _ (by decide)),
      if_neg hcontrol]
    exact String.toList_singleton c

theorem toList_writeString (s : String) : (writeString s).toList = stringChars s := by
  have hfold : ∀ (cs : List Char) (out : String),
      (cs.foldl (fun out c => out ++ writeChar c) out).toList
        = out.toList ++ cs.flatMap charChars := by
    intro cs
    induction cs with
    | nil => simp
    | cons c rest ih =>
      intro out
      rw [List.foldl_cons, ih, String.toList_append, toList_writeChar, List.flatMap_cons,
        List.append_assoc]
  unfold writeString stringChars
  rw [String.toList_append, hfold]
  rfl

mutual

/-- **The text of a value consists of its characters.** -/
theorem toList_compact : (j : Json) → j.compact.toList = j.chars
  | .null => rfl
  | .bool b => by cases b <;> rfl
  | .num n => by rw [compact, chars]
  | .str s => by rw [compact, chars, toList_writeString]
  | .arr items => by
    rw [compact, chars, String.toList_append, String.toList_append, toList_compactItems items]
    rfl
  | .obj members => by
    rw [compact, chars, String.toList_append, String.toList_append, toList_compactMembers members]
    rfl

theorem toList_compactItems : (items : List Json) →
    (compactItems items).toList = itemsChars items
  | [] => rfl
  | [j] => by rw [compactItems, itemsChars, toList_compact j]
  | j :: k :: rest => by
    rw [compactItems, itemsChars, String.toList_append, String.toList_append, toList_compact j,
      toList_compactItems (k :: rest)]
    · simp
    all_goals simp

theorem toList_compactMembers : (members : List (String × Json)) →
    (compactMembers members).toList = membersChars members
  | [] => rfl
  | [(k, j)] => by
    rw [compactMembers, membersChars, String.toList_append, String.toList_append,
      toList_writeString, toList_compact j]
    simp
  | (k, j) :: m :: rest => by
    rw [compactMembers, membersChars]
    simp only [String.toList_append, toList_writeString, toList_compact j,
      toList_compactMembers (m :: rest)]
    · simp
    all_goals simp

end

end Json

/-- What is decoded from a text is decoded from the tree that is read. -/
theorem Decoder.of_ofText {α : Type} {d : Decoder α} {s : String} {a : α} (h : d.ofText s = .ok a) :
    d (Tree.read s).1 = .ok a := by
  unfold ofText at h
  dsimp only at h
  split at h
  · next a' hdecoded =>
    rw [hdecoded]
    split at h
    · split at h
      · exact h
      · exact nomatch h
    · exact nomatch h
  · exact nomatch h
  · exact nomatch h

/-- **The text of a value is read** by its characters. -/
theorem Tree.read_compact (j : Json) :
    read j.compact = readValue (3 * j.chars.length + 3) 0 j.chars := by
  rw [read, Json.toList_compact]

/-! ### Telling whether a value is read back -/

namespace Json

mutual

/-- **A tree is that of the value.** -/
def hasTree : Json → Tree → Bool
  | .null, t => match t with | .null => true | _ => false
  | .bool b, t => match t with | .bool c => c == b | _ => false
  | .num n, t => match t with | .num m => decide (m = n) | _ => false
  | .str s, t => match t with | .str u => u == s | _ => false
  | .arr items, t => match t with | .arr ts .strict => haveTrees items ts | _ => false
  | .obj members, t => match t with | .obj ms .strict => membersHaveTrees members ms | _ => false

/-- Trees are those of the items. -/
def haveTrees : List Json → List Tree → Bool
  | [], ts => ts.isEmpty
  | j :: items, ts => match ts with | t :: ts => hasTree j t && haveTrees items ts | [] => false

/-- Trees are those of the members. -/
def membersHaveTrees : List (String × Json) → List (String × Tree) → Bool
  | [], ms => ms.isEmpty
  | (key, j) :: members, ms =>
    match ms with
    | (k, t) :: ms => k == key && hasTree j t && membersHaveTrees members ms
    | [] => false

end

mutual

theorem hasTree_iff : (j : Json) → (t : Tree) → (j.hasTree t = true ↔ t = Tree.ofJson j)
  | .null, t | .bool _, t | .num _, t | .str _, t => by
    cases t <;> simp [hasTree, Tree.ofJson]
  | .arr items, t => by
    cases t with
    | arr ts closing => cases closing <;> simp [hasTree, Tree.ofJson, haveTrees_iff items ts]
    | _ => simp [hasTree, Tree.ofJson]
  | .obj members, t => by
    cases t with
    | obj ms closing =>
      cases closing <;> simp [hasTree, Tree.ofJson, membersHaveTrees_iff members ms]
    | _ => simp [hasTree, Tree.ofJson]

theorem haveTrees_iff : (items : List Json) → (ts : List Tree) →
    (haveTrees items ts = true ↔ ts = Tree.ofItems items)
  | [], ts => by simp [haveTrees, Tree.ofItems]
  | _ :: _, [] => by simp [haveTrees, Tree.ofItems]
  | j :: items, t :: ts => by
    simp [haveTrees, Tree.ofItems, hasTree_iff j t, haveTrees_iff items ts]

theorem membersHaveTrees_iff : (members : List (String × Json)) → (ms : List (String × Tree)) →
    (membersHaveTrees members ms = true ↔ ms = Tree.ofMembers members)
  | [], ms => by simp [membersHaveTrees, Tree.ofMembers]
  | (_, _) :: _, [] => by simp [membersHaveTrees, Tree.ofMembers]
  | (key, j) :: members, (k, t) :: ms => by
    simp [membersHaveTrees, Tree.ofMembers, hasTree_iff j t, membersHaveTrees_iff members ms,
      and_assoc]

end

end Json

/-! ### Members in order -/

namespace Json

mutual

/-- Decides whether a value is in order. -/
def decSorted : (j : Json) → Decidable j.Sorted
  | .null | .bool _ | .num _ | .str _ => .isTrue trivial
  | .arr items => decSortedItems items
  | .obj members =>
    have := decSortedMembers members
    inferInstanceAs (Decidable (_ ∧ SortedMembers members))

/-- Decides whether each item is in order. -/
def decSortedItems : (items : List Json) → Decidable (SortedItems items)
  | [] => .isTrue trivial
  | j :: rest =>
    have := decSorted j
    have := decSortedItems rest
    inferInstanceAs (Decidable (j.Sorted ∧ SortedItems rest))

/-- Decides whether each member's value is in order. -/
def decSortedMembers : (members : List (String × Json)) → Decidable (SortedMembers members)
  | [] => .isTrue trivial
  | (_, j) :: rest =>
    have := decSorted j
    have := decSortedMembers rest
    inferInstanceAs (Decidable (j.Sorted ∧ SortedMembers rest))

end

instance : DecidablePred Sorted := decSorted

theorem sortedItems_iff {items : List Json} : SortedItems items ↔ ∀ j ∈ items, j.Sorted := by
  induction items with
  | nil => simp [SortedItems]
  | cons j rest ih => rw [SortedItems, ih, List.forall_mem_cons]

theorem sortedMembers_iff {members : List (String × Json)} :
    SortedMembers members ↔ ∀ m ∈ members, m.2.Sorted := by
  induction members with
  | nil => simp [SortedMembers]
  | cons m rest ih => rw [SortedMembers, ih, List.forall_mem_cons]

theorem sorted_arr_iff {items : List Json} : (arr items).Sorted ↔ ∀ j ∈ items, j.Sorted :=
  sortedItems_iff

/-- Each member of a value in order is in order. -/
theorem Sorted.member {members : List (String × Json)} (h : (obj members).Sorted)
    {m : String × Json} (hm : m ∈ members) : m.2.Sorted :=
  sortedMembers_iff.mp h.2 m hm

/-- A member whose key comes after all others is added behind them. -/
theorem insert_of_last {key : String} {value : Json} {members : List (String × Json)}
    (h : ∀ m ∈ members, m.1 < key) : insert key value members = members ++ [(key, value)] := by
  induction members with
  | nil => rfl
  | cons m rest ih =>
    have hm := h m (List.mem_cons_self ..)
    rw [insert, if_neg (String.lt_asymm hm), if_neg fun (heq : key = m.1) => String.lt_irrefl m.1 (heq ▸ hm),
      ih fun m' hm' => h m' (List.mem_cons_of_mem _ hm')]
    rfl

end Json

/-- What has been read is the tree of a value, with nothing behind it. -/
def Json.isReadAs (j : Json) : Tree × Option (List Char) → Bool
  | (t, some []) => j.hasTree t
  | _ => false

theorem Json.isReadAs_iff {j : Json} {found : Tree × Option (List Char)} :
    j.isReadAs found = true ↔ found = (Tree.ofJson j, some []) := by
  obtain ⟨t, rest⟩ := found
  match rest with
  | none | some (_ :: _) => exact iff_of_false nofun nofun
  | some [] =>
    show j.hasTree t = true ↔ _
    rw [hasTree_iff, Prod.mk.injEq, and_iff_left rfl]

/-- It can be decided whether a value is read back from its text, by reading its characters. -/
instance Json.decidableFaithful : DecidablePred Json.Faithful := fun j =>
  decidable_of_iff
    (j.Sorted ∧ j.isReadAs (Tree.readValue (3 * j.chars.length + 3) 0 j.chars) = true)
    (and_congr_right' (by rw [isReadAs_iff, ← Tree.read_compact]))

/-! ### Decoding trees of values -/

@[simp] theorem Tree.ofJson_bool (b : Bool) : ofJson (.bool b) = .bool b := rfl

@[simp] theorem Tree.ofJson_str (s : String) : ofJson (.str s) = .str s := rfl

namespace Decoder

open Json in
mutual

/-- **Any value in order is decoded from its tree.** -/
theorem value_ofJson : {j : Json} → j.Sorted → value (Tree.ofJson j) = .ok j
  | .null, _ => rfl
  | .bool _, _ => rfl
  | .num _, _ => rfl
  | .str _, _ => rfl
  | .arr items, h => by
    have hitems := values_ofItems h
    rw [Tree.ofJson, value, hitems]
    rfl
  | .obj members, h => by
    have hmembers := memberValues_ofMembers h.2 [] (by simpa using h.1)
    rw [Tree.ofJson, value, hmembers]
    rfl

/-- The items of a list are decoded one by one. -/
theorem values_ofItems : {items : List Json} → SortedItems items →
    values (Tree.ofItems items) = .ok items
  | [], _ => rfl
  | j :: rest, h => by
    have hj := value_ofJson h.1
    have hrest := values_ofItems h.2
    rw [Tree.ofItems, values, hj, hrest]
    rfl

/-- The members of an object are put behind those found before. -/
theorem memberValues_ofMembers : {members : List (String × Json)} → SortedMembers members →
    ∀ done : List (String × Json), ((done ++ members).map (·.1)).Pairwise (· < ·) →
      memberValues (Tree.ofMembers members) done = .ok (done ++ members)
  | [], _, done, _ => by rw [List.append_nil]; rfl
  | (key, j) :: rest, h, done, hkeys => by
    have hj := value_ofJson h.1
    have hlast : ∀ m ∈ done, m.1 < key := by
      intro m hm
      rw [List.map_append, List.pairwise_append] at hkeys
      exact hkeys.2.2 m.1 (List.mem_map_of_mem hm) key (List.mem_cons_self ..)
    have hrest := memberValues_ofMembers h.2 (done ++ [(key, j)]) (by simpa using hkeys)
    rw [Tree.ofMembers, memberValues, hj]
    show memberValues (Tree.ofMembers rest) (Json.insert key j done) = _
    rw [insert_of_last hlast, hrest, List.append_assoc]
    rfl

end

theorem each_ofItems {α β : Type} {d : Decoder β} {toJson : α → Json} {f : α → β} {as : List α}
    (h : ∀ a ∈ as, d (Tree.ofJson (toJson a)) = .ok (f a)) :
    each d (Tree.ofItems (as.map toJson)) = .ok (as.map f) := by
  induction as with
  | nil => rfl
  | cons a rest ih =>
    have hrest := ih fun a' ha' => h a' (List.mem_cons_of_mem _ ha')
    rw [List.map_cons, Tree.ofItems, each, h a (List.mem_cons_self ..), hrest]
    rfl

/-- **A list is decoded item by item.** -/
theorem list_ofJson {α β : Type} {d : Decoder β} {toJson : α → Json} {f : α → β} {as : List α}
    (h : ∀ a ∈ as, d (Tree.ofJson (toJson a)) = .ok (f a)) :
    list d (Tree.ofJson (.arr (as.map toJson))) = .ok (as.map f) := by
  rw [Tree.ofJson, list, each_ofItems h]
  rfl

/-- **An optional value is decoded as what it is**, if it is not written like one that is absent. -/
theorem optional_ofJson {α : Type} {d : Decoder α} {toJson : α → Json} {o : Option α}
    (hnull : ∀ a ∈ o, toJson a ≠ .null) (h : ∀ a ∈ o, d (Tree.ofJson (toJson a)) = .ok a) :
    optional d (Tree.ofJson (.ofOption (o.map toJson))) = .ok o := by
  cases o with
  | none => rfl
  | some a =>
    have hd := h a rfl
    show optional d (Tree.ofJson (toJson a)) = .ok (some a)
    have hne := hnull a rfl
    revert hd hne
    cases toJson a <;> intro hd hne
    case null => exact absurd rfl hne
    all_goals
      rw [Tree.ofJson] at hd ⊢
      rw [optional]
      · rw [hd]
        rfl
      · intro h
        cases h

/-! ### Decoding records -/

/-- **A record is decoded member by member.** -/
theorem record_ofJson {title : String} {fs : List Field} {members : List (String × Json)} :
    record title fs (Tree.ofJson (.obj members))
      = (Slots.putAll fs (Tree.ofMembers members) (Slots.none fs)).bind (Slots.complete fs) := by
  rw [Tree.ofJson, record]
  cases Slots.putAll fs (Tree.ofMembers members) (Slots.none fs) <;> rfl

end Decoder

-- Where the names of the members are known, what is left of a record is their values.
attribute [simp] Tree.ofMembers Slots.none Slots.put Slots.putAll Slots.complete Field.answersTo
  Field.required Field.withDefault Decoder.string Decoder.boolean Except.map Except.bind

end Flowgraph

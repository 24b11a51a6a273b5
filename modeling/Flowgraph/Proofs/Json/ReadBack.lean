import Flowgraph.Proofs.Json.Insert
import Flowgraph.Proofs.Json.Strings
import Flowgraph.Proofs.Number.Text

/-!
# Reading back values

The compact text of a value is read as the value, with each binary number replaced by what its own text
is read as (`Json.reread`).  This holds for every value that fits: its numbers have 64 bits, and its
containers nest no deeper than the reader goes (`Json.Fits`).  The text is a line: no character of it
breaks one.
-/

namespace Flowgraph

namespace Json

/-! ### Values that fit -/

mutual

/-- **A value fits**: each of its numbers does, and its containers nest at most `n` deep. -/
def Fits (n : Nat) : Json → Prop
  | .num k => k.Fits
  | .arr items => 0 < n ∧ FitItems (n - 1) items
  | .obj members => 0 < n ∧ FitMembers (n - 1) members
  | .null | .bool _ | .str _ => True

/-- Each item fits. -/
def FitItems (n : Nat) : List Json → Prop
  | [] => True
  | j :: rest => Fits n j ∧ FitItems n rest

/-- Each member's value fits. -/
def FitMembers (n : Nat) : List (String × Json) → Prop
  | [] => True
  | (_, j) :: rest => Fits n j ∧ FitMembers n rest

end

theorem fitItems_iff {n : Nat} {items : List Json} : FitItems n items ↔ ∀ j ∈ items, j.Fits n := by
  induction items with
  | nil => exact iff_of_true trivial nofun
  | cons j rest ih => rw [FitItems, ih, List.forall_mem_cons]

theorem fitMembers_iff {n : Nat} {members : List (String × Json)} :
    FitMembers n members ↔ ∀ m ∈ members, m.2.Fits n := by
  induction members with
  | nil => exact iff_of_true trivial nofun
  | cons m rest ih => rw [FitMembers, ih, List.forall_mem_cons]

mutual

/-- **What the text of a value is read as.** -/
def reread : Json → Json
  | .num n => .num n.reread
  | .arr items => .arr (rereadItems items)
  | .obj members => .obj (rereadMembers members)
  | .null => .null
  | .bool b => .bool b
  | .str s => .str s

/-- What the texts of the items are read as. -/
def rereadItems : List Json → List Json
  | [] => []
  | j :: rest => reread j :: rereadItems rest

/-- What the texts of the members are read as. -/
def rereadMembers : List (String × Json) → List (String × Json)
  | [] => []
  | (key, j) :: rest => (key, reread j) :: rereadMembers rest

end

theorem rereadMembers_of_same {members : List (String × Json)}
    (h : ∀ m ∈ members, m.2.reread = m.2) : rereadMembers members = members := by
  induction members with
  | nil => rfl
  | cons m rest ih =>
    obtain ⟨hm, hrest⟩ := List.forall_mem_cons.mp h
    rw [rereadMembers, hm, ih hrest]

/-- **A steady value**: it is in order, fits, and is read as what it is. -/
structure Steady (n : Nat) (j : Json) : Prop where
  sorted : j.Sorted
  fits : j.Fits n
  same : j.reread = j

theorem steady_null (n : Nat) : null.Steady n := ⟨trivial, trivial, rfl⟩

theorem steady_str (n : Nat) (s : String) : (str s).Steady n := ⟨trivial, trivial, rfl⟩

/-- An object of steady values is steady. -/
theorem steady_ofMembers {n : Nat} {members : List (String × Json)}
    (h : ∀ m ∈ members, m.2.Steady n) : (ofMembers members).Steady (n + 1) := by
  obtain ⟨done, heq, hkeys, hmem⟩ := exists_ofMembers members
  have hdone (m : String × Json) (hm : m ∈ done) : m.2.Steady n := h m (hmem m hm)
  rw [heq]
  refine ⟨⟨hkeys, sortedMembers_iff.mpr fun m hm => (hdone m hm).sorted⟩,
    ⟨Nat.succ_pos n, fitMembers_iff.mpr fun m hm => (hdone m hm).fits⟩, ?_⟩
  rw [reread, rereadMembers_of_same fun m hm => (hdone m hm).same]

/-! ### How a text begins -/

/-- A text begins a value: with no gap, and no character that ends a list or parts its items. -/
def BeginsValue (cs : List Char) : Prop :=
  ∃ c rest, cs = c :: rest ∧ Tree.isGap c = false ∧ c ≠ ']' ∧ c ≠ ',' ∧ c ≠ '\x7d'

theorem BeginsValue.append {cs : List Char} (h : BeginsValue cs) (more : List Char) :
    BeginsValue (cs ++ more) := by
  obtain ⟨c, rest, rfl, hc⟩ := h
  exact ⟨c, rest ++ more, rfl, hc⟩

theorem BeginsValue.skipGap {cs : List Char} (h : BeginsValue cs) : Tree.skipGap cs = cs := by
  obtain ⟨c, rest, rfl, hgap, -⟩ := h
  rw [Tree.skipGap, List.dropWhile_cons, hgap]
  rfl

theorem beginsValue_of_digit {cs : List Char} (h : Tree.startsWithDigit cs = true) :
    BeginsValue cs := by
  cases cs with
  | nil => exact nomatch h
  | cons c rest =>
    have hdigit : c.isDigit = true := h
    have hne : ∀ d : Char, d.isDigit = false → c ≠ d := fun d hd heq => by
      rw [heq, hd] at hdigit
      exact nomatch hdigit
    exact ⟨c, rest, rfl, by simp [Tree.isGap, hne ' ' rfl, hne '\n' rfl, hne '\t' rfl, hne '\r' rfl],
      hne _ rfl, hne _ rfl, hne _ rfl⟩

/-- The text of a number that fits begins a value. -/
theorem beginsValue_writeNumber {n : Number} (h : n.Fits) : BeginsValue (writeNumber n).toList := by
  have hminus (cs : List Char) : BeginsValue ('-' :: cs) :=
    ⟨'-', cs, rfl, by decide, by decide, by decide, by decide⟩
  have hdigits (m : Nat) : BeginsValue (Nat.toDigits 10 m) := by
    have hstart := (Tree.isWhole_toDigits m).startsWithDigit []
    rw [List.append_nil] at hstart
    exact beginsValue_of_digit hstart
  cases n with
  | int i =>
    rw [Number.toList_writeNumber_int]
    split
    · exact hminus _
    · exact hdigits _
  | real x =>
    obtain ⟨hstart, -⟩ := Number.readNumber_render h Number.endsNumber_nil
    rw [List.append_nil] at hstart
    rw [Number.toList_writeNumber_real]
    split
    · exact hminus _
    · exact beginsValue_of_digit hstart

/-- **The text of a value that fits begins a value.** -/
theorem beginsValue_chars {n : Nat} {j : Json} (h : j.Fits n) : BeginsValue j.chars := by
  have hplain (c : Char) (cs : List Char)
      (hc : Tree.isGap c = false ∧ c ≠ ']' ∧ c ≠ ',' ∧ c ≠ '\x7d') : BeginsValue (c :: cs) :=
    ⟨c, cs, rfl, hc⟩
  cases j with
  | null => exact hplain _ _ (by decide)
  | bool b => cases b <;> exact hplain _ _ (by decide)
  | num k =>
    rw [chars]
    exact beginsValue_writeNumber h
  | str s => exact hplain _ _ (by decide)
  | arr items => exact hplain _ _ (by decide)
  | obj members => exact hplain _ _ (by decide)

theorem beginsValue_itemsChars {n : Nat} {j : Json} {rest : List Json} (h : FitItems n (j :: rest)) :
    BeginsValue (itemsChars (j :: rest)) := by
  cases rest with
  | nil => exact beginsValue_chars h.1
  | cons k rest => exact (beginsValue_chars h.1).append _

theorem exists_membersChars (m : String × Json) (rest : List (String × Json)) :
    ∃ cs, membersChars (m :: rest) = '"' :: cs := by
  cases rest with
  | nil => exact ⟨_, rfl⟩
  | cons m' rest => exact ⟨_, rfl⟩

end Json

/-! ### Reading -/

namespace Tree

open Json

theorem endsNumber_cons {c : Char} (hc : c.isDigit = false ∧ c ≠ '.' ∧ c ≠ 'e' ∧ c ≠ 'E')
    (rest : List Char) : EndsNumber (c :: rest) := by
  intro d hd
  obtain rfl := Option.some.inj hd
  exact hc

theorem readWord_append (word rest : List Char) (t : Tree) :
    readWord word t (word ++ rest) = (t, some rest) := by
  have hprefix : word.isPrefixOf (word ++ rest) = true :=
    List.isPrefixOf_iff_prefix.mpr (List.prefix_append _ _)
  rw [readWord, if_pos hprefix, List.drop_left]

section Steps

-- One lemma for each way in which a value, an item or a member begins.
variable {fuel depth : Nat} {cs rest rest' : List Char} {t : Tree}

theorem readValue_null : readValue (fuel + 1) depth ('n' :: cs)
    = readWord ['u', 'l', 'l'] .null cs := by
  rw [readValue]
  rfl

theorem readValue_true : readValue (fuel + 1) depth ('t' :: cs)
    = readWord ['r', 'u', 'e'] (.bool true) cs := by
  rw [readValue]
  rfl

theorem readValue_false : readValue (fuel + 1) depth ('f' :: cs)
    = readWord ['a', 'l', 's', 'e'] (.bool false) cs := by
  rw [readValue]
  rfl

theorem readValue_str {s : String} (h : readString cs = some (some s, rest)) :
    readValue (fuel + 1) depth ('"' :: cs) = (.str s, some rest) := by
  have hskip : skipGap ('"' :: cs) = '"' :: cs := rfl
  simp only [readValue, hskip, h]

theorem readValue_arr {items : List Tree} (hdepth : depth + 1 < depthLimit)
    (h : readItems fuel (depth + 1) true cs = (items, .strict, some rest)) :
    readValue (fuel + 1) depth ('[' :: cs) = (.arr items .strict, some rest) := by
  rw [readValue]
  show (limited (depth + 1) (.arr (readItems fuel (depth + 1) true cs).1
    (readItems fuel (depth + 1) true cs).2.1), (readItems fuel (depth + 1) true cs).2.2) = _
  rw [h, limited, if_pos hdepth]

theorem readValue_obj {members : List (String × Tree)} (hdepth : depth + 1 < depthLimit)
    (h : readMembers fuel (depth + 1) true cs = (members, .strict, some rest)) :
    readValue (fuel + 1) depth ('\x7b' :: cs) = (.obj members .strict, some rest) := by
  rw [readValue]
  show (limited (depth + 1) (.obj (readMembers fuel (depth + 1) true cs).1
    (readMembers fuel (depth + 1) true cs).2.1), (readMembers fuel (depth + 1) true cs).2.2) = _
  rw [h, limited, if_pos hdepth]

theorem readItems_close {first : Bool} :
    readItems (fuel + 1) depth first (']' :: cs) = ([], .strict, some cs) := by
  rw [readItems]
  rfl

theorem readItems_first (h : BeginsValue cs) :
    readItems (fuel + 1) depth true cs = readItem fuel depth cs := by
  rw [readItems, h.skipGap]
  obtain ⟨c, rest, rfl, -, hclose, hcomma, -⟩ := h
  split
  · next heq => exact absurd (List.cons.inj heq).1 hclose
  · next heq => exact absurd (List.cons.inj heq).1 hcomma
  · rfl

theorem readItems_comma (h : BeginsValue cs) :
    readItems (fuel + 1) depth false (',' :: cs) = readItem fuel depth cs := by
  rw [readItems]
  show (if false then _ else if (skipGap cs).head? == some ']' then _ else readItem fuel depth cs) = _
  rw [if_neg Bool.false_ne_true, h.skipGap]
  obtain ⟨c, rest, rfl, -, hclose, -⟩ := h
  rw [if_neg (by simpa using hclose)]

theorem readItem_of_value {items : List Tree} (hvalue : readValue fuel depth cs = (t, some rest))
    (hitems : readItems fuel depth false rest = (items, .strict, some rest')) :
    readItem (fuel + 1) depth cs = (t :: items, .strict, some rest') := by
  rw [readItem, hvalue]
  dsimp only
  rw [hitems]

theorem readMembers_close {first : Bool} :
    readMembers (fuel + 1) depth first ('\x7d' :: cs) = ([], .strict, some cs) := by
  rw [readMembers]
  rfl

theorem readMembers_first :
    readMembers (fuel + 1) depth true ('"' :: cs) = readMember fuel depth ('"' :: cs) := by
  rw [readMembers]
  rfl

theorem readMembers_comma :
    readMembers (fuel + 1) depth false (',' :: '"' :: cs) = readMember fuel depth ('"' :: cs) := by
  rw [readMembers]
  rfl

theorem readMember_of_value {key : String} {members : List (String × Tree)} {cs' : List Char}
    (hkey : readString cs = some (some key, ':' :: cs'))
    (hvalue : readValue fuel depth cs' = (t, some rest))
    (hmembers : readMembers fuel depth false rest = (members, .strict, some rest')) :
    readMember (fuel + 1) depth ('"' :: cs) = ((key, t) :: members, .strict, some rest') := by
  have hskip : skipGap (':' :: cs') = ':' :: cs' := rfl
  rw [readMember]
  simp only [hkey, hskip, hvalue, hmembers]

end Steps

mutual

/-- **The text of a value that fits is read as `reread` says**, whatever stands behind it.  Three steps
for each character are enough. -/
theorem readValue_chars : (j : Json) → ∀ {n depth fuel : Nat} {rest : List Char}, j.Fits n →
    depth + n < depthLimit → 3 * j.chars.length ≤ fuel → EndsNumber rest →
      readValue fuel depth (j.chars ++ rest) = (ofJson j.reread, some rest)
  | .null, n, depth, fuel, rest, _, _, hfuel, _ => by
    obtain ⟨fuel, rfl⟩ : ∃ k, fuel = k + 1 := ⟨fuel - 1, by simp [chars] at hfuel; omega⟩
    exact readValue_null.trans (readWord_append ['u', 'l', 'l'] rest .null)
  | .bool true, n, depth, fuel, rest, _, _, hfuel, _ => by
    obtain ⟨fuel, rfl⟩ : ∃ k, fuel = k + 1 := ⟨fuel - 1, by simp [chars] at hfuel; omega⟩
    exact readValue_true.trans (readWord_append ['r', 'u', 'e'] rest (.bool true))
  | .bool false, n, depth, fuel, rest, _, _, hfuel, _ => by
    obtain ⟨fuel, rfl⟩ : ∃ k, fuel = k + 1 := ⟨fuel - 1, by simp [chars] at hfuel; omega⟩
    exact readValue_false.trans (readWord_append ['a', 'l', 's', 'e'] rest (.bool false))
  | .num k, n, depth, fuel, rest, hfits, _, hfuel, hrest => by
    -- a number has at least one character, so there is fuel for one call
    obtain ⟨c, cs, hchars, -⟩ := beginsValue_chars hfits
    rw [hchars, List.length_cons] at hfuel
    obtain ⟨fuel, rfl⟩ : ∃ k, fuel = k + 1 := ⟨fuel - 1, by omega⟩
    rw [chars, Number.readValue_writeNumber hfits hrest]
    rfl
  | .str s, n, depth, fuel, rest, _, _, hfuel, _ => by
    obtain ⟨fuel, rfl⟩ : ∃ k, fuel = k + 1 :=
      ⟨fuel - 1, by simp [chars, stringChars] at hfuel; omega⟩
    have hread := readString_stringChars s rest
    rw [chars, stringChars, List.cons_append, List.append_assoc, List.singleton_append,
      readValue_str hread]
    rfl
  | .arr items, n, depth, fuel, rest, hfits, hdepth, hfuel, _ => by
    obtain ⟨hpos, hitems⟩ := hfits
    rw [chars, List.length_cons, List.length_append, List.length_singleton] at hfuel
    obtain ⟨fuel, rfl⟩ : ∃ k, fuel = k + 2 := ⟨fuel - 2, by omega⟩
    -- three calls for each character: the two brackets leave enough for the items
    have hread : readItems (fuel + 1) (depth + 1) true (itemsChars items ++ ']' :: rest)
        = (ofItems (rereadItems items), .strict, some rest) := by
      cases items with
      | nil => exact readItems_close
      | cons j more =>
        rw [readItems_first ((beginsValue_itemsChars hitems).append _)]
        exact readItem_itemsChars (j :: more) (by simp) hitems (by omega) (by omega)
    rw [chars, List.cons_append, List.append_assoc, List.singleton_append,
      readValue_arr (by omega) hread]
    rfl
  | .obj members, n, depth, fuel, rest, hfits, hdepth, hfuel, _ => by
    obtain ⟨hpos, hmembers⟩ := hfits
    rw [chars, List.length_cons, List.length_append, List.length_singleton] at hfuel
    obtain ⟨fuel, rfl⟩ : ∃ k, fuel = k + 2 := ⟨fuel - 2, by omega⟩
    have hread : readMembers (fuel + 1) (depth + 1) true (membersChars members ++ '\x7d' :: rest)
        = (ofMembers (rereadMembers members), .strict, some rest) := by
      cases members with
      | nil => exact readMembers_close
      | cons m more =>
        -- the first member begins with the quote of its key
        obtain ⟨cs, hbegin⟩ := exists_membersChars m more
        rw [hbegin, List.cons_append, readMembers_first, ← List.cons_append, ← hbegin]
        exact readMember_membersChars (m :: more) (by simp) hmembers (by omega) (by omega)
    rw [chars, List.cons_append, List.append_assoc, List.singleton_append,
      readValue_obj (by omega) hread]
    rfl

/-- The items of an array are read one by one. -/
theorem readItem_itemsChars : (items : List Json) → items ≠ [] →
    ∀ {n depth fuel : Nat} {rest : List Char}, FitItems n items → depth + n < depthLimit →
      3 * (itemsChars items).length + 1 ≤ fuel →
        readItem fuel depth (itemsChars items ++ ']' :: rest)
          = (ofItems (rereadItems items), .strict, some rest)
  | [], hne, _, _, _, _, _, _, _ => absurd rfl hne
  | [j], _, n, depth, fuel, rest, hfits, hdepth, hfuel => by
    rw [itemsChars] at hfuel ⊢
    obtain ⟨c, cs, hchars, -⟩ := beginsValue_chars hfits.1
    have hpos : 0 < j.chars.length := by
      rw [hchars]
      exact Nat.succ_pos _
    obtain ⟨fuel, rfl⟩ : ∃ k, fuel = k + 2 := ⟨fuel - 2, by omega⟩
    have hvalue : readValue (fuel + 1) depth (j.chars ++ ']' :: rest) = _ :=
      readValue_chars j hfits.1 hdepth (by omega) (endsNumber_cons (by decide) rest)
    exact readItem_of_value hvalue readItems_close
  | j :: k :: more, _, n, depth, fuel, rest, hfits, hdepth, hfuel => by
    have hsplit : itemsChars (j :: k :: more) = j.chars ++ ',' :: itemsChars (k :: more) := rfl
    rw [hsplit, List.length_append, List.length_cons] at hfuel
    obtain ⟨fuel, rfl⟩ : ∃ k, fuel = k + 2 := ⟨fuel - 2, by omega⟩
    have hvalue : readValue (fuel + 1) depth
        (j.chars ++ ',' :: (itemsChars (k :: more) ++ ']' :: rest)) = _ :=
      readValue_chars j hfits.1 hdepth (by omega) (endsNumber_cons (by decide) _)
    -- what stands behind the comma is read as the rest of the items
    have hitems : readItem fuel depth (itemsChars (k :: more) ++ ']' :: rest) = _ :=
      readItem_itemsChars (k :: more) (by simp) hfits.2 hdepth (by omega)
    rw [hsplit, List.append_assoc, List.cons_append]
    exact readItem_of_value hvalue
      ((readItems_comma ((beginsValue_itemsChars hfits.2).append _)).trans hitems)

/-- The members of an object are read one by one. -/
theorem readMember_membersChars : (members : List (String × Json)) → members ≠ [] →
    ∀ {n depth fuel : Nat} {rest : List Char}, FitMembers n members → depth + n < depthLimit →
      3 * (membersChars members).length + 1 ≤ fuel →
        readMember fuel depth (membersChars members ++ '\x7d' :: rest)
          = (ofMembers (rereadMembers members), .strict, some rest)
  | [], hne, _, _, _, _, _, _, _ => absurd rfl hne
  | [(key, j)], _, n, depth, fuel, rest, hfits, hdepth, hfuel => by
    have hsplit : membersChars [(key, j)]
        = '"' :: (key.toList.flatMap charChars ++ '"' :: ':' :: j.chars) := by
      rw [membersChars, stringChars]
      simp
    rw [hsplit, List.length_cons, List.length_append, List.length_cons, List.length_cons] at hfuel
    obtain ⟨fuel, rfl⟩ : ∃ k, fuel = k + 2 := ⟨fuel - 2, by omega⟩
    have hvalue : readValue (fuel + 1) depth (j.chars ++ '\x7d' :: rest) = _ :=
      readValue_chars j hfits.1 hdepth (by omega) (endsNumber_cons (by decide) rest)
    rw [hsplit, List.cons_append, List.append_assoc, List.cons_append, List.cons_append]
    exact readMember_of_value (readString_stringChars key _) hvalue readMembers_close
  | (key, j) :: m :: more, _, n, depth, fuel, rest, hfits, hdepth, hfuel => by
    have hsplit : membersChars ((key, j) :: m :: more) = '"' :: (key.toList.flatMap charChars
        ++ '"' :: ':' :: (j.chars ++ ',' :: membersChars (m :: more))) := by
      rw [membersChars, stringChars]
      · simp
      · simp
    rw [hsplit, List.length_cons, List.length_append, List.length_cons, List.length_cons,
      List.length_append, List.length_cons] at hfuel
    obtain ⟨fuel, rfl⟩ : ∃ k, fuel = k + 2 := ⟨fuel - 2, by omega⟩
    have hvalue : readValue (fuel + 1) depth
        (j.chars ++ ',' :: (membersChars (m :: more) ++ '\x7d' :: rest)) = _ :=
      readValue_chars j hfits.1 hdepth (by omega) (endsNumber_cons (by decide) _)
    have hmembers : readMember fuel depth (membersChars (m :: more) ++ '\x7d' :: rest) = _ :=
      readMember_membersChars (m :: more) (by simp) hfits.2 hdepth (by omega)
    -- behind the comma another key has to come, and it does
    have hcomma : readMembers (fuel + 1) depth false
        (',' :: (membersChars (m :: more) ++ '\x7d' :: rest))
          = readMember fuel depth (membersChars (m :: more) ++ '\x7d' :: rest) := by
      obtain ⟨cs, hbegin⟩ := exists_membersChars m more
      rw [hbegin, List.cons_append, readMembers_comma]
    rw [hsplit]
    simp only [List.cons_append, List.append_assoc]
    exact readMember_of_value (readString_stringChars key _) hvalue (hcomma.trans hmembers)

end

end Tree

/-! ### Texts with a gap behind them -/

/-- A gap goes on with no number. -/
theorem Tree.endsNumber_of_isGap {gap : List Char} (h : ∀ c ∈ gap, isGap c = true) :
    EndsNumber gap := by
  intro c hc
  have hgap := h c (List.mem_of_mem_head? hc)
  simp only [isGap, Bool.or_eq_true, decide_eq_true_eq] at hgap
  rcases hgap with ((rfl | rfl) | rfl) | rfl <;> decide

theorem Tree.skipGap_of_isGap {gap : List Char} (h : ∀ c ∈ gap, isGap c = true) :
    skipGap gap = [] := by
  induction gap with
  | nil => rfl
  | cons c rest ih =>
    rw [skipGap, List.dropWhile_cons, h c (List.mem_cons_self ..)]
    exact ih fun c' hc' => h c' (List.mem_cons_of_mem _ hc')

/-- **The text of a value that fits is read as `reread` says**, with a gap behind it or without. -/
theorem Tree.read_compact_append {j : Json} {n : Nat} (h : j.Fits n) (hn : n < depthLimit)
    (gap : String) (hgap : ∀ c ∈ gap.toList, isGap c = true) :
    read (j.compact ++ gap) = (ofJson j.reread, some gap.toList) := by
  rw [read, String.toList_append, Json.toList_compact]
  exact readValue_chars j h (by omega) (by rw [List.length_append]; omega) (endsNumber_of_isGap hgap)

/-- What is decoded from what a text is read as is decoded from the text. -/
theorem Decoder.ofText_compact_append {α : Type} {d : Decoder α} {j : Json} {n : Nat} {a : α}
    (h : j.Fits n) (hn : n < Tree.depthLimit) (hd : d (Tree.ofJson j.reread) = .ok a) (gap : String)
    (hgap : ∀ c ∈ gap.toList, Tree.isGap c = true) : d.ofText (j.compact ++ gap) = .ok a := by
  unfold ofText
  rw [Tree.read_compact_append h hn gap hgap]
  dsimp only
  rw [hd]
  dsimp only
  rw [Tree.skipGap_of_isGap hgap]
  rfl

theorem Decoder.ofText_compact {α : Type} {d : Decoder α} {j : Json} {n : Nat} {a : α}
    (h : j.Fits n) (hn : n < Tree.depthLimit) (hd : d (Tree.ofJson j.reread) = .ok a) :
    d.ofText j.compact = .ok a := by
  have hread := ofText_compact_append h hn hd "" (by simp)
  rwa [String.append_empty] at hread

/-- Members are decoded one by one, in whatever order they stand. -/
theorem Decoder.memberValues_ofMembers_foldl {members : List (String × Json)}
    (h : ∀ m ∈ members, m.2.Sorted) (done : List (String × Json)) :
    memberValues (Tree.ofMembers members) done
      = .ok (members.foldl (fun done m => Json.insert m.1 m.2 done) done) := by
  induction members generalizing done with
  | nil => rfl
  | cons m rest ih =>
    have hvalue := value_ofJson (h m (List.mem_cons_self ..))
    rw [Tree.ofMembers, memberValues, hvalue]
    exact ih (fun m' hm' => h m' (List.mem_cons_of_mem _ hm')) _

/-- **An object is decoded with its members in order**, in whatever order they stand. -/
theorem Decoder.value_ofJson_obj {members : List (String × Json)} (h : ∀ m ∈ members, m.2.Sorted) :
    value (Tree.ofJson (.obj members)) = .ok (Json.ofMembers members) := by
  rw [Tree.ofJson, value, memberValues_ofMembers_foldl h]
  rfl

/-! ### A text is a line -/

/-- A character of numbers: a digit, or one of the signs and marks between digits. -/
def isNumeral (c : Char) : Bool :=
  c.isDigit || c == '.' || c == 'e' || c == '+' || c == '-'

theorem isNumeral_of_isDigit {c : Char} (h : c.isDigit = true) : isNumeral c = true := by
  simp [isNumeral, h]

theorem isNumeral_of_mem_toDigits (m : Nat) : ∀ c ∈ Nat.toDigits 10 m, isNumeral c = true :=
  fun c hc => isNumeral_of_isDigit ((Tree.isWhole_toDigits m).isDigit c hc)

theorem isNumeral_of_mem_zeros (n : Nat) : ∀ c ∈ List.replicate n '0', isNumeral c = true := by
  intro c hc
  rw [List.eq_of_mem_replicate hc]
  rfl

/-- **The text of a decimal** has characters of numbers only, however it is laid out. -/
theorem Layout.isNumeral_of_mem_render (d : Decimal) :
    ∀ c ∈ (Layout.data.render d).toList, isNumeral c = true := by
  obtain ⟨m, e⟩ := d
  have hdigits := isNumeral_of_mem_toDigits m
  have htake (k : Nat) : ∀ c ∈ (Nat.toDigits 10 m).take k, isNumeral c = true :=
    fun c hc => hdigits c (List.mem_of_mem_take hc)
  have hdrop (k : Nat) : ∀ c ∈ (Nat.toDigits 10 m).drop k, isNumeral c = true :=
    fun c hc => hdigits c (List.mem_of_mem_drop hc)
  by_cases hm : m = 0
  · subst hm
    rw [toList_render_zero]
    simp only [List.forall_mem_append, List.forall_mem_cons]
    exact ⟨⟨rfl, nofun⟩, rfl, rfl, nofun⟩
  -- the four places the point can have: before the digits, behind, among them, or in a power of ten
  by_cases hplace : data.isPositional (e + (Nat.toDigits 10 m).length) = true
  · by_cases hle : e + (Nat.toDigits 10 m).length ≤ 0
    · rw [toList_render_below hm rfl hplace hle]
      simp only [List.forall_mem_append, List.forall_mem_cons]
      exact ⟨⟨rfl, nofun⟩, rfl, isNumeral_of_mem_zeros _, hdigits⟩
    by_cases hshort : (Nat.toDigits 10 m).length ≤ (e + (Nat.toDigits 10 m).length : Int).toNat
    · rw [toList_render_above hm rfl hplace hle hshort]
      simp only [List.forall_mem_append, List.forall_mem_cons]
      exact ⟨⟨hdigits, isNumeral_of_mem_zeros _⟩, rfl, rfl, nofun⟩
    · rw [toList_render_within hm rfl hplace hle hshort]
      simp only [List.forall_mem_append, List.forall_mem_cons]
      exact ⟨htake _, rfl, hdrop _⟩
  · rw [toList_render_exponent hm rfl hplace]
    simp only [List.forall_mem_append, List.forall_mem_cons]
    refine ⟨htake 1, ?_, rfl, ?_, isNumeral_of_mem_toDigits _⟩
    · -- the point is left out if there is one digit
      split
      · exact nofun
      · exact List.forall_mem_cons.mpr ⟨rfl, hdrop 1⟩
    · split <;> rfl

namespace Json

/-- **The text of a number** has characters of numbers only. -/
theorem isNumeral_of_mem_writeNumber (n : Number) :
    ∀ c ∈ (writeNumber n).toList, isNumeral c = true := by
  cases n with
  | int i =>
    rw [Number.toList_writeNumber_int]
    split
    · exact List.forall_mem_cons.mpr ⟨rfl, isNumeral_of_mem_toDigits _⟩
    · exact isNumeral_of_mem_toDigits _
  | real x =>
    rw [Number.toList_writeNumber_real]
    split
    · exact List.forall_mem_cons.mpr ⟨rfl, Layout.isNumeral_of_mem_render _⟩
    · exact Layout.isNumeral_of_mem_render _

theorem ne_newline_of_mem_writeNumber {n : Number} {c : Char} (h : c ∈ (writeNumber n).toList) :
    c ≠ '\n' := by
  rintro rfl
  exact absurd (isNumeral_of_mem_writeNumber n _ h) (by decide)

mutual

/-- **The compact text of a value breaks no line.** -/
theorem ne_newline_of_mem_chars : (j : Json) → ∀ c ∈ j.chars, c ≠ '\n'
  | .null | .bool true | .bool false => fun c hc => by
    rintro rfl
    exact absurd hc (by decide)
  | .num n => fun c hc => ne_newline_of_mem_writeNumber (by rwa [chars] at hc)
  | .str s => fun c hc => ne_newline_of_mem_stringChars (by rwa [chars] at hc)
  | .arr items => fun c hc => by
    rw [chars] at hc
    simp only [List.mem_cons, List.mem_append, List.not_mem_nil, or_false] at hc
    rcases hc with rfl | hc | rfl
    · decide
    · exact ne_newline_of_mem_itemsChars items c hc
    · decide
  | .obj members => fun c hc => by
    rw [chars] at hc
    simp only [List.mem_cons, List.mem_append, List.not_mem_nil, or_false] at hc
    rcases hc with rfl | hc | rfl
    · decide
    · exact ne_newline_of_mem_membersChars members c hc
    · decide

theorem ne_newline_of_mem_itemsChars : (items : List Json) → ∀ c ∈ itemsChars items, c ≠ '\n'
  | [] => fun c hc => nomatch hc
  | [j] => ne_newline_of_mem_chars j
  | j :: k :: rest => fun c hc => by
    have hsplit : itemsChars (j :: k :: rest) = j.chars ++ ',' :: itemsChars (k :: rest) := rfl
    rw [hsplit] at hc
    simp only [List.mem_append, List.mem_cons] at hc
    rcases hc with hc | rfl | hc
    · exact ne_newline_of_mem_chars j c hc
    · decide
    · exact ne_newline_of_mem_itemsChars (k :: rest) c hc

theorem ne_newline_of_mem_membersChars : (members : List (String × Json)) →
    ∀ c ∈ membersChars members, c ≠ '\n'
  | [] => fun c hc => nomatch hc
  | [(key, j)] => fun c hc => by
    rw [membersChars] at hc
    simp only [List.mem_append, List.mem_cons] at hc
    rcases hc with hc | rfl | hc
    · exact ne_newline_of_mem_stringChars hc
    · decide
    · exact ne_newline_of_mem_chars j c hc
  | (key, j) :: m :: rest => fun c hc => by
    have hsplit : membersChars ((key, j) :: m :: rest)
        = stringChars key ++ ':' :: (j.chars ++ ',' :: membersChars (m :: rest)) := rfl
    rw [hsplit] at hc
    simp only [List.mem_append, List.mem_cons] at hc
    rcases hc with hc | rfl | hc | rfl | hc
    · exact ne_newline_of_mem_stringChars hc
    · decide
    · exact ne_newline_of_mem_chars j c hc
    · decide
    · exact ne_newline_of_mem_membersChars (m :: rest) c hc

end

end Json

end Flowgraph

import Flowgraph.Proofs.Json.Insert
import Flowgraph.Proofs.Json.Members
import Flowgraph.Proofs.Json.ReadBack

/-!
# What is read fits

The reader of JSON text makes no number of more than 64 bits and no containers that nest deeper than its
limit (`Tree.fits_read`), and what is decoded from a tree that fits is a value that fits, with the
members of its objects in order (`Decoder.fits_of_value`).  So a value that comes from a text can be
written and read again.
-/

namespace Flowgraph

/-! ### Trees that fit -/

namespace Tree

mutual

/-- **A tree fits**: each of its numbers does, and its containers nest at most `n` deep. -/
def Fits (n : Nat) : Tree → Prop
  | .num k => k.Fits
  | .arr items _ => 0 < n ∧ FitItems (n - 1) items
  | .obj members _ => 0 < n ∧ FitMembers (n - 1) members
  | .special _ => False
  | .null | .bool _ | .str _ | .unreadable | .broken => True

/-- Each item fits. -/
def FitItems (n : Nat) : List Tree → Prop
  | [] => True
  | t :: rest => Fits n t ∧ FitItems n rest

/-- Each member's value fits. -/
def FitMembers (n : Nat) : List (String × Tree) → Prop
  | [] => True
  | (_, t) :: rest => Fits n t ∧ FitMembers n rest

end

theorem fitItems_iff {n : Nat} {items : List Tree} :
    FitItems n items ↔ ∀ t ∈ items, t.Fits n := by
  induction items with
  | nil => exact iff_of_true trivial nofun
  | cons t rest ih => rw [FitItems, ih, List.forall_mem_cons]

theorem fitMembers_iff {n : Nat} {members : List (String × Tree)} :
    FitMembers n members ↔ ∀ m ∈ members, m.2.Fits n := by
  induction members with
  | nil => exact iff_of_true trivial nofun
  | cons m rest ih => rw [FitMembers, ih, List.forall_mem_cons]

/-- What stands in a container that fits nests one less deep. -/
theorem Fits.parts {t : Tree} {n : Nat} (h : t.Fits n) : ∀ t' ∈ t.parts, t'.Fits (n - 1) := by
  cases t with
  | arr items closing => exact fitItems_iff.mp h.2
  | obj members closing =>
    intro t' ht'
    obtain ⟨m, hm, rfl⟩ := List.mem_map.mp ht'
    exact fitMembers_iff.mp h.2 m hm
  | _ => exact fun _ ht' => nomatch ht'

mutual

/-- The tree of a value that fits does so. -/
theorem fits_ofJson : {j : Json} → {n : Nat} → j.Fits n → (ofJson j).Fits n
  | .null, _, _ | .bool _, _, _ | .str _, _, _ => trivial
  | .num _, _, h => h
  | .arr items, _, h => ⟨h.1, @fits_ofItems items _ h.2⟩
  | .obj members, _, h => ⟨h.1, @fits_ofMembers members _ h.2⟩

theorem fits_ofItems : {items : List Json} → {n : Nat} → Json.FitItems n items →
    FitItems n (ofItems items)
  | [], _, _ => trivial
  | _ :: _, _, h => ⟨fits_ofJson h.1, fits_ofItems h.2⟩

theorem fits_ofMembers : {members : List (String × Json)} → {n : Nat} →
    Json.FitMembers n members → FitMembers n (ofMembers members)
  | [], _, _ => trivial
  | _ :: _, _, h => ⟨fits_ofJson h.1, fits_ofMembers h.2⟩

end

/-! ### Reading numbers -/

theorem fits_finishNumber {k : Option Number} (h : ∀ n ∈ k, n.Fits) (n : Nat) (rest : List Char) :
    (finishNumber k rest).1.Fits n := by
  cases k with
  | none => trivial
  | some k => exact h k rfl

/-- The digits that are kept fit 64 bits, whatever is pushed. -/
theorem value_takeDigits_lt {push : Number.Digits → Nat → Number.Digits}
    (hpush : ∀ d digit, d.value < Number.wordLimit → (push d digit).value < Number.wordLimit)
    {d : Number.Digits} (hd : d.value < Number.wordLimit) (cs : List Char) :
    (takeDigits push d cs).1.value < Number.wordLimit := by
  induction cs generalizing d with
  | nil => exact hd
  | cons c rest ih =>
    unfold takeDigits
    split
    · exact ih (hpush d _ hd)
    · exact hd

theorem value_pushWhole_lt (d : Number.Digits) (digit : Nat) (hd : d.value < Number.wordLimit) :
    (d.pushWhole digit).value < Number.wordLimit := by
  unfold Number.Digits.pushWhole
  split
  · next h =>
    rw [Bool.and_eq_true, decide_eq_true_eq] at h
    exact h.2
  · exact hd

/-- The number of a whole literal fits. -/
theorem fits_ofWhole? {negative : Bool} {d : Number.Digits} (hd : d.value < Number.wordLimit)
    {k : Number} (h : Number.ofWhole? negative d = some k) : k.Fits := by
  rw [Number.wordLimit_eq] at hd
  unfold Number.ofWhole? at h
  split at h
  · exact Number.fits_of_ofDigits? h
  split at h
  · obtain rfl := Option.some.inj h
    exact ⟨by omega, by omega⟩
  split at h
  · next hsmall =>
    obtain rfl := Option.some.inj h
    rw [Bool.and_eq_true, decide_eq_true_eq, decide_eq_true_eq, Nat.pow_eq] at hsmall
    exact ⟨by omega, by omega⟩
  · exact Number.fits_of_ofDigits? h

theorem fits_readScale {negative whole : Bool} {d : Number.Digits}
    (hd : whole = true → d.value < Number.wordLimit) {cs : List Char} {found : Tree × List Char}
    (h : readScale negative d whole cs = some found) (n : Nat) : found.1.Fits n := by
  have hfinish : ∀ rest, (readScale.finish negative d whole rest).1.Fits n := by
    intro rest
    refine fits_finishNumber (fun k hk => ?_) n rest
    split at hk
    · next hwhole => exact fits_ofWhole? (hd hwhole) hk
    · exact Number.fits_of_ofDigits? hk
  cases cs with
  | nil => exact Option.some.inj h ▸ hfinish []
  | cons c cs =>
    rw [readScale] at h
    split at h
    · obtain ⟨_, -, rfl⟩ := Option.map_eq_some_iff.mp h
      exact fits_finishNumber (fun k hk => Number.fits_of_ofDigits? hk) n _
    · exact Option.some.inj h ▸ hfinish _

/-- **Every number that is read fits.** -/
theorem fits_readNumber {negative : Bool} {cs : List Char} {found : Tree × List Char}
    (h : readNumber negative cs = some found) (n : Nat) : found.1.Fits n := by
  rw [readNumber] at h
  split at h
  · cases h
  have hwhole := value_takeDigits_lt value_pushWhole_lt (d := ⟨0, 0, false⟩) (by decide) cs
  dsimp only at h
  split at h
  · cases h
  split at h
  · split at h
    · exact fits_readScale (fun h => absurd h Bool.false_ne_true) h n
    · cases h
  · exact fits_readScale (fun _ => hwhole) h n

/-! ### Reading values -/

/-- A container beyond the limit stands for no value. -/
theorem fits_limited {depth : Nat} {t : Tree}
    (h : depth < depthLimit → t.Fits (depthLimit - depth)) :
    (limited depth t).Fits (depthLimit - depth) := by
  unfold limited
  split
  · next hdepth => exact h hdepth
  · split <;> trivial

theorem fits_readWord {word cs : List Char} {t : Tree} {n : Nat} (h : t.Fits n) :
    (readWord word t cs).1.Fits n := by
  unfold readWord
  split
  · exact h
  · trivial

mutual

/-- **Every value that is read fits**: inside `depth` containers, it nests as deep as the limit leaves. -/
theorem fits_readValue : (fuel depth : Nat) → (cs : List Char) →
    (readValue fuel depth cs).1.Fits (depthLimit - (depth + 1))
  | 0, depth, cs => by
    rw [readValue]
    trivial
  | fuel + 1, depth, cs => by
    rw [readValue]
    split
    · trivial
    · exact fits_readWord trivial
    · exact fits_readWord trivial
    · exact fits_readWord trivial
    · split <;> trivial
    · exact fits_limited fun hdepth =>
        ⟨Nat.sub_pos_of_lt hdepth, fits_readItems fuel (depth + 1) true _⟩
    · exact fits_limited fun hdepth =>
        ⟨Nat.sub_pos_of_lt hdepth, fits_readMembers fuel (depth + 1) true _⟩
    · split
      · next h => exact fits_readNumber h _
      · trivial
    · split
      · next h => exact fits_readNumber h _
      · trivial

theorem fits_readItems : (fuel depth : Nat) → (first : Bool) → (cs : List Char) →
    FitItems (depthLimit - (depth + 1)) (readItems fuel depth first cs).1
  | 0, depth, first, cs => by
    rw [readItems]
    trivial
  | fuel + 1, depth, first, cs => by
    rw [readItems]
    split
    · trivial
    · split
      · exact ⟨trivial, trivial⟩
      split
      · trivial
      · exact fits_readItem fuel depth _
    · split
      · exact fits_readItem fuel depth _
      · trivial

theorem fits_readItem : (fuel depth : Nat) → (cs : List Char) →
    FitItems (depthLimit - (depth + 1)) (readItem fuel depth cs).1
  | 0, depth, cs => by
    rw [readItem]
    trivial
  | fuel + 1, depth, cs => by
    have hvalue := fits_readValue fuel depth cs
    rw [readItem]
    split
    · next h =>
      rw [h] at hvalue
      exact ⟨hvalue, trivial⟩
    · next h =>
      rw [h] at hvalue
      exact ⟨hvalue, fits_readItems fuel depth false _⟩

theorem fits_readMembers : (fuel depth : Nat) → (first : Bool) → (cs : List Char) →
    FitMembers (depthLimit - (depth + 1)) (readMembers fuel depth first cs).1
  | 0, depth, first, cs => by
    rw [readMembers]
    trivial
  | fuel + 1, depth, first, cs => by
    rw [readMembers]
    split
    · trivial
    · split
      · trivial
      · exact fits_readMember fuel depth _
    · split
      · exact fits_readMember fuel depth _
      · trivial

theorem fits_readMember : (fuel depth : Nat) → (cs : List Char) →
    FitMembers (depthLimit - (depth + 1)) (readMember fuel depth cs).1
  | 0, depth, cs => by
    rw [readMember]
    trivial
  | fuel + 1, depth, cs => by
    unfold readMember
    split
    · split
      · split
        · -- the value is kept even if what stands behind it breaks off, so it fits in both cases
          next rest _ =>
          have hvalue := fits_readValue fuel depth rest
          split
          · next h =>
            rw [h] at hvalue
            exact ⟨hvalue, trivial⟩
          · next h =>
            rw [h] at hvalue
            exact ⟨hvalue, fits_readMembers fuel depth false _⟩
        · exact ⟨trivial, trivial⟩
      · trivial
    · trivial

end

/-- **What is read fits.** -/
theorem fits_read (s : String) : (read s).1.Fits (depthLimit - 1) := fits_readValue _ 0 _

end Tree

/-! ### Decoding -/

namespace Json

/-- **Members of an object that can be written and read again**: their keys are in order, and so is each
value, which fits. -/
structure Members (n : Nat) (members : List (String × Json)) : Prop where
  keys : (members.map (·.1)).Pairwise (· < ·)
  sorted : ∀ m ∈ members, m.2.Sorted
  fits : ∀ m ∈ members, m.2.Fits n

theorem Members.nil (n : Nat) : Members n [] :=
  ⟨.nil, fun _ h => (nomatch h), fun _ h => (nomatch h)⟩

theorem Members.insert {n : Nat} {members : List (String × Json)} (h : Members n members)
    {key : String} {value : Json} (hsorted : value.Sorted) (hfits : value.Fits n) :
    Members n (Json.insert key value members) where
  keys := pairwise_insert h.keys
  sorted m hm := (mem_insert hm).elim (fun heq => heq ▸ hsorted) (h.sorted m)
  fits m hm := (mem_insert hm).elim (fun heq => heq ▸ hfits) (h.fits m)

end Json

namespace Decoder

open Json

mutual

/-- **What is decoded from a tree that fits can be written and read again**: it fits, and it is in
order. -/
theorem fits_of_value : {t : Tree} → {n : Nat} → {j : Json} → t.Fits n → value t = .ok j →
    j.Sorted ∧ j.Fits n
  | .null, _, _, _, h | .bool _, _, _, _, h | .str _, _, _, _, h => by
    rw [value] at h
    obtain rfl := Except.ok.inj h
    exact ⟨trivial, trivial⟩
  | .num k, _, _, ht, h => by
    rw [value] at h
    obtain rfl := Except.ok.inj h
    exact ⟨trivial, ht⟩
  | .special _, _, _, ht, _ => ht.elim
  | .unreadable, _, _, _, h | .broken, _, _, _, h => by
    rw [value] at h
    exact nomatch h
  | .arr ts closing, n, j, ht, h => by
    rw [value] at h
    obtain ⟨js, hjs, h⟩ := bind_eq_ok_iff.mp h
    obtain ⟨_, -, h⟩ := bind_eq_ok_iff.mp h
    obtain rfl := Except.ok.inj h
    -- the bound of the array is one more than that of its items
    have hall := fits_of_values ht.2 hjs
    exact ⟨sortedItems_iff.mpr fun j hj => (hall j hj).1, ht.1,
      fitItems_iff.mpr fun j hj => (hall j hj).2⟩
  | .obj ms closing, n, j, ht, h => by
    rw [value] at h
    obtain ⟨members, hmembers, h⟩ := bind_eq_ok_iff.mp h
    obtain ⟨_, -, h⟩ := bind_eq_ok_iff.mp h
    obtain rfl := Except.ok.inj h
    have hall := fits_of_memberValues ht.2 (Members.nil _) hmembers
    exact ⟨⟨hall.keys, sortedMembers_iff.mpr hall.sorted⟩, ht.1, fitMembers_iff.mpr hall.fits⟩

theorem fits_of_values : {ts : List Tree} → {n : Nat} → {js : List Json} → Tree.FitItems n ts →
    values ts = .ok js → ∀ j ∈ js, j.Sorted ∧ j.Fits n
  | [], _, _, _, h => by
    rw [values] at h
    obtain rfl := Except.ok.inj h
    exact nofun
  | t :: rest, n, js, ht, h => by
    rw [values] at h
    obtain ⟨j, hj, h⟩ := bind_eq_ok_iff.mp h
    obtain ⟨others, hothers, h⟩ := bind_eq_ok_iff.mp h
    obtain rfl := Except.ok.inj h
    exact List.forall_mem_cons.mpr ⟨fits_of_value ht.1 hj, fits_of_values ht.2 hothers⟩

theorem fits_of_memberValues : {ms : List (String × Tree)} → {n : Nat} →
    {done members : List (String × Json)} → Tree.FitMembers n ms → Members n done →
      memberValues ms done = .ok members → Members n members
  | [], _, _, _, _, hdone, h => by
    rw [memberValues] at h
    exact Except.ok.inj h ▸ hdone
  | (key, t) :: rest, n, done, members, ht, hdone, h => by
    rw [memberValues] at h
    obtain ⟨j, hj, h⟩ := bind_eq_ok_iff.mp h
    obtain ⟨hsorted, hfits⟩ := fits_of_value ht.1 hj
    exact fits_of_memberValues ht.2 (hdone.insert hsorted hfits) h

end

/-- Values that are decoded one by one fit like the items that they are decoded from. -/
theorem fits_of_each {ts : List Tree} {n : Nat} (hts : ∀ t ∈ ts, t.Fits n) {js : List Json}
    (h : each value ts = .ok js) : ∀ j ∈ js, j.Sorted ∧ j.Fits n := by
  induction ts generalizing js with
  | nil =>
    obtain rfl := Except.ok.inj h
    exact fun _ hj => nomatch hj
  | cons t rest ih =>
    obtain ⟨j, hj, h⟩ := bind_eq_ok_iff.mp h
    obtain ⟨others, hothers, h⟩ := bind_eq_ok_iff.mp h
    obtain rfl := Except.ok.inj h
    obtain ⟨ht, hrest⟩ := List.forall_mem_cons.mp hts
    exact List.forall_mem_cons.mpr ⟨fits_of_value ht hj, ih hrest hothers⟩

/-- Each value of a list is decoded from one of its items. -/
theorem fits_of_list {t : Tree} {n : Nat} (ht : t.Fits n) {js : List Json}
    (h : list value t = .ok js) : ∀ j ∈ js, j.Sorted ∧ j.Fits (n - 1) := by
  cases t with
  | arr ts closing =>
    obtain ⟨js', hjs, h⟩ := bind_eq_ok_iff.mp h
    obtain ⟨_, -, h⟩ := bind_eq_ok_iff.mp h
    obtain rfl := Except.ok.inj h
    exact fits_of_each ht.parts hjs
  | _ => exact nomatch h

/-- A binary number that is decoded from a tree that fits does so. -/
theorem fits_of_double {t : Tree} {n : Nat} (ht : t.Fits n) {x : Double} (h : double t = .ok x) :
    x.Fits := by
  cases t with
  | num k =>
    cases k with
    | int i => exact Except.ok.inj h ▸ Number.fits_ofInt i
    | real y => exact Except.ok.inj h ▸ ht
  | special y => exact ht.elim
  | _ => exact nomatch h

end Decoder

end Flowgraph

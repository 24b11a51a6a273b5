import Flowgraph.Proofs.Json.Decode

/-!
# What a record has been decoded from

`Decoder.record` goes through the members of an object once, in the order in which they stand, and
fills the slot of the field that each of them answers to.  Seen from a field, the members that answer
to other fields make no difference (`Slots.putAll_cons`), and two that answer to the same one are an
error.  So a record that has been decoded from an object holds, for each field, what the object has
under the names of the field, decoded, or the value for a field that is left out (`Field.Reads`).

`Decoder.reads_of_record` says so of all fields at once, if no two of them go by the same name.
Whatever a record has been decoded from, its values come from the decoders of its fields
(`Decoder.decoded_of_record`).
-/

namespace Flowgraph

/-- Members of other keys are nothing to the look-up of a key. -/
theorem Json.lookup_filter {p : String → Bool} {key : String} (hp : p key = true)
    {members : List (String × Json)} :
    lookup key (members.filter fun m => p m.1) = lookup key members := by
  unfold lookup
  rw [List.find?_filter]
  refine congrArg (Option.map _) (congrArg (members.find? ·) (funext fun m => ?_))
  by_cases hm : m.1 = key
  · simp [hm, hp]
  · simp [hm]

namespace Field

/-- The member of an object under the name of a field, or else under one of its other names. -/
def lookup? (f : Field) (members : List (String × Json)) : Option Json :=
  (f.name :: f.aliases).findSome? fun key => Json.lookup key members

/-- **The value of a field as the members of an object have it.** -/
def Reads (f : Field) (members : List (String × Json)) (v : f.Value) : Prop :=
  match f.lookup? members with
  | some j => Decoder.ofJson f.decode j = .ok v
  | none => f.absent = some v

/-- No name of the one field is a name of the other. -/
def Apart (f g : Field) : Prop := ∀ key, g.answersTo key = true → f.answersTo key = false

variable {f : Field} {members : List (String × Json)}

theorem answersTo_iff {key : String} : f.answersTo key = true ↔ key ∈ f.name :: f.aliases := by
  rw [answersTo, Bool.or_eq_true, beq_iff_eq, List.contains_iff_mem, List.mem_cons, eq_comm]

/-- What is found under the names of a field is a member that answers to it. -/
theorem exists_mem_of_lookup? {j : Json} (h : f.lookup? members = some j) :
    ∃ m ∈ members, f.answersTo m.1 = true ∧ m.2 = j := by
  obtain ⟨key, hkey, hfound⟩ := List.exists_of_findSome?_eq_some h
  obtain ⟨m, hm, hj⟩ := Option.map_eq_some_iff.mp hfound
  have hname := List.find?_some (p := fun m : String × Json => m.1 == key) hm
  rw [beq_iff_eq] at hname
  exact ⟨m, List.mem_of_find?_eq_some hm, answersTo_iff.mpr (hname ▸ hkey), hj⟩

/-- Where nothing is found, no member answers to the field. -/
theorem not_answersTo_of_lookup? (h : f.lookup? members = none) :
    ∀ m ∈ members, f.answersTo m.1 = false := by
  intro m hm
  refine Bool.eq_false_iff.mpr fun hans => ?_
  have hnone := List.findSome?_eq_none_iff.mp h m.1 (answersTo_iff.mp hans)
  have hlost := List.find?_eq_none.mp (Option.map_eq_none_iff.mp hnone) m hm
  exact hlost (beq_self_eq_true m.1)

/-- If only one member answers to a field, it is the one that is found. -/
theorem lookup?_of_filter {m : String × Json}
    (h : members.filter (fun m => f.answersTo m.1) = [m]) : f.lookup? members = some m.2 := by
  have hm : m ∈ members.filter fun m => f.answersTo m.1 := h ▸ List.mem_singleton.mpr rfl
  obtain ⟨hmem, hans⟩ := List.mem_filter.mp hm
  cases hfound : f.lookup? members with
  | none =>
    have hnot := not_answersTo_of_lookup? hfound m hmem
    rw [hans] at hnot
    exact nomatch hnot
  | some j =>
    obtain ⟨m', hm', hans', rfl⟩ := exists_mem_of_lookup? hfound
    have hone : m' ∈ members.filter fun m => f.answersTo m.1 := List.mem_filter.mpr ⟨hm', hans'⟩
    rw [h] at hone
    rw [List.mem_singleton.mp hone]

/-- What a field has is found and decoded, or it is left out. -/
theorem Reads.found_or_absent {v : f.Value} (h : f.Reads members v) :
    (∃ j, f.lookup? members = some j ∧ Decoder.ofJson f.decode j = .ok v) ∨
      (f.lookup? members = none ∧ f.absent = some v) := by
  unfold Reads at h
  cases hfound : f.lookup? members with
  | none =>
    rw [hfound] at h
    exact .inr ⟨rfl, h⟩
  | some j =>
    rw [hfound] at h
    exact .inl ⟨j, rfl, h⟩

theorem lookup?_of_no_alias (h : f.aliases = []) :
    f.lookup? members = Json.lookup f.name members := by
  rw [lookup?, h]
  cases hname : Json.lookup f.name members <;> simp [hname]

theorem lookup?_of_alias {other : String} (h : f.aliases = [other]) :
    f.lookup? members = (Json.lookup f.name members).or (Json.lookup other members) := by
  rw [lookup?, h]
  cases hname : Json.lookup f.name members <;> cases hother : Json.lookup other members <;>
    simp [hname, hother]

variable {α : Type} {name : String} {d : Decoder α}

/-- A member that may not be left out has been decoded. -/
theorem Reads.of_required {v : α} (h : (required name d).Reads members v) :
    ∃ j, Json.lookup name members = some j ∧ Decoder.ofJson d j = .ok v := by
  rcases h.found_or_absent with ⟨j, hfound, hv⟩ | ⟨-, habsent⟩
  · exact ⟨j, (lookup?_of_no_alias rfl).symm.trans hfound, hv⟩
  · exact nomatch habsent

/-- A member that may be left out has been decoded, or else it is left out. -/
theorem Reads.of_default {absent v : α} (h : (withDefault name d absent).Reads members v) :
    (∃ j, Json.lookup name members = some j ∧ Decoder.ofJson d j = .ok v) ∨
      (Json.lookup name members = none ∧ v = absent) := by
  rcases h.found_or_absent with ⟨j, hfound, hv⟩ | ⟨hnone, habsent⟩
  · exact .inl ⟨j, (lookup?_of_no_alias rfl).symm.trans hfound, hv⟩
  · exact .inr ⟨(lookup?_of_no_alias rfl).symm.trans hnone, (Option.some.inj habsent).symm⟩

/-- The same of a member that goes by another name too. -/
theorem Reads.of_alias {other : String} {absent v : α}
    (h : Reads ⟨name, [other], α, d, some absent⟩ members v) :
    (∃ j, (Json.lookup name members).or (Json.lookup other members) = some j ∧
        Decoder.ofJson d j = .ok v) ∨
      ((Json.lookup name members).or (Json.lookup other members) = none ∧ v = absent) := by
  rcases h.found_or_absent with ⟨j, hfound, hv⟩ | ⟨hnone, habsent⟩
  · exact .inl ⟨j, (lookup?_of_alias rfl).symm.trans hfound, hv⟩
  · exact .inr ⟨(lookup?_of_alias rfl).symm.trans hnone, (Option.some.inj habsent).symm⟩

/-- Members that answer to another field are nothing to one that is apart from it. -/
theorem Reads.of_filter {g : Field} {v : g.Value} (hfg : f.Apart g)
    (h : g.Reads (members.filter fun m => !f.answersTo m.1) v) : g.Reads members v := by
  -- by induction on the keys of `g`: none of the members left out answers to one of them
  have hsame : g.lookup? (members.filter fun m => !f.answersTo m.1) = g.lookup? members := by
    have hkeys : ∀ key ∈ g.name :: g.aliases, f.answersTo key = false :=
      fun key hkey => hfg key (answersTo_iff.mpr hkey)
    unfold lookup?
    generalize g.name :: g.aliases = keys at hkeys
    induction keys with
    | nil => rfl
    | cons key rest ih =>
      have hkey : Json.lookup key (members.filter fun m => !f.answersTo m.1)
          = Json.lookup key members :=
        Json.lookup_filter (p := fun key => !f.answersTo key)
          (by rw [hkeys key (List.mem_cons_self ..)]; rfl)
      rw [List.findSome?_cons, List.findSome?_cons, hkey,
        ih fun key hkey => hkeys key (List.mem_cons_of_mem _ hkey)]
  unfold Reads at h ⊢
  rwa [hsame] at h

end Field

/-- **A row as the members of an object have it**, field by field. -/
def Row.Reads (members : List (String × Json)) : (fs : List Field) → Row fs → Prop
  | [], () => True
  | f :: fs, (v, row) => f.Reads members v ∧ Row.Reads members fs row

/-- Members that answer to another field are nothing to fields that are apart from it. -/
theorem Row.Reads.of_filter {f : Field} {fs : List Field} {members : List (String × Json)}
    {row : Row fs} (hf : ∀ g ∈ fs, f.Apart g)
    (h : Row.Reads (members.filter fun m => !f.answersTo m.1) fs row) :
    Row.Reads members fs row := by
  induction fs with
  | nil => trivial
  | cons g rest ih =>
    obtain ⟨hv, hrow⟩ := h
    exact ⟨hv.of_filter (hf g (List.mem_cons_self ..)),
      ih (fun g' hg' => hf g' (List.mem_cons_of_mem _ hg')) hrow⟩

namespace Slots

variable {f : Field} {fs : List Field}

/-- What one field finds among the members that answer to it. -/
def gather (f : Field) : List (String × Tree) → Option f.Value → Except DecodeError (Option f.Value)
  | [], slot => .ok slot
  | (_, t) :: rest, slot =>
    match slot with
    | some _ => .error (.duplicateField f.name)
    | Option.none => do
      let v ← f.decode t
      gather f rest (some v)

/-- **One field finds what answers to it, and the others find what is left.** -/
theorem putAll_cons {ms : List (String × Tree)} {slots slots' : Slots (f :: fs)}
    (h : putAll (f :: fs) ms slots = .ok slots') :
    gather f (ms.filter fun m => f.answersTo m.1) slots.1 = .ok slots'.1 ∧
      putAll fs (ms.filter fun m => !f.answersTo m.1) slots.2 = .ok slots'.2 := by
  induction ms generalizing slots with
  | nil =>
    obtain rfl := Except.ok.inj h
    exact ⟨rfl, rfl⟩
  | cons m rest ih =>
    obtain ⟨key, t⟩ := m
    obtain ⟨slot, others⟩ := slots
    obtain ⟨mid, hput, hrest⟩ := bind_eq_ok_iff.mp h
    obtain ⟨hgather, hothers⟩ := ih hrest
    unfold put at hput
    -- the first member goes to the field that it answers to, or to the others
    by_cases hans : f.answersTo key = true
    · rw [List.filter_cons_of_pos (by exact hans), List.filter_cons_of_neg (by rw [hans]; decide)]
      rw [if_pos hans] at hput
      cases slot with
      | some v => exact nomatch hput
      | none =>
        obtain ⟨v, hv, rfl⟩ := map_eq_ok_iff.mp hput
        refine ⟨?_, hothers⟩
        rw [gather, hv]
        exact hgather
    · rw [List.filter_cons_of_neg (by exact hans),
        List.filter_cons_of_pos (by rw [Bool.eq_false_iff.mpr hans]; rfl)]
      rw [if_neg hans] at hput
      obtain ⟨found, hfound, rfl⟩ := map_eq_ok_iff.mp hput
      refine ⟨hgather, ?_⟩
      rw [putAll, hfound]
      exact hothers

/-- A field finds nothing, or it finds what is in the only member that answers to it. -/
theorem gather_eq_ok {ms : List (String × Tree)} {slot : Option f.Value}
    (h : gather f ms Option.none = .ok slot) :
    (ms = [] ∧ slot = Option.none) ∨ ∃ m v, ms = [m] ∧ f.decode m.2 = .ok v ∧ slot = some v := by
  cases ms with
  | nil => exact .inl ⟨rfl, (Except.ok.inj h).symm⟩
  | cons m rest =>
    obtain ⟨v, hv, hrest⟩ := bind_eq_ok_iff.mp h
    cases rest with
    | nil => exact .inr ⟨m, v, rfl, hv, (Except.ok.inj hrest).symm⟩
    | cons m' rest => exact nomatch hrest

theorem filter_ofMembers (p : String → Bool) (members : List (String × Json)) :
    (Tree.ofMembers members).filter (fun m => p m.1)
      = Tree.ofMembers (members.filter fun m => p m.1) := by
  induction members with
  | nil => rfl
  | cons m rest ih =>
    rw [Tree.ofMembers]
    by_cases hm : p m.1 = true
    · rw [List.filter_cons_of_pos (by exact hm), List.filter_cons_of_pos (by exact hm), ih]
      rfl
    · rw [List.filter_cons_of_neg (by exact hm), List.filter_cons_of_neg (by exact hm), ih]

/-- What a field has found, or what stands for one that is left out, is what the members have. -/
theorem reads_of_gather {members : List (String × Json)} {slot : Option f.Value} {v : f.Value}
    (h : gather f (Tree.ofMembers (members.filter fun m => f.answersTo m.1)) Option.none = .ok slot)
    (hv : slot.or f.absent = some v) : f.Reads members v := by
  unfold Field.Reads
  -- there is no such member, and the field has none; or there is one, as a second is refused
  cases hanswers : members.filter fun m => f.answersTo m.1 with
  | nil =>
    rw [hanswers] at h
    obtain rfl := Except.ok.inj h
    cases hfound : f.lookup? members with
    | none => exact hv
    | some j =>
      obtain ⟨m, hm, hans, -⟩ := Field.exists_mem_of_lookup? hfound
      exact absurd hans (List.filter_eq_nil_iff.mp hanswers m hm)
  | cons m rest =>
    rw [hanswers] at h
    rcases gather_eq_ok h with ⟨hnil, -⟩ | ⟨m', v', hone, hdecode, rfl⟩
    · exact nomatch hnil
    · obtain ⟨rfl, hrest⟩ := List.cons.inj hone
      obtain rfl : rest = [] := by
        cases rest with
        | nil => rfl
        | cons _ _ => exact nomatch hrest
      rw [Field.lookup?_of_filter hanswers]
      obtain rfl : v' = v := Option.some.inj hv
      exact hdecode

/-- **What has been put together is what the members have**, each field for itself. -/
theorem reads_of_complete {fs : List Field} (hapart : fs.Pairwise Field.Apart)
    {members : List (String × Json)} {slots : Slots fs} {row : Row fs}
    (hput : putAll fs (Tree.ofMembers members) (none fs) = .ok slots)
    (hcomplete : complete fs slots = .ok row) : Row.Reads members fs row := by
  induction fs generalizing members with
  | nil => trivial
  | cons f fs ih =>
    obtain ⟨slot, others⟩ := slots
    obtain ⟨hf, hfs⟩ := List.pairwise_cons.mp hapart
    obtain ⟨hgather, hothers⟩ := putAll_cons hput
    rw [filter_ofMembers] at hgather
    rw [filter_ofMembers fun key => !f.answersTo key] at hothers
    unfold complete at hcomplete
    cases hslot : slot.or f.absent with
    | none =>
      rw [hslot] at hcomplete
      exact nomatch hcomplete
    | some v =>
      rw [hslot] at hcomplete
      obtain ⟨row', hrow', rfl⟩ := map_eq_ok_iff.mp hcomplete
      exact ⟨reads_of_gather hgather hslot, Row.Reads.of_filter hf (ih hfs hothers hrow')⟩

end Slots

/-- **A record is decoded from what the members of an object have.** -/
theorem Decoder.reads_of_record {title : String} {fs : List Field} {members : List (String × Json)}
    {row : Row fs} (hapart : fs.Pairwise Field.Apart)
    (h : Decoder.ofJson (Decoder.record title fs) (.obj members) = .ok row) :
    Row.Reads members fs row := by
  rw [Decoder.ofJson, record_ofJson] at h
  obtain ⟨slots, hput, hcomplete⟩ := bind_eq_ok_iff.mp h
  exact Slots.reads_of_complete hapart hput hcomplete

/-! ### Whatever a record has been decoded from -/

/-- The items of a list, or the values of the members of an object. -/
def Tree.parts : Tree → List Tree
  | .arr items _ => items
  | .obj members _ => members.map (·.2)
  | _ => []

/-- **A row whose values come from these trees** by their decoders, or stand for members that are left
out. -/
def Row.Decoded (ts : List Tree) : (fs : List Field) → Row fs → Prop
  | [], () => True
  | f :: fs, (v, row) =>
    ((∃ t ∈ ts, f.decode t = .ok v) ∨ f.absent = some v) ∧ Row.Decoded ts fs row

/-- What comes from some trees comes from more. -/
theorem Row.Decoded.mono {ts ts' : List Tree} {fs : List Field} {row : Row fs} (hsub : ts ⊆ ts')
    (h : Row.Decoded ts fs row) : Row.Decoded ts' fs row := by
  induction fs with
  | nil => trivial
  | cons f fs ih => exact ⟨h.1.imp_left fun ⟨t, ht, hv⟩ => ⟨t, hsub ht, hv⟩, ih h.2⟩

theorem Slots.decoded_of_complete {fs : List Field} {ms : List (String × Tree)} {slots : Slots fs}
    {row : Row fs} (hput : putAll fs ms (none fs) = .ok slots)
    (hcomplete : complete fs slots = .ok row) : Row.Decoded (ms.map (·.2)) fs row := by
  induction fs generalizing ms with
  | nil => trivial
  | cons f fs ih =>
    obtain ⟨slot, others⟩ := slots
    obtain ⟨hgather, hothers⟩ := putAll_cons hput
    unfold complete at hcomplete
    cases hslot : slot.or f.absent with
    | none =>
      rw [hslot] at hcomplete
      exact nomatch hcomplete
    | some v =>
      rw [hslot] at hcomplete
      obtain ⟨row', hrow', rfl⟩ := map_eq_ok_iff.mp hcomplete
      refine ⟨?_, (ih hothers hrow').mono (List.map_subset _ (List.filter_subset_self _))⟩
      rcases gather_eq_ok hgather with ⟨-, rfl⟩ | ⟨m, v', hone, hdecode, rfl⟩
      · exact .inr hslot
      · obtain rfl : v' = v := Option.some.inj hslot
        have hm : m ∈ ms.filter fun m => f.answersTo m.1 := hone ▸ List.mem_singleton.mpr rfl
        exact .inl ⟨m.2, List.mem_map_of_mem (List.mem_filter.mp hm).1, hdecode⟩

theorem Row.decoded_of_ofItems {expected : String} {closing : Tree.Closing} {n : Nat}
    {fs : List Field} {ts rest : List Tree} {row : Row fs}
    (h : Row.ofItems expected closing n fs ts = .ok (row, rest)) : Row.Decoded ts fs row := by
  induction fs generalizing ts n with
  | nil => trivial
  | cons f fs ih =>
    cases ts with
    | cons t ts =>
      obtain ⟨v, hv, h⟩ := bind_eq_ok_iff.mp h
      obtain ⟨⟨row', rest'⟩, hrow, h⟩ := bind_eq_ok_iff.mp h
      obtain ⟨rfl, rfl⟩ := Prod.mk.inj (Except.ok.inj h)
      exact ⟨.inl ⟨t, List.mem_cons_self .., hv⟩, (ih hrow).mono (List.subset_cons_self ..)⟩
    | nil =>
      obtain ⟨_, -, h⟩ := bind_eq_ok_iff.mp h
      cases habsent : f.absent with
      | none =>
        rw [habsent] at h
        exact nomatch h
      | some v =>
        rw [habsent] at h
        obtain ⟨⟨row', rest'⟩, hrow, h⟩ := bind_eq_ok_iff.mp h
        obtain ⟨rfl, rfl⟩ := Prod.mk.inj (Except.ok.inj h)
        exact ⟨.inr habsent, ih hrow⟩

/-- **A record holds what its decoders give**, be it decoded from an object or from a list. -/
theorem Decoder.decoded_of_record {title : String} {fs : List Field} {t : Tree} {row : Row fs}
    (h : Decoder.record title fs t = .ok row) : Row.Decoded t.parts fs row := by
  cases t with
  | obj ms closing =>
    obtain ⟨slots, hput, h⟩ := bind_eq_ok_iff.mp h
    obtain ⟨_, -, hcomplete⟩ := bind_eq_ok_iff.mp h
    exact Slots.decoded_of_complete hput hcomplete
  | arr ts closing =>
    obtain ⟨⟨row', rest⟩, hrow, h⟩ := bind_eq_ok_iff.mp h
    have hsame : row' = row := by
      cases closing with
      | strict =>
        dsimp only at h
        split at h
        · exact Except.ok.inj h
        · exact nomatch h
      | lenient => exact Except.ok.inj h
      | broken => exact nomatch h
    exact hsame ▸ Row.decoded_of_ofItems hrow
  | _ => exact nomatch h

end Flowgraph

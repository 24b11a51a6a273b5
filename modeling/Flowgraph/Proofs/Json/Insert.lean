import Flowgraph.Json.Value

/-!
# Members of an object

What is bound to a key after an insertion, where the members come from, and in which order they stand:
an object that has been put together by `Json.ofMembers` has its members in order.
-/

namespace Flowgraph.Json

variable {key k : String} {value : Json} {members : List (String × Json)}

theorem lookup_cons (key : String) (m : String × Json) (rest : List (String × Json)) :
    lookup key (m :: rest) = if m.1 = key then some m.2 else lookup key rest := by
  unfold lookup
  rw [List.find?_cons]
  by_cases h : m.1 = key
  · simp [h]
  · simp [h, beq_false_of_ne h]

/-- What is bound to a key after an insertion. -/
theorem lookup_insert (key k : String) (value : Json) (members : List (String × Json)) :
    lookup key (insert k value members) = if k = key then some value else lookup key members := by
  induction members with
  | nil => exact lookup_cons key (k, value) []
  | cons m rest ih =>
    rw [insert]
    split
    · exact lookup_cons key (k, value) _
    split
    · next heq =>
      -- the new value takes the place of the one that was bound
      rw [lookup_cons, lookup_cons]
      subst heq
      split <;> rfl
    · next hne =>
      rw [lookup_cons, lookup_cons, ih]
      by_cases h : m.1 = key
      · rw [if_pos h, if_pos h, if_neg fun heq => hne (heq.trans h.symm)]
      · rw [if_neg h, if_neg h]

/-- A member after an insertion is the new one, or it was there before. -/
theorem mem_insert {m : String × Json} (h : m ∈ insert k value members) :
    m = (k, value) ∨ m ∈ members := by
  induction members with
  | nil => exact .inl (List.mem_singleton.mp h)
  | cons m' rest ih =>
    rw [insert] at h
    split at h
    · rcases List.mem_cons.mp h with h | h
      · exact .inl h
      · exact .inr h
    split at h
    · rcases List.mem_cons.mp h with h | h
      · exact .inl h
      · exact .inr (List.mem_cons_of_mem _ h)
    · rcases List.mem_cons.mp h with h | h
      · exact .inr (h ▸ List.mem_cons_self ..)
      · exact (ih h).imp_right (List.mem_cons_of_mem _)

/-- **An insertion keeps the keys in order.** -/
theorem pairwise_insert (h : (members.map (·.1)).Pairwise (· < ·)) :
    ((insert k value members).map (·.1)).Pairwise (· < ·) := by
  induction members with
  | nil => simp [insert]
  | cons m rest ih =>
    rw [List.map_cons, List.pairwise_cons] at h
    obtain ⟨hm, hrest⟩ := h
    rw [insert]
    split
    · next hlt =>
      rw [List.map_cons, List.map_cons, List.pairwise_cons, List.pairwise_cons]
      refine ⟨fun key hkey => ?_, hm, hrest⟩
      rcases List.mem_cons.mp hkey with rfl | hkey
      · exact hlt
      · exact String.lt_trans hlt (hm key hkey)
    split
    · next heq =>
      rw [List.map_cons, List.pairwise_cons]
      exact ⟨fun key hkey => heq ▸ hm key hkey, hrest⟩
    · next hnot hne =>
      rw [List.map_cons, List.pairwise_cons]
      refine ⟨fun key hkey => ?_, ih hrest⟩
      obtain ⟨m', hm', rfl⟩ := List.mem_map.mp hkey
      rcases mem_insert hm' with rfl | hm'
      · exact Std.lt_of_le_of_ne (String.not_lt.mp hnot) (Ne.symm hne)
      · exact hm _ (List.mem_map_of_mem hm')

/-- Members that are inserted one after the other come among those that are there, in order. -/
theorem foldl_insert {done : List (String × Json)} (hdone : (done.map (·.1)).Pairwise (· < ·))
    (members : List (String × Json)) :
    ((members.foldl (fun done m => insert m.1 m.2 done) done).map (·.1)).Pairwise (· < ·) ∧
      ∀ m ∈ members.foldl (fun done m => insert m.1 m.2 done) done, m ∈ done ∨ m ∈ members := by
  induction members generalizing done with
  | nil => exact ⟨hdone, fun m hm => .inl hm⟩
  | cons m rest ih =>
    obtain ⟨hkeys, hmem⟩ := ih (pairwise_insert hdone)
    refine ⟨hkeys, fun m' hm' => ?_⟩
    rcases hmem m' hm' with hm' | hm'
    · rcases mem_insert hm' with rfl | hm'
      · exact .inr (List.mem_cons_self ..)
      · exact .inl hm'
    · exact .inr (List.mem_cons_of_mem _ hm')

/-- **Members that are put together stand in order**, and all of them come from those that are given. -/
theorem exists_ofMembers (members : List (String × Json)) :
    ∃ done, ofMembers members = .obj done ∧ (done.map (·.1)).Pairwise (· < ·) ∧
      ∀ m ∈ done, m ∈ members := by
  have hnone : (([] : List (String × Json)).map (·.1)).Pairwise (· < ·) := List.Pairwise.nil
  obtain ⟨hkeys, hmem⟩ := foldl_insert hnone members
  exact ⟨_, rfl, hkeys, fun m hm => (hmem m hm).resolve_left nofun⟩

end Flowgraph.Json

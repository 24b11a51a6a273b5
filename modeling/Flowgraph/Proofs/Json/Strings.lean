import Flowgraph.Proofs.Json.Decode

/-!
# Reading back strings

A string is written character by character, and an escape that is written for a character is read as a
unit that stands for this character again.  So a string between its quotes is read as what it is,
whatever stands behind it (`Tree.readString_stringChars`), and its text breaks no line
(`Json.ne_newline_of_mem_stringChars`).
-/

namespace Flowgraph

namespace Tree

/-- A unit stands for a character, before any other units. -/
def Unit16.StandsFor (u : Unit16) (c : Char) : Prop :=
  ∀ units, joinUnits (u :: units) = (joinUnits units).map (c :: ·)

theorem Unit16.standsFor_char (c : Char) : (Unit16.char c).StandsFor c := fun _ => rfl

/-- The number of a character below the surrogates stands for the character. -/
theorem Unit16.standsFor_word {c : Char} (h : c.toNat < 0xD800) :
    (Unit16.word c.toNat).StandsFor c := by
  intro units
  have hhigh : ¬ (decide (0xD800 ≤ c.toNat) && decide (c.toNat ≤ 0xDBFF)) = true := by
    simp only [Bool.and_eq_true, decide_eq_true_eq]
    omega
  have hlow : ¬ (decide (0xDC00 ≤ c.toNat) && decide (c.toNat ≤ 0xDFFF)) = true := by
    simp only [Bool.and_eq_true, decide_eq_true_eq]
    omega
  rw [joinUnits.eq_def]
  dsimp only
  rw [if_neg hhigh, if_neg hlow, Char.ofNat_toNat]

/-- The digits of a number of one byte are read as the number. -/
theorem hexWord?_byte {n : Nat} (h : n < 0x100) :
    hexWord? ['0', '0', Nat.digitChar (n / 16), Nat.digitChar (n % 16)] = some (n, []) := by
  have hall : ∀ n < 0x100,
      hexWord? ['0', '0', Nat.digitChar (n / 16), Nat.digitChar (n % 16)] = some (n, []) := by
    decide +kernel
  exact hall n h

/-- **What is written for a character is read as one unit**, which stands for the character. -/
theorem exists_unit (c : Char) : ∃ u : Unit16, u.StandsFor c ∧
    ∀ (done : List Unit16) (rest : List Char),
      stringUnits done (Json.charChars c ++ rest) = stringUnits (u :: done) rest := by
  unfold Json.charChars
  split
  · unfold Json.writeChar
    -- one case for each escape of one letter, and one for the other controls
    split
    · next h => subst h; exact ⟨_, Unit16.standsFor_char _, fun _ _ => rfl⟩
    split
    · next h => subst h; exact ⟨_, Unit16.standsFor_char _, fun _ _ => rfl⟩
    split
    · next h => subst h; exact ⟨_, Unit16.standsFor_char _, fun _ _ => rfl⟩
    split
    · next h => subst h; exact ⟨_, Unit16.standsFor_char _, fun _ _ => rfl⟩
    split
    · next h => subst h; exact ⟨_, Unit16.standsFor_char _, fun _ _ => rfl⟩
    split
    · next h => subst h; exact ⟨_, Unit16.standsFor_char _, fun _ _ => rfl⟩
    split
    · next h => subst h; exact ⟨_, Unit16.standsFor_char _, fun _ _ => rfl⟩
    next hescaped hquote hslash _ _ _ _ _ =>
      have hcontrol : c.toNat < 0x20 := by simpa [hquote, hslash] using hescaped
      rw [if_pos hcontrol]
      refine ⟨.word c.toNat, Unit16.standsFor_word (by omega), fun done rest => ?_⟩
      have hdigits := hexWord?_byte (n := c.toNat) (by omega)
      simp only [Json.controlEscape, String.toList_append, String.toList_ofList]
      show stringUnits done ('\\' :: 'u' :: '0' :: '0' :: _ :: _ :: rest) = _
      rw [stringUnits, hdigits]
  · next hplain =>
    -- any other character stands for itself
    simp only [not_or] at hplain
    obtain ⟨hquote, hslash, hcontrol⟩ := hplain
    refine ⟨.char c, Unit16.standsFor_char c, fun done rest => ?_⟩
    rw [List.singleton_append, stringUnits, if_neg]
    · simpa [hslash] using hcontrol
    · exact fun h => hquote h
    · exact fun _ _ _ _ _ h _ => hslash h
    · exact fun _ _ h _ => hslash h

/-- Characters are read one by one. -/
theorem stringUnits_flatMap (cs : List Char) : ∃ units : List Unit16,
    (∀ more, joinUnits (units ++ more) = (joinUnits more).map (cs ++ ·)) ∧
      ∀ (done : List Unit16) (rest : List Char),
        stringUnits done (cs.flatMap Json.charChars ++ rest)
          = stringUnits (units.reverse ++ done) rest := by
  induction cs with
  | nil => exact ⟨[], fun more => by simp, fun _ _ => rfl⟩
  | cons c cs ih =>
    obtain ⟨u, hu, hread⟩ := exists_unit c
    obtain ⟨units, hunits, hreads⟩ := ih
    refine ⟨u :: units, fun more => ?_, fun done rest => ?_⟩
    · rw [List.cons_append, hu, hunits, Option.map_map]
      rfl
    · rw [List.flatMap_cons, List.append_assoc, hread, hreads, List.reverse_cons, List.append_assoc]
      rfl

/-- **A string is read back from behind its opening quote.** -/
theorem readString_stringChars (s : String) (rest : List Char) :
    readString (s.toList.flatMap Json.charChars ++ '"' :: rest) = some (some s, rest) := by
  obtain ⟨units, hunits, hreads⟩ := stringUnits_flatMap s.toList
  have hjoin := hunits []
  rw [List.append_nil] at hjoin
  rw [readString, hreads, stringUnits, List.append_nil, Option.map_some]
  dsimp only
  rw [List.reverse_reverse, hjoin]
  simp [joinUnits, String.ofList_toList]

end Tree

/-! ### Lines -/

namespace Json

/-- What is written for a character breaks no line. -/
theorem newline_notMem_charChars (c : Char) : '\n' ∉ charChars c := by
  have hcontrol : ∀ n < 0x20, '\n' ∉ charChars (Char.ofNat n) := by decide +kernel
  by_cases hlow : c.toNat < 0x20
  · have hc := hcontrol c.toNat hlow
    rwa [Char.ofNat_toNat] at hc
  · unfold charChars
    split
    · next hescaped =>
      rcases hescaped with rfl | rfl | hescaped
      · decide
      · decide
      · exact absurd hescaped hlow
    · rw [List.mem_singleton]
      rintro rfl
      exact hlow (by decide)

/-- **A string breaks no line.** -/
theorem ne_newline_of_mem_stringChars {s : String} {d : Char} (h : d ∈ stringChars s) : d ≠ '\n' := by
  unfold stringChars at h
  rcases List.mem_cons.mp h with rfl | h
  · decide
  rcases List.mem_append.mp h with h | h
  · obtain ⟨c, -, hd⟩ := List.mem_flatMap.mp h
    exact ne_of_mem_of_not_mem hd (newline_notMem_charChars c)
  · rw [List.mem_singleton.mp h]
    decide

end Json

end Flowgraph

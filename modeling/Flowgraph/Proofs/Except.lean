import Mathlib.Data.List.Forall2

/-!
# Values that may be faults

What follows when a computation that may fail has a value, or fails: each of its parts has had a
value, or the first one that has none tells the fault.  A reader that tells for all that it is given
which of the two it is (`Judges`) does so for lists, too.
-/

namespace Flowgraph

variable {ε ε' α β : Type}

@[simp] theorem ok_bind (a : α) (f : α → Except ε β) : (Except.ok a >>= f) = f a := rfl

theorem bind_eq_ok_iff {x : Except ε α} {f : α → Except ε β} {b : β} :
    (x >>= f) = .ok b ↔ ∃ a, x = .ok a ∧ f a = .ok b := by
  cases x with
  | error e => exact ⟨nofun, nofun⟩
  | ok a =>
    constructor
    · exact fun h => ⟨a, rfl, h⟩
    · rintro ⟨a', ha, h⟩
      obtain rfl := Except.ok.inj ha
      exact h

theorem bind_eq_error_iff {x : Except ε α} {f : α → Except ε β} {e : ε} :
    (x >>= f) = .error e ↔ x = .error e ∨ ∃ a, x = .ok a ∧ f a = .error e := by
  cases x with
  | error e' =>
    constructor
    · intro h
      exact .inl (congrArg _ (Except.error.inj h))
    · rintro (h | ⟨a, ha, -⟩)
      · exact congrArg _ (Except.error.inj h)
      · exact nomatch ha
  | ok a =>
    constructor
    · exact fun h => .inr ⟨a, rfl, h⟩
    · rintro (h | ⟨a', ha, h⟩)
      · exact nomatch h
      · obtain rfl := Except.ok.inj ha
        exact h

theorem map_eq_ok_iff {f : α → β} {x : Except ε α} {b : β} :
    x.map f = .ok b ↔ ∃ a, x = .ok a ∧ f a = b := by
  cases x with
  | error e => exact ⟨nofun, nofun⟩
  | ok a =>
    constructor
    · exact fun h => ⟨a, rfl, Except.ok.inj h⟩
    · rintro ⟨a', ha, rfl⟩
      rw [Except.ok.inj ha]
      rfl

theorem mapError_eq_ok_iff {f : ε → ε'} {x : Except ε α} {a : α} :
    x.mapError f = .ok a ↔ x = .ok a := by
  cases x with
  | error e => exact ⟨nofun, nofun⟩
  | ok a' =>
    constructor
    · exact fun h => congrArg _ (Except.ok.inj h)
    · exact fun h => congrArg _ (Except.ok.inj h)

theorem mapError_eq_error_iff {f : ε → ε'} {x : Except ε α} {e' : ε'} :
    x.mapError f = .error e' ↔ ∃ e, x = .error e ∧ e' = f e := by
  cases x with
  | error e =>
    constructor
    · exact fun h => ⟨e, rfl, (Except.error.inj h).symm⟩
    · rintro ⟨_, h, rfl⟩
      exact congrArg _ (congrArg f (Except.error.inj h))
  | ok a => exact ⟨nofun, nofun⟩

/-- Whatever comes out of a list comes from one of its members. -/
theorem exists_mem_of_mapM {f : α → Except ε β} {l : List α} {l' : List β}
    (h : l.mapM f = .ok l') : ∀ b ∈ l', ∃ a ∈ l, f a = .ok b := by
  induction l generalizing l' with
  | nil =>
    rw [List.mapM_nil] at h
    obtain rfl := Except.ok.inj h
    exact nofun
  | cons a rest ih =>
    rw [List.mapM_cons] at h
    obtain ⟨b, hb, h⟩ := bind_eq_ok_iff.mp h
    obtain ⟨rest', hrest, h⟩ := bind_eq_ok_iff.mp h
    obtain rfl := Except.ok.inj h
    intro c hc
    rcases List.mem_cons.mp hc with rfl | hc
    · exact ⟨a, List.mem_cons_self .., hb⟩
    · obtain ⟨d, hd, hdc⟩ := ih hrest c hc
      exact ⟨d, List.mem_cons_of_mem _ hd, hdc⟩

/-- What is compared with a list member by member has something for each of its members. -/
theorem exists_mem_of_forall₂ {R : α → β → Prop} {l : List α} {l' : List β}
    (h : List.Forall₂ R l l') {a : α} (ha : a ∈ l) : ∃ b ∈ l', R a b := by
  induction h with
  | nil => exact absurd ha List.not_mem_nil
  | @cons a' b rest rest' hab _ ih =>
    rcases List.mem_cons.mp ha with rfl | ha
    · exact ⟨b, List.mem_cons_self .., hab⟩
    · obtain ⟨c, hc, hac⟩ := ih ha
      exact ⟨c, List.mem_cons_of_mem _ hc, hac⟩

/-- **The first member that fails** is what fails a list. -/
theorem mapM_eq_error_iff {f : α → Except ε β} {l : List α} {e : ε} :
    l.mapM f = .error e ↔
      ∃ before a after, l = before ++ a :: after ∧ (∀ b ∈ before, ∃ c, f b = .ok c) ∧
        f a = .error e := by
  induction l with
  | nil =>
    rw [List.mapM_nil]
    refine iff_of_false nofun ?_
    rintro ⟨before, a, after, h, -, -⟩
    exact absurd h.symm (by simp)
  | cons a rest ih =>
    rw [List.mapM_cons, bind_eq_error_iff]
    constructor
    · rintro (ha | ⟨b, hb, h⟩)
      · exact ⟨[], a, rest, rfl, nofun, ha⟩
      · rcases bind_eq_error_iff.mp h with hrest | ⟨rest', -, h⟩
        · -- the first one passes, and the one that fails comes later
          obtain ⟨before, a', after, rfl, hbefore, ha'⟩ := ih.mp hrest
          exact ⟨a :: before, a', after, rfl, List.forall_mem_cons.mpr ⟨⟨b, hb⟩, hbefore⟩, ha'⟩
        · exact nomatch h
    · rintro ⟨before, a', after, hsplit, hbefore, ha'⟩
      cases before with
      | nil =>
        obtain ⟨rfl, -⟩ := List.cons.inj hsplit
        exact .inl ha'
      | cons b before =>
        obtain ⟨rfl, rfl⟩ := List.cons.inj hsplit
        obtain ⟨⟨c, hc⟩, hbefore⟩ := List.forall_mem_cons.mp hbefore
        -- the member before it passes, so the list fails as its rest does
        have hrest := ih.mpr ⟨before, a', after, rfl, hbefore, ha'⟩
        exact .inr ⟨c, hc, bind_eq_error_iff.mpr (.inl hrest)⟩

/-- What comes out of a list whose members are changed, where each change shows in what comes out. -/
theorem mapM_map_eq {f : α → Except ε β} {g : α → α} {h : β → β} {l : List α}
    (hl : ∀ a ∈ l, f (g a) = (f a).map h) :
    (l.map g).mapM f = (l.mapM f).map (List.map h) := by
  induction l with
  | nil => rfl
  | cons a rest ih =>
    rw [List.map_cons, List.mapM_cons, List.mapM_cons, hl a (List.mem_cons_self ..),
      ih fun b hb => hl b (List.mem_cons_of_mem _ hb)]
    cases f a with
    | error e => rfl
    | ok b => cases rest.mapM f <;> rfl

/-! ### What a reader accepts -/

section Readers

variable {read : α → Except ε β} {acceptable : α → Prop} {specified : α → β → Prop}
  {offends : α → ε → Prop}

/-- **A reader judges** what it is given: it reads what is specified from all that is acceptable, and
tells what offends in anything else. -/
structure Judges (read : α → Except ε β) (acceptable : α → Prop) (specified : α → β → Prop)
    (offends : α → ε → Prop) : Prop where
  acceptable_or_offends : ∀ a, acceptable a ∨ ∃ e, offends a e
  accepts : ∀ a, acceptable a → ∃ b, read a = .ok b ∧ specified a b
  refuses : ∀ a e, offends a e → read a = .error e

/-- Any reader judges by what comes out of it. -/
theorem Judges.self (read : α → Except ε β) : Judges read (fun a => ∃ b, read a = .ok b)
    (fun a b => read a = .ok b) (fun a e => read a = .error e) where
  acceptable_or_offends := fun a => by
    cases read a with
    | ok b => exact .inl ⟨b, rfl⟩
    | error e => exact .inr ⟨e, rfl⟩
  accepts := fun _ ⟨b, hb⟩ => ⟨b, hb, hb⟩
  refuses := fun _ _ he => he

theorem Judges.of_ok (h : Judges read acceptable specified offends) {a : α} {b : β}
    (hread : read a = .ok b) : acceptable a ∧ specified a b := by
  rcases h.acceptable_or_offends a with ha | ⟨e, he⟩
  · obtain ⟨b', hb', hspec⟩ := h.accepts a ha
    rw [hread] at hb'
    exact ⟨ha, Except.ok.inj hb' ▸ hspec⟩
  · exact nomatch hread.symm.trans (h.refuses a e he)

theorem Judges.eq_error_iff (h : Judges read acceptable specified offends) {a : α} {e : ε} :
    read a = .error e ↔ offends a e := by
  refine ⟨fun hread => ?_, h.refuses a e⟩
  rcases h.acceptable_or_offends a with ha | ⟨e', he'⟩
  · obtain ⟨b, hb, -⟩ := h.accepts a ha
    exact nomatch hread.symm.trans hb
  · exact Except.error.inj ((h.refuses a e' he').symm.trans hread) ▸ he'

/-- Whatever is read from a list is specified there, one by one. -/
theorem Judges.of_mapM (h : Judges read acceptable specified offends) {l : List α} {l' : List β}
    (hread : l.mapM read = .ok l') : (∀ a ∈ l, acceptable a) ∧ List.Forall₂ specified l l' := by
  induction l generalizing l' with
  | nil =>
    rw [List.mapM_nil] at hread
    obtain rfl := Except.ok.inj hread
    exact ⟨nofun, .nil⟩
  | cons a rest ih =>
    rw [List.mapM_cons] at hread
    obtain ⟨b, hb, hread⟩ := bind_eq_ok_iff.mp hread
    obtain ⟨rest', hrest, hread⟩ := bind_eq_ok_iff.mp hread
    obtain rfl := Except.ok.inj hread
    obtain ⟨ha, hspec⟩ := h.of_ok hb
    obtain ⟨hall, hspecs⟩ := ih hrest
    exact ⟨List.forall_mem_cons.mpr ⟨ha, hall⟩, .cons hspec hspecs⟩

theorem Judges.exists_mapM (h : Judges read acceptable specified offends) {l : List α}
    (hl : ∀ a ∈ l, acceptable a) : ∃ l', l.mapM read = .ok l' := by
  cases hread : l.mapM read with
  | ok l' => exact ⟨l', rfl⟩
  | error e =>
    obtain ⟨before, a, after, rfl, -, ha⟩ := mapM_eq_error_iff.mp hread
    obtain ⟨b, hb, -⟩ := h.accepts a (hl a (by simp))
    exact nomatch ha.symm.trans hb

/-- **What comes out of a list** is what comes out of its members, one by one. -/
theorem mapM_eq_ok_iff {f : α → Except ε β} {l : List α} {l' : List β} :
    l.mapM f = .ok l' ↔ List.Forall₂ (fun a b => f a = .ok b) l l' := by
  refine ⟨fun h => ((Judges.self f).of_mapM h).2, fun h => ?_⟩
  induction h with
  | nil => rfl
  | cons hb _ ih =>
    rw [List.mapM_cons, hb, ih]
    rfl

/-- A list that is written and read comes back if each of its members does. -/
theorem mapM_map_eq_ok_self_iff {write : β → α} {read : α → Except ε β} {l : List β} :
    (l.map write).mapM read = .ok l ↔ ∀ b ∈ l, read (write b) = .ok b := by
  rw [mapM_eq_ok_iff, List.forall₂_map_left_iff, List.forall₂_same]

/-- **The first member of a list that offends** is the one that the reader tells of. -/
theorem Judges.mapM_eq_error_iff (h : Judges read acceptable specified offends) {l : List α}
    {e : ε} : l.mapM read = .error e ↔
      ∃ before a after, l = before ++ a :: after ∧ (∀ b ∈ before, acceptable b) ∧ offends a e := by
  rw [Flowgraph.mapM_eq_error_iff]
  constructor
  · rintro ⟨before, a, after, hl, hbefore, ha⟩
    -- only acceptable members are read
    refine ⟨before, a, after, hl, fun b hb => ?_, h.eq_error_iff.mp ha⟩
    obtain ⟨c, hc⟩ := hbefore b hb
    exact (h.of_ok hc).1
  · rintro ⟨before, a, after, hl, hbefore, ha⟩
    -- acceptable members are read
    refine ⟨before, a, after, hl, fun b hb => ?_, h.eq_error_iff.mpr ha⟩
    obtain ⟨c, hc, -⟩ := h.accepts b (hbefore b hb)
    exact ⟨c, hc⟩

end Readers

end Flowgraph

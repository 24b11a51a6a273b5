import Flowgraph.CommandLine.Files

/-!
# Files at their places

To put something at one place changes what stands there, and nothing elsewhere but that directories may
come to be above it.  So what a path leads to stays where it is while a file is written again and again,
and directories that have been made need not be made a second time.
-/

namespace Flowgraph.CommandLine.Files

variable {files files' : Files} {place q here : Place} {c c' : Content} {parts : List String}

/-! ### Putting a file -/

theorem put_put (files : Files) (place : Place) (c c' : Content) :
    (files.put place c).put place c' = files.put place c' := by
  simp [put, List.filter_append]

theorem at?_put_self : (files.put place c).at? place = some c := by
  have hfilter : (files.filter (·.1 != place)).find? (·.1 == place) = none := by
    rw [List.find?_eq_none]
    intro f hf
    simpa using (List.mem_filter.mp hf).2
  unfold at? put
  rw [List.find?_append, hfilter]
  simp

theorem find?_put (h : q ≠ place) :
    (files.put place c).find? (·.1 == q) = files.find? (·.1 == q) := by
  have hlast : [(place, c)].find? (·.1 == q) = none := by
    simpa using Ne.symm h
  unfold put
  rw [List.find?_append, hlast, Option.or_none, List.find?_filter]
  refine congrArg (files.find? ·) (funext fun f => ?_)
  by_cases hf : f.1 = q
  · simp [hf, h]
  · simp [hf]

/-- **What stands elsewhere stays**, whatever is put at a place. -/
theorem at?_put_of_some (h : q ≠ place) (hq : files.at? q = some c') :
    (files.put place c).at? q = some c' := by
  unfold at? at hq ⊢
  rw [find?_put h]
  cases hfound : files.find? (·.1 == q) with
  | some f =>
    rw [hfound] at hq
    exact hq
  | none =>
    -- nothing is listed there: it is a directory that is implied by a file below it
    rw [hfound] at hq
    dsimp only at hq ⊢
    split at hq
    · next habove =>
      have hstill : (q.isEmpty || (files.put place c).any fun f => f.1.isBelow q) = true := by
        rw [Bool.or_eq_true] at habove ⊢
        refine habove.imp_right fun hany => ?_
        obtain ⟨f, hf, hbelow⟩ := List.any_eq_true.mp hany
        -- the file below may be the one that is replaced, and then it is the new one
        by_cases hplace : f.1 = place
        · exact List.any_eq_true.mpr ⟨(place, c), by simp [put], hplace ▸ hbelow⟩
        · exact List.any_eq_true.mpr ⟨f, by simp [put, hf, hplace], hbelow⟩
      rw [if_pos hstill]
      exact hq
    · exact nomatch hq

/-- What stands elsewhere is the same, whichever of two contents is put at a place. -/
theorem at?_put_congr (h : q ≠ place) (c c' : Content) :
    (files.put place c).at? q = (files.put place c').at? q := by
  have hany : ((files.put place c).any fun f => f.1.isBelow q)
      = (files.put place c').any fun f => f.1.isBelow q := by
    simp [put]
  unfold at?
  rw [find?_put h, find?_put h, hany]

/-! ### Directories -/

theorem hasDirectory_iff : files.hasDirectory q = true ↔ files.at? q = some .directory := by
  unfold hasDirectory
  cases files.at? q with
  | none => simp
  | some c => cases c <;> simp [Content.isDirectory]

/-- Directories stay, if what is put is put at a place that is none. -/
theorem hasDirectory_put (hplace : files.hasDirectory place = false)
    (hq : files.hasDirectory q = true) : (files.put place c).hasDirectory q = true := by
  have hne : q ≠ place := by
    rintro rfl
    rw [hplace] at hq
    exact nomatch hq
  exact hasDirectory_iff.mpr (at?_put_of_some hne (hasDirectory_iff.mp hq))

theorem hasDirectory_put_congr (hc : c.isDirectory = false) (hc' : c'.isDirectory = false)
    (q : Place) : (files.put place c).hasDirectory q = (files.put place c').hasDirectory q := by
  unfold hasDirectory
  by_cases h : q = place
  · subst h
    rw [at?_put_self, at?_put_self, Option.any_some, Option.any_some, hc, hc']
  · rw [at?_put_congr h c c']

/-- A path leads where it has led, as long as there are the directories that it leads through. -/
theorem walk?_mono (h : ∀ q, files.hasDirectory q = true → files'.hasDirectory q = true)
    (hwalk : files.walk? here parts = some q) : files'.walk? here parts = some q := by
  induction parts generalizing here with
  | nil => exact hwalk
  | cons part rest ih =>
    rw [walk?] at hwalk ⊢
    split at hwalk
    · next hhere =>
      rw [if_pos (h here hhere)]
      exact ih hwalk
    · exact nomatch hwalk

/-- A path leads where it has led, if what is put is put at a place that is no directory. -/
theorem walk?_put (hplace : files.hasDirectory place = false)
    (hwalk : files.walk? here parts = some q) : (files.put place c).walk? here parts = some q :=
  walk?_mono (fun _ hq => hasDirectory_put hplace hq) hwalk

theorem walk?_congr (h : ∀ q, files.hasDirectory q = files'.hasDirectory q) (here : Place)
    (parts : List String) : files.walk? here parts = files'.walk? here parts := by
  induction parts generalizing here with
  | nil => rfl
  | cons part rest ih => rw [walk?, walk?, h, ih]

theorem walk?_put_congr (hc : c.isDirectory = false) (hc' : c'.isDirectory = false) (here : Place)
    (parts : List String) :
    (files.put place c).walk? here parts = (files.put place c').walk? here parts :=
  walk?_congr (hasDirectory_put_congr hc hc') here parts

/-- **What stands somewhere stays**, whatever directories are made. -/
theorem at?_of_makeDirectories? (h : files.makeDirectories? here parts = some files')
    (hq : files.at? q = some c) : files'.at? q = some c := by
  -- on the parts that are left: each is there already, or is put where nothing stands
  induction parts generalizing files here with
  | nil => exact Option.some.inj h ▸ hq
  | cons part rest ih =>
    rw [makeDirectories?] at h
    split at h
    · exact ih h hq
    · exact nomatch h
    · next hnone =>
      split at h
      · refine ih h (at?_put_of_some ?_ hq)
        rintro rfl
        exact nomatch hnone.symm.trans hq
      · exact nomatch h

/-- No directory is lost when directories are made. -/
theorem hasDirectory_of_makeDirectories? (h : files.makeDirectories? here parts = some files')
    (hq : files.hasDirectory q = true) : files'.hasDirectory q = true :=
  hasDirectory_iff.mpr (at?_of_makeDirectories? h (hasDirectory_iff.mp hq))

/-- **Directories that have been made need not be made again**, as long as they are there. -/
theorem makeDirectories?_again (h : files.makeDirectories? here parts = some files')
    {later : Files} (hlater : ∀ q, files'.hasDirectory q = true → later.hasDirectory q = true) :
    later.makeDirectories? here parts = some later := by
  induction parts generalizing files here with
  | nil => rfl
  | cons part rest ih =>
    rw [makeDirectories?] at h ⊢
    -- a directory that was there after the first parts is there at the end, and so it is later
    have hthere : ∀ made : Files, made.hasDirectory (here.follow part) = true →
        made.makeDirectories? (here.follow part) rest = some files' →
          later.at? (here.follow part) = some .directory := fun made hmade h =>
      hasDirectory_iff.mp (hlater _ (hasDirectory_of_makeDirectories? h hmade))
    split at h
    · next hdir =>
      rw [hthere files (hasDirectory_iff.mpr hdir) h]
      exact ih h
    · exact nomatch h
    · split at h
      · rw [hthere _ (hasDirectory_iff.mpr at?_put_self) h]
        exact ih h
      · exact nomatch h

end Flowgraph.CommandLine.Files

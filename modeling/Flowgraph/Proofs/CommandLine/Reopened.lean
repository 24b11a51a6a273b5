import Flowgraph.Proofs.CommandLine.Files
import Flowgraph.Proofs.CommandLine.Script

/-!
# A store that is opened again

A store that has been opened from a path, and may be changed, is in its file whatever is done to it, and
is found there, tables and rows, when the path is opened the next time (`Host.openStore_again`).  In
between, what is not the store looks the same (`Host.looksAs_withWorld`).
-/

namespace Flowgraph.CommandLine

/-! ### How a store is opened that may be changed -/

namespace Opened

variable {a : StoreAddress} {place : Place} {content : Option Content} {rows : RowStore}
  {opened : Opened}

/-- A store that may be changed is in a file that may be changed, and is no directory. -/
theorem file?_eq_some (h : file? a place content = some (rows, opened))
    (hchange : opened.readOnly = false) :
    opened = ⟨some place, false, !a.unlocked⟩ ∧ a.frozen = false ∧ a.access ≠ .read ∧
      content ≠ some .directory := by
  have hfresh (h : fresh? a place = some (rows, opened)) :
      opened = ⟨some place, false, !a.unlocked⟩ ∧ a.frozen = false ∧ a.access ≠ .read := by
    unfold fresh? at h
    split at h
    · exact nomatch h
    · next hmay =>
      obtain ⟨-, rfl⟩ := Prod.mk.inj (Option.some.inj h)
      simp only [Bool.or_eq_true, decide_eq_true_eq, not_or, Bool.not_eq_true] at hmay
      exact ⟨rfl, hmay.2, hmay.1⟩
  match content with
  | none =>
    -- there was nothing, or next to nothing: a new store is made
    rw [file?] at h
    split at h
    · exact ⟨(hfresh h).1, (hfresh h).2.1, (hfresh h).2.2, nofun⟩
    · exact nomatch h
  | some (.text s) =>
    rw [file?] at h
    split at h
    · exact ⟨(hfresh h).1, (hfresh h).2.1, (hfresh h).2.2, nofun⟩
    · exact nomatch h
  | some (.store old logged) =>
    rw [file?] at h
    -- a frozen store and one that is only read may not be changed
    split at h
    · obtain ⟨-, rfl⟩ := Prod.mk.inj (Option.some.inj h)
      exact nomatch hchange
    next hfrozen =>
    split at h
    · exact nomatch h
    split at h
    · split at h
      · obtain ⟨-, rfl⟩ := Prod.mk.inj (Option.some.inj h)
        exact nomatch hchange
      · exact nomatch h
    · next hread =>
      obtain ⟨-, rfl⟩ := Prod.mk.inj (Option.some.inj h)
      exact ⟨rfl, by simpa using hfrozen, hread, nofun⟩
  | some .bytes => exact nomatch h
  | some .directory => exact nomatch h

/-- **A store in its file is opened as it is**, if it may be changed. -/
theorem file?_store (hfrozen : a.frozen = false) (hread : a.access ≠ .read) (rows : RowStore) :
    file? a place (some (.store rows (!a.unlocked)))
      = some (rows.reopened, ⟨some place, false, !a.unlocked⟩) := by
  rw [file?, if_neg (by simp [hfrozen]), if_neg (by simp), if_neg hread]

end Opened

/-- **The same stands there, or a store that may have other rows.** -/
def Content.Alike (c c' : Option Content) : Prop :=
  c = c' ∨ ∃ rows rows' logged, c = some (.store rows logged) ∧ c' = some (.store rows' logged)

namespace Host

variable {h h₁ : Host} {path : String} {place : Place} {a : StoreAddress} {w w' : World}
  {rows rows' : RowStore}

/-! ### The store in use -/

/-- The host with another world, whose store is put into its file. -/
def withWorld (h : Host) (w : World) : Host := { h with world := w }.save

theorem withWorld_of_fleeting (hplace : h.opened.place = none) (w : World) :
    h.withWorld w = { h with world := w } := by
  unfold withWorld save
  rw [hplace]

theorem withWorld_of_place (hplace : h.opened.place = some place) (hw : w.store = .rows rows) :
    h.withWorld w
      = { h with world := w, files := h.files.put place (.store rows h.opened.logged) } := by
  unfold withWorld save
  rw [hplace, hw]

/-- To put a world in touches nothing else but files. -/
theorem withWorld_eq (h : Host) (w : World) : ∃ files, h.withWorld w = { h with world := w, files } := by
  unfold withWorld save
  split
  · exact ⟨_, rfl⟩
  · exact ⟨h.files, rfl⟩

@[simp] theorem withWorld_world (h : Host) (w : World) : (h.withWorld w).world = w := by
  obtain ⟨files, heq⟩ := h.withWorld_eq w
  rw [heq]

@[simp] theorem withWorld_opened (h : Host) (w : World) : (h.withWorld w).opened = h.opened := by
  obtain ⟨files, heq⟩ := h.withWorld_eq w
  rw [heq]

/-- Of two worlds one after the other, the last one is what is left. -/
theorem withWorld_withWorld (hw : w.store = .rows rows) (hw' : w'.store = .rows rows') :
    (h.withWorld w).withWorld w' = h.withWorld w' := by
  cases hplace : h.opened.place with
  | none =>
    rw [withWorld_of_fleeting hplace, withWorld_of_fleeting (by exact hplace),
      withWorld_of_fleeting hplace]
  | some place =>
    rw [withWorld_of_place hplace hw, withWorld_of_place (by exact hplace) hw',
      withWorld_of_place hplace hw']
    exact congrArg (fun files => Host.mk _ _ files _ _) (Files.put_put ..)

/-- **A request to a store that may be changed** is answered by the world, whatever the request but one
to wait. -/
theorem operate_eq (hchange : h.opened.readOnly = false) {q : Flowgraph.Request}
    (hq : ∀ n, q ≠ .wait n) :
    h.operate q = ((h.world.answer false q).1, h.withWorld (h.world.answer false q).2) := by
  have hworld : h.worldFor q = h.world := by
    cases q <;> first | rfl | exact absurd rfl (hq _)
  unfold operate
  rw [hchange, hworld]
  rfl

/-- Where other rows are in the file of the store, each path leads to the same, or to the store. -/
theorem alike_contentAt? (h : Host) (w w' : World) (place : Place) (logged : Bool)
    (rows rows' : RowStore) (path : String) :
    Content.Alike
      ({ h with world := w, files := h.files.put place (.store rows logged) }.contentAt? path)
      ({ h with world := w', files := h.files.put place (.store rows' logged) }.contentAt? path) := by
  unfold contentAt?
  split
  · exact .inl rfl
  -- the same directories are there, so the path leads to the same place
  have hwalk : (h.files.put place (.store rows logged)).walk? (h.beginning path) (path.splitOn "/")
      = (h.files.put place (.store rows' logged)).walk? (h.beginning path) (path.splitOn "/") :=
    Files.walk?_put_congr rfl rfl ..
  show Content.Alike ((Files.walk? _ (h.beginning path) _).bind _)
    ((Files.walk? _ (h.beginning path) _).bind _)
  rw [hwalk]
  cases Files.walk? _ (h.beginning path) (path.splitOn "/") with
  | none => exact .inl rfl
  | some q =>
    show Content.Alike (Files.at? _ q) (Files.at? _ q)
    -- the place is that of the store, and holds the one rows or the other, or it is another place
    by_cases hq : q = place
    · subst hq
      exact .inr ⟨rows, rows', logged, Files.at?_put_self, Files.at?_put_self⟩
    · exact .inl (Files.at?_put_congr hq _ _)

/-- **What is not the store looks the same**, whatever rows are in the store. -/
theorem looksAs_withWorld (hw : w.store = .rows rows) (hw' : w'.store = .rows rows') :
    (h.withWorld w).LooksAs (h.withWorld w') := by
  cases hplace : h.opened.place with
  | none =>
    rw [withWorld_of_fleeting hplace, withWorld_of_fleeting hplace]
    exact ⟨rfl, fun _ => rfl, fun _ => rfl⟩
  | some place =>
    rw [withWorld_of_place hplace hw, withWorld_of_place hplace hw']
    have halike := h.alike_contentAt? w w' place h.opened.logged rows rows'
    refine ⟨rfl, fun path => ?_, fun path => ?_⟩
    · rcases halike path with heq | ⟨_, _, _, heq, heq'⟩
      · rw [heq]
      · rw [heq, heq']
        rfl
    · unfold answer
      dsimp only
      rcases halike path with heq | ⟨_, _, _, heq, heq'⟩
      · rw [heq]
      · rw [heq, heq']

/-! ### Opening -/

theorem use_eq (h : Host) (rows : RowStore) (opened : Opened) :
    h.use rows opened = { h with opened }.withWorld { h.world with store := .rows rows } := rfl

@[simp] theorem use_opened (h : Host) (rows : RowStore) (opened : Opened) :
    (h.use rows opened).opened = opened := by
  rw [use_eq, withWorld_opened]

/-- **A path leads to the file of a store**, once the directories on the way have been made. -/
structure LeadsTo (h : Host) (path : String) (a : StoreAddress) (files : Files) (place : Place) :
    Prop where
  made : h.files.makeDirectories? (h.beginning path) (parentParts path) = some files
  address : StoreAddress.read? path = some a
  kept : a.isFleeting = false
  place_eq : place = (h.beginning a.file).ofParts (a.file.splitOn "/")
  notRoot : place.isEmpty = false
  nameable : place.isNameable = true
  like : (a.likeness.all fun p => ({ h with files }.contentAt? p).isSome) = true
  directory : files.hasDirectory place.dropLast = true

theorem LeadsTo.openStore {files : Files} (hl : h.LeadsTo path a files place) {opened : Opened}
    (hfile : Opened.file? a place (files.at? place) = some (rows, opened)) :
    h.openStore path = (true, { h with files }.use rows opened) := by
  have hplace : ({ h with files }.beginning a.file).ofParts (a.file.splitOn "/") = place :=
    hl.place_eq.symm
  unfold Host.openStore
  rw [hl.made]
  dsimp only
  rw [hl.address]
  dsimp only
  unfold openAddress
  rw [if_neg (by simp [hl.kept])]
  dsimp only
  rw [hplace, if_neg (by simp [hl.notRoot, hl.nameable, hl.like, hl.directory]), hfile]

/-- **A store that has been opened is in use**: in memory, or in the file that the path leads to. -/
theorem openStore_eq_true (hopen : h.openStore path = (true, h₁)) :
    ∃ files rows, h.files.makeDirectories? (h.beginning path) (parentParts path) = some files ∧
      h₁ = { h with files }.use rows h₁.opened ∧
      (h₁.opened.place = none ∨ ∃ a place, h.LeadsTo path a files place ∧
        Opened.file? a place (files.at? place) = some (rows, h₁.opened)) := by
  unfold openStore at hopen
  split at hopen
  · exact nomatch hopen
  next files hmade =>
  dsimp only at hopen
  split at hopen
  · next a haddress =>
    unfold openAddress at hopen
    -- a store in memory has no place in the files
    split at hopen
    · split at hopen
      · exact nomatch hopen
      · obtain ⟨-, rfl⟩ := Prod.mk.inj hopen
        rw [use_opened]
        exact ⟨files, .empty, hmade, rfl, .inl rfl⟩
    · next hkept =>
      dsimp only at hopen
      split at hopen
      · exact nomatch hopen
      next hway =>
      -- the way is what `LeadsTo` asks for
      simp only [Bool.or_eq_true, not_or, Bool.not_eq_true, Bool.not_eq_false'] at hway
      obtain ⟨⟨⟨hroot, hnameable⟩, hlike⟩, hdirectory⟩ := hway
      split at hopen
      · next rows opened hfile =>
        obtain ⟨-, rfl⟩ := Prod.mk.inj hopen
        rw [use_opened]
        exact ⟨files, rows, hmade, rfl, .inr ⟨a, _, ⟨hmade, haddress, by simpa using hkept, rfl, hroot,
          hnameable, hlike, hdirectory⟩, hfile⟩⟩
      · exact nomatch hopen
  · exact nomatch hopen

/-- **The way to a store stays**, whatever is put into its file. -/
theorem LeadsTo.again {files : Files} (hl : h.LeadsTo path a files place)
    (hplace : files.hasDirectory place = false) (c : Content) (opened : Opened) (w : World) :
    LeadsTo { h with files := files.put place c, opened, world := w } path a (files.put place c)
      place where
  made := Files.makeDirectories?_again hl.made fun _ hq => Files.hasDirectory_put hplace hq
  address := hl.address
  kept := hl.kept
  place_eq := hl.place_eq
  notRoot := hl.notRoot
  nameable := hl.nameable
  like := by
    -- a path that the store has to be like leads where it has led, and something is still there
    have hlike := hl.like
    cases hlikeness : a.likeness with
    | none => rfl
    | some p =>
      rw [hlikeness, Option.all_some] at hlike
      rw [Option.all_some]
      obtain ⟨c', hc'⟩ := Option.isSome_iff_exists.mp hlike
      unfold contentAt? at hc' ⊢
      split at hc'
      · exact nomatch hc'
      next hempty =>
      obtain ⟨q, hwalk, hq⟩ := Option.bind_eq_some_iff.mp hc'
      have hwalk' : (files.put place c).walk? (h.beginning p) (p.splitOn "/") = some q :=
        Files.walk?_put hplace hwalk
      rw [if_neg hempty]
      refine Option.isSome_iff_exists.mpr ?_
      by_cases hsame : q = place
      · exact ⟨c, Option.bind_eq_some_iff.mpr ⟨q, hwalk', hsame ▸ Files.at?_put_self⟩⟩
      · exact ⟨c', Option.bind_eq_some_iff.mpr ⟨q, hwalk', Files.at?_put_of_some hsame hq⟩⟩
  directory := Files.hasDirectory_put hplace hl.directory

/-- **A store is found again where it was opened**, with the rows that it has had last. -/
theorem openStore_again (hopen : h.openStore path = (true, h₁)) (hchange : h₁.opened.readOnly = false)
    (hkept : h₁.opened.place ≠ none) (hw : w.store = .rows rows) :
    (h₁.withWorld w).openStore path
      = (true, h₁.withWorld { w with store := .rows rows.reopened }) := by
  obtain ⟨files, old, -, heq, hnone | ⟨a, place, hl, hfile⟩⟩ := openStore_eq_true hopen
  · exact absurd hnone hkept
  obtain ⟨hopened, hfrozen, hread, hdirectory⟩ := Opened.file?_eq_some hfile hchange
  have hplace : files.hasDirectory place = false :=
    Bool.eq_false_iff.mpr fun hdir => hdirectory (Files.hasDirectory_iff.mp hdir)
  rw [hopened] at heq
  -- the host with the store opened, before the store is put into its file
  generalize hbase : { h with files, opened := ⟨some place, false, !a.unlocked⟩ : Host } = base
  -- to open a store and to change its world is to change the world at once
  have hfirst (w' : World) (rows' : RowStore) (hw' : w'.store = .rows rows') :
      h₁.withWorld w' = base.withWorld w' := by
    rw [heq, use_eq, ← hbase]
    exact withWorld_withWorld rfl hw'
  have hnow : base.withWorld w
      = { h with
          files := files.put place (.store rows (!a.unlocked))
          opened := ⟨some place, false, !a.unlocked⟩
          world := w } := by
    rw [← hbase]
    exact withWorld_of_place rfl hw
  have hagain := hl.again hplace (.store rows (!a.unlocked)) ⟨some place, false, !a.unlocked⟩ w
  have hstore : Opened.file? a place ((files.put place (.store rows (!a.unlocked))).at? place)
      = some (rows.reopened, ⟨some place, false, !a.unlocked⟩) := by
    rw [Files.at?_put_self]
    exact Opened.file?_store hfrozen hread rows
  have hlast : base.withWorld { w with store := .rows rows.reopened }
      = (base.withWorld w).withWorld { w with store := .rows rows.reopened } :=
    (withWorld_withWorld hw rfl).symm
  rw [hfirst w rows hw, hfirst _ rows.reopened rfl, hlast, hnow, hagain.openStore hstore]
  rfl

/-- **What stands at a path stays when a store is opened**, unless it is made into the store. -/
theorem contentAt?_of_openStore (hopen : h.openStore path = (true, h₁))
    (hchange : h₁.opened.readOnly = false) {p : String} {c : Content}
    (hc : h.contentAt? p = some c) :
    h₁.contentAt? p = some c ∨
      (∃ rows logged, h₁.contentAt? p = some (.store rows logged)) ∧
        ∀ s, c = .text s → s.utf8ByteSize ≤ 1 := by
  obtain ⟨files, old, hmade, heq, hplace⟩ := openStore_eq_true hopen
  clear hopen
  unfold contentAt? at hc ⊢
  split at hc
  · exact nomatch hc
  next hpath =>
  obtain ⟨q, hwalk, hq⟩ := Option.bind_eq_some_iff.mp hc
  -- the directories that have been made on the way change neither where the path leads nor what is
  -- there
  have hwalk := Files.walk?_mono
    (fun _ hdir => Files.hasDirectory_of_makeDirectories? hmade hdir) hwalk
  have hq := Files.at?_of_makeDirectories? hmade hq
  rw [if_neg hpath]
  generalize h₁.opened = opened at heq hplace hchange
  rw [use_eq] at heq
  rcases hplace with hnone | ⟨a, place, -, hfile⟩
  · rw [withWorld_of_fleeting hnone] at heq
    subst heq
    exact .inl (Option.bind_eq_some_iff.mpr ⟨q, hwalk, hq⟩)
  · obtain ⟨rfl, -, -, hdirectory⟩ := Opened.file?_eq_some hfile hchange
    rw [withWorld_of_place rfl rfl] at heq
    subst heq
    have hplace : files.hasDirectory place = false :=
      Bool.eq_false_iff.mpr fun hdir => hdirectory (Files.hasDirectory_iff.mp hdir)
    have hwalk (c : Content) : (files.put place c).walk? (h.beginning p) (p.splitOn "/") = some q :=
      Files.walk?_put hplace hwalk
    by_cases hsame : q = place
    · subst hsame
      refine .inr ⟨⟨old, _, Option.bind_eq_some_iff.mpr ⟨q, hwalk _, Files.at?_put_self⟩⟩, ?_⟩
      rintro s rfl
      -- what is made into the store has been empty, or nearly
      rw [hq] at hfile
      by_contra hlong
      rw [Opened.file?, if_neg hlong] at hfile
      exact nomatch hfile
    · exact .inl (Option.bind_eq_some_iff.mpr ⟨q, hwalk _, Files.at?_put_of_some hsame hq⟩)

/-- What has been opened is already in its file. -/
theorem withWorld_self_of_openStore (hopen : h.openStore path = (true, h₁)) :
    h₁.withWorld h₁.world = h₁ := by
  obtain ⟨files, old, -, heq, -⟩ := openStore_eq_true hopen
  rw [heq, use_eq, withWorld_world]
  exact withWorld_withWorld rfl rfl

/-- To open a store changes the world by nothing but the store. -/
theorem world_of_openStore (hopen : h.openStore path = (true, h₁)) :
    ∃ rows, h₁.world = { h.world with store := .rows rows } := by
  obtain ⟨files, old, -, heq, -⟩ := openStore_eq_true hopen
  rw [heq, use_eq, withWorld_world]
  exact ⟨old, rfl⟩

/-- To open a store changes no variable. -/
theorem environment_of_openStore (hopen : h.openStore path = (true, h₁)) :
    h₁.environment = h.environment := by
  obtain ⟨files, old, -, heq, -⟩ := openStore_eq_true hopen
  rw [use_eq] at heq
  obtain ⟨saved, hsaved⟩ := withWorld_eq { h with files, opened := h₁.opened } _
  rw [heq, hsaved]

/-- **Settings in a file stay when a store is opened**, and what they make of the variables. -/
theorem exec_configuration_opened {settings text : String} (hopen : h.openStore path = (true, h₁))
    (hchange : h₁.opened.readOnly = false) (htext : h.contentAt? settings = some (.text text))
    (hsize : 1 < text.utf8ByteSize) :
    (h₁.exec (configuration settings)).1 = (h.exec (configuration settings)).1 := by
  have hstill : h₁.contentAt? settings = some (.text text) := by
    rcases contentAt?_of_openStore hopen hchange htext with hsame | ⟨-, hshort⟩
    · exact hsame
    · have hsmall := hshort text rfl
      omega
  have hvariables (names : List String) : h₁.variablesOf names = h.variablesOf names := by
    unfold variablesOf
    rw [environment_of_openStore hopen]
  rw [exec_configuration_of_text hstill, exec_configuration_of_text htext, hvariables]

/-! ### The engine -/

variable {settings : String} {x : Executor}

/-- **The engine is opened** if there is a configuration and its store can be opened. -/
theorem exec_openEngine_iff :
    h.exec (openEngine settings) = (.ok x, h₁) ↔
      ∃ c env, (h.exec (configuration settings)).1 = .ok (c, env) ∧
        h.openStore (c.storePath env) = (true, h₁) ∧
        x = .withLimit (Registry.builtin (c.directory env) c.engine.settings) c.engine.maxSteps := by
  -- to read the configuration leaves the host as it is
  have hleft : (h.exec (configuration settings)).2 = h :=
    exec_of_looks (configuration_looks settings)
  unfold openEngine
  rw [exec_bind]
  generalize h.exec (configuration settings) = found at hleft ⊢
  obtain ⟨r, h'⟩ := found
  obtain rfl : h' = h := hleft
  cases r with
  | error e => exact iff_of_false nofun fun ⟨_, _, hc, _⟩ => nomatch hc
  | ok known =>
    obtain ⟨c, env⟩ := known
    dsimp only
    rw [exec_bind_of_ok (exec_ask ..)]
    show exec (h'.openStore (c.storePath env)).2
      (if (h'.openStore (c.storePath env)).1 then _ else _) = _ ↔ _
    -- with a configuration it is the store that decides
    cases hopened : h'.openStore (c.storePath env) with
    | mk could h'' =>
      cases could with
      | true =>
        constructor
        · intro heq
          obtain ⟨hx, rfl⟩ := Prod.mk.inj heq
          exact ⟨c, env, rfl, hopened, (Except.ok.inj hx).symm⟩
        · rintro ⟨c', env', hc, hopened', rfl⟩
          obtain ⟨rfl, rfl⟩ := Prod.mk.inj (Except.ok.inj hc)
          rw [hopened] at hopened'
          rw [← (Prod.mk.inj hopened').2]
          rfl
      | false =>
        refine iff_of_false nofun ?_
        rintro ⟨c', env', hc, hopened', -⟩
        obtain ⟨rfl, rfl⟩ := Prod.mk.inj (Except.ok.inj hc)
        exact nomatch hopened.symm.trans hopened'

/-- **The engine is opened again** at a host where its store has been changed, with the rows that the
store has had last, if the settings are those that they were. -/
theorem exec_openEngine_again (hopen : h.exec (openEngine settings) = (.ok x, h₁))
    (hsettings : (h₁.exec (configuration settings)).1 = (h.exec (configuration settings)).1)
    (hchange : h₁.opened.readOnly = false) (hkept : h₁.opened.place ≠ none)
    (hw : w.store = .rows rows) :
    (h₁.withWorld w).exec (openEngine settings)
      = (.ok x, h₁.withWorld { w with store := .rows rows.reopened }) := by
  obtain ⟨c, env, hc, hstore, hx⟩ := exec_openEngine_iff.mp hopen
  obtain ⟨old, hold⟩ := world_of_openStore hstore
  -- the host looks as it did when the store was opened first, so the configuration is the same
  have hlooks : (h₁.withWorld w).LooksAs h₁ := by
    have hrows : h₁.world.store = .rows old := by rw [hold]
    have hsame := looksAs_withWorld (h := h₁) hw hrows
    rwa [withWorld_self_of_openStore hstore] at hsame
  have hagain : ((h₁.withWorld w).exec (configuration settings)).1 = .ok (c, env) :=
    (exec_congr_of_looks (configuration_looks settings) hlooks).trans (hsettings.trans hc)
  exact exec_openEngine_iff.mpr
    ⟨c, env, hagain, openStore_again hstore hchange hkept hw, hx⟩

end Host

end Flowgraph.CommandLine

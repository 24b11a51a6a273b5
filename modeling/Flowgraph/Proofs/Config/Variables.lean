import Flowgraph.Config.Variables
import Mathlib.Data.List.Basic

/-!
# Filling in variables keeps everything else

`Variables.Scan` says how a text is read from left to right: where `$` and an opening brace follow
each other, everything up to the first closing brace behind them is the name of a variable, and any
other character stands for itself.  If no closing brace follows, the text ends in a reference that
stays open.  Every text can be read in one way (`Variables.exists_scan`, `Variables.Scan.unique`).

Filling in puts the value of a variable in place of the reference to it, and keeps everything else
(`Variables.fill_of_scan`, `Variables.expand_fills`).  There is one exception: a reference that stays
open is filled in like any other, and if it has no value, then it is closed.
-/

namespace Flowgraph.Variables

variable {env : Environment} {cs rest name acc : List Char} {c : Char}

/-! ### Reading a text -/

/-- **A piece of a text with variables.** -/
inductive Piece where
  /-- A character that stands for itself. -/
  | literal (c : Char)
  /-- A reference to the variable of this name. -/
  | reference (name : List Char)
  /-- A reference that the end of the text leaves open. -/
  | unclosed (name : List Char)

namespace Piece

/-- The text of a piece. -/
def text : Piece → List Char
  | literal c => [c]
  | reference name => '$' :: '\x7b' :: (name ++ ['\x7d'])
  | unclosed name => '$' :: '\x7b' :: name

/-- The text of a piece that is closed if it has been open. -/
def closedText : Piece → List Char
  | unclosed name => (reference name).text
  | p => p.text

/-- The variable that a piece names. -/
def named? : Piece → Option String
  | literal _ => none
  | reference name | unclosed name => some (String.ofList name)

/-- **What is put in place of a piece**: the value of its variable, if this is set. -/
def filled (env : Environment) (p : Piece) : List Char :=
  match p.named?.bind env with
  | some value => value.toList
  | none => p.closedText

/-- What would stand for a piece if references that stay open were kept like any other text. -/
def kept (env : Environment) : Piece → List Char
  | unclosed name => (unclosed name).text
  | p => p.filled env

end Piece

/-- The text begins with a reference, open or not. -/
def BeginsReference (cs : List Char) : Prop := ∃ rest, cs = '$' :: '\x7b' :: rest

/-- **Reading a text from left to right.** -/
inductive Scan : List Char → List Piece → Prop
  | nil : Scan [] []
  | reference {name rest : List Char} {ps : List Piece} (hname : '\x7d' ∉ name)
      (hrest : Scan rest ps) :
      Scan ('$' :: '\x7b' :: (name ++ '\x7d' :: rest)) (.reference name :: ps)
  | unclosed {name : List Char} (hname : '\x7d' ∉ name) :
      Scan ('$' :: '\x7b' :: name) [.unclosed name]
  | literal {c : Char} {rest : List Char} {ps : List Piece} (hc : ¬ BeginsReference (c :: rest))
      (hrest : Scan rest ps) : Scan (c :: rest) (.literal c :: ps)

variable {s : String} {ps ps' : List Piece}

/-- **Every text can be read.** -/
theorem exists_scan (cs : List Char) : ∃ ps, Scan cs ps := by
  -- on the length of the text, since a reference is more than one character
  induction hn : cs.length using Nat.strongRecOn generalizing cs with
  | ind n ih =>
    subst hn
    by_cases hbegins : BeginsReference cs
    · obtain ⟨after, rfl⟩ := hbegins
      by_cases hclosed : '\x7d' ∈ after
      · obtain ⟨name, rest, rfl, hname⟩ := List.eq_append_cons_of_mem hclosed
        obtain ⟨ps, hps⟩ := ih rest.length (by simp; omega) rest rfl
        exact ⟨_, .reference hname hps⟩
      · exact ⟨_, .unclosed hclosed⟩
    · cases cs with
      | nil => exact ⟨_, .nil⟩
      | cons c rest =>
        obtain ⟨ps, hps⟩ := ih rest.length (by simp) rest rfl
        exact ⟨_, .literal hbegins hps⟩

/-- What stands before the first occurrence of a character, and behind it. -/
theorem eq_of_append_cons {name' rest' : List Char} (hname : c ∉ name) (hname' : c ∉ name')
    (h : name ++ c :: rest = name' ++ c :: rest') : name = name' ∧ rest = rest' := by
  induction name generalizing name' with
  | nil =>
    cases name' with
    | nil => exact ⟨rfl, (List.cons.inj h).2⟩
    | cons d name' => exact absurd (List.mem_cons.mpr (.inl (List.cons.inj h).1)) hname'
  | cons d name ih =>
    -- what stands before is not the character itself, so both go on alike
    cases name' with
    | nil => exact absurd (List.mem_cons.mpr (.inl (List.cons.inj h).1.symm)) hname
    | cons d' name' =>
      obtain ⟨rfl, htail⟩ := List.cons.inj h
      obtain ⟨rfl, hrest⟩ := ih (List.not_mem_of_not_mem_cons hname)
        (List.not_mem_of_not_mem_cons hname') htail
      exact ⟨rfl, hrest⟩

/-- **There is one way to read a text.** -/
theorem Scan.unique (h : Scan cs ps) (h' : Scan cs ps') : ps = ps' := by
  -- along the first reading: how a text begins decides on the first piece of the second one
  induction h generalizing ps' with
  | nil => cases h'; rfl
  | @reference name rest ps hname _ ih =>
    generalize heq : '$' :: '\x7b' :: (name ++ '\x7d' :: rest) = cs at h'
    cases h' with
    | nil => exact nomatch heq
    | reference hname' hrest' =>
      simp only [List.cons.injEq, true_and] at heq
      obtain ⟨rfl, rfl⟩ := eq_of_append_cons hname hname' heq
      rw [ih hrest']
    | unclosed hname' =>
      simp only [List.cons.injEq, true_and] at heq
      -- a reference that is closed has a closing brace, and one that stays open has none
      exact absurd (heq ▸ List.mem_append_right _ (List.mem_cons_self ..)) hname'
    | literal hc' _ => exact absurd ⟨_, heq.symm⟩ hc'
  | @unclosed name hname =>
    generalize heq : '$' :: '\x7b' :: name = cs at h'
    cases h' with
    | nil => exact nomatch heq
    | reference _ _ =>
      simp only [List.cons.injEq, true_and] at heq
      exact absurd (heq ▸ List.mem_append_right _ (List.mem_cons_self ..)) hname
    | unclosed _ =>
      simp only [List.cons.injEq, true_and] at heq
      rw [heq]
    | literal hc' _ => exact absurd ⟨_, heq.symm⟩ hc'
  | @literal c rest ps hc _ ih =>
    generalize heq : c :: rest = cs at h'
    cases h' with
    | nil => exact nomatch heq
    | reference _ _ => exact absurd ⟨_, heq⟩ hc
    | unclosed _ => exact absurd ⟨_, heq⟩ hc
    | literal _ hrest' =>
      obtain ⟨rfl, rfl⟩ := List.cons.inj heq
      rw [ih hrest']

/-- **Nothing is lost when a text is read.** -/
theorem Scan.flatMap_text (h : Scan cs ps) : ps.flatMap Piece.text = cs := by
  induction h with
  | nil => rfl
  | reference _ _ ih => simp [List.flatMap_cons, ih, Piece.text]
  | unclosed _ => simp [Piece.text]
  | literal _ _ ih => simp [List.flatMap_cons, ih, Piece.text]

/-! ### Filling in -/

/-- A name that has been begun goes on through all characters but a closing brace. -/
theorem fill_name (hname : '\x7d' ∉ name) (rest : List Char) :
    fill env (some acc) (name ++ rest) = fill env (some (name.reverse ++ acc)) rest := by
  induction name generalizing acc with
  | nil => rfl
  | cons d name ih =>
    obtain ⟨hd, hname⟩ := List.ne_and_not_mem_of_not_mem_cons hname
    rw [List.cons_append, fill, if_neg hd.symm, ih hname, List.reverse_cons, List.append_assoc]
    rfl

theorem fill_literal (hc : ¬ BeginsReference (c :: rest)) :
    fill env none (c :: rest) = c :: fill env none rest := by
  rw [fill]
  rintro rest' rfl rfl
  exact hc ⟨_, rfl⟩

theorem valueOf_eq (env : Environment) (name : List Char) :
    valueOf env name = (Piece.reference name).filled env := by
  simp only [valueOf, Piece.filled, Piece.named?, Option.bind_some]
  cases env (String.ofList name) <;> simp [Piece.closedText, Piece.text]

/-- **Filling in goes piece by piece.** -/
theorem fill_of_scan (env : Environment) (h : Scan cs ps) :
    fill env none cs = ps.flatMap (Piece.filled env) := by
  induction h with
  | nil => rfl
  | @reference name rest ps hname _ ih =>
    rw [fill, fill_name hname, List.append_nil, fill, if_pos rfl, List.reverse_reverse, valueOf_eq, ih,
      List.flatMap_cons]
  | @unclosed name hname =>
    -- the end of the text is reached inside the name, and closes it
    have hend : fill env (some []) (name ++ []) = fill env (some (name.reverse ++ [])) [] :=
      fill_name hname []
    rw [List.append_nil, List.append_nil] at hend
    rw [fill, hend, fill, List.reverse_reverse, valueOf_eq, List.flatMap_singleton]
    rfl
  | literal hc _ ih =>
    rw [fill_literal hc, ih, List.flatMap_cons]
    rfl

theorem toList_expand (h : Scan s.toList ps) (env : Environment) :
    (expand env s).toList = ps.flatMap (Piece.filled env) := by
  rw [expand, String.toList_ofList, fill_of_scan env h]

/-! ### References that stay open -/

/-- An open reference is kept only if its own text is the value of its variable. -/
theorem Piece.filled_unclosed_eq_iff :
    (unclosed name).filled env = (unclosed name).text ↔
      env (String.ofList name) = some (String.ofList (unclosed name).text) := by
  simp only [filled, named?, Option.bind_some]
  cases env (String.ofList name) with
  | none => simp [closedText, text]
  | some value => rw [Option.some_inj, ← String.toList_inj, String.toList_ofList]

/-- Without a value a piece stands for its text, and an open reference is closed. -/
theorem Piece.filled_of_unset {p : Piece} (h : ∀ name ∈ p.named?, env name = none) :
    p.filled env = p.closedText := by
  have hnone : p.named?.bind env = none := Option.bind_eq_none_iff.mpr h
  rw [filled, hnone]

/-- **Filling in keeps what it is to keep**, but for a reference that stays open. -/
theorem Scan.flatMap_filled_eq_iff (h : Scan cs ps) :
    ps.flatMap (Piece.filled env) = ps.flatMap (Piece.kept env) ↔
      ∀ name, .unclosed name ∈ ps →
        env (String.ofList name) = some (String.ofList (Piece.unclosed name).text) := by
  induction h with
  | nil => simp
  | reference _ _ ih => simpa [Piece.kept] using ih
  | @unclosed name _ => simpa [Piece.kept] using Piece.filled_unclosed_eq_iff
  | literal _ _ ih => simpa [Piece.kept] using ih

/-- A text whose references are all closed is what it was, and one that ends in an open reference
has one brace more. -/
theorem Scan.flatMap_closedText (h : Scan cs ps) :
    ((∀ name, .unclosed name ∉ ps) → ps.flatMap Piece.closedText = cs) ∧
      ∀ name, .unclosed name ∈ ps → ps.flatMap Piece.closedText = cs ++ ['\x7d'] := by
  induction h with
  | nil => simp
  | reference _ _ ih => simpa [Piece.closedText, Piece.text] using ih
  | @unclosed name _ => simp [Piece.closedText, Piece.text]
  | literal _ _ ih => simpa [Piece.closedText, Piece.text] using ih

/-- **Filling in variables replaces the references to them and nothing else**, but for a reference
that the end of the text leaves open.  The text is read in one way, from left to right, and nothing
is lost.  In place of each piece stands the value of its variable, which is not looked at again, or
else the piece as it is.  A reference that stays open is treated like any other, and closed if it
has no value; so it is not kept, unless its own text is the value of its variable.  If no variable
in the text is set, the result is the text, or the text and a closing brace if it ends in an open
reference. -/
theorem expand_fills (s : String) :
    ∃ ps, Scan s.toList ps ∧ (∀ ps', Scan s.toList ps' → ps' = ps) ∧
      ps.flatMap Piece.text = s.toList ∧
      (∀ env, (expand env s).toList = ps.flatMap (Piece.filled env)) ∧
      (∀ env, (expand env s).toList = ps.flatMap (Piece.kept env) ↔
        ∀ name, .unclosed name ∈ ps →
          env (String.ofList name) = some (String.ofList (Piece.unclosed name).text)) ∧
      ∀ env, (∀ name ∈ ps.filterMap Piece.named?, env name = none) →
        ((∀ name, .unclosed name ∉ ps) → expand env s = s) ∧
          ∀ name, .unclosed name ∈ ps → expand env s = s ++ "\x7d" := by
  -- there is one way to cut the text into pieces, and every part is told of these
  obtain ⟨ps, hps⟩ := exists_scan s.toList
  refine ⟨ps, hps, fun ps' h => h.unique hps, hps.flatMap_text, toList_expand hps, fun env => ?_,
    fun env hunset => ?_⟩
  · rw [toList_expand hps]
    exact hps.flatMap_filled_eq_iff
  · -- each piece stands as it is, but an open reference is closed
    have hclosed : (expand env s).toList = ps.flatMap Piece.closedText := by
      rw [toList_expand hps]
      exact List.flatMap_congr fun p hp => Piece.filled_of_unset fun name hname =>
        hunset name (List.mem_filterMap.mpr ⟨p, hp, hname⟩)
    refine ⟨fun hnone => ?_, fun name hname => ?_⟩
    · rw [← String.toList_inj, hclosed, hps.flatMap_closedText.1 hnone]
    · rw [← String.toList_inj, hclosed, hps.flatMap_closedText.2 name hname, String.toList_append]
      rfl

/-- An open reference is not kept: although no variable is set, a brace is added behind it. -/
theorem expand_fills_open :
    ¬ ∀ (env : Environment) (s : String) (ps : List Piece), Scan s.toList ps →
      (expand env s).toList = ps.flatMap (Piece.kept env) := by
  intro h
  have hopen : Scan "$\x7bHOME".toList [.unclosed "HOME".toList] := .unclosed (by decide)
  have hkept := h (fun _ => none) "$\x7bHOME" _ hopen
  revert hkept
  decide

/-- Neighbouring dollars, a reference inside a reference, an empty name, a value that looks like a
reference, and a brace with no reference before it. -/
example : expand (fun name => if name = "a$\x7bb" then some "$\x7bc\x7d" else none)
    "$$\x7ba$\x7bb\x7d\x7d $\x7b\x7d $" = "$$\x7bc\x7d\x7d $\x7b\x7d $" := by
  decide

end Flowgraph.Variables

import Flowgraph.Handler.Template
import Mathlib.Data.List.Basic
import Mathlib.Data.List.TakeWhile

/-!
# Rendering a template is one exact pass

A place in a template is a name between braces, where a name is not empty and holds no brace.
`Template.Cut` says what it is to cut a text at its places: the first place is found, the characters
before it stand for themselves, and the rest is cut behind it.  There is one way to cut a text, and
`Template.pieces` finds it (`Template.Cut.eq_pieces`, `Template.cut_pieces`).

So rendering puts something in the place of each piece and does nothing else
(`Template.render_single_pass`): nothing is lost, what is put in is not looked at again, only the
variables of the places matter, and two templates may be rendered one by one if no place lies across
their boundary.
-/

namespace Flowgraph

namespace Template

variable {cs rest s t name : List Char} {c : Char} {ps : List Piece}

/-! ### Cutting a text -/

/-- **What may be the name in a place.** -/
structure IsName (name : List Char) : Prop where
  ne_nil : name ≠ []
  noBrace : ∀ c ∈ name, c ≠ '\x7b' ∧ c ≠ '\x7d'

/-- The text begins with a place. -/
def BeginsPlace (cs : List Char) : Prop :=
  ∃ name rest, IsName name ∧ cs = '\x7b' :: (name ++ '\x7d' :: rest)

/-- **Cutting a text** at its places, from left to right and without overlap. -/
inductive Cut : List Char → List Piece → Prop
  /-- A text without a place. -/
  | whole {cs : List Char} (hnone : ∀ t, t <:+ cs → ¬ BeginsPlace t) : Cut cs (cs.map .literal)
  /-- The first place of a text, and what the text behind it is cut into. -/
  | place {before name after : List Char} {ps : List Piece} (hname : IsName name)
      (hfirst : ∀ t, t <:+ before → t ≠ [] →
        ¬ BeginsPlace (t ++ '\x7b' :: (name ++ '\x7d' :: after)))
      (hafter : Cut after ps) :
      Cut (before ++ '\x7b' :: (name ++ '\x7d' :: after)) (before.map .literal ++ .place name :: ps)

/-- A place lies across the boundary of two texts. -/
def Straddles (s t : List Char) : Prop :=
  ∃ before name₁ name₂ after, IsName (name₁ ++ name₂) ∧ s = before ++ '\x7b' :: name₁ ∧
    t = name₂ ++ '\x7d' :: after

/-- The text of a piece in the template. -/
def Piece.text : Piece → List Char
  | .literal c => [c]
  | .place name => '\x7b' :: (name ++ ['\x7d'])

/-- The variable that a piece is the place of. -/
def Piece.named? : Piece → Option String
  | .literal _ => none
  | .place name => some (String.ofList name)

/-- **What stands for a piece in the rendered text**: the text of its variable if this is bound, and
otherwise the piece as it is. -/
def Piece.rendered (vs : Bindings) (p : Piece) : List Char :=
  match p.named?.bind fun name => Json.lookup name vs with
  | some value => value.asText.toList
  | none => p.text

/-! ### Names -/

theorem isNameChar_iff : isNameChar c = true ↔ c ≠ '\x7b' ∧ c ≠ '\x7d' := by
  simp [isNameChar]

theorem name?_eq_some {after : { rest : List Char // rest.length < cs.length }}
    (h : name? cs = some (name, after)) : IsName name ∧ cs = name ++ '\x7d' :: after.1 := by
  unfold name? at h
  split at h
  · next rest hdrop =>
    -- the name is what stands before the first brace, which is a closing one
    dsimp only at h
    split at h
    · exact nomatch h
    · next hne =>
      obtain ⟨rfl, rfl⟩ := Prod.mk.inj (Option.some.inj h)
      refine ⟨⟨by simpa using hne, fun c hc => isNameChar_iff.mp (List.mem_takeWhile_imp hc)⟩, ?_⟩
      rw [← hdrop, List.takeWhile_append_dropWhile]
  · exact nomatch h

theorem name?_of_isName (h : IsName name) (rest : List Char) :
    ∃ hlt, name? (name ++ '\x7d' :: rest) = some (name, ⟨rest, hlt⟩) := by
  have hchars : ∀ c ∈ name, isNameChar c = true := fun c hc => isNameChar_iff.mpr (h.noBrace c hc)
  have htake : (name ++ '\x7d' :: rest).takeWhile isNameChar = name := by
    rw [List.takeWhile_append_of_pos hchars, List.takeWhile_cons_of_neg (by decide),
      List.append_nil]
  have hdrop : (name ++ '\x7d' :: rest).dropWhile isNameChar = '\x7d' :: rest := by
    rw [List.dropWhile_append_of_pos hchars, List.dropWhile_cons_of_neg (by decide)]
  refine ⟨by simp; omega, ?_⟩
  unfold name?
  split
  · next rest' hrest =>
    obtain ⟨-, rfl⟩ := List.cons.inj (hdrop.symm.trans hrest)
    simp [htake, h.ne_nil]
  · next hno => exact absurd hdrop (hno rest)

/-! ### Pieces -/

theorem not_beginsPlace_nil : ¬ BeginsPlace [] := by
  rintro ⟨name, rest, -, h⟩
  cases h

/-- A place at the beginning is a piece. -/
theorem pieces_place (h : IsName name) (rest : List Char) :
    pieces ('\x7b' :: (name ++ '\x7d' :: rest)) = .place name :: pieces rest := by
  obtain ⟨hlt, hname⟩ := name?_of_isName h rest
  rw [pieces, hname]

/-- Where no place begins, the first character stands for itself. -/
theorem pieces_literal (h : ¬ BeginsPlace (c :: rest)) :
    pieces (c :: rest) = .literal c :: pieces rest := by
  by_cases hc : c = '\x7b'
  · subst hc
    rw [pieces]
    cases hname : name? rest with
    | none => rfl
    | some found =>
      -- a name behind the brace would make it a place
      obtain ⟨hfound, heq⟩ := name?_eq_some hname
      exact absurd ⟨found.1, found.2.1, hfound, congrArg _ heq⟩ h
  · rw [pieces]
    exact fun h => hc h

/-- **Induction along the pieces of a text.** -/
@[elab_as_elim]
theorem piecesInduction {motive : List Char → Prop} (nil : motive [])
    (place : ∀ name rest, IsName name → motive rest →
      motive ('\x7b' :: (name ++ '\x7d' :: rest)))
    (literal : ∀ c rest, ¬ BeginsPlace (c :: rest) → motive rest → motive (c :: rest))
    (cs : List Char) : motive cs := by
  induction hn : cs.length using Nat.strongRecOn generalizing cs with
  | ind n ih =>
    subst hn
    by_cases h : BeginsPlace cs
    · obtain ⟨name, after, hname, rfl⟩ := h
      have hlt : after.length < ('\x7b' :: (name ++ '\x7d' :: after)).length := by
        rw [List.length_cons, List.length_append, List.length_cons]
        omega
      exact place name after hname (ih after.length hlt after rfl)
    · cases cs with
      | nil => exact nil
      | cons c rest => exact literal c rest h (ih rest.length (Nat.lt_succ_self _) rest rfl)

/-- Characters stand for themselves as long as no place begins with them. -/
theorem pieces_append_of_forall (h : ∀ u, u <:+ s → u ≠ [] → ¬ BeginsPlace (u ++ t)) :
    pieces (s ++ t) = s.map .literal ++ pieces t := by
  induction s with
  | nil => rfl
  | cons c s ih =>
    have hc : ¬ BeginsPlace (c :: (s ++ t)) := h (c :: s) List.suffix_rfl nofun
    rw [List.cons_append, pieces_literal hc, ih fun u hu => h u (hu.trans (List.suffix_cons ..))]
    rfl

/-- **There is one way to cut a text.** -/
theorem Cut.eq_pieces (h : Cut cs ps) : ps = pieces cs := by
  induction h with
  | @whole cs hnone =>
    -- the text as what stands before the end
    have hpieces := pieces_append_of_forall (s := cs) (t := []) fun u hu _ =>
      (List.append_nil u).symm ▸ hnone u hu
    rw [List.append_nil, pieces, List.append_nil] at hpieces
    exact hpieces.symm
  | place hname hfirst _ ih =>
    rw [pieces_append_of_forall hfirst, pieces_place hname, ih]

theorem Cut.cons_literal (hc : ¬ BeginsPlace (c :: rest)) (h : Cut rest ps) :
    Cut (c :: rest) (.literal c :: ps) := by
  cases h with
  | whole hnone =>
    refine .whole fun t ht => ?_
    rcases List.suffix_cons_iff.mp ht with rfl | ht
    · exact hc
    · exact hnone t ht
  | @place before name after ps hname hfirst hafter =>
    refine @Cut.place (c :: before) name after ps hname (fun t ht hne => ?_) hafter
    rcases List.suffix_cons_iff.mp ht with rfl | ht
    · exact hc
    · exact hfirst t ht hne

/-- **The pieces of a text are what it is cut into.** -/
theorem cut_pieces (cs : List Char) : Cut cs (pieces cs) := by
  induction cs using piecesInduction with
  | nil =>
    rw [pieces]
    exact .whole fun t ht => List.suffix_nil.mp ht ▸ not_beginsPlace_nil
  | place name rest hname ih =>
    rw [pieces_place hname]
    refine @Cut.place [] name rest _ hname (fun t ht hne => ?_) ih
    exact absurd (List.suffix_nil.mp ht) hne
  | literal c rest hc ih =>
    rw [pieces_literal hc]
    exact ih.cons_literal hc

/-- **Nothing is lost when a text is cut.** -/
theorem flatMap_text_pieces (cs : List Char) : (pieces cs).flatMap Piece.text = cs := by
  induction cs using piecesInduction with
  | nil => rw [pieces, List.flatMap_nil]
  | place name rest hname ih =>
    rw [pieces_place hname, List.flatMap_cons, ih]
    simp [Piece.text]
  | literal c rest hc ih =>
    rw [pieces_literal hc, List.flatMap_cons, ih]
    rfl

/-! ### Two texts in a row -/

theorem Straddles.append_left (h : Straddles s t) (u : List Char) : Straddles (u ++ s) t := by
  obtain ⟨before, name₁, name₂, after, hname, rfl, ht⟩ := h
  exact ⟨u ++ before, name₁, name₂, after, hname, (List.append_assoc ..).symm, ht⟩

/-- A place at the beginning of two texts in a row lies in the first one or across the boundary. -/
theorem BeginsPlace.of_append (h : BeginsPlace (c :: (s ++ t))) :
    BeginsPlace (c :: s) ∨ Straddles (c :: s) t := by
  obtain ⟨name, after, hname, heq⟩ := h
  obtain ⟨rfl, htail⟩ := List.cons.inj heq
  rcases List.append_eq_append_iff.mp htail with ⟨name₂, rfl, rfl⟩ | ⟨u, rfl, hu⟩
  · exact .inr ⟨[], s, name₂, after, hname, rfl, rfl⟩
  · cases u with
    | nil => exact .inr ⟨[], name, [], after, by simpa using hname, by simp, hu.symm⟩
    | cons d u =>
      obtain ⟨rfl, -⟩ := List.cons.inj hu
      exact .inl ⟨name, u, hname, rfl⟩

/-- **Two texts in a row are cut one by one**, if no place lies across their boundary. -/
theorem pieces_append (h : ¬ Straddles s t) : pieces (s ++ t) = pieces s ++ pieces t := by
  induction s using piecesInduction with
  | nil => rw [pieces]; rfl
  | place name rest hname ih =>
    have hrest : ¬ Straddles rest t := fun hs =>
      h (by simpa using hs.append_left ('\x7b' :: (name ++ ['\x7d'])))
    rw [pieces_place hname, List.cons_append, List.append_assoc, List.cons_append,
      pieces_place hname, ih hrest, List.cons_append]
  | literal c rest hc ih =>
    have hrest : ¬ Straddles rest t := fun hs => h (hs.append_left [c])
    -- with more text behind it a place might begin here, but it would lie across the boundary
    have hbegins : ¬ BeginsPlace (c :: (rest ++ t)) := fun hb => hb.of_append.elim hc h
    rw [pieces_literal hc, List.cons_append, pieces_literal hbegins, ih hrest, List.cons_append]

/-! ### Rendering -/

theorem fill_eq_rendered (vs : Bindings) (p : Piece) : fill vs p = p.rendered vs := by
  cases p with
  | literal c => rfl
  | place name =>
    simp only [fill, Piece.rendered, Piece.named?, Option.bind_some]
    cases Json.lookup (String.ofList name) vs <;> rfl

/-- **The rendered text**: what stands for each piece, in order. -/
theorem toList_render (template : String) (vs : Bindings) :
    (render template vs).toList = (pieces template.toList).flatMap (Piece.rendered vs) := by
  rw [render, String.toList_ofList, funext (fill_eq_rendered vs)]

theorem Piece.rendered_congr {p : Piece} {vs vs' : Bindings}
    (h : ∀ name ∈ p.named?, Json.lookup name vs = Json.lookup name vs') :
    p.rendered vs = p.rendered vs' := by
  have hvalue : (p.named?.bind fun name => Json.lookup name vs)
      = p.named?.bind fun name => Json.lookup name vs' := Option.bind_congr h
  rw [rendered, hvalue, ← rendered]

/-- **Rendering a template is a single exact pass.**  The template is cut in one way, and nothing is
lost.  The rendered text is, piece by piece, the text of the variable where it is bound, and
otherwise the piece as it is.  So it is the template itself if none of the variables is bound; other
variables do not matter; and two templates in a row may be rendered one by one, if no place lies
across their boundary. -/
theorem render_single_pass (template : String) :
    ∃ ps, Cut template.toList ps ∧ (∀ ps', Cut template.toList ps' → ps' = ps) ∧
      ps.flatMap Piece.text = template.toList ∧
      (∀ vs, (render template vs).toList = ps.flatMap (Piece.rendered vs)) ∧
      (∀ vs, (∀ name ∈ ps.filterMap Piece.named?, Json.lookup name vs = none) →
        render template vs = template) ∧
      (∀ vs vs', (∀ name ∈ ps.filterMap Piece.named?,
          Json.lookup name vs = Json.lookup name vs') →
        render template vs = render template vs') ∧
      ∀ template' vs, ¬ Straddles template.toList template'.toList →
        render (template ++ template') vs = render template vs ++ render template' vs := by
  -- the text depends on the bindings of the variables in the pieces only
  have hagree : ∀ vs vs', (∀ name ∈ (pieces template.toList).filterMap Piece.named?,
      Json.lookup name vs = Json.lookup name vs') → render template vs = render template vs' := by
    intro vs vs' h
    rw [← String.toList_inj, toList_render, toList_render]
    refine List.flatMap_congr fun p hp => Piece.rendered_congr fun name hname => ?_
    exact h name (List.mem_filterMap.mpr ⟨p, hp, hname⟩)
  refine ⟨pieces template.toList, cut_pieces _, fun _ h => h.eq_pieces, flatMap_text_pieces _,
    toList_render template, fun vs hnone => ?_, hagree, fun template' vs h => ?_⟩
  · -- without a bound variable each piece stands for itself
    rw [hagree vs [] hnone, ← String.toList_inj, toList_render]
    refine Eq.trans (List.flatMap_congr fun p _ => ?_) (flatMap_text_pieces _)
    cases p <;> rfl
  · -- no place lies across the boundary, so the two are cut as they are on their own
    rw [← String.toList_inj, toList_render, String.toList_append, String.toList_append,
      pieces_append h, List.flatMap_append, ← toList_render, ← toList_render]

/-- What is put in for `a` looks like a place, and is not filled again; the braces around it are no
place. -/
example : render "\x7b\x7ba\x7d\x7d \x7b\x7d \x7bb\x7d"
    [("a", .str "\x7bb\x7d"), ("b", .str "B"), ("\x7ba", .str "?")] = "\x7b\x7bb\x7d\x7d \x7b\x7d B" := by
  cbv

end Template

end Flowgraph

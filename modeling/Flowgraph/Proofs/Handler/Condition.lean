import Flowgraph.Handler.Builtin
import Flowgraph.Proofs.Except

/-!
# Texts that contain each other

The lower case of a text goes character by character, but for the letter `Σ`, which becomes `ς` at
the end of a word.  So the lower case of a part of a text stands in the lower case of the text if and
only if each `Σ` of the part ends a word in both or in neither (`Text.lowerBetween_eq_iff`).  These
may differ only for a `Σ` at an edge of the part (`Text.isWordEnd_append`).

The condition that a payload contains a value compares both in lower case.  It holds of every
occurrence of the value whose `Σ` agree so (`Condition.contains_of_occurrence`), and hence of every
occurrence of a value without this letter.
-/

namespace Flowgraph

namespace Text

variable {before before' part after cs ds p q : List Char} {c : Char}

/-! ### The lower case of a part of a text -/

/-- The lower case of a part of a text, with what stands before it, which is given backwards, and
behind it. -/
def lowerBetween (before : List Char) : (part after : List Char) → List Char
  | [], _ => []
  | c :: rest, after =>
    (if c = 'Σ' then [if isWordEnd before (rest ++ after) then 'ς' else 'σ'] else lowerChar c)
      ++ lowerBetween (c :: before) rest after

/-- **The lower case of a text is put together from that of its parts.** -/
theorem lowerAfter_append (before cs ds : List Char) :
    lowerAfter before (cs ++ ds)
      = lowerBetween before cs ds ++ lowerAfter (cs.reverse ++ before) ds := by
  induction cs generalizing before with
  | nil => rfl
  | cons c cs ih =>
    rw [List.cons_append, lowerAfter, lowerBetween, ih]
    simp

theorem lowerAfter_eq_lowerBetween (before cs : List Char) :
    lowerAfter before cs = lowerBetween before cs [] := by
  have happend := lowerAfter_append before cs []
  rwa [List.append_nil, lowerAfter, List.append_nil] at happend

/-- **Each `Σ` of a part ends a word in the part if and only if it ends one in the text** that has
this part between others. -/
def SameWordEnds (before part after : List Char) : Prop :=
  ∀ p q, part = p ++ 'Σ' :: q →
    isWordEnd (p.reverse ++ before.reverse) (q ++ after) = isWordEnd p.reverse q

/-- A part has the same lower case in two texts if and only if each `Σ` of it ends a word in both or
in neither. -/
theorem lowerBetween_eq_lowerBetween_iff {after' : List Char} :
    lowerBetween before part after = lowerBetween before' part after' ↔
      ∀ p q, part = p ++ 'Σ' :: q →
        isWordEnd (p.reverse ++ before) (q ++ after)
          = isWordEnd (p.reverse ++ before') (q ++ after') := by
  induction part generalizing before before' with
  | nil => simp [lowerBetween]
  | cons c rest ih =>
    -- a `Σ` of the part is its first character or lies behind it
    have hsplit : ∀ {P : List Char → List Char → Prop},
        (∀ p q, c :: rest = p ++ 'Σ' :: q → P p q) ↔
          (c = 'Σ' → P [] rest) ∧ ∀ p q, rest = p ++ 'Σ' :: q → P (c :: p) q := by
      intro P
      constructor
      · intro h
        refine ⟨?_, fun p q hrest => h (c :: p) q (by rw [hrest, List.cons_append])⟩
        rintro rfl
        exact h [] rest rfl
      · rintro ⟨hfirst, hlater⟩ p q heq
        cases p with
        | nil =>
          obtain ⟨rfl, rfl⟩ := List.cons.inj heq
          exact hfirst rfl
        | cons d p =>
          obtain ⟨rfl, hrest⟩ := List.cons.inj heq
          exact hlater p q hrest
    rw [hsplit, lowerBetween, lowerBetween]
    by_cases hc : c = 'Σ'
    · -- its two forms differ, so they tell whether it ends a word
      subst hc
      have hform : ∀ b b' : Bool, (if b then 'ς' else 'σ') = (if b' then 'ς' else 'σ') ↔ b = b' := by
        decide
      simp [ih, hform]
    · simp [ih, hc]

/-- **The lower case of a part stands in the lower case of the text** if and only if each `Σ` of the
part ends a word in both or in neither. -/
theorem lowerBetween_eq_iff :
    lowerBetween before.reverse part after = lowerAfter [] part ↔ SameWordEnds before part after := by
  rw [lowerAfter_eq_lowerBetween, lowerBetween_eq_lowerBetween_iff]
  simp [SameWordEnds]

theorem meetsCased_append (h : ∃ c ∈ cs, isCaseIgnorable c = false) :
    meetsCased (cs ++ ds) = meetsCased cs := by
  induction cs with
  | nil => simp at h
  | cons c cs ih =>
    cases hc : isCaseIgnorable c with
    | false => simp [meetsCased, hc]
    | true =>
      have hrest : ∃ c ∈ cs, isCaseIgnorable c = false := by simpa [hc] using h
      simpa [meetsCased, hc] using ih hrest

/-- **What stands around a part decides on a `Σ` at its edges only**, where the part has nothing that
the rule does not look past. -/
theorem isWordEnd_append (hp : ∃ c ∈ p, isCaseIgnorable c = false)
    (hq : ∃ c ∈ q, isCaseIgnorable c = false) (before after : List Char) :
    isWordEnd (p.reverse ++ before) (q ++ after) = isWordEnd p.reverse q := by
  have hp' : ∃ c ∈ p.reverse, isCaseIgnorable c = false := by simpa using hp
  rw [isWordEnd, isWordEnd, meetsCased_append hp', meetsCased_append hq]

/-- **An occurrence in a text is one in lower case**, if each `Σ` of it ends a word in the text if and
only if it ends one by itself. -/
theorem occursIn_lower {needle hay : String} (hocc : hay.toList = before ++ needle.toList ++ after)
    (hends : SameWordEnds before needle.toList after) :
    occursIn (lower needle).toList (lower hay).toList = true := by
  have hlower : lowerAfter [] hay.toList
      = lowerBetween [] before (needle.toList ++ after)
        ++ (lowerAfter [] needle.toList
          ++ lowerAfter (needle.toList.reverse ++ before.reverse) after) := by
    rw [hocc, List.append_assoc, lowerAfter_append, List.append_nil, lowerAfter_append,
      lowerBetween_eq_iff.mpr hends]
  simp only [lower, String.toList_ofList, hlower]
  exact occursIn_iff.mpr ⟨_, _, (List.append_assoc ..).symm⟩

end Text

/-! ### Condition nodes -/

/-- **A node asks a condition of the payload**, and a value for it. -/
def Node.Asks (node : Node) (c : Condition) (value : Json) : Prop :=
  ∃ name, Condition.ofName name = c ∧
    Handler.dataOf node (Decoder.record "ConditionData" Handler.conditionFields)
      = .ok (name, value, ())

/-- **The port of a condition node says whether what it asks holds.** -/
theorem Handler.condition_of_asks {node : Node} {c : Condition} {value : Json}
    (h : node.Asks c value) (ctx : Context) :
    (condition node ctx).result
      = .ok (.through (if c.holds ctx.input value then Port.holds else Port.fails) ctx.input) := by
  obtain ⟨name, rfl, hdata⟩ := h
  simp only [condition, prompt, hdata]
  rfl

namespace Condition

variable {input value : Json} {before after : List Char}

/-- **A payload contains a value that occurs in it**, both taken as texts, and a condition node that
asks for it goes on by the port of a condition that holds: at least if each `Σ` of the value ends a
word in the payload if and only if it ends one in the value.  This can fail only of a `Σ` that has
nothing before it or nothing behind it in the value but what the rule for the end of a word looks
past. -/
theorem contains_of_occurrence
    (hocc : input.asText.toList = before ++ value.asText.toList ++ after) :
    (Text.SameWordEnds before value.asText.toList after →
      contains.holds input value = true ∧
        ∀ node bindings, node.Asks contains value →
          (Handler.condition node ⟨input, bindings⟩).result = .ok (.through Port.holds input)) ∧
      ∀ p q, value.asText.toList = p ++ 'Σ' :: q →
        Text.isWordEnd (p.reverse ++ before.reverse) (q ++ after) ≠ Text.isWordEnd p.reverse q →
        (∀ c ∈ p, Text.isCaseIgnorable c = true) ∨ ∀ c ∈ q, Text.isCaseIgnorable c = true := by
  refine ⟨fun hends => ?_, fun p q _ hne => ?_⟩
  · have hholds : contains.holds input value = true := Text.occursIn_lower hocc hends
    refine ⟨hholds, fun node bindings hasks => ?_⟩
    rw [Handler.condition_of_asks hasks, hholds]
    rfl
  · by_contra hedge
    simp only [not_or, not_forall, Bool.not_eq_true, exists_prop] at hedge
    exact hne (Text.isWordEnd_append hedge.1 hedge.2 _ _)

/-- `ΣΑΣ` occurs at the end of `ΑΣ ΣΑΣ`, where both its `Σ` are as in the value. -/
theorem contains_of_occurrence_lastWord :
    let data := Json.ofMembers [("condition", .str "contains"), ("value", .str "ΣΑΣ")]
    contains.holds (.str "ΑΣ ΣΑΣ") (.str "ΣΑΣ") = true ∧
      (Handler.condition ⟨"ask", "condition", data, .origin⟩ ⟨.str "ΑΣ ΣΑΣ", []⟩).result
        = .ok (.through Port.holds (.str "ΑΣ ΣΑΣ")) := by
  intro data
  have hocc : (Json.str "ΑΣ ΣΑΣ").asText.toList
      = "ΑΣ ".toList ++ (Json.str "ΣΑΣ").asText.toList ++ [] := by decide
  have hends : Text.SameWordEnds "ΑΣ ".toList (Json.str "ΣΑΣ").asText.toList [] :=
    Text.lowerBetween_eq_iff.mp (by decide +kernel)
  have hasks : Node.Asks ⟨"ask", "condition", data, .origin⟩ contains (.str "ΣΑΣ") :=
    ⟨"contains", rfl, by rfl⟩
  obtain ⟨hholds, hport⟩ := (contains_of_occurrence hocc).1 hends
  exact ⟨hholds, hport _ [] hasks⟩

/-- `Σ` occurs at the end of `ΑΣ`, and yet this payload does not contain it: in lower case `ας` has
no `σ`. -/
theorem contains_of_occurrence_refused :
    ¬ ∀ (input value : Json) (before after : List Char),
      input.asText.toList = before ++ value.asText.toList ++ after →
        contains.holds input value = true := by
  intro h
  have hholds := h (.str "ΑΣ") (.str "Σ") ['Α'] [] (by decide)
  revert hholds
  decide +kernel

end Condition

end Flowgraph

import Mathlib.Data.List.Infix
import Flowgraph.Agent.Chat
import Flowgraph.Proofs.Agent.Attempts

/-!
# Refused requests that are made again

Whether a failed request may be made again is told by its text: it has to show one of the signs of a
passing failure somewhere.  For a request that a server refuses, the text is put together from the
status and from the body of the reply, and no sign reaches over the blanks and the colon between them.
So a refusal counts as passing if and only if its status is one of four, or its body shows a sign
(`Chat.refusal_isTransient_iff`).  The body is up to the server: a refusal for good that speaks of a
`timeout`, or of at most `500` tokens, counts as passing as well.
-/

namespace Flowgraph

/-! ### Parts of a text -/

section Infix

variable {α : Type} {part before after : List α} {sep : α}

/-- A part without a separator that begins a text ends before the separator. -/
theorem prefix_of_prefix_append_cons (hsep : sep ∉ part) (h : part <+: before ++ sep :: after) :
    part <+: before := by
  rcases List.prefix_or_prefix_of_prefix h (List.prefix_append before _) with h' | ⟨rest, rfl⟩
  · exact h'
  · -- a longer part would go on with the separator
    cases rest with
    | nil => simp
    | cons c rest =>
      rw [List.prefix_append_right_inj, List.cons_prefix_cons] at h
      exact absurd (by simp [h.1]) hsep

/-- **A part without a separator lies on one side of it.** -/
theorem infix_append_cons_iff (hne : part ≠ []) (hsep : sep ∉ part) :
    part <:+: before ++ sep :: after ↔ part <:+: before ∨ part <:+: after := by
  induction before with
  | nil =>
    have hnil : ¬ part <+: [] ++ sep :: after :=
      fun h => hne (List.prefix_nil.mp (prefix_of_prefix_append_cons hsep h))
    rw [List.nil_append] at hnil ⊢
    simp [List.infix_cons_iff, hnil, hne]
  | cons c before ih =>
    -- a part that begins here does not reach as far as the separator
    have hhead : part <+: c :: before ++ sep :: after ↔ part <+: c :: before :=
      ⟨prefix_of_prefix_append_cons hsep, fun h => h.trans (List.prefix_append _ _)⟩
    rw [List.cons_append] at hhead ⊢
    rw [List.infix_cons_iff, List.infix_cons_iff, ih, or_assoc, hhead]

end Infix

/-! ### Signs of a passing failure -/

/-- **A text shows a sign of a passing failure.** -/
def ShowsSign (text : List Char) : Prop := ∃ sign ∈ transientSigns, sign.toList <:+: text

/-- A failed request may be made again if its text shows a sign. -/
theorem Fault.isTransient_agentRequest_iff {text : String} :
    (Fault.agentRequest text).isTransient = true ↔ ShowsSign text.toList := by
  unfold isTransient ShowsSign
  rw [List.any_eq_true]
  refine exists_congr fun sign => and_congr_right fun _ => ?_
  rw [Text.occursIn_iff]
  exact ⟨fun ⟨s, t, h⟩ => ⟨s, t, h.symm⟩, fun ⟨s, t, h⟩ => ⟨s, t, h.symm⟩⟩

/-- A separator that no sign has in it parts what shows a sign. -/
theorem showsSign_append_cons_iff {before after : List Char} {sep : Char}
    (hsep : ∀ sign ∈ transientSigns, sep ∉ sign.toList) :
    ShowsSign (before ++ sep :: after) ↔ ShowsSign before ∨ ShowsSign after := by
  have hne : ∀ sign ∈ transientSigns, sign.toList ≠ [] := by decide
  unfold ShowsSign
  simp only [← exists_or, ← and_or_left]
  refine exists_congr fun sign => and_congr_right fun hsign => ?_
  exact infix_append_cons_iff (hne sign hsign) (hsep sign hsign)

namespace Chat

/-- The statuses of a passing failure. -/
def passingStatuses : List Nat := [429, 500, 502, 503]

/-- **The digits of a status show a sign** if it is one of the statuses of a passing failure. -/
theorem showsSign_status_iff {status : Nat} (hlow : 100 ≤ status) (hhigh : status ≤ 999) :
    ShowsSign (toString status).toList ↔ status ∈ passingStatuses := by
  -- a status has at most three digits
  have hdigits : (toString status).toList = Nat.toDigits 10 status := by
    rw [Nat.toString_eq_ofList_toDigits, String.toList_ofList]
  have hlength : (Nat.toDigits 10 status).length ≤ 3 :=
    (Nat.length_toDigits_le_iff (by decide) (by decide)).mpr (by omega)
  rw [hdigits]
  constructor
  · rintro ⟨sign, hsign, hinfix⟩
    -- no sign is shorter than the digits, so it is all of them
    have hlong : ∀ sign ∈ transientSigns, 3 ≤ sign.toList.length := by decide
    have heq : sign.toList = Nat.toDigits 10 status :=
      hinfix.eq_of_length_le (hlength.trans (hlong sign hsign))
    have hvalue : Nat.ofDigitChars 10 sign.toList 0 = status := by
      rw [heq, Nat.ofDigitChars_ten_toDigits]
    have hall : sign.toList.all Char.isDigit = true := by
      rw [heq, List.all_eq_true]
      exact fun c hc => Nat.isDigit_of_mem_toDigits (by decide) (by decide) hc
    have hcases : ∀ sign ∈ transientSigns, sign.toList.all Char.isDigit = true →
        Nat.ofDigitChars 10 sign.toList 0 ∈ passingStatuses := by decide
    exact hvalue ▸ hcases sign hsign hall
  · intro hpassing
    -- each of the statuses is a sign itself
    have hshown : ∀ n ∈ passingStatuses, ∃ sign ∈ transientSigns,
        sign.toList = Nat.toDigits 10 n := by decide
    obtain ⟨sign, hsign, heq⟩ := hshown status hpassing
    exact ⟨sign, hsign, heq ▸ List.infix_refl _⟩

/-- The phrase behind a status never shows a sign. -/
theorem exists_phrase (status : Nat) :
    ∃ phrase : String, statusLine status = toString status ++ " " ++ phrase ∧
      ¬ ShowsSign phrase.toList := by
  -- none of the standard phrases shows a sign, and neither does the one of an unknown status
  have hplain : ∀ phrase ∈ "<unknown status code>" :: reasons.map (·.2),
      ¬ ShowsSign phrase.toList := by
    have hlasting : ∀ phrase ∈ "<unknown status code>" :: reasons.map (·.2),
        ¬ (Fault.agentRequest phrase).isTransient = true := by decide +kernel
    exact fun phrase hphrase h =>
      hlasting phrase hphrase (Fault.isTransient_agentRequest_iff.mpr h)
  unfold statusLine
  cases hfound : reasons.find? (·.1 == status) with
  | none => exact ⟨_, rfl, hplain _ (List.mem_cons_self ..)⟩
  | some reason =>
    refine ⟨reason.2, rfl, hplain _ (List.mem_cons_of_mem _ ?_)⟩
    exact List.mem_map_of_mem (List.mem_of_find?_eq_some hfound)

/-- The text of a refusal shows a sign in its status or in its body. -/
theorem showsSign_refusal_iff {status : Nat} (hlow : 100 ≤ status) (hhigh : status ≤ 999)
    (body : String) :
    ShowsSign ("HTTP " ++ statusLine status ++ ": " ++ body).toList ↔
      status ∈ passingStatuses ∨ ShowsSign body.toList := by
  obtain ⟨phrase, hline, hphrase⟩ := exists_phrase status
  -- no sign has a blank or a colon in it, so none lies across two parts of the text
  have hblank : ∀ sign ∈ transientSigns, ' ' ∉ sign.toList := by decide
  have hcolon : ∀ sign ∈ transientSigns, ':' ∉ sign.toList := by decide
  have hne : ∀ sign ∈ transientSigns, sign.toList ≠ [] := by decide
  have hword : ¬ ShowsSign ['H', 'T', 'T', 'P'] := by
    rintro ⟨sign, hsign, h⟩
    have hplain : ∀ sign ∈ transientSigns, ¬ sign.toList <:+: ['H', 'T', 'T', 'P'] := by decide
    exact hplain sign hsign h
  have hnone : ¬ ShowsSign [] := by
    rintro ⟨sign, hsign, h⟩
    exact hne sign hsign (List.infix_nil.mp h)
  -- the text falls into its parts at the blanks and the colon
  have htext : ("HTTP " ++ statusLine status ++ ": " ++ body).toList
      = ['H', 'T', 'T', 'P'] ++ ' ' :: ((toString status).toList ++ ' ' ::
        (phrase.toList ++ ':' :: ([] ++ ' ' :: body.toList))) := by
    simp [hline, String.toList_append]
  rw [htext, showsSign_append_cons_iff hblank, showsSign_append_cons_iff hblank,
    showsSign_append_cons_iff hcolon, showsSign_append_cons_iff hblank,
    showsSign_status_iff hlow hhigh]
  simp only [hword, hphrase, hnone, false_or]

/-- The text of a refusal. -/
def refusalText (status : Nat) (body : String) : String :=
  "HTTP " ++ statusLine status ++ ": " ++ bodyOf status body

/-- **An agent whose request has failed for good makes no other one.** -/
theorem respond_of_lasting {c : Chat} {key text : String} {reply : Nat → Reply} {u : Url}
    {fault : Fault} (hkey : c.key = some key) (hdestination : c.destination key = .ok u)
    (hreply : completion u (reply 0) = .error fault) (hlasting : fault.isTransient = false) :
    (c.respond reply text).result = .error fault ∧ (c.respond reply text).sent.length = 1 ∧
      (c.respond reply text).waits = [] := by
  have hkey' : (c.push (.user text)).key = some key := hkey
  have hdestination' : (c.push (.user text)).destination key = .ok u := hdestination
  have hfirst : (c.push (.user text)).outcome key (reply 0) = .error fault := by
    rw [outcome, hdestination']
    exact hreply
  -- the first request settles the attempts
  have hleast : IsLeast {n | Attempts.Settles ((c.push (.user text)).model.retry.getD .never)
      (fun n => (c.push (.user text)).outcome key (reply n)) n} 0 :=
    ⟨.inr (.inl ⟨fault, hfirst, hlasting⟩), fun n _ => Nat.zero_le n⟩
  have hattempts := Attempts.run_of_isLeast hleast
  simp only [respond, hkey', hattempts, hfirst, hdestination']
  refine ⟨trivial, rfl, rfl⟩

/-- **A refused request may be made again** if and only if its status is that of a passing failure or
the body of the reply shows a sign of one.  A refusal for good whose body shows none is not made
again, however many retries there are: the agent makes this one request, and tells of it. -/
theorem refusal_isTransient_iff {status : Nat} {body : String}
    (hstatus : 100 ≤ status ∧ status ≤ 999) (hrefused : ¬ (200 ≤ status ∧ status < 300)) :
    (∀ u, completion u (.answered status body) = .error (.agentRequest (refusalText status body))) ∧
      ((Fault.agentRequest (refusalText status body)).isTransient = true ↔
        status ∈ passingStatuses ∨ ShowsSign (bodyOf status body).toList) ∧
      (status ∉ passingStatuses → ¬ ShowsSign (bodyOf status body).toList →
        ∀ (c : Chat) (key text : String) (u : Url) (reply : Nat → Reply), c.key = some key →
          c.destination key = .ok u → reply 0 = .answered status body →
            (c.respond reply text).result = .error (.agentRequest (refusalText status body)) ∧
              (c.respond reply text).sent.length = 1 ∧ (c.respond reply text).waits = []) := by
  -- whatever is answered other than a success is a refusal, with the status and the body in its
  -- text
  have hcompletion : ∀ u, completion u (.answered status body)
      = .error (.agentRequest (refusalText status body)) := by
    intro u
    have hcond : ¬ (decide (200 ≤ status) && decide (status < 300)) = true := by
      simpa using hrefused
    rw [completion, if_neg hcond, refusalText]
  have htransient : (Fault.agentRequest (refusalText status body)).isTransient = true ↔
      status ∈ passingStatuses ∨ ShowsSign (bodyOf status body).toList := by
    rw [Fault.isTransient_agentRequest_iff, refusalText,
      showsSign_refusal_iff hstatus.1 hstatus.2]
  refine ⟨hcompletion, htransient, fun hpassing hbody c key text u reply hkey hdest hreply => ?_⟩
  refine respond_of_lasting hkey hdest (by rw [hreply, hcompletion]) ?_
  rw [← Bool.not_eq_true, htransient]
  exact not_or.mpr ⟨hpassing, hbody⟩

/-- An agent that has a key, and whose model allows three retries. -/
def persistent : Chat :=
  .start ⟨"a", "A", "assistant", "", none⟩
    { Model.standard with
      apiKey := some "k", baseUrl := some "http://[::]/chat", retry := some .standard }
    fun _ => none

/-- A key that is denied is denied for good: the three retries are not used. -/
theorem refusal_isTransient_iff_denied :
    ((100 ≤ 401 ∧ 401 ≤ 999) ∧ ¬ (200 ≤ 401 ∧ 401 < 300)) ∧
      ¬ (Fault.agentRequest (refusalText 401 "denied")).isTransient = true ∧
      (persistent.respond (fun _ => .answered 401 "denied") "hello").sent.length = 1 := by
  have hstatus : 100 ≤ 401 ∧ 401 ≤ 999 := by decide
  have hrefused : ¬ (200 ≤ 401 ∧ 401 < 300) := by decide
  have hrefusal := @refusal_isTransient_iff 401 "denied" hstatus hrefused
  obtain ⟨-, htransient, hlasting⟩ := hrefusal
  have hpassing : 401 ∉ passingStatuses := by decide
  have hbody : ¬ ShowsSign (bodyOf 401 "denied").toList := by
    rintro ⟨sign, hsign, h⟩
    have hplain : ∀ sign ∈ transientSigns, ¬ sign.toList <:+: (bodyOf 401 "denied").toList := by
      decide
    exact hplain sign hsign h
  -- the agent has a key, and a place to send its request to
  have hkey : persistent.key = some "k" := by decide
  obtain ⟨u, hdestination⟩ : ∃ u, persistent.destination "k" = .ok u := by
    have hok : (persistent.destination "k").isOk = true := by decide +kernel
    cases hd : persistent.destination "k" with
    | ok u => exact ⟨u, rfl⟩
    | error text =>
      rw [hd] at hok
      exact absurd hok Bool.false_ne_true
  refine ⟨⟨hstatus, hrefused⟩, ?_, ?_⟩
  · rw [htransient]
    exact not_or.mpr ⟨hpassing, hbody⟩
  · exact (hlasting hpassing hbody persistent "k" "hello" _ _ hkey hdestination rfl).2.1

/-- **The status of a refusal does not tell whether it may be made again**: a request that is refused
for good is made again if the body of the reply speaks of five hundred tokens. -/
theorem refusal_isTransient_by_body :
    ¬ ∀ (status : Nat) (body : String), 100 ≤ status ∧ status ≤ 999 →
      ¬ (200 ≤ status ∧ status < 300) →
        ((Fault.agentRequest (refusalText status body)).isTransient = true ↔
          status ∈ passingStatuses) := by
  intro h
  have htokens := (h 400 "at most 500 tokens" (by decide) (by decide)).mp (by decide +kernel)
  exact absurd htokens (by decide)

end Chat

end Flowgraph

import Mathlib.Data.List.DropRight
import Mathlib.Data.List.Infix
import Flowgraph.Agent.Chat

/-!
# What an agent remembers of its conversation

The conversation of an agent changes in three ways: a message is added to it, the agent answers a text,
and it is forgotten (`Chat.Action`).  Each time a message is added, all but the last messages are
dropped, and they are dropped once more when the conversation is put to the model.  Nothing is lost by
that: what a list loses beforehand is not among its last messages when others have been added
(`Chat.recent_recent_append`).  So after any actions the agent remembers the last messages of all that
were added since its conversation was last forgotten (`Chat.after_eq`), and what it puts to the model is
just this, behind the message that tells who it is (`Chat.remembers_last_turns`).

The messages that were added are told by the actions alone (`Chat.said`).  An agent that answers adds
the text that it answers and, if a model has replied, the reply.
-/

namespace Flowgraph.Chat

/-! ### The last messages of a list -/

section Recent

variable {turns part : List Turn}

theorem recent_suffix (turns : List Turn) : recent turns <:+ turns := List.drop_suffix _ _

theorem length_recent (turns : List Turn) : (recent turns).length = min turns.length window := by
  rw [recent, List.length_drop]
  omega

/-- The last messages of a list are the end of it that is as long as it may be. -/
theorem eq_recent (hpart : part <:+ turns) (hlength : part.length = min turns.length window) :
    part = recent turns := by
  have hsame : part.length = (recent turns).length := by rw [hlength, length_recent]
  exact (List.suffix_of_suffix_length_le hpart (recent_suffix turns) hsame.le).eq_of_length hsame

/-- The last of all messages is one of the last messages. -/
theorem getLast?_recent (turns : List Turn) : (recent turns).getLast? = turns.getLast? := by
  rw [recent, List.getLast?_drop]
  split
  · next hlength =>
    -- all is dropped only where there is nothing
    have hwindow : 0 < window := by decide
    obtain rfl : turns = [] := List.eq_nil_of_length_eq_zero (by omega)
    rfl
  · rfl

/-- A list that has been cut down is not cut again. -/
@[simp] theorem recent_recent (turns : List Turn) : recent (recent turns) = recent turns := by
  refine (eq_recent (List.suffix_refl _) ?_).symm
  rw [length_recent]
  omega

/-- **Cutting down a list beforehand does not change its last messages**, whatever is added to it. -/
theorem recent_recent_append (turns more : List Turn) :
    recent (recent turns ++ more) = recent (turns ++ more) := by
  apply eq_recent
  · obtain ⟨dropped, hdropped⟩ := recent_suffix turns
    have hkept : recent turns ++ more <:+ turns ++ more :=
      ⟨dropped, by rw [← List.append_assoc, hdropped]⟩
    exact (recent_suffix _).trans hkept
  · -- where something is dropped, enough is kept
    rw [length_recent, List.length_append, length_recent, List.length_append]
    omega

end Recent

/-! ### What is done to an agent -/

/-- **What is done to an agent.** -/
inductive Action where
  /-- A message is added to its conversation. -/
  | push (t : Turn)
  /-- It answers a text; `reply` says what comes back for each of its requests. -/
  | respond (reply : Nat → Reply) (text : String)
  /-- Its conversation is forgotten. -/
  | clear

/-- The conversation is forgotten. -/
def Action.isClear : Action → Bool
  | clear => true
  | _ => false

/-- The agent after an action. -/
def act (c : Chat) : Action → Chat
  | .push t => c.push t
  | .respond reply text => (c.respond reply text).chat
  | .clear => c.clear

/-- **The agent after some actions**, one after the other. -/
def after (c : Chat) (actions : List Action) : Chat := actions.foldl act c

/-- **The reply that an agent remembers**: that of a model.  An agent without a key does not remember
its fixed reply. -/
def remembered? (c : Chat) (reply : Nat → Reply) (text : String) : Option Turn :=
  c.key.bind fun _ => (c.respond reply text).result.toOption.map .assistant

/-- **The messages that an action adds.** -/
def adds (c : Chat) : Action → List Turn
  | .push t => [t]
  | .respond reply text => .user text :: (c.remembered? reply text).toList
  | .clear => []

/-- **The messages that were added since the conversation was last forgotten**, in order. -/
def said (c : Chat) (actions : List Action) : List Turn :=
  (actions.rtakeWhile fun a => !a.isClear).flatMap c.adds

variable {c : Chat} {key : String}

/-! ### What is put to the model -/

/-- The message that tells who an agent of this profile is, if that is said. -/
def prompt (p : Profile) : Option Turn :=
  if p.systemPrompt = "" then none else some (.system p.systemPrompt)

/-- The messages that are put to the model: who the agent is, and the conversation. -/
theorem messages_eq (c : Chat) : c.messages = (prompt c.profile).toList ++ recent c.history := by
  unfold messages prompt
  by_cases hprompt : c.profile.systemPrompt = ""
  · rw [if_pos (String.isEmpty_iff.mpr hprompt), if_pos hprompt]
    rfl
  · rw [if_neg (mt String.isEmpty_iff.mp hprompt), if_neg hprompt]
    rfl

/-- However long the conversation is, no more than this is put to the model. -/
theorem length_messages_le (c : Chat) : c.messages.length ≤ window + 1 := by
  have hprompt : (prompt c.profile).toList.length ≤ 1 := by
    cases prompt c.profile with
    | none => exact Nat.zero_le 1
    | some t => exact Nat.le_refl 1
  rw [messages_eq, List.length_append, length_recent]
  omega

/-- The newest message of the conversation is the last one that is put to the model. -/
theorem getLast?_messages (c : Chat) :
    c.messages.getLast? = c.history.getLast?.or (prompt c.profile) := by
  have hprompt : (prompt c.profile).toList.getLast? = prompt c.profile := by
    cases prompt c.profile with
    | none => rfl
    | some t => rfl
  rw [messages_eq, List.getLast?_append, getLast?_recent, hprompt]

/-! ### Answering a text -/

/-- The attempts of an agent with a key. -/
def attempts (c : Chat) (key : String) (reply : Nat → Reply) : Attempts String :=
  Attempts.run (c.model.retry.getD .never) fun n => c.outcome key (reply n)

/-- An agent without a key gives its fixed reply. -/
theorem respond_of_no_key (hkey : c.key = none) (reply : Nat → Reply) (text : String) :
    c.respond reply text
      = ⟨c.push (.user text), .ok (fixedReply c.profile.kind c.profile.name), [], []⟩ := by
  have hkey' : (c.push (.user text)).key = none := hkey
  simp only [respond, hkey']
  rfl

/-- An agent with a key gives the reply of the model, or tells why there is none. -/
theorem result_respond_of_key (hkey : c.key = some key) (reply : Nat → Reply) (text : String) :
    (c.respond reply text).result = (c.attempts key reply).result := by
  have hkey' : (c.push (.user text)).key = some key := hkey
  simp only [respond, hkey']
  rfl

/-- An agent with a key adds the text to its conversation, and behind it the reply of the model, if
there is one. -/
theorem chat_respond_of_key (hkey : c.key = some key) (reply : Nat → Reply) (text : String) :
    (c.respond reply text).chat
      = match (c.attempts key reply).result with
        | .ok answer => (c.push (.user text)).push (.assistant answer)
        | .error _ => c.push (.user text) := by
  have hkey' : (c.push (.user text)).key = some key := hkey
  simp only [respond, hkey']
  rfl

theorem remembered?_of_no_key (hkey : c.key = none) (reply : Nat → Reply) (text : String) :
    c.remembered? reply text = none := by
  rw [remembered?, hkey]
  rfl

theorem remembered?_of_key (hkey : c.key = some key) (reply : Nat → Reply) (text : String) :
    c.remembered? reply text = (c.attempts key reply).result.toOption.map .assistant := by
  rw [remembered?, hkey, result_respond_of_key hkey]
  rfl

/-- **What an agent does to answer a text**: it adds messages to its conversation, and changes nothing
else of itself. -/
theorem chat_respond (c : Chat) (reply : Nat → Reply) (text : String) :
    (c.respond reply text).chat
      = { c with history := recent (c.history ++ c.adds (.respond reply text)) } := by
  rw [adds]
  rcases Option.eq_none_or_eq_some c.key with hkey | ⟨key, hkey⟩
  · -- nothing is sent, and no reply is remembered
    rw [respond_of_no_key hkey, remembered?_of_no_key hkey]
    rfl
  · rw [chat_respond_of_key hkey, remembered?_of_key hkey]
    cases (c.attempts key reply).result with
    | error fault => rfl
    | ok answer =>
      -- the conversation has been cut down once before the reply is added to it
      have htwice : recent (recent (c.history ++ [.user text]) ++ [.assistant answer])
          = recent (c.history ++ [.user text, .assistant answer]) := by
        rw [recent_recent_append, List.append_assoc]
        rfl
      exact congrArg (fun history => { c with history := history }) htwice

/-! ### What an action changes -/

/-- **What an action changes** is the conversation: it is forgotten, or messages are added to it. -/
theorem act_eq (c : Chat) (a : Action) :
    c.act a = { c with history := if a.isClear then [] else recent (c.history ++ c.adds a) } := by
  cases a with
  | push t => rfl
  | respond reply text => exact chat_respond c reply text
  | clear => rfl

/-- What an action adds does not depend on the conversation. -/
theorem adds_of_history (c : Chat) (history : List Turn) (a : Action) :
    { c with history := history }.adds a = c.adds a := by
  cases a with
  | push t => rfl
  | clear => rfl
  | respond reply text =>
    rw [adds, adds]
    rcases Option.eq_none_or_eq_some c.key with hkey | ⟨key, hkey⟩
    · have hkey' : { c with history := history }.key = none := hkey
      rw [remembered?_of_no_key hkey, remembered?_of_no_key hkey']
    · have hkey' : { c with history := history }.key = some key := hkey
      rw [remembered?_of_key hkey, remembered?_of_key hkey']
      rfl

/-! ### What is remembered after some actions -/

/-- The messages that have been added, with one more action. -/
theorem said_concat (c : Chat) (actions : List Action) (a : Action) :
    c.said (actions ++ [a]) = if a.isClear then [] else c.said actions ++ c.adds a := by
  unfold said
  rw [List.rtakeWhile_concat]
  cases a.isClear with
  | true => rfl
  | false => simp

/-- **What an agent remembers after some actions** are the last messages of those that were added since
its conversation was last forgotten. -/
theorem after_eq (hc : c.history = []) (actions : List Action) :
    c.after actions = { c with history := recent (c.said actions) } := by
  -- from the end: an action works on what the actions before it have left
  induction actions using List.reverseRecOn with
  | nil =>
    have hnone : recent (c.said []) = c.history := hc.symm
    rw [hnone]
    rfl
  | append_singleton actions a ih =>
    have hstep : c.after (actions ++ [a]) = (c.after actions).act a := by
      rw [after, List.foldl_append]
      rfl
    rw [hstep, act_eq, ih, adds_of_history, said_concat]
    cases a.isClear with
    -- nothing is left of what was said before
    | true => rfl
    -- what has been cut down already is cut down once more
    | false => simp only [Bool.false_eq_true, if_false, recent_recent_append]

/-- **An agent remembers the last ten messages** that were added since its conversation was last
forgotten, or all of them if there are fewer, in their order.  What it puts to the model is the message
that tells who it is, if that is said, and behind it just the messages that it remembers: no more than
eleven messages, with the newest one at the end.  An agent without a key that answers a text adds this
text and nothing else. -/
theorem remembers_last_turns (profile : Profile) (model : Model) (env : Environment)
    (actions : List Action) :
    let c := start profile model env
    let turns := c.said actions
    let c' := c.after actions
    c'.history <:+ turns ∧ c'.history.length = min turns.length 10 ∧
      c'.messages = (prompt profile).toList ++ c'.history ∧ c'.messages.length ≤ 11 ∧
      c'.messages.getLast? = turns.getLast?.or (prompt profile) ∧
      (c.key = none → ∀ reply text,
        c.adds (.respond reply text) = [.user text] ∧
          (c'.respond reply text).chat = c'.push (.user text)) := by
  intro c turns c'
  -- everything that is said of the agent follows from what it remembers
  have hafter : c' = { c with history := recent turns } := after_eq rfl actions
  have hhistory : c'.history = recent turns := by rw [hafter]
  have hprofile : c'.profile = profile := by rw [hafter]; rfl
  refine ⟨hhistory ▸ recent_suffix turns, ?_, ?_, length_messages_le c', ?_, ?_⟩
  · rw [hhistory, length_recent]
    rfl
  · rw [messages_eq, hprofile, hhistory, recent_recent]
  · rw [getLast?_messages, hprofile, hhistory, getLast?_recent]
  · intro hkey reply text
    have hkey' : c'.key = none := by rw [hafter]; exact hkey
    rw [adds, remembered?_of_no_key hkey, respond_of_no_key hkey']
    exact ⟨rfl, rfl⟩

/-- A manager that has no model to ask. -/
def manager : Profile := ⟨"mgr", "Manager", "manager", "You coordinate the agency.", none⟩

/-- A model for which there is no key. -/
def offline : Model := { Model.standard with provider := "ollama" }

/-- A message, after which all is forgotten, and then eleven texts to answer. -/
def busyDay : List Action :=
  [.push (.user "0"), .clear]
    ++ ["1", "2", "3", "4", "5", "6", "7", "8", "9", "10", "11"].map (.respond fun _ => .unreachable)

/-- Of eleven texts the last ten are remembered. -/
theorem remembers_last_turns_busyDay :
    let c := start manager offline fun _ => none
    let last := ["2", "3", "4", "5", "6", "7", "8", "9", "10", "11"].map Turn.user
    c.key = none ∧ (c.after busyDay).history = last ∧
      (c.after busyDay).messages = .system "You coordinate the agency." :: last ∧
      ((c.after busyDay).respond (fun _ => .unreachable) "12").chat
        = (c.after busyDay).push (.user "12") := by
  intro c last
  have hkey : c.key = none := rfl
  obtain ⟨hsuffix, hlength, hmessages, -, -, hanswers⟩ :=
    remembers_last_turns manager offline (fun _ => none) busyDay
  -- the last ten messages of a list are determined by their number and by being its end
  have hhistory : (c.after busyDay).history = last := by
    rw [eq_recent hsuffix hlength]
    decide
  refine ⟨hkey, hhistory, ?_, (hanswers hkey _ "12").2⟩
  rw [hmessages, hhistory]
  rfl

end Flowgraph.Chat

import Flowgraph.Agent.Endpoint
import Flowgraph.Agent.Profile

/-!
# Chat agents

A chat agent puts its profile and the last messages of its conversation to a model.  Without a key
for the model it gives a fixed reply instead.  What a server answers to the request is not decided
here: `Chat.respond` takes the reply to each attempt as an argument, and hands back the requests
that were sent.
-/

namespace Flowgraph

/-- **A message of a conversation.** -/
structure Turn where
  role : String
  content : String
  deriving DecidableEq, Repr

namespace Turn

/-- A message of the person. -/
def user (content : String) : Turn := ⟨"user", content⟩

/-- A message of the agent. -/
def assistant (content : String) : Turn := ⟨"assistant", content⟩

/-- A message that tells the model who it is. -/
def system (content : String) : Turn := ⟨"system", content⟩

/-- The data of a message. -/
def toJson (t : Turn) : Json := Json.ofMembers [("role", .str t.role), ("content", .str t.content)]

end Turn

/-- **A chat agent.** -/
structure Chat where
  profile : Profile
  model : Model
  key : Option String
  /-- The last messages, the newest at the end. -/
  history : List Turn
  deriving Repr

namespace Chat

/-- An agent that has not said anything yet. -/
def start (profile : Profile) (model : Model) (env : Environment) : Chat :=
  ⟨profile, model, model.key? env, []⟩

/-! ### The conversation -/

/-- How many messages a conversation keeps. -/
def window : Nat := 10

/-- The last messages of a list, as many as a conversation keeps. -/
def recent (turns : List Turn) : List Turn := turns.drop (turns.length - window)

/-- The agent with one more message in its conversation. -/
def push (c : Chat) (t : Turn) : Chat := { c with history := recent (c.history ++ [t]) }

/-- The agent with its conversation forgotten. -/
def clear (c : Chat) : Chat := { c with history := [] }

/-- **The messages that are put to the model**: who it is, if that is said, and the conversation. -/
def messages (c : Chat) : List Turn :=
  (if c.profile.systemPrompt.isEmpty then [] else [Turn.system c.profile.systemPrompt])
    ++ recent c.history

/-! ### Requests and their replies -/

/-- **A request as it is sent.** -/
structure Sent where
  authorization : String
  body : Json
  deriving Repr

/-- The request for the conversation as it stands. -/
def sent (c : Chat) (key : String) : Sent :=
  let temperature : Bool :=
    match c.model.temperature with
    | .finite x => x.isPositive
    | .infinite negative => !negative
    | .nan => false
  ⟨"Bearer " ++ key,
    Json.ofMembers ([
      ("model", .str c.model.modelId),
      ("messages", .arr (c.messages.map Turn.toJson)),
      ("max_tokens", .ofNat c.model.maxTokens)]
      ++ if temperature then [("temperature", .ofSingle c.model.temperature)] else [])⟩

/-- **What comes back for a request.** -/
inductive Reply where
  | answered (status : Nat) (body : String)
  /-- Nothing came back. -/
  | unreachable
  deriving Repr

/-- The phrases that stand behind status codes. -/
def reasons : List (Nat × String) :=
  [(100, "Continue"), (101, "Switching Protocols"), (102, "Processing"), (103, "Early Hints"),
    (200, "OK"), (201, "Created"), (202, "Accepted"), (203, "Non Authoritative Information"),
    (204, "No Content"), (205, "Reset Content"), (206, "Partial Content"), (207, "Multi-Status"),
    (208, "Already Reported"), (226, "IM Used"), (300, "Multiple Choices"),
    (301, "Moved Permanently"), (302, "Found"), (303, "See Other"), (304, "Not Modified"),
    (305, "Use Proxy"), (307, "Temporary Redirect"), (308, "Permanent Redirect"),
    (400, "Bad Request"), (401, "Unauthorized"), (402, "Payment Required"), (403, "Forbidden"),
    (404, "Not Found"), (405, "Method Not Allowed"), (406, "Not Acceptable"),
    (407, "Proxy Authentication Required"), (408, "Request Timeout"), (409, "Conflict"),
    (410, "Gone"), (411, "Length Required"), (412, "Precondition Failed"),
    (413, "Payload Too Large"), (414, "URI Too Long"), (415, "Unsupported Media Type"),
    (416, "Range Not Satisfiable"), (417, "Expectation Failed"), (418, "I'm a teapot"),
    (421, "Misdirected Request"), (422, "Unprocessable Entity"), (423, "Locked"),
    (424, "Failed Dependency"), (425, "Too Early"), (426, "Upgrade Required"),
    (428, "Precondition Required"), (429, "Too Many Requests"),
    (431, "Request Header Fields Too Large"), (451, "Unavailable For Legal Reasons"),
    (500, "Internal Server Error"), (501, "Not Implemented"), (502, "Bad Gateway"),
    (503, "Service Unavailable"), (504, "Gateway Timeout"), (505, "HTTP Version Not Supported"),
    (506, "Variant Also Negotiates"), (507, "Insufficient Storage"), (508, "Loop Detected"),
    (510, "Not Extended"), (511, "Network Authentication Required")]

/-- The status line of a code. -/
def statusLine (code : Nat) : String :=
  toString code ++ " "
    ++ match reasons.find? (·.1 == code) with
      | some (_, phrase) => phrase
      | none => "<unknown status code>"

/-- The content of the message of a choice, if it has one. -/
def choiceDecoder : Decoder (Option String) := fun t =>
  (Decoder.record "ChatChoice"
      [.required "message" fun t =>
        (Decoder.record "ChatTurnContent"
          [.withDefault "content" (Decoder.optional Decoder.string) none] t).map
          fun (content, ()) => content] t).map
    fun (content, ()) => content

/-- The contents of the choices that a model offers. -/
def choicesDecoder : Decoder (List (Option String)) := fun t =>
  (Decoder.record "ChatResponse" [.withDefault "choices" (Decoder.list choiceDecoder) []] t).map
    fun (choices, ()) => choices

/-- Where requests go when the model does not say. -/
def defaultUrl : String := "https://api.openai.com/v1/chat/completions"

/-- Where the requests of the agent go, as it is written. -/
def url (c : Chat) : String := c.model.baseUrl.getD defaultUrl

/-- The body of a reply, of which some statuses have none. -/
def bodyOf (status : Nat) (body : String) : String :=
  if status = 204 || status = 304 then "" else body

/-- **The text of a reply** from an address, or why there is none. -/
def completion (u : Url) : Reply → Except Fault String
  | .unreachable => .error (.agentRequest ("error sending request for url (" ++ u.toString ++ ")"))
  | .answered status body =>
    if 200 ≤ status && status < 300 then
      match Decoder.ofText choicesDecoder (bodyOf status body) with
      | .error _ => .error (.agentRequest "error decoding response body")
      | .ok (some text :: _) => .ok text
      | .ok _ => .error (.agentRequest "empty completion")
    else .error (.agentRequest ("HTTP " ++ statusLine status ++ ": " ++ bodyOf status body))

/-- The text can stand in the header of a request. -/
def isHeaderText (s : String) : Bool :=
  s.toList.all fun c => c = '\t' || (' ' ≤ c && c.toNat != 127)

/-- **Where the requests of the agent are sent**, or what keeps them from being sent. -/
def destination (c : Chat) (key : String) : Except String Url := do
  let u ← Endpoint.read c.url
  if !isHeaderText key then throw Endpoint.refusal
  if !Endpoint.isRequestable u then throw (Endpoint.refusalFor u)
  return u

/-- What comes of one attempt, if `reply` is what comes back for its request. -/
def outcome (c : Chat) (key : String) (reply : Reply) : Except Fault String :=
  match c.destination key with
  | .error text => .error (.agentRequest text)
  | .ok u => completion u reply

/-! ### Replying -/

/-- The reply of an agent without a key. -/
def fixedReply (kind name : String) : String :=
  "[" ++ name ++ "] "
    ++ match kind with
      | "manager" =>
        "I'll coordinate this task with the team. Configure a model API key for real replies."
      | "whatsapp" => "Got your message. Configure a model API key to enable automatic replies."
      | "social_media" => "I'll prepare the content. Configure a model API key to create posts."
      | "traffic" =>
        "Reviewing campaign metrics. Configure a model API key to optimize campaigns."
      | _ => "Message received. Configure a model API key."

/-- **What comes of a message to the agent.** -/
structure Response where
  /-- The agent afterwards. -/
  chat : Chat
  result : Except Fault String
  /-- The requests that were sent, in order. -/
  sent : List Sent
  /-- The waits between them, before jitter. -/
  waits : List Nat

/-- **Answers a message.**  `reply` says what comes back for each request, by its number. -/
def respond (c : Chat) (reply : Nat → Reply) (text : String) : Response :=
  let c := c.push (.user text)
  match c.key with
  | none => ⟨c, .ok (fixedReply c.profile.kind c.profile.name), [], []⟩
  | some key =>
    let attempts := Attempts.run (c.model.retry.getD .never) fun n => c.outcome key (reply n)
    let c' :=
      match attempts.result with
      | .ok text => c.push (.assistant text)
      | .error _ => c
    let sent := if (c.destination key).isOk then attempts.calls else 0
    ⟨c', attempts.result, List.replicate sent (c.sent key), attempts.waits⟩

end Chat

end Flowgraph

import Flowgraph.Agent.Retry
import Flowgraph.Text.Blank

/-!
# Profiles of agents

How an agent is configured: who it is, and which model answers for it.
-/

namespace Flowgraph

/-- The variables of the environment. -/
abbrev Environment := String → Option String

/-- **A model that answers chats.** -/
structure Model where
  provider : String
  modelId : String
  apiKey : Option String
  baseUrl : Option String
  maxTokens : Nat
  temperature : Extended .single
  retry : Option RetryPolicy
  deriving DecidableEq, Repr

namespace Model

/-- The temperature when none is given: seven tenths. -/
def warm : Extended .single := .finite ((Binary.ofRatio? false 7 10).getD Binary.zero)

/-- The model when none is configured. -/
def standard : Model := ⟨"openai", "gpt-4-turbo", none, none, 1000, warm, none⟩

/-- The members of a model in data. -/
def fields : List Field :=
  [.withDefault "provider" Decoder.string standard.provider,
    .required "model_id" Decoder.string,
    .withDefault "api_key" (Decoder.optional Decoder.string) none,
    .withDefault "base_url" (Decoder.optional Decoder.string) none,
    .withDefault "max_tokens" (Decoder.natural (Nat.pow 2 32) "u32") standard.maxTokens,
    .withDefault "temperature" Decoder.single standard.temperature,
    .withDefault "retry" (Decoder.optional RetryPolicy.decoder) none]

/-- Reads a model. -/
def decoder : Decoder Model := fun t =>
  (Decoder.record "ModelConfig" fields t).map
    fun (provider, modelId, apiKey, baseUrl, maxTokens, temperature, retry, ()) =>
      ⟨provider, modelId, apiKey, baseUrl, maxTokens, temperature, retry⟩

/-- The data of a model. -/
def toJson (m : Model) : Json :=
  Json.ofMembers [("provider", .str m.provider), ("model_id", .str m.modelId),
    ("api_key", .ofOption (m.apiKey.map .str)), ("base_url", .ofOption (m.baseUrl.map .str)),
    ("max_tokens", .ofNat m.maxTokens), ("temperature", .ofSingle m.temperature),
    ("retry", .ofOption (m.retry.map RetryPolicy.toJson))]

/-- The name of the variable that holds a key when the model has none. -/
def keyVariable : String := "OPENAI_API_KEY"

/-- A key that is not blank. -/
def usable (key : Option String) : Option String := key.filter fun k => !Text.isBlank k

/-- **The key for the model**: its own, or for the standard provider the one in the environment. -/
def key? (m : Model) (env : Environment) : Option String :=
  (usable m.apiKey).or
    (if m.provider == standard.provider then usable (env keyVariable) else none)

end Model

/-- **An agent that nodes can address.** -/
structure Profile where
  id : String
  name : String
  kind : String
  systemPrompt : String
  /-- Takes the place of the model that is configured for all. -/
  model : Option Model
  deriving DecidableEq, Repr

namespace Profile

/-- The members of a profile in data. -/
def fields : List Field :=
  [.required "id" Decoder.string, .required "name" Decoder.string,
    .withDefault "kind" Decoder.string "assistant",
    .withDefault "system_prompt" Decoder.string "",
    .withDefault "model" (Decoder.optional Model.decoder) none]

/-- Reads a profile. -/
def decoder : Decoder Profile := fun t =>
  (Decoder.record "AgentProfile" fields t).map fun (id, name, kind, systemPrompt, model, ()) =>
    ⟨id, name, kind, systemPrompt, model⟩

/-- The data of a profile. -/
def toJson (p : Profile) : Json :=
  Json.ofMembers [("id", .str p.id), ("name", .str p.name), ("kind", .str p.kind),
    ("system_prompt", .str p.systemPrompt), ("model", .ofOption (p.model.map Model.toJson))]

end Profile

end Flowgraph

import Chartbook.Report
import Chartbook.Settings.Environment

/-!
Settings of the language model's provider.
-/

namespace Chartbook

inductive Provider where
  | openai
  | azure
  deriving DecidableEq, Repr

namespace Provider

def word : Provider → String
  | openai => "openai"
  | azure => "azure"

end Provider

structure ChatSettings where
  provider : Provider
  apiKey : String
  /-- The model, or the deployment at Azure. -/
  model : String
  /-- Without a slash at its end. -/
  baseUrl : String
  /-- Used at Azure only. -/
  apiVersion : String
  requestSeconds : Nat
  connectSeconds : Nat
  deriving DecidableEq, Repr

namespace ChatSettings

def openai (environment : Environment) (apiKey : String) : ChatSettings :=
  { provider := .openai
    apiKey
    model := (environment.value? "OPENAI_MODEL").getD "gpt-4o-mini"
    baseUrl := Environment.withoutSlashes
      ((environment.value? "OPENAI_BASE_URL").getD "https://api.openai.com/v1")
    apiVersion := ""
    requestSeconds := environment.numberOr "LLM_REQUEST_TIMEOUT_SECS" Environment.most64 120
    connectSeconds := environment.numberOr "LLM_CONNECT_TIMEOUT_SECS" Environment.most64 10 }

def azure (environment : Environment) (endpoint apiKey : String) : ChatSettings :=
  { provider := .azure
    apiKey
    model := (environment.value? "AZURE_OPENAI_DEPLOYMENT_NAME").getD "gpt-4o-mini"
    baseUrl := Environment.withoutSlashes endpoint
    apiVersion := (environment.value? "AZURE_OPENAI_API_VERSION").getD "2025-01-01-preview"
    requestSeconds := environment.numberOr "LLM_REQUEST_TIMEOUT_SECS" Environment.most64 120
    connectSeconds := environment.numberOr "LLM_CONNECT_TIMEOUT_SECS" Environment.most64 10 }

/-- Azure comes first when both its endpoint and its key are given. -/
def read (environment : Environment) : Except ChatError ChatSettings :=
  match environment.value? "AZURE_OPENAI_ENDPOINT", environment.value? "AZURE_OPENAI_API_KEY" with
  | some endpoint, some apiKey => .ok (azure environment endpoint apiKey)
  | _, _ =>
      match environment.value? "OPENAI_API_KEY" with
      | some apiKey => .ok (openai environment apiKey)
      | none => .error (.missingKey "OPENAI_API_KEY")

end ChatSettings

end Chartbook

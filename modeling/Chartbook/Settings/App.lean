import Chartbook.Agent.Run
import Chartbook.Settings.Environment

/-!
Settings of the application: the document backend, the workspace and the agent.
-/

namespace Chartbook

structure AppSettings where
  /-- The address of the backend, without a slash at its end. -/
  baseUrl : String
  token : Option String
  timeoutSeconds : Nat
  highlightMilliseconds : Nat
  historyCap : Nat
  agent : Agent.Settings
  deriving DecidableEq, Repr

namespace AppSettings

def standardBaseUrl : String :=
  "http://127.0.0.1:7071/api"

/-- The token is taken as it is, unless it is blank. The history has room for one entry at least. -/
def read (environment : Environment) : AppSettings :=
  { baseUrl := Environment.withoutSlashes
      ((environment.value? "FLOWNOTE_API_BASE_URL").getD standardBaseUrl)
    token := (environment "FLOWNOTE_API_TOKEN").filter fun token => !Text.blank token
    timeoutSeconds := environment.numberOr "FLOWNOTE_HTTP_TIMEOUT_SECS" Environment.most64 30
    highlightMilliseconds := environment.numberOr "FLOWNOTE_HIGHLIGHT_MS" Environment.most64 2000
    historyCap := max (environment.numberOr "FLOWNOTE_HISTORY_CAP" Environment.most64 50) 1
    agent :=
      { maxToolIterations := environment.numberOr "AI_MAX_TOOL_ITERATIONS" Environment.most64 10
        maxTokens := environment.numberOr "AI_MAX_TOKENS" Environment.most32 4096 } }

end AppSettings

end Chartbook

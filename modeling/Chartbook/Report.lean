/-!
What a user is told about an error: a code to search for, a message, and whether it may help to try
again.
-/

namespace Chartbook

structure Report where
  code : String
  message : String
  retryable : Bool
  deriving DecidableEq, Repr

namespace Report

def describe (report : Report) : String :=
  report.code ++ ": " ++ report.message ++ (if report.retryable then " (retryable)" else "")

end Report

/-- A status after which the same request may succeed: too many requests, or a server error. -/
def retryableStatus (status : Nat) : Bool :=
  status == 429 || (500 ≤ status && status ≤ 599)

/-- An exchange with the document backend or the suggestion service failed. -/
inductive ServiceError where
  | request (text : String)
  | status (code : Nat) (message : String)
  | decode (text : String)
  | clientBuild (text : String)
  deriving DecidableEq, Repr

namespace ServiceError

def report : ServiceError → Report
  | request text =>
      { code := "E_API_REQUEST", message := "http request failed: " ++ text, retryable := true }
  | status code message =>
      { code := "E_API_STATUS"
        message := "backend returned " ++ toString code ++ ": " ++ message
        retryable := retryableStatus code }
  | decode text =>
      { code := "E_API_DECODE", message := "response decode failed: " ++ text, retryable := false }
  | clientBuild text =>
      { code := "E_HTTP_CLIENT_BUILD"
        message := "HTTP client build failed: " ++ text
        retryable := false }

end ServiceError

/-- A chat with the language model failed. -/
inductive ChatError where
  | settings (text : String)
  | missingKey (variableName : String)
  | request (text : String)
  | response (status : Nat) (body : String)
  | reply (text : String)
  | clientBuild (text : String)
  deriving DecidableEq, Repr

namespace ChatError

def report : ChatError → Report
  | settings text =>
      { code := "E_CONFIG_PARSE", message := "config parse failed: " ++ text, retryable := false }
  | missingKey variableName =>
      { code := "E_MISSING_API_KEY"
        message := "missing API key: env var " ++ variableName ++ " not set"
        retryable := false }
  | request text =>
      { code := "E_API_REQUEST", message := "API request failed: " ++ text, retryable := true }
  | response status _ =>
      { code := "E_API_RESPONSE"
        message := "API response error: status " ++ toString status
        retryable := retryableStatus status }
  | reply text =>
      { code := "E_API_PARSE"
        message := "API response parse failed: " ++ text
        retryable := false }
  | clientBuild text =>
      { code := "E_HTTP_CLIENT_BUILD"
        message := "HTTP client build failed: " ++ text
        retryable := false }

end ChatError

inductive StorageError where
  | notFound (id : String)
  | backend (error : ServiceError)
  deriving DecidableEq, Repr

namespace StorageError

def report : StorageError → Report
  | notFound id =>
      { code := "E_DOCUMENT_NOT_FOUND"
        message := "document not found: " ++ id
        retryable := false }
  | backend error =>
      { error.report with message := "storage backend error: " ++ error.report.message }

end StorageError

inductive SuggestError where
  | emptyMessage
  | service (error : ServiceError)
  | chat (error : ChatError)
  | noAnswer
  deriving DecidableEq, Repr

namespace SuggestError

def report : SuggestError → Report
  | emptyMessage =>
      { code := "E_EMPTY_MESSAGE", message := "message is empty", retryable := false }
  | service error =>
      { error.report with message := "suggestion service error: " ++ error.report.message }
  | chat error =>
      { code := "E_LLM_ERROR"
        message := "LLM error: " ++ error.report.message
        retryable := error.report.retryable }
  | noAnswer =>
      { code := "E_NO_ANSWER"
        message := "agent returned no usable answer"
        retryable := false }

end SuggestError

end Chartbook

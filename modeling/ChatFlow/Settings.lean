import ChatFlow.Graph.Account
import ChatFlow.Schema.Number
import ChatFlow.Schema.Record
import ChatFlow.Settings.EnvFile
import ChatFlow.Turn.Basic

/-!
# Settings

What can be configured, under the names of environment variables, each with a default. Durations
and counts are bounded below. The variables come from the environment and from a file; the
environment counts first.
-/

namespace ChatFlow

open Schema

structure Settings where
  projectName : String
  projectDescription : String
  environment : String
  logLevel : String
  /-- Where errors are logged to a file; nowhere if it is empty. -/
  logDir : String
  token : String
  phoneNumberId : String
  verifyToken : String
  apiUrl : String
  /-- The number that the bot answers for; any, if there is none. -/
  botPhoneNumberId : Option String
  /-- The file with the workflow; without one, the bundled workflow is used. -/
  workflowPath : Option String
  sessionTimeoutMinutes : Float
  maxJumps : Nat
  maxInvalidAttempts : Nat
  listButtonText : String
  sweepIntervalSeconds : Float
  requestTimeoutSeconds : Float

namespace Settings

def oneOf (words : List String) : Decoder String
  | .str s => s |> meaning fun s => if words.contains s then .ok s else .complain .notOneOf
  | _ => .complain .notOneOf

/-- A path without empty parts and parts that lead nowhere. -/
def plainPath (s : String) : String :=
  let parts := ((s.splitOn "/").filter fun p => !(p.isEmpty || p == "."))
  let root := if s.startsWith "//" && !s.startsWith "///" then "//"
    else if s.startsWith "/" then "/" else ""
  let path := root ++ "/".intercalate parts
  if path.isEmpty then "." else path

def path : Decoder String
  | .str s => .ok (plainPath s)
  | _ => .complain .notPath

def decode : Decoder Settings := record fun vars =>
  Settings.mk <$> defaulted vars ["PROJECT_NAME"] "Golden Host" string
    <*> defaulted vars ["PROJECT_DESCRIPTION"]
      "WhatsApp Business webhook backend with a workflow chatbot" string
    <*> defaulted vars ["ENVIRONMENT"] "dev" (oneOf ["dev", "prod"])
    <*> defaulted vars ["LOG_LEVEL"] "INFO" string
    <*> defaulted vars ["LOG_DIR"] "logs" string
    <*> defaulted vars ["WHATSAPP_TOKEN"] "" string
    <*> defaulted vars ["WHATSAPP_PHONE_NUMBER_ID"] "" string
    <*> defaulted vars ["WHATSAPP_VERIFY_TOKEN"] "goldenhost_webhook_2024" string
    <*> defaulted vars ["WHATSAPP_API_URL"] Graph.standardUrl string
    <*> defaulted vars ["BOT_PHONE_NUMBER_ID"] none (nullable string)
    <*> defaulted vars ["WORKFLOW_PATH"] none (fun v => (path v).map some)
    <*> defaulted vars ["BOT_SESSION_TIMEOUT_MINUTES"] 30 (above 0 double)
    <*> defaulted vars ["BOT_MAX_JUMPS"] 10 natural
    <*> defaulted vars ["BOT_MAX_INVALID_ATTEMPTS"] 0 natural
    <*> defaulted vars ["BOT_LIST_BUTTON_TEXT"] Rules.standardListButton string
    <*> defaulted vars ["BOT_SWEEP_INTERVAL_SECONDS"] 300 (atLeast 0 double)
    <*> defaulted vars ["HTTP_STEP_TIMEOUT"] 15 (above 0 double)

def ofEnvironment (environment : Assoc String) (file : Option String) : Checked Settings :=
  let vars := match file with
    | some f => Assoc.putAll (EnvFile.read environment f) environment
    | none => environment
  decode (.obj (vars.map fun (k, v) => (k, .str v)))

/-- How long a session may be idle, in seconds. -/
def idleSeconds (s : Settings) : Float := s.sessionTimeoutMinutes * 60

def registry (s : Settings) : Registry := .empty (Binary64.toRat? s.idleSeconds)

def rules (s : Settings) : Rules := ⟨s.maxJumps, s.maxInvalidAttempts, s.listButtonText⟩

def account (s : Settings) : Graph.Account := ⟨some s.token, some s.phoneNumberId, s.apiUrl⟩

end Settings

end ChatFlow

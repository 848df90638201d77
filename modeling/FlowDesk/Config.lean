/-
# Configuration

The settings of a desk. They are given by name, or by environment variables
whose names are compared without regard to case; what is given by name wins.
-/

import FlowDesk.FileName
import FlowDesk.Form.Scalar

namespace FlowDesk

/-- The settings of a desk. -/
structure Config where
  flowsPath : String
  maxSteps : Int
  flowTimeout : Option Binary64
  seedPath : String
  timezone : String
  newsAddress : String
  newsTimeout : Binary64
  apiKey : String
  host : String
  portNumber : Int
  debug : Bool
  logLevel : String

namespace Config

/-- The settings unless others are given, with the paths of the bundled
files. -/
def standard (flowsPath seedPath : String) : Config where
  flowsPath := flowsPath
  maxSteps := 100
  flowTimeout := none
  seedPath := seedPath
  timezone := "Europe/Rome"
  newsAddress := "http://localhost:9100"
  newsTimeout := Binary64.ofInt 10
  apiKey := ""
  host := "127.0.0.1"
  portNumber := 8080
  debug := false
  logLevel := "INFO"

/-- The names of the settings, in order. -/
def names : List String :=
  [ "flows_path", "max_steps", "flow_timeout_seconds", "sample_data_path", "timezone",
    "news_service_url", "news_timeout_seconds", "api_key", "host", "port", "debug", "log_level" ]

/-- The settings as data. -/
def value (config : Config) : Value :=
  .object
    [ ("flows_path", .text config.flowsPath),
      ("max_steps", .int config.maxSteps),
      ("flow_timeout_seconds", .ofOption (config.flowTimeout.map .real)),
      ("sample_data_path", .text config.seedPath),
      ("timezone", .text config.timezone),
      ("news_service_url", .text config.newsAddress),
      ("news_timeout_seconds", .real config.newsTimeout),
      ("api_key", .text config.apiKey),
      ("host", .text config.host),
      ("port", .int config.portNumber),
      ("debug", .bool config.debug),
      ("log_level", .text config.logLevel) ]

/-- The settings that environment variables give, the last one of a name
counting. -/
def fromEnvironment (environment : List (String × String)) : Fields :=
  let lowered : Table Value :=
    Table.ofEntries (environment.map fun entry => (Text.lower entry.1, .text entry.2))
  lowered.filter fun entry => names.contains entry.1

/-- Refuse what is not a setting. -/
def refuseOthers (given : Fields) : Checked Unit :=
  match given.filter fun entry => !names.contains entry.1 with
  | [] => .valid ()
  | others => .invalid (others.map fun entry =>
      ⟨[.field entry.1], .unexpected, entry.2⟩)

/-- Read settings; what is not given is taken from `base`. -/
def read (base : Config) (environment : List (String × String)) (given : Fields) : Checked Config :=
  let fields : Fields := Table.putAll (fromEnvironment environment) given
  let text (name : String) (default : String) := Checked.optional fields name default Checked.text
  let settings := mk <$> text "flows_path" base.flowsPath
    <*> Checked.optional fields "max_steps" base.maxSteps Checked.whole
    <*> Checked.optional fields "flow_timeout_seconds" base.flowTimeout
      (Checked.nullable Checked.number)
    <*> text "sample_data_path" base.seedPath
    <*> text "timezone" base.timezone
    <*> text "news_service_url" base.newsAddress
    <*> Checked.optional fields "news_timeout_seconds" base.newsTimeout Checked.number
    <*> text "api_key" base.apiKey
    <*> text "host" base.host
    <*> Checked.optional fields "port" base.portNumber Checked.whole
    <*> Checked.optional fields "debug" base.debug Checked.truth
    <*> text "log_level" base.logLevel
  (fun config _ => config) <$> settings <*> refuseOthers given

/-- Why a desk cannot start with some settings. -/
inductive StartError where
  | fewSteps
  | noTime
  | longName (path : String)
  deriving DecidableEq

/-- The sentence that refuses settings. -/
def StartError.message : StartError → String
  | .fewSteps => "MAX_STEPS must be at least 1."
  | .noTime => "FLOW_TIMEOUT_SECONDS must be positive when set."
  | .longName path => FileName.tooLongMessage path

/-- Check settings before a desk starts: what is worth a warning, or why it
cannot start. `exists?` tells which files there are. -/
def startup (config : Config) (exists? : String → Bool) : Except StartError (List String) :=
  if config.maxSteps < 1 then .error .fewSteps
  else if config.flowTimeout.any Binary64.notPositive then .error .noTime
  else if FileName.isTooLong config.flowsPath then .error (.longName config.flowsPath)
  else
    let flows := if exists? config.flowsPath then []
      else [s!"FLOWS_PATH {config.flowsPath} does not exist — no flows will be loaded."]
    let key := if config.apiKey ≠ "" then []
      else if config.debug then ["API_KEY not set. Flow API is open (DEBUG=true)."]
      else ["API_KEY not set. Flow API is locked in production. " ++
        "Set API_KEY in .env to enable access."]
    .ok (flows ++ key)

end Config

end FlowDesk

import HttpContract.Number.Numeral
import HttpContract.Text.LetterCase
import HttpContract.Text.Quoted

/-!
# Configuration

The settings that every endpoint shares: the content type of bodies, the statuses that count as success (from the least
up to, and without, the bound), the status of a response that names none, and the level of the log. A configuration is
settings without a fault. The environment overrides single settings; a variable that is empty counts as not set.
-/

namespace HttpContract

/-- The settings as somebody gives them. -/
structure Settings where
  contentType : String
  successMin : Int
  successBound : Int
  defaultStatus : Int
  logLevel : String
  deriving DecidableEq, Repr

/-- What is wrong with settings. -/
inductive ConfigError where
  | emptyContentType
  | successRange (min bound : Int)
  | defaultStatus (status : Int)
  | statusNotWhole (text : String)
  deriving DecidableEq, Repr

/-- The error in words. -/
def ConfigError.message : ConfigError → String
  | .emptyContentType => "content_type must not be empty"
  | .successRange min bound =>
    "invalid success status range: [" ++ toString min ++ ", " ++ toString bound ++ ")"
  | .defaultStatus status => "invalid default response status: " ++ toString status
  | .statusNotWhole text => "WIRESPEC_DEFAULT_RESPONSE_STATUS must be an integer, got " ++ Text.quoted text

namespace Settings

/-- The settings that hold when nobody gives others. -/
def default : Settings := ⟨"application/json", 200, 300, 200, "WARNING"⟩

/-- The least status. -/
def leastStatus : Int := 100

/-- The number that all statuses are below. -/
def statusBound : Int := 600

/-- The first fault of the settings. -/
def fault? (s : Settings) : Option ConfigError :=
  if (Text.trimWhile Text.isBlank s.contentType.toList).isEmpty then some .emptyContentType
  else if !(leastStatus ≤ s.successMin && s.successMin < s.successBound && s.successBound ≤ statusBound) then
    some (.successRange s.successMin s.successBound)
  else if !(leastStatus ≤ s.defaultStatus && s.defaultStatus < statusBound) then
    some (.defaultStatus s.defaultStatus)
  else none

end Settings

/-- Settings without a fault. -/
structure Config where
  settings : Settings
  sound : settings.fault? = none

namespace Config

/-- The configuration that holds when nobody gives settings. -/
def default : Config := ⟨.default, rfl⟩

/-- The settings as a configuration. -/
def ofSettings (s : Settings) : Except ConfigError Config :=
  match h : s.fault? with
  | none => .ok ⟨s, h⟩
  | some e => .error e

/-- Whether a status counts as success. -/
def isSuccess (c : Config) (status : Int) : Bool :=
  c.settings.successMin ≤ status && status < c.settings.successBound

/-- The value of a variable that is set and not empty. -/
def valueOf? (environment : List (String × String)) (name : String) : Option String :=
  match environment.find? (·.1 == "WIRESPEC_" ++ name) with
  | some (_, value) => if value.isEmpty then none else some value
  | none => none

/-- The default status that the environment gives. -/
def statusOfEnvironment (environment : List (String × String)) : Except ConfigError Int :=
  match valueOf? environment "DEFAULT_RESPONSE_STATUS" with
  | none => .ok Settings.default.defaultStatus
  | some text =>
    match Numeral.readSetting? text with
    | some status => .ok status
    | none => .error (.statusNotWhole text)

/-- The configuration that the environment gives. -/
def ofEnvironment (environment : List (String × String)) : Except ConfigError Config := do
  let contentType := ((valueOf? environment "CONTENT_TYPE").map Text.strip).getD Settings.default.contentType
  let logLevel := ((valueOf? environment "LOG_LEVEL").map fun s => Text.upper (Text.strip s)).getD
    Settings.default.logLevel
  let status ← statusOfEnvironment environment
  ofSettings { Settings.default with contentType, logLevel, defaultStatus := status }

end Config

end HttpContract

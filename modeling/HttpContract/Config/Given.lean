import HttpContract.Config
import HttpContract.Json.Shown
import HttpContract.Number.Position
import HttpContract.Text.Utf8

/-!
# Settings by name

Settings may be given by name with values of any kind; those not given are the default ones. A value is looked at as far as
its setting needs it: the content type must be a text or a byte string, the statuses are compared as numbers of any kind,
and nothing is asked of the level of the log. Where the statuses are whole numbers the rules are those of a configuration.
-/

namespace HttpContract

/-- The settings as values of any kind. -/
structure GivenSettings where
  contentType : Value
  successMin : Value
  successBound : Value
  defaultStatus : Value
  logLevel : Value
  deriving Repr

/-- What is wrong with settings given by name. -/
inductive GivenError where
  | unknownSetting (name : String)
  | noText (contentType : Value)
  | notCompared (relation : String) (left right : Value)
  | successRange (min bound : Value)
  | defaultStatus (status : Value)
  | unsound (e : ConfigError)
  deriving Repr

/-- A value in the words of an error, a text as it is. -/
def Value.inWords : Value → String
  | text s => s
  | v => v.shown

/-- The error in words. -/
def GivenError.message : GivenError → String
  | .unknownSetting name => "CompilerConfig.__init__() got an unexpected keyword argument " ++ Text.quoted name
  | .noText v => Text.quoted v.kindName ++ " object has no attribute 'strip'"
  | .notCompared relation left right =>
    Text.quoted relation ++ " not supported between instances of " ++ Text.quoted left.kindName ++ " and " ++
      Text.quoted right.kindName
  | .successRange min bound => "invalid success status range: [" ++ min.inWords ++ ", " ++ bound.inWords ++ ")"
  | .defaultStatus status => "invalid default response status: " ++ status.inWords
  | .unsound e => e.message

/-- Where a value lies among numbers, if it is one. A truth value counts as zero or one. -/
def Value.position? : Value → Option Position
  | bool b => some (.ofInt (if b then 1 else 0))
  | int n => some (.ofInt n)
  | float x => some (.ofBinary64 x)
  | _ => none

/-- Whether a value is at most another, if both are numbers. -/
def Value.isAtMost (a b : Value) : Except GivenError Bool :=
  match a.position?, b.position? with
  | some p, some q => .ok (p.isAtMost q)
  | _, _ => .error (.notCompared "<=" a b)

/-- Whether a value is below another, if both are numbers. -/
def Value.isBelow (a b : Value) : Except GivenError Bool :=
  match a.position?, b.position? with
  | some p, some q => .ok (p.isBelow q)
  | _, _ => .error (.notCompared "<" a b)

namespace GivenSettings

/-- Settings as values. -/
def ofSettings (s : Settings) : GivenSettings :=
  ⟨.text s.contentType, .int s.successMin, .int s.successBound, .int s.defaultStatus, .text s.logLevel⟩

/-- The settings with one of them given by its name. -/
def set (g : GivenSettings) (name : String) (v : Value) : Except GivenError GivenSettings :=
  match name with
  | "content_type" => .ok { g with contentType := v }
  | "success_status_min" => .ok { g with successMin := v }
  | "success_status_max" => .ok { g with successBound := v }
  | "default_response_status" => .ok { g with defaultStatus := v }
  | "log_level" => .ok { g with logLevel := v }
  | name => .error (.unknownSetting name)

/-- Whether a content type has nothing in it but blanks. -/
def isBlankType : Value → Except GivenError Bool
  | .text s => .ok (s.toList.all Text.isBlank)
  | .bytes data => .ok (data.all fun b => b.toNat == 0x20 || (0x9 ≤ b.toNat && b.toNat ≤ 0xD))
  | v => .error (.noText v)

/-- Whether the success range lies in that of all statuses and is not empty. -/
def hasRange (g : GivenSettings) : Except GivenError Bool := do
  if !(← (Value.int Settings.leastStatus).isAtMost g.successMin) then return false
  if !(← g.successMin.isBelow g.successBound) then return false
  g.successBound.isAtMost (.int Settings.statusBound)

/-- Whether the default status is one of all statuses. -/
def hasStatus (g : GivenSettings) : Except GivenError Bool := do
  if !(← (Value.int Settings.leastStatus).isAtMost g.defaultStatus) then return false
  g.defaultStatus.isBelow (.int Settings.statusBound)

/-- Nothing, if the settings are without a fault, and else the first fault. -/
def check (g : GivenSettings) : Except GivenError Unit := do
  if ← isBlankType g.contentType then throw (.unsound .emptyContentType)
  if !(← g.hasRange) then throw (.successRange g.successMin g.successBound)
  if !(← g.hasStatus) then throw (.defaultStatus g.defaultStatus)

/-- The settings without a fault that members give. -/
def ofMembers (members : List (String × Value)) : Except GivenError GivenSettings := do
  let g ← members.foldlM (fun g m => g.set m.1 m.2) (ofSettings .default)
  g.check
  return g

/-- Whether a status counts as success. -/
def isSuccess (g : GivenSettings) (status : Value) : Except GivenError Bool := do
  if !(← g.successMin.isAtMost status) then return false
  status.isBelow g.successBound

/-- The least whole number that is not below a number; the default for what is no finite number. -/
def leastFrom (default : Int) : Value → Int
  | .int n => n
  | .float x => x.ceil?.getD default
  | _ => default

/-- A value as a text; the default for one that is none. -/
def textOr (default : String) : Value → String
  | .text s => s
  | .bytes data => Text.decodeLossy data
  | _ => default

/-- The configuration with these settings. Among whole statuses the numbers that bound the success range stand for the
whole numbers from them on. -/
def toConfig (g : GivenSettings) : Except GivenError Config :=
  let d := Settings.default
  (Config.ofSettings ⟨textOr d.contentType g.contentType, leastFrom d.successMin g.successMin,
    leastFrom d.successBound g.successBound, leastFrom d.defaultStatus g.defaultStatus,
    textOr d.logLevel g.logLevel⟩).mapError .unsound

end GivenSettings

end HttpContract

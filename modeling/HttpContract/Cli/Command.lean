import HttpContract.Check
import HttpContract.Cli.Arguments
import HttpContract.Cli.Screen
import HttpContract.Endpoint.Message

/-!
# Commands

The three commands: `check` compiles all descriptions under some paths, `describe` shows one endpoint, and
`encode-request` writes a request from values given as JSON. A command prints lines and ends with an exit code: 0 when all is
well, 1 when something is wrong with a description or with values, 2 when the command line itself is. What is no one's to
report ends it as a crash.
-/

namespace HttpContract.Cli

/-- What ends a command without an exit code of its own. -/
inductive Crash where
  | config (e : ConfigError)
  | logLevel (level : String)
  | path (fault : PathFault)
  | load (e : LoadError)
  | part (e : PartError)
  | values (fault : Document.Fault)
  | encode (e : EncodeError)
  | screen (fault : ScreenFault)
  deriving Repr

/-- How a command ends. -/
inductive Ending where
  | exit (code : Nat)
  | crash (c : Crash)
  deriving Repr

/-- The end of a command as an exit code and a line on what went wrong. -/
def Ending.report : Ending → Nat × Option String
  | .exit code => (code, none)
  | .crash c =>
    let reason := match c with
      | .config e => e.message
      | .logLevel level => "Unknown level: " ++ Text.quoted level
      | .path fault => fault.message
      | .load e => e.message
      | .part e => e.message
      | .values fault => fault.message
      | .encode e => e.message
      | .screen fault => fault.message
    (1, some reason)

/-- The lines that a command prints, and how it ends. -/
structure Outcome where
  printed : List String
  ending : Ending
  deriving Repr

namespace Outcome

/-- An error in the command line. -/
def usage : Outcome := ⟨[], .exit 2⟩

/-- The end of a command that nobody handles. -/
def crashed (c : Crash) : Outcome := ⟨[], .crash c⟩

/-- Some outputs before an end. One that cannot be laid out ends the command instead. -/
def ofOutputs : List Output → Ending → Outcome
  | [], ending => ⟨[], ending⟩
  | .ok lines :: rest, ending =>
    let later := ofOutputs rest ending
    { later with printed := lines ++ later.printed }
  | .error fault :: _, _ => crashed (.screen fault)

end Outcome

/-- What a command works with: files, the directory that other paths start from, and the environment. -/
structure World where
  tree : FileTree
  directory : String
  environment : List (String × String)

namespace World

/-- The place of a path: the path itself if it starts at the root, and else a place in the directory that paths start
from. -/
def locate (w : World) (path : String) : String :=
  if path.toList.head? == some '/' then path else w.directory ++ "/" ++ path

/-- Nothing, if a path leads to something, and else the outcome of a command on it. -/
def demand (w : World) (path : String) : Except Outcome Unit :=
  match w.tree.node? (w.locate path) with
  | .ok (some _) => .ok ()
  | .ok none => .error .usage
  | .error fault => .error (.crashed (.path fault))

end World

/-- The text with blanks after it up to a width. -/
def padded (width : Nat) (s : String) : String :=
  String.ofList (s.toList ++ List.replicate (width - s.length) ' ')

/-- An error as a text. -/
def errorLine (message : String) : Output := Screen.text ("[bold red]error[/bold red] " ++ Markup.escape message)

/-- The issues of a schema as a table. -/
def reportTable (r : SchemaReport) : Output :=
  let name := if r.endpoint.isEmpty then "endpoint" else r.endpoint
  Screen.table ("[red]" ++ Markup.escape name ++ "[/red]") [⟨"ISSUE", false⟩, ⟨"MESSAGE", true⟩, ⟨"FIELDS", true⟩]
    (r.issues.map fun i => [i.code, i.message, String.intercalate ", " i.locations])

/-- The lines for an entry of a check. -/
def entryLines (e : CheckEntry) : List Output :=
  match e.ok, e.endpoint with
  | true, some endpoint =>
    [Screen.text ("  [green]ok[/green]    " ++ padded 6 endpoint.metadata.method.name ++ " " ++
      padded 40 (Markup.escape endpoint.metadata.path) ++ " " ++ Markup.escape endpoint.metadata.name)]
  | _, _ =>
    let label := if e.name.isEmpty then pathName e.source else e.name
    Screen.text ("  [red]error[/red] " ++ Markup.escape label ++ "  (" ++ Markup.escape e.source ++ ")") ::
      (if e.error.isEmpty then [] else [Screen.text ("        " ++ Markup.escape e.error)]) ++
      e.issues.map fun i =>
        let places := if i.locations.isEmpty then "" else "  [" ++ String.intercalate ", " i.locations ++ "]"
        Screen.text (Markup.escape ("        [" ++ i.code ++ "] " ++ i.message ++ places))

/-- The crash that a check ends with. -/
def checkCrash : CheckFault → Crash
  | .path fault => .path fault
  | .load e => .load e
  | .part e => .part e

/-- The command `check`. -/
def check (w : World) (paths : List String) : Outcome :=
  match paths.forM w.demand with
  | .error outcome => outcome
  | .ok () =>
    match Config.ofEnvironment w.environment with
    | .error _ => .usage
    | .ok config =>
      match Check.run w.tree config (paths.map w.locate) with
      | .error fault => .crashed (checkCrash fault)
      | .ok result =>
        let count := toString result.entries.length ++ " (" ++ toString result.failed.length ++ " failed)"
        .ofOutputs (Screen.text ("Description files: " ++ toString result.filesScanned) ::
            Screen.text ("Endpoints: " ++ count) :: result.entries.flatMap entryLines)
          (.exit (if result.ok then 0 else 1))

/-- The description that a name selects; without a name there must be exactly one. -/
def select (name : Option String) (descriptions : List Description) : Option Description :=
  match name, descriptions with
  | some name, ds => ds.find? (·.metadata.name == name)
  | none, [d] => some d
  | none, _ => none

/-- The endpoint in a file that a name selects, or the outcome of a command without it. -/
def loadOne (w : World) (path : String) (name : Option String) : Except Outcome Endpoint :=
  match w.demand path with
  | .error outcome => .error outcome
  | .ok () =>
    match Check.load w.tree (w.locate path) (plainPath path) with
    | .error (.unusable e) => .error (.ofOutputs [errorLine e.message] (.exit 1))
    | .error e => .error (.crashed (.load e))
    | .ok descriptions =>
      match select name descriptions, Config.ofEnvironment w.environment with
      | none, _ => .error .usage
      | some _, .error _ => .error .usage
      | some d, .ok config =>
        match Endpoint.compile d config with
        | .error (.schema report) => .error (.ofOutputs [reportTable report] (.exit 1))
        | .error (.part e) => .error (.crashed (.part e))
        | .ok endpoint => .ok endpoint

/-- A truth value as a line shows it. -/
def truthWord (b : Bool) : String := if b then "True" else "False"

/-- A side of an endpoint as a table. -/
def sideTable (side : String) (body : BodyPart) (schema : Schema) : Output :=
  Screen.table (side ++ " (body: " ++ body.mode ++ ")") [⟨"FIELD", false⟩, ⟨"TYPE", true⟩, ⟨"KIND", false⟩]
    (schema.fields.map fun f => [f.name, f.type.label, f.place.label])

/-- An endpoint as texts and tables. -/
def endpointTables (e : Endpoint) : List Output :=
  let m := e.metadata
  [Screen.text ("[bold]" ++ Markup.escape m.name ++ "[/bold]  " ++ m.method.name ++ " " ++ Markup.escape m.path)] ++
    (if m.description.isEmpty then [] else [Screen.text (Markup.escape m.description)]) ++
    [Screen.text ("rate_limited=" ++ truthWord m.rateLimited ++ "  requires_authentication=" ++
      truthWord m.requiresAuthentication),
    sideTable "request" e.requestBody e.contract.request, sideTable "response" e.responseBody e.contract.response]

/-- The command `describe`. -/
def describe (w : World) (path : String) (name format : Option String) : Outcome :=
  let format := Text.strip (Text.lower (format.getD "table"))
  if format != "table" && format != "json" then .usage
  else
    match loadOne w path name with
    | .error outcome => outcome
    | .ok e => .ofOutputs (if format == "json" then [Screen.json e.describe] else endpointTables e) (.exit 0)

/-- A text of more than fifty bytes with its middle left out: the first twenty-five bytes and the last twenty-four are
kept, or fewer where that would cut a character. -/
def shortened (s : String) : String :=
  let cs := s.toList
  let keep (limit : Nat) (cs : List Char) : List Char :=
    (cs.foldl (fun (kept, size) c =>
      if size + c.utf8Size ≤ limit then (kept ++ [c], size + c.utf8Size) else (kept, limit + 1)) ([], 0)).1
  if s.utf8ByteSize ≤ 50 then s
  else String.ofList (keep 25 cs ++ ['.', '.', '.'] ++ (keep 24 cs.reverse).reverse)

/-- A step from a value to a part of it in a line of its own. A name with a point in it stands between backticks. -/
def shownStep (step : Step) : String := if step.text.contains '.' then "`" ++ step.text ++ "`" else step.text

/-- The issues with values, as a text of several lines. -/
def issuesText (record : String) (issues : List Issue) : String :=
  let count := toString issues.length ++ " validation error" ++ (if issues.length == 1 then "" else "s")
  let lines := issues.flatMap fun i =>
    (if i.path.isEmpty then [] else [String.intercalate "." (i.path.map shownStep)]) ++
      ["  " ++ i.cause.message ++ " [type=" ++ i.cause.code ++ ", input_value=" ++ shortened i.input.shown ++
        ", input_type=" ++ i.input.kindName ++ "]",
      "    For further information visit https:" ++ "//errors.pydantic.dev/2.14/v/" ++ i.cause.code]
  String.intercalate "\n" ((count ++ " for " ++ record) :: lines)

/-- The outcome for values that cannot be written. -/
def encodeOutcome (e : EncodeError) : Outcome :=
  match e with
  | .invalid record issues => .ofOutputs [errorLine (issuesText record issues)] (.exit 1)
  | .noText .outOfRange => .crashed (.encode e)
  | .badHeaderValue .. | .noText _ | .noBody _ | .unset => .ofOutputs [errorLine e.message] (.exit 1)
  | e => .crashed (.encode e)

/-- The command `encode-request`. -/
def encodeRequest (w : World) (path values : String) (name : Option String) : Outcome :=
  match loadOne w path name with
  | .error outcome => outcome
  | .ok endpoint =>
    match Document.read values with
    | .error e => if e.fault.isLimit then .crashed (.values e.fault) else .usage
    | .ok v =>
      match v with
      | .object _ =>
        match endpoint.encodeRequest v with
        | .error e => encodeOutcome e
        | .ok raw => .ofOutputs [Screen.json raw.toValue] (.exit 0)
      | _ => .usage

/-- The names of the levels of the log. -/
def logLevels : List String := ["CRITICAL", "FATAL", "ERROR", "WARN", "WARNING", "INFO", "DEBUG", "NOTSET"]

/-- The level that the command line gives, or else the environment. -/
def logLevel (w : World) (option : Option String) : Except Crash String :=
  let given := option.getD ""
  let level := if given.isEmpty then (Config.ofEnvironment w.environment).map (·.settings.logLevel) else .ok given
  match level with
  | .error e => .error (.config e)
  | .ok level =>
    let level := Text.upper level
    if logLevels.contains level then .ok level else .error (.logLevel level)

/-- The arguments of a command run by it. -/
def runParsed (options : List String) (arguments : List String) (run : Parsed → Outcome) : Outcome :=
  match parse options .empty none arguments with
  | none => .usage
  | some p => if p.help then ⟨[], .exit 0⟩ else run p

/-- The names of the commands. -/
def commandNames : List String := ["check", "describe", "encode-request"]

/-- A command by its name. -/
def runCommand (w : World) (command : String) (arguments : List String) : Outcome :=
  if command == "check" then
    runParsed [] arguments fun p => if p.operands.isEmpty then .usage else check w p.operands
  else if command == "describe" then
    runParsed ["--name", "--format"] arguments fun p =>
      match p.operands with
      | [path] => describe w path (p.option? "--name") (p.option? "--format")
      | _ => .usage
  else
    runParsed ["--values", "--name"] arguments fun p =>
      match p.operands, p.option? "--values" with
      | [path], some values => encodeRequest w path values (p.option? "--name")
      | _, _ => .usage

/-- A command line. -/
def run (w : World) (arguments : List String) : Outcome :=
  match parseGroup ["--log-level"] .empty none arguments with
  | none => .usage
  | some (p, rest) =>
    if p.help then ⟨[], .exit 0⟩
    else
      match rest with
      | [] => .usage
      | command :: rest =>
        if !commandNames.contains command then .usage
        else
          match logLevel w (p.option? "--log-level") with
          | .error crash => .crashed crash
          | .ok _ => runCommand w command rest

end HttpContract.Cli

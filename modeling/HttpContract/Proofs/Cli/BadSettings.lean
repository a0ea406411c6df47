import HttpContract.Cli.Command
import HttpContract.Proofs.Check.Entries
import HttpContract.Proofs.Cli.Arguments

/-!
# Commands in a bad environment

The environment is read in two places. For the level of the log it is read before the command, unless the command line gives
a level, and nothing handles an error there. A command reads it again for the configuration of its endpoints, and then an error
is one in the command line. So on a command line with nothing else wrong, a bad environment is an error in the command line
exactly if a level is given, and otherwise ends in a crash. Main statement: `run_of_badEnvironment`.
-/

namespace HttpContract.Cli

/-! ## Valid command lines -/

theorem optionNames_logLevel : OptionNames ["--log-level"] := ⟨by simp, by simp, by simp⟩

theorem optionNames_describe : OptionNames ["--name", "--format"] := ⟨by simp, by simp, by simp⟩

theorem optionNames_encodeRequest : OptionNames ["--values", "--name"] := ⟨by simp, by simp, by simp⟩

/-- A path that leads to something. -/
def World.Has (w : World) (path : String) : Prop := ∃ node, w.tree.node? (w.locate path) = .ok (some node)

/-- A path leads to a file with descriptions, and a name selects one of them. -/
structure World.Selects (w : World) (path : String) (name : Option String) : Prop where
  found : w.Has path
  selected : ∃ ds d, Check.load w.tree (w.locate path) (plainPath path) = .ok ds ∧ select name ds = some d

/-- The level of the log is given, and the text for it is not empty. -/
def Parsed.GivesLevel (p : Parsed) : Prop := ∃ level, p.option? "--log-level" = some level ∧ level.isEmpty = false

/-- A command with valid arguments, in a world where they lead to what they name. -/
inductive World.Command (w : World) : List String → Prop where
  | check {arguments : List String} {p : Parsed} (reads : Reads [] arguments p) (help : p.help = false)
      (some : p.operands ≠ []) (found : ∀ path ∈ p.operands, w.Has path) : w.Command ("check" :: arguments)
  | describe {arguments : List String} {p : Parsed} {path : String} (reads : Reads ["--name", "--format"] arguments p)
      (help : p.help = false) (one : p.operands = [path])
      (format : Text.strip (Text.lower ((p.option? "--format").getD "table")) ∈ ["table", "json"])
      (selects : w.Selects path (p.option? "--name")) : w.Command ("describe" :: arguments)
  | encodeRequest {arguments : List String} {p : Parsed} {path values : String}
      (reads : Reads ["--values", "--name"] arguments p) (help : p.help = false) (one : p.operands = [path])
      (given : p.option? "--values" = some values) (selects : w.Selects path (p.option? "--name")) :
      w.Command ("encode-request" :: arguments)

/-- A command line with valid options before a command, and a valid command. A level of the log that is given has a name. -/
structure World.Line (w : World) (arguments : List String) (options : Parsed) (command : List String) : Prop where
  leads : Leads ["--log-level"] arguments options command
  help : options.help = false
  level : ∀ level, options.option? "--log-level" = some level → level.isEmpty = false → Text.upper level ∈ logLevels
  command : w.Command command

/-! ## What a command does -/

variable {w : World} {path : String} {paths arguments command : List String} {name : Option String} {options : Parsed}
  {err : ConfigError}

theorem World.demand_of_has (h : w.Has path) : w.demand path = .ok () := by
  obtain ⟨node, hnode⟩ := h
  rw [World.demand, hnode]

theorem forM_demand (h : ∀ path ∈ paths, w.Has path) : paths.forM w.demand = .ok () := by
  induction paths with
  | nil => rfl
  | cons path paths ih =>
    rw [List.forM, World.demand_of_has (h path List.mem_cons_self)]
    exact ih fun other hother => h other (List.mem_cons_of_mem _ hother)

section BadEnvironment

variable (hbad : Config.ofEnvironment w.environment = .error err)

include hbad

theorem check_of_badEnvironment (h : ∀ path ∈ paths, w.Has path) : check w paths = .usage := by
  simp only [check, forM_demand h, hbad]

theorem loadOne_of_badEnvironment (h : w.Selects path name) : loadOne w path name = .error .usage := by
  obtain ⟨ds, d, hload, hselect⟩ := h.selected
  delta loadOne
  simp only [World.demand_of_has h.found, hload, hselect, hbad]

theorem describe_of_badEnvironment {format : Option String} (h : w.Selects path name)
    (hformat : Text.strip (Text.lower (format.getD "table")) ∈ ["table", "json"]) : describe w path name format = .usage := by
  simp only [List.mem_cons, List.not_mem_nil, or_false] at hformat
  rcases hformat with hformat | hformat <;> simp [describe, hformat, loadOne_of_badEnvironment hbad h]

theorem encodeRequest_of_badEnvironment (values : String) (h : w.Selects path name) :
    encodeRequest w path values name = .usage := by
  delta encodeRequest
  rw [loadOne_of_badEnvironment hbad h]

/-- A command with valid arguments ends with an error in the command line. -/
theorem runCommand_of_badEnvironment {name : String} {rest : List String} (h : w.Command (name :: rest)) :
    name ∈ commandNames ∧ runCommand w name rest = .usage := by
  cases h with
  | check reads help some found =>
    have hparse := (parse_eq_some_iff ⟨by simp, by simp, by simp⟩).2 reads
    refine ⟨by simp [commandNames], ?_⟩
    simp [runCommand, runParsed, hparse, help, some, check_of_badEnvironment hbad found]
  | describe reads help one format selects =>
    have hparse := (parse_eq_some_iff optionNames_describe).2 reads
    refine ⟨by simp [commandNames], ?_⟩
    simp [runCommand, runParsed, hparse, help, one, describe_of_badEnvironment hbad selects format]
  | encodeRequest reads help one given selects =>
    have hparse := (parse_eq_some_iff optionNames_encodeRequest).2 reads
    refine ⟨by simp [commandNames], ?_⟩
    simp [runCommand, runParsed, hparse, help, one, given, encodeRequest_of_badEnvironment hbad _ selects]

/-- Without a level on the command line, the error of the environment is not handled. -/
theorem logLevel_of_badEnvironment (h : ¬options.GivesLevel) :
    logLevel w (options.option? "--log-level") = .error (.config err) := by
  have hempty : ((options.option? "--log-level").getD "").isEmpty = true := by
    cases hlevel : options.option? "--log-level" with
    | none => rfl
    | some level =>
      by_contra hne
      exact h ⟨level, hlevel, by simpa using hne⟩
  simp [logLevel, hempty, hbad, Except.map]

end BadEnvironment

/-- A level on the command line is taken without a look at the environment. -/
theorem logLevel_of_gives (h : options.GivesLevel)
    (hnamed : ∀ level, options.option? "--log-level" = some level → level.isEmpty = false → Text.upper level ∈ logLevels) :
    ∃ level, logLevel w (options.option? "--log-level") = .ok level := by
  obtain ⟨level, hlevel, hne⟩ := h
  have hmem := hnamed level hlevel hne
  exact ⟨Text.upper level, by simp [logLevel, hlevel, hne, hmem]⟩

/-! ## A whole command line -/

/-- On a command line with nothing else wrong, a bad environment is an error in the command line, with the exit code for that,
exactly if the command line gives a level of the log. Otherwise the run ends in a crash with the error of the environment,
whatever the command is. Neither hangs on what else is in the files, on whether the endpoint compiles, or on the values for
it. -/
theorem run_of_badEnvironment (hbad : Config.ofEnvironment w.environment = .error err)
    (line : w.Line arguments options command) :
    (run w arguments = .usage ↔ options.GivesLevel) ∧ (¬options.GivesLevel → run w arguments = .crashed (.config err)) := by
  have hgroup := (parseGroup_eq_some_iff optionNames_logLevel).2 line.leads
  have hcommand := line.command
  obtain _ | ⟨name, rest⟩ := command
  · cases hcommand
  obtain ⟨hname, hrun⟩ := runCommand_of_badEnvironment hbad hcommand
  have hcrash (hnone : ¬options.GivesLevel) : run w arguments = .crashed (.config err) := by
    simp [run, hgroup, line.help, hname, logLevel_of_badEnvironment hbad hnone]
  refine ⟨⟨fun husage => ?_, fun hgives => ?_⟩, hcrash⟩
  · by_contra hnone
    rw [hcrash hnone] at husage
    cases husage
  · obtain ⟨level, hlevel⟩ := logLevel_of_gives (w := w) hgives line.level
    simp [run, hgroup, line.help, hname, hlevel, hrun]

/-- A world with one file of descriptions, and a default status that is no number. -/
def badWorld : World where
  tree := Check.oneFile (Text.utf8 Check.mixedText)
  directory := "/"
  environment := [("WIRESPEC_DEFAULT_RESPONSE_STATUS", "ok")]

theorem ofEnvironment_badWorld : Config.ofEnvironment badWorld.environment = .error (.statusNotWhole "ok") := by rfl

theorem badWorld_has : badWorld.Has "/f" := ⟨.file (Text.utf8 Check.mixedText), by rfl⟩

/-- With a level of the log the endpoint cannot be described for an error in the command line. -/
theorem run_logLevel_describe :
    Config.ofEnvironment badWorld.environment = .error (.statusNotWhole "ok") ∧
      badWorld.Line ["--log-level", "info", "describe", "/f", "--name", "a", "--format", "json"]
        ⟨[("--log-level", "info")], [], false⟩ ["describe", "/f", "--name", "a", "--format", "json"] ∧
      run badWorld ["--log-level", "info", "describe", "/f", "--name", "a", "--format", "json"] = .usage := by
  have hlist : Description.listOfValue
      (.array [Check.bareValue "a" "/x", Check.bareValue "b" "/x", Check.bareValue "c" "x"]) (some "/f") =
      .ok [Check.bareRoute "a" "/x", Check.bareRoute "b" "/x", Check.bareRoute "c" "x"] := by rfl
  have hload := (Check.load_of_holdsValue Check.holdsValue_mixed).trans (Outcome.mapError_eq_ok_iff.2 hlist)
  have hselects : badWorld.Selects "/f" (some "a") := ⟨badWorld_has, _, Check.bareRoute "a" "/x", hload, by rfl⟩
  have hreads : Reads ["--name", "--format"] ["/f", "--name", "a", "--format", "json"]
      ⟨[("--name", "a"), ("--format", "json")], ["/f"], false⟩ :=
    .operand (.inl (by simp)) (.apart (by simp) (.apart (by simp) .nil))
  have line : badWorld.Line ["--log-level", "info", "describe", "/f", "--name", "a", "--format", "json"]
      ⟨[("--log-level", "info")], [], false⟩ ["describe", "/f", "--name", "a", "--format", "json"] :=
    { leads := .apart (by simp) (.command (.inl (by simp)))
      help := rfl
      level := by
        intro level hlevel _
        obtain rfl : "info" = level := by simpa [Parsed.option?] using hlevel
        decide
      command := .describe hreads rfl rfl (by decide) hselects }
  exact ⟨ofEnvironment_badWorld, line, (run_of_badEnvironment ofEnvironment_badWorld line).1.2 ⟨"info", by rfl, by rfl⟩⟩

/-- Without a level of the log the file cannot be checked for a crash. -/
theorem run_check_crashed :
    Config.ofEnvironment badWorld.environment = .error (.statusNotWhole "ok") ∧
      badWorld.Line ["check", "/f"] .empty ["check", "/f"] ∧
      run badWorld ["check", "/f"] = .crashed (.config (.statusNotWhole "ok")) ∧ run badWorld ["check", "/f"] ≠ .usage := by
  have hreads : Reads [] ["/f"] ⟨[], ["/f"], false⟩ := .operand (.inl (by simp)) .nil
  have line : badWorld.Line ["check", "/f"] .empty ["check", "/f"] :=
    { leads := .command (.inl (by simp))
      help := rfl
      level := nofun
      command := .check hreads rfl (by simp) (by simpa using badWorld_has) }
  have hrun : run badWorld ["check", "/f"] = .crashed (.config (.statusNotWhole "ok")) := by rfl
  refine ⟨ofEnvironment_badWorld, line, hrun, fun husage => ?_⟩
  rw [hrun] at husage
  cases husage

end HttpContract.Cli

import HttpContract.Check
import HttpContract.Proofs.Endpoint.Build

/-!
# What a check survives

A check ends without a result for three reasons only: a path that cannot be looked up, a file that lies beyond what can be
read at all, and a description whose fields make up no part. Whatever else is wrong with a file or a description becomes an
entry that failed. Main statement: `run_ok_iff_survives`.
-/

namespace HttpContract

/-! ## Paths -/

namespace FileTree

variable {tree : FileTree} {path : String} {paths : List String}

/-- A path that can be looked up, whether it leads somewhere or not. -/
def CanLookUp (tree : FileTree) (path : String) : Prop := hasNull path = false ∧ tree.node path ≠ .error .tooLong

/-- Without a null character in it a path that can be looked up stands for files. -/
theorem exists_filesOf_iff : (∃ sources, tree.filesOf path = .ok sources) ↔ tree.CanLookUp path := by
  unfold filesOf node? scan CanLookUp
  cases hnull : hasNull path with
  | true =>
    have hnode : tree.node path = .error .missing := by simp only [node, hnull, if_true]
    simp [hnode, bind, Except.bind]
  | false =>
    cases hnode : tree.node path with
    | ok node => cases node <;> simp [bind, Except.bind]
    | error fault => cases fault <;> simp [bind, Except.bind]

/-- Paths stand for files if all of them can be looked up. -/
theorem exists_expand_iff : (∃ sources, tree.expand paths = .ok sources) ↔ ∀ path ∈ paths, tree.CanLookUp path := by
  have hall : (∃ found, paths.mapM tree.filesOf = .ok found) ↔ ∀ path ∈ paths, tree.CanLookUp path := by
    rw [Outcome.exists_mapM_eq_ok_iff]
    exact forall₂_congr fun path _ => exists_filesOf_iff
  rw [← hall]
  constructor
  · rintro ⟨sources, h⟩
    obtain ⟨found, hfound, _⟩ := Outcome.map_eq_ok_iff.1 h
    exact ⟨found, hfound⟩
  · rintro ⟨found, hfound⟩
    exact ⟨_, Outcome.map_eq_ok_iff.2 ⟨found, hfound, rfl⟩⟩

end FileTree

/-! ## Entries -/

/-- An entry of a check for a description. -/
inductive CheckEntry.ReportsOn (config : Config) (source : String) (d : Description) : CheckEntry → Prop
  | refused {report : SchemaReport} : Endpoint.compile d config = .error (.schema report) →
      ReportsOn config source d ⟨source, d.metadata.name, none, report.issues, ""⟩
  | taken {e : Endpoint} (err : RegisterError) : Endpoint.compile d config = .ok e →
      ReportsOn config source d ⟨source, d.metadata.name, some e, [], err.message⟩
  | joined {e : Endpoint} : Endpoint.compile d config = .ok e →
      ReportsOn config source d ⟨source, d.metadata.name, some e, [], ""⟩

namespace Check

variable {tree : FileTree} {config : Config} {catalog : Catalog} {source : String} {sources paths : List String}
  {d : Description} {ds : List Description} {entry : CheckEntry} {entries : List CheckEntry}

/-- The entries of a check for a file: one that says why it is unusable, or one for each description in it. -/
inductive ReportsFile (tree : FileTree) (config : Config) (source : String) : List CheckEntry → Prop
  | unusable {err : DescriptionError} : load tree source source = .error (.unusable err) →
      ReportsFile tree config source [⟨source, "", none, [], err.message⟩]
  | described {ds : List Description} {entries : List CheckEntry} : load tree source source = .ok ds →
      List.Forall₂ (CheckEntry.ReportsOn config source) ds entries → ReportsFile tree config source entries

/-- A description that a check survives: its fields make up the parts of an endpoint, or it breaks a rule before. -/
def SurvivesDescription (config : Config) (d : Description) : Prop := ∀ e, Endpoint.compile d config ≠ .error (.part e)

/-- A file that a check survives. If it can be read at all, its bytes are UTF-8; no number of its JSON has too many digits
and no value is nested too deep; and the check survives the descriptions in it. -/
def SurvivesFile (tree : FileTree) (config : Config) (source : String) : Prop :=
  ∀ data, tree.read source = .ok data → ∃ text, Text.decodeStrict data = .ok text ∧
    match Document.read (String.ofList (Description.lineFeeds text.toList)) with
    | .error stop => stop.fault.isLimit = false
    | .ok v => ∀ ds, Description.listOfValue v (some source) = .ok ds → ∀ d ∈ ds, SurvivesDescription config d

/-! ## One description -/

theorem exists_description_iff (source : String) (catalog : Catalog) :
    (∃ out, description config source catalog d = .ok out) ↔ SurvivesDescription config d := by
  unfold description SurvivesDescription
  cases hcompile : Endpoint.compile d config with
  | error e => cases e <;> simp
  | ok e => cases hregister : catalog.register e <;> simp [hregister]

theorem reportsOn_of_description {catalog' : Catalog} (h : description config source catalog d = .ok (entry, catalog')) :
    entry.ReportsOn config source d := by
  unfold description at h
  split at h
  · rename_i report hcompile
    cases h
    exact .refused hcompile
  · cases h
  · rename_i e hcompile
    split at h
    · rename_i err _
      cases h
      exact .taken err hcompile
    · cases h
      exact .joined hcompile

/-! ## One file -/

theorem exists_descriptions_iff (catalog : Catalog) :
    (∃ out, descriptions config source catalog ds = .ok out) ↔ ∀ d ∈ ds, SurvivesDescription config d := by
  induction ds generalizing catalog with
  | nil => simp [descriptions]
  | cons d ds ih =>
    rw [List.forall_mem_cons, ← exists_description_iff source catalog]
    constructor
    · rintro ⟨out, h⟩
      obtain ⟨⟨entry, next⟩, hfirst, h⟩ := Outcome.bind_eq_ok_iff.1 h
      obtain ⟨rest, hrest, _⟩ := Outcome.bind_eq_ok_iff.1 h
      exact ⟨⟨_, hfirst⟩, (ih next).1 ⟨rest, hrest⟩⟩
    · rintro ⟨⟨⟨entry, next⟩, hfirst⟩, hrest⟩
      obtain ⟨rest, hrest⟩ := (ih next).2 hrest
      exact ⟨_, Outcome.bind_eq_ok_iff.2 ⟨_, hfirst, Outcome.bind_eq_ok_iff.2 ⟨_, hrest, rfl⟩⟩⟩

theorem forall₂_of_descriptions {catalog' : Catalog}
    (h : descriptions config source catalog ds = .ok (entries, catalog')) :
    List.Forall₂ (CheckEntry.ReportsOn config source) ds entries := by
  induction ds generalizing catalog entries with
  | nil =>
    cases h
    exact .nil
  | cons d ds ih =>
    obtain ⟨⟨entry, next⟩, hfirst, h⟩ := Outcome.bind_eq_ok_iff.1 h
    obtain ⟨⟨later, last⟩, hrest, h⟩ := Outcome.bind_eq_ok_iff.1 h
    cases h
    exact .cons (reportsOn_of_description hfirst) (ih hrest)

/-- A file that is survived is unusable, or it holds descriptions that are survived. -/
theorem survivesFile_iff :
    SurvivesFile tree config source ↔
      (∃ err, load tree source source = .error (.unusable err)) ∨
        ∃ ds, load tree source source = .ok ds ∧ ∀ d ∈ ds, SurvivesDescription config d := by
  unfold SurvivesFile load
  cases hread : tree.read source with
  | error fault => simp
  | ok data =>
    simp only [Except.ok.injEq, forall_eq', Description.listOfBytes]
    cases hdecode : Text.decodeStrict data with
    | error m => simp
    | ok text =>
      simp only [Except.ok.injEq, exists_eq_left', Description.listOfText]
      cases hjson : Document.read (String.ofList (Description.lineFeeds text.toList)) with
      | error stop => cases hlimit : stop.fault.isLimit <;> simp [hlimit]
      | ok v => cases hlist : Description.listOfValue v (some source) <;> simp [Except.mapError, hlist]

theorem exists_file_iff (catalog : Catalog) :
    (∃ out, file tree config catalog source = .ok out) ↔ SurvivesFile tree config source := by
  rw [survivesFile_iff]
  unfold file
  cases hload : load tree source source with
  | error err => cases err <;> simp
  | ok ds =>
    simp only [Except.ok.injEq, exists_eq_left', reduceCtorEq, exists_false, false_or]
    exact exists_descriptions_iff catalog

theorem reportsFile_of_file {catalog' : Catalog} (h : file tree config catalog source = .ok (entries, catalog')) :
    ReportsFile tree config source entries := by
  unfold file at h
  split at h
  · rename_i err hload
    cases h
    exact .unusable hload
  · cases h
  · rename_i ds hload
    exact .described hload (forall₂_of_descriptions h)

/-! ## All files -/

theorem exists_files_iff (catalog : Catalog) :
    (∃ out, files tree config catalog sources = .ok out) ↔ ∀ source ∈ sources, SurvivesFile tree config source := by
  induction sources generalizing catalog with
  | nil => simp [files]
  | cons source sources ih =>
    rw [List.forall_mem_cons, ← exists_file_iff catalog]
    constructor
    · rintro ⟨out, h⟩
      obtain ⟨⟨entries, next⟩, hfirst, h⟩ := Outcome.bind_eq_ok_iff.1 h
      obtain ⟨rest, hrest, _⟩ := Outcome.bind_eq_ok_iff.1 h
      exact ⟨⟨_, hfirst⟩, (ih next).1 ⟨rest, hrest⟩⟩
    · rintro ⟨⟨⟨entries, next⟩, hfirst⟩, hrest⟩
      obtain ⟨rest, hrest⟩ := (ih next).2 hrest
      exact ⟨_, Outcome.bind_eq_ok_iff.2 ⟨_, hfirst, Outcome.bind_eq_ok_iff.2 ⟨_, hrest, rfl⟩⟩⟩

theorem exists_reports_of_files {catalog' : Catalog} (h : files tree config catalog sources = .ok (entries, catalog')) :
    ∃ reports, List.Forall₂ (ReportsFile tree config) sources reports ∧ entries = reports.flatten := by
  induction sources generalizing catalog entries with
  | nil =>
    cases h
    exact ⟨[], .nil, rfl⟩
  | cons source sources ih =>
    obtain ⟨⟨first, next⟩, hfirst, h⟩ := Outcome.bind_eq_ok_iff.1 h
    obtain ⟨⟨later, last⟩, hrest, h⟩ := Outcome.bind_eq_ok_iff.1 h
    cases h
    obtain ⟨reports, hreports, rfl⟩ := ih hrest
    exact ⟨first :: reports, .cons (reportsFile_of_file hfirst) hreports, rfl⟩

/-- The check of paths has a result if all of them can be looked up and the check survives all files they stand for. -/
theorem exists_run_iff :
    (∃ r, run tree config paths = .ok r) ↔
      (∀ path ∈ paths, tree.CanLookUp path) ∧
        ∀ sources, tree.expand paths = .ok sources → ∀ source ∈ sources, SurvivesFile tree config source := by
  rw [← FileTree.exists_expand_iff]
  constructor
  · rintro ⟨r, h⟩
    obtain ⟨sources, hsources, h⟩ := Outcome.bind_eq_ok_iff.1 h
    obtain ⟨out, hfiles, _⟩ := Outcome.bind_eq_ok_iff.1 h
    rw [Outcome.mapError_eq_ok_iff] at hsources
    refine ⟨⟨sources, hsources⟩, fun others hothers => ?_⟩
    rw [hsources, Except.ok.injEq] at hothers
    exact hothers ▸ (exists_files_iff Catalog.empty).1 ⟨out, hfiles⟩
  · rintro ⟨⟨sources, hsources⟩, hsurvive⟩
    obtain ⟨out, hfiles⟩ := (exists_files_iff Catalog.empty).2 (hsurvive sources hsources)
    exact ⟨_, Outcome.bind_eq_ok_iff.2 ⟨_, Outcome.mapError_eq_ok_iff.2 hsources,
      Outcome.bind_eq_ok_iff.2 ⟨_, hfiles, rfl⟩⟩⟩

/-! ## Failures -/

theorem message_ne_empty (err : RegisterError) : err.message ≠ "" := by
  cases err with
  | nameTaken name =>
    show "endpoint name already registered: " ++ name ≠ ""
    intro h
    exact absurd (String.append_eq_empty_iff.1 h).1 (by decide)
  | routeTaken route other =>
    show "route " ++ route ++ " already registered by " ++ other ≠ ""
    intro h
    obtain ⟨hstart, _⟩ := String.append_eq_empty_iff.1 h
    exact absurd (String.append_eq_empty_iff.1 hstart).2 (by decide)

/-- An entry for a description is no failure only if the description became an endpoint. -/
theorem compile_of_reportsOn (h : entry.ReportsOn config source d) (hok : entry.ok = true) :
    ∃ e, Endpoint.compile d config = .ok e ∧ entry = ⟨source, d.metadata.name, some e, [], ""⟩ := by
  cases h with
  | refused => cases hok
  | taken err hcompile =>
    rw [CheckEntry.ok, Bool.and_eq_true] at hok
    exact absurd (String.isEmpty_iff.1 hok.2) (message_ne_empty err)
  | joined hcompile => exact ⟨_, hcompile, rfl⟩

/-- Fields whose types are names or null and whose names are not hidden make up the parts of every endpoint. -/
theorem survivesDescription_of_typed (config : Config)
    (typed : ∀ decl ∈ d.request ++ d.response, decl.type = .null ∨ ∃ name, decl.type = .text name)
    (visible : ∀ decl ∈ d.request ++ d.response, decl.name.toList.head? ≠ some '_') : SurvivesDescription config d := by
  intro e he
  cases hc : Contract.check d.metadata d.request d.response with
  | error report => simp [Endpoint.compile, hc] at he
  | ok c =>
    obtain ⟨hreq, hresp⟩ := Contract.forall₂_of_check hc
    rw [List.forall_mem_append] at typed visible
    have u : c.Usable := Contract.usable_of_check hc (Schema.usable_of_forall₂ hreq typed.1 visible.1)
      (Schema.usable_of_forall₂ hresp typed.2 visible.2)
    rw [Endpoint.compile_eq_fitted hc u] at he
    cases he

/-- What a check survives. It has a result just if all paths can be looked up and every file they stand for, as far as it can
be read at all, is UTF-8, keeps the limits of JSON and holds no description whose fields make up no part. With a result an
unusable file has an entry that failed and says why, and every description has an entry of its own, which failed unless the
description became an endpoint. Types that are names or null and names that are not hidden always make up parts. -/
theorem run_ok_iff_survives (tree : FileTree) (config : Config) (paths : List String) :
    ((∃ r, run tree config paths = .ok r) ↔
      (∀ path ∈ paths, tree.CanLookUp path) ∧
        ∀ sources, tree.expand paths = .ok sources → ∀ source ∈ sources, SurvivesFile tree config source) ∧
    (∀ r sources, run tree config paths = .ok r → tree.expand paths = .ok sources → ∀ source ∈ sources,
      (∀ err, load tree source source = .error (.unusable err) →
        ∃ entry ∈ r.failed, entry.source = source ∧ entry.error = err.message) ∧
      ∀ ds, load tree source source = .ok ds → ∀ d ∈ ds, ∃ entry ∈ r.entries, entry.ReportsOn config source d ∧
        (entry ∈ r.failed ∨ ∃ e, Endpoint.compile d config = .ok e ∧ entry = ⟨source, d.metadata.name, some e, [], ""⟩)) ∧
    ∀ d : Description, (∀ decl ∈ d.request ++ d.response, decl.type = .null ∨ ∃ name, decl.type = .text name) →
      (∀ decl ∈ d.request ++ d.response, decl.name.toList.head? ≠ some '_') → SurvivesDescription config d := by
  refine ⟨exists_run_iff, fun r sources hrun hsources source hsource => ?_, fun d typed visible =>
    survivesDescription_of_typed config typed visible⟩
  obtain ⟨others, hothers, hrun⟩ := Outcome.bind_eq_ok_iff.1 hrun
  rw [Outcome.mapError_eq_ok_iff, hsources, Except.ok.injEq] at hothers
  obtain ⟨⟨entries, catalog⟩, hfiles, hrun⟩ := Outcome.bind_eq_ok_iff.1 hrun
  cases hrun
  subst hothers
  obtain ⟨reports, hreports, rfl⟩ := exists_reports_of_files hfiles
  obtain ⟨own, hown, hreport⟩ := Outcome.exists_of_forall₂ hreports hsource
  have hmem : ∀ entry ∈ own, entry ∈ reports.flatten := fun entry hentry => List.mem_flatten.2 ⟨own, hown, hentry⟩
  constructor
  · intro err hload
    cases hreport with
    | described hload' =>
      rw [hload] at hload'
      cases hload'
    | unusable hload' =>
      rw [hload] at hload'
      cases hload'
      exact ⟨_, List.mem_filter.2 ⟨hmem _ List.mem_cons_self, rfl⟩, rfl, rfl⟩
  · intro ds hload d hd
    cases hreport with
    | unusable hload' =>
      rw [hload] at hload'
      cases hload'
    | described hload' hall =>
      rw [hload] at hload'
      cases hload'
      obtain ⟨entry, hentry, hon⟩ := Outcome.exists_of_forall₂ hall hd
      refine ⟨entry, hmem entry hentry, hon, ?_⟩
      cases hok : entry.ok with
      | true => exact Or.inr (compile_of_reportsOn hon hok)
      | false => exact Or.inl (List.mem_filter.2 ⟨hmem entry hentry, by rw [hok]; rfl⟩)

/-- A file that holds a single byte, which begins no character. -/
def strayByte : FileTree := ⟨"", .directory [("f", .file [0xFF])]⟩

/-- A check does not survive a file that is no UTF-8. -/
theorem run_strayByte : run strayByte .default ["/f"] = .error (.load (.notUtf8 [0xFF] ⟨.invalidStart, 0xFF, 0, 1⟩)) := by
  have hnode : strayByte.node "/f" = .ok (.file [0xFF]) := by rfl
  have hresolve : strayByte.resolve "/f" = "/f" := by rfl
  have hsources : strayByte.expand ["/f"] = .ok ["/f"] := by
    simp only [FileTree.expand, List.mapM_cons, FileTree.filesOf, FileTree.node?, hnode, hresolve]
    rfl
  have hdecode : Text.decodeStrict [0xFF] = .error ⟨.invalidStart, 0xFF, 0, 1⟩ := by rfl
  have hfile : file strayByte .default Catalog.empty "/f" = .error (.load (.notUtf8 [0xFF] ⟨.invalidStart, 0xFF, 0, 1⟩)) := by
    simp only [file, load, FileTree.read, hnode, Description.listOfBytes, hdecode]
  exact Outcome.bind_eq_error_iff.2 (Or.inr ⟨_, Outcome.mapError_eq_ok_iff.2 hsources,
    Outcome.bind_eq_error_iff.2 (Or.inl (Outcome.bind_eq_error_iff.2 (Or.inl hfile)))⟩)

end Check

end HttpContract

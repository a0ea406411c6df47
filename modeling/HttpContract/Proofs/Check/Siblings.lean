import HttpContract.Proofs.Check.Entries
import HttpContract.Proofs.Schema.WellFormed

/-!
# Descriptions that share a file

Whether the issues of a description are reported hangs on what else is in its file: every item has to be a description. A
single item that is none makes the file unusable, and its one entry says nothing of the others. Whether the others compile,
or what is in other files, makes no difference. Main statement: `issues_reported_iff`.
-/

namespace HttpContract

/-- The descriptions in a list are those of its items, one by one. -/
theorem Description.listFrom_eq_ok_iff {several : Bool} {source : Option String} {index : Nat} {parts : List Value}
    {ds : List Description} :
    listFrom several source index parts = .ok ds ↔ List.Forall₂ (fun part d => ofValue part = .ok d) parts ds := by
  induction parts generalizing index ds with
  | nil => rw [listFrom, List.forall₂_nil_left_iff, Except.ok.injEq, eq_comm]
  | cons part parts ih =>
    rw [listFrom]
    cases hpart : ofValue part with
    | error issues =>
      constructor
      · intro h
        cases h
      · intro h
        cases h with
        | cons hd _ =>
          rw [hpart] at hd
          cases hd
    | ok d =>
      rw [Outcome.map_eq_ok_iff]
      constructor
      · rintro ⟨later, hlater, rfl⟩
        exact .cons hpart (ih.1 hlater)
      · intro h
        cases h with
        | cons hd hlater =>
          rw [hpart, Except.ok.injEq] at hd
          exact ⟨_, ih.2 hlater, by rw [hd]⟩

/-- Whether a description is refused for its schema does not hang on the configuration. -/
theorem Endpoint.compile_eq_schema_iff {d : Description} {config : Config} {report : SchemaReport} :
    compile d config = .error (.schema report) ↔ Contract.check d.metadata d.request d.response = .error report := by
  unfold compile
  cases Contract.check d.metadata d.request d.response with
  | error report => simp
  | ok contract => cases hbuild : build d.metadata contract config <;> simp [Except.mapError, hbuild]

/-- A report has issues. -/
theorem Contract.issues_ne_nil_of_check {metadata : Metadata} {request response : List Declaration} {report : SchemaReport}
    (h : check metadata request response = .error report) : report.issues ≠ [] := by
  by_cases hall : issues metadata request response = []
  · rw [check_of_nil hall] at h
    cases h
  · rw [check_of_ne_nil hall] at h
    cases h
    exact hall

namespace Check

variable {tree : FileTree} {config : Config} {source : String} {sources paths : List String} {entries : List CheckEntry}
  {entry : CheckEntry} {r : CheckResult}

/-- A file of descriptions has an entry for each of them. -/
theorem ReportsFile.forall₂ (h : ReportsFile tree config source entries) {ds : List Description}
    (hload : load tree source source = .ok ds) : List.Forall₂ (CheckEntry.ReportsOn config source) ds entries := by
  cases h with
  | unusable hother =>
    rw [hload] at hother
    cases hother
  | described hother hall =>
    rw [hload] at hother
    cases hother
    exact hall

/-- An unusable file has one entry, without issues. -/
theorem ReportsFile.eq_singleton (h : ReportsFile tree config source entries) {err : DescriptionError}
    (hload : load tree source source = .error (.unusable err)) : entries = [⟨source, "", none, [], err.message⟩] := by
  cases h with
  | unusable hother =>
    rw [hload] at hother
    cases hother
    rfl
  | described hother =>
    rw [hload] at hother
    cases hother

/-- The entries for a file have it as their source. -/
theorem ReportsFile.source_eq (h : ReportsFile tree config source entries) (hentry : entry ∈ entries) :
    entry.source = source := by
  cases h with
  | unusable => rw [List.mem_singleton.1 hentry]
  | described _ hall =>
    obtain ⟨d, _, hon⟩ := Outcome.exists_of_forall₂ hall.flip hentry
    cases hon with
    | refused | taken | joined => rfl

/-- The entries of a result are those for its files. -/
theorem exists_reportsFile_of_run (h : run tree config paths = .ok r) (hsources : tree.expand paths = .ok sources) :
    (∀ source ∈ sources, ∃ own, ReportsFile tree config source own ∧ ∀ entry ∈ own, entry ∈ r.entries) ∧
    ∀ entry ∈ r.entries, ∃ own, ReportsFile tree config entry.source own ∧ entry ∈ own := by
  obtain ⟨others, hothers, h⟩ := Outcome.bind_eq_ok_iff.1 h
  rw [Outcome.mapError_eq_ok_iff, hsources, Except.ok.injEq] at hothers
  subst hothers
  obtain ⟨⟨entries, catalog⟩, hfiles, h⟩ := Outcome.bind_eq_ok_iff.1 h
  cases h
  obtain ⟨reports, hreports, rfl⟩ := exists_reports_of_files hfiles
  constructor
  · intro source hsource
    obtain ⟨own, hown, hreport⟩ := Outcome.exists_of_forall₂ hreports hsource
    exact ⟨own, hreport, fun entry hentry => List.mem_flatten.2 ⟨own, hown, hentry⟩⟩
  · intro entry hentry
    obtain ⟨own, hown, hmem⟩ := List.mem_flatten.1 hentry
    obtain ⟨source, _, hreport⟩ := Outcome.exists_of_forall₂ hreports.flip hown
    have hown : entry.source = source := ReportsFile.source_eq hreport hmem
    exact ⟨own, hown ▸ hreport, hmem⟩

/-- In a file of descriptions every one that is refused has an entry with its issues. -/
theorem mem_entries_of_refused (hrun : run tree config paths = .ok r) (hsources : tree.expand paths = .ok sources)
    (hsource : source ∈ sources) {ds : List Description} (hload : load tree source source = .ok ds) {d : Description}
    (hd : d ∈ ds) {report : SchemaReport} (hrefused : Endpoint.compile d config = .error (.schema report)) :
    ⟨source, d.metadata.name, none, report.issues, ""⟩ ∈ r.entries := by
  obtain ⟨own, hreport, hmem⟩ := (exists_reportsFile_of_run hrun hsources).1 source hsource
  obtain ⟨entry, hentry, hon⟩ := Outcome.exists_of_forall₂ (hreport.forall₂ hload) hd
  cases hon with
  | refused hcompile =>
    rw [hrefused] at hcompile
    cases hcompile
    exact hmem _ hentry
  | taken _ hcompile | joined hcompile =>
    rw [hrefused] at hcompile
    cases hcompile

/-- The issues of a description are reported just if everything in its file is a description, whatever there is in other
files. If something in its file is none, the file has one entry, and that has no issues. -/
theorem issues_reported_iff (hrun : run tree config paths = .ok r) (hsources : tree.expand paths = .ok sources)
    (hsource : source ∈ sources) {v part : Value} (hv : HoldsValue tree source v) (hpart : part ∈ Description.parts v)
    {d : Description} (hd : Description.ofValue part = .ok d) {own : Config} {report : SchemaReport}
    (hrefused : Endpoint.compile d own = .error (.schema report)) :
    ((∃ entry ∈ r.entries, entry.source = source ∧ entry.name = d.metadata.name ∧ entry.issues = report.issues) ↔
      ∀ other ∈ Description.parts v, ∃ d', Description.ofValue other = .ok d') ∧
    ∀ err, Description.listOfValue v (some source) = .error err →
      ∀ entry ∈ r.entries, entry.source = source → entry = ⟨source, "", none, [], err.message⟩ := by
  have hcheck := Endpoint.compile_eq_schema_iff.1 hrefused
  have honly : ∀ err, Description.listOfValue v (some source) = .error err →
      ∀ entry ∈ r.entries, entry.source = source → entry = ⟨source, "", none, [], err.message⟩ := by
    intro err herr entry hentry hown
    have hload : load tree source source = .error (.unusable err) := by
      rw [load_of_holdsValue hv, herr]
      rfl
    obtain ⟨own, hreport, hmem⟩ := (exists_reportsFile_of_run hrun hsources).2 entry hentry
    rw [hown] at hreport
    exact List.mem_singleton.1 (hreport.eq_singleton hload ▸ hmem)
  refine ⟨⟨?_, fun hall => ?_⟩, honly⟩
  · rintro ⟨entry, hentry, hown, _, hissues⟩
    cases hlist : Description.listOfValue v (some source) with
    | ok ds =>
      intro other hother
      obtain ⟨d', _, hd'⟩ := Outcome.exists_of_forall₂ (Description.listFrom_eq_ok_iff.1 hlist) hother
      exact ⟨d', hd'⟩
    | error err =>
      rw [honly err hlist entry hentry hown] at hissues
      exact absurd hissues.symm (Contract.issues_ne_nil_of_check hcheck)
  · obtain ⟨ds, hds⟩ := Outcome.exists_forall₂ hall
    have hload : load tree source source = .ok ds := by
      rw [load_of_holdsValue hv]
      exact Outcome.mapError_eq_ok_iff.2 (Description.listFrom_eq_ok_iff.2 hds)
    obtain ⟨d', hd', hsame⟩ := Outcome.exists_of_forall₂ hds hpart
    rw [hd, Except.ok.injEq] at hsame
    subst hsame
    exact ⟨_, mem_entries_of_refused hrun hsources hsource hload hd' (Endpoint.compile_eq_schema_iff.2 hcheck), rfl, rfl, rfl⟩

/-- The third of three descriptions has its issue reported. -/
theorem issues_reported_mixed :
    ∃ entry ∈ mixedResult.entries, entry.source = "/f" ∧ entry.name = "c" ∧ entry.issues = [⟨.unrootedPath "x", []⟩] := by
  have hparts : Description.parts (.array [bareValue "a" "/x", bareValue "b" "/x", bareValue "c" "x"]) =
      [bareValue "a" "/x", bareValue "b" "/x", bareValue "c" "x"] := rfl
  have hpart : bareValue "c" "x" ∈ Description.parts (.array [bareValue "a" "/x", bareValue "b" "/x", bareValue "c" "x"]) := by
    simp [hparts]
  have hd : Description.ofValue (bareValue "c" "x") = .ok (bareRoute "c" "x") := by rfl
  have hrefused : Endpoint.compile (bareRoute "c" "x") .default = .error (.schema ⟨"c", [⟨.unrootedPath "x", []⟩]⟩) := by rfl
  refine (issues_reported_iff run_mixed (expand_oneFile _) List.mem_cons_self holdsValue_mixed hpart hd hrefused).1.2 ?_
  intro other hother
  simp only [hparts, List.mem_cons, List.not_mem_nil, or_false] at hother
  rcases hother with rfl | rfl | rfl
  · exact ⟨bareRoute "a" "/x", by rfl⟩
  · exact ⟨bareRoute "b" "/x", by rfl⟩
  · exact ⟨bareRoute "c" "x", hd⟩

/-- A description whose path does not start with a slash, and an item that is no description. -/
def hidingText : String := "[\x7b\"metadata\":\x7b\"method\":\"GET\",\"name\":\"c\",\"path\":\"x\"\x7d\x7d,\x7b\x7d]"

theorem holdsValue_hiding : HoldsValue (oneFile (Text.utf8 hidingText)) "/f" (.array [bareValue "c" "x", .object []]) := by
  have hvalue (levels : Nat) : Document.value (levels + 4) hidingText.toList =
      .ok (.array [bareValue "c" "x", .object []], []) := by cbv
  exact holdsValue_of_value rfl (by decide +kernel) (hvalue 986)

/-- A check does not report the issue of a description in a file with an item that is none. -/
theorem issues_not_reported_hiding :
    ∃ r, run (oneFile (Text.utf8 hidingText)) .default ["/f"] = .ok r ∧
      HoldsValue (oneFile (Text.utf8 hidingText)) "/f" (.array [bareValue "c" "x", .object []]) ∧
      bareValue "c" "x" ∈ Description.parts (.array [bareValue "c" "x", .object []]) ∧
      Description.ofValue (bareValue "c" "x") = .ok (bareRoute "c" "x") ∧
      Endpoint.compile (bareRoute "c" "x") .default = .error (.schema ⟨"c", [⟨.unrootedPath "x", []⟩]⟩) ∧
      ¬∃ entry ∈ r.entries, entry.issues = [⟨.unrootedPath "x", []⟩] := by
  have hlist : ∃ err, Description.listOfValue (.array [bareValue "c" "x", .object []]) (some "/f") = .error err :=
    ⟨_, by rfl⟩
  obtain ⟨err, hlist⟩ := hlist
  have hload : load (oneFile (Text.utf8 hidingText)) "/f" "/f" = .error (.unusable err) := by
    rw [load_of_holdsValue holdsValue_hiding, hlist]
    rfl
  have hfile : file (oneFile (Text.utf8 hidingText)) .default Catalog.empty "/f" =
      .ok ([⟨"/f", "", none, [], err.message⟩], Catalog.empty) := by
    rw [file, hload]
  refine ⟨_, run_oneFile hfile, holdsValue_hiding, List.mem_cons_self, by rfl, by rfl, ?_⟩
  simp

end Check

end HttpContract

import HttpContract.Proofs.Check.Survival
import HttpContract.Proofs.Endpoint.Catalog
import HttpContract.Proofs.Text.Utf8
import Mathlib

/-!
# What a check reports

The entries of a check are those of what it finds, item by item: a file that is unusable, or a description. What an entry
says hangs on the entries before it only through the endpoints that these put into the catalog, and the catalog holds just
those endpoints. Main statement: `run_reports_all`.
-/

namespace HttpContract

/-- What a check has an entry for. -/
inductive CheckItem where
  | unusable (source : String) (err : DescriptionError)
  | description (source : String) (d : Description)

/-- The endpoints of the entries with nothing wrong. -/
def okEndpoints (entries : List CheckEntry) : List Endpoint := (entries.filter (·.ok)).filterMap (·.endpoint)

/-- An entry for an item, after other entries. A description that does not compile has the issues of its report, whatever
came before; one that does is beside the endpoints that came before it. -/
inductive CheckEntry.ReportsAfter (config : Config) (earlier : List CheckEntry) : CheckItem → CheckEntry → Prop
  | unusable {source : String} {err : DescriptionError} :
      ReportsAfter config earlier (.unusable source err) ⟨source, "", none, [], err.message⟩
  | refused {source : String} {d : Description} {report : SchemaReport} :
      Endpoint.compile d config = .error (.schema report) →
      ReportsAfter config earlier (.description source d) ⟨source, d.metadata.name, none, report.issues, ""⟩
  | taken {source : String} {d : Description} {e : Endpoint} {err : RegisterError} :
      Endpoint.compile d config = .ok e → Catalog.Admits (okEndpoints earlier) e (some err) →
      ReportsAfter config earlier (.description source d) ⟨source, d.metadata.name, some e, [], err.message⟩
  | joined {source : String} {d : Description} {e : Endpoint} :
      Endpoint.compile d config = .ok e → Catalog.Admits (okEndpoints earlier) e none →
      ReportsAfter config earlier (.description source d) ⟨source, d.metadata.name, some e, [], ""⟩

namespace Check

/-- The items of a file that can be read at all. -/
def itemsOf (tree : FileTree) (source : String) : List CheckItem :=
  match load tree source source with
  | .ok ds => ds.map (.description source)
  | .error (.unusable err) => [.unusable source err]
  | .error _ => []

/-- Entries for items one by one, each after those before it. -/
inductive Reported (config : Config) : List CheckItem → List CheckEntry → Prop where
  | nil : Reported config [] []
  | snoc {items : List CheckItem} {entries : List CheckEntry} {item : CheckItem} {entry : CheckEntry} :
      Reported config items entries → entry.ReportsAfter config entries item →
      Reported config (items ++ [item]) (entries ++ [entry])

variable {tree : FileTree} {config : Config} {catalog catalog' : Catalog} {source : String} {sources paths : List String}
  {d : Description} {ds : List Description} {items : List CheckItem} {item : CheckItem} {entry : CheckEntry}
  {entries earlier : List CheckEntry} {e : Endpoint}

/-! ## Files -/

/-- A file with the text of a document, which holds a value. -/
def HoldsValue (tree : FileTree) (source : String) (v : Value) : Prop :=
  ∃ data text, tree.read source = .ok data ∧ Text.decodeStrict data = .ok text ∧
    Document.read (String.ofList (Description.lineFeeds text.toList)) = .ok v

theorem load_of_holdsValue {v : Value} (h : HoldsValue tree source v) :
    load tree source source = (Description.listOfValue v (some source)).mapError .unusable := by
  obtain ⟨data, text, hread, hdecode, hdocument⟩ := h
  simp only [load, hread, Description.listOfBytes, hdecode, Description.listOfText, hdocument]

/-- A text whose value starts right away and ends with the text is a document, if its lines end in line feeds. -/
theorem holdsValue_of_value {text : String} {v : Value} (hread : tree.read source = .ok (Text.utf8 text))
    (hplain : Description.lineFeeds text.toList = text.toList ∧ text.toList.head? ≠ some (Char.ofNat 0xFEFF) ∧
      Document.skipSpace text.toList = text.toList)
    (hvalue : Document.value Document.maxLevels text.toList = .ok (v, [])) : HoldsValue tree source v := by
  obtain ⟨hlines, hmark, hstart⟩ := hplain
  refine ⟨_, text, hread, Text.decodeStrict_utf8 text, ?_⟩
  rw [hlines, String.ofList_toList, Document.read, Document.readWithin, Outcome.mapError_eq_ok_iff]
  simp only [beq_iff_eq, hmark, if_false, hstart]
  exact Outcome.bind_eq_ok_iff.2 ⟨_, hvalue, rfl⟩

/-! ## Entries -/

theorem okEndpoints_append (entries later : List CheckEntry) :
    okEndpoints (entries ++ later) = okEndpoints entries ++ okEndpoints later := by
  rw [okEndpoints, List.filter_append, List.filterMap_append]
  rfl

theorem mem_okEndpoints_iff : e ∈ okEndpoints entries ↔ ∃ entry ∈ entries, entry.ok = true ∧ entry.endpoint = some e := by
  simp only [okEndpoints, List.mem_filterMap, List.mem_filter, and_assoc]

theorem exists_endpoint_of_ok (h : entry.ok = true) : ∃ e, entry.endpoint = some e := by
  rw [CheckEntry.ok, Bool.and_eq_true, Bool.and_eq_true] at h
  exact Option.isSome_iff_exists.1 h.1.1

theorem not_ok_taken (source name : String) (e : Endpoint) (err : RegisterError) :
    (⟨source, name, some e, [], err.message⟩ : CheckEntry).ok = false := by
  simpa [CheckEntry.ok] using message_ne_empty err

/-- The name of an entry is that of its endpoint. -/
theorem name_of_reportsAfter (h : entry.ReportsAfter config earlier item) (he : entry.endpoint = some e) :
    entry.name = e.metadata.name := by
  cases h with
  | unusable | refused => cases he
  | taken hcompile | joined hcompile =>
    cases he
    rw [(Endpoint.given_of_compile hcompile).1]

/-- With an endpoint there is nothing wrong just if none that came before conflicts with it. -/
theorem ok_iff_of_reportsAfter (h : entry.ReportsAfter config earlier item) (he : entry.endpoint = some e) :
    entry.ok = true ↔ ∀ other ∈ okEndpoints earlier, ¬other.Conflicts e := by
  cases h with
  | unusable | refused => cases he
  | taken hcompile hadmits =>
    cases he
    rw [not_ok_taken, ← hadmits.eq_none_iff]
    simp
  | joined hcompile hadmits =>
    cases he
    exact iff_of_true rfl (hadmits.eq_none_iff.1 rfl)

/-- Each of the reported entries is one after those before it. -/
theorem Reported.reportsAfter (h : Reported config items entries) {before after : List CheckEntry}
    (hsplit : entries = before ++ entry :: after) : ∃ item, entry.ReportsAfter config before item := by
  induction h generalizing after with
  | nil => simp at hsplit
  | @snoc items entries item last _ hlast ih =>
    rcases List.eq_nil_or_concat after with rfl | ⟨after, x, rfl⟩
    · obtain ⟨rfl, hsame⟩ := List.append_inj' hsplit rfl
      cases hsame
      exact ⟨_, hlast⟩
    · have hinner : entries ++ [last] = (before ++ entry :: after) ++ [x] := by simpa using hsplit
      exact ih (List.append_inj' hinner rfl).1

/-- An entry with an endpoint is fine just if no entry before it is that has the same name, or an endpoint with the same method
and path. -/
theorem Reported.ok_iff (h : Reported config items entries) {before after : List CheckEntry}
    (hsplit : entries = before ++ entry :: after) (he : entry.endpoint = some e) :
    entry.ok = true ↔ ∀ other ∈ before, other.ok = true → other.name ≠ entry.name ∧
      ∀ e', other.endpoint = some e' → ¬(e'.metadata.method = e.metadata.method ∧ e'.metadata.path = e.metadata.path) := by
  obtain ⟨item, hentry⟩ := h.reportsAfter hsplit
  rw [ok_iff_of_reportsAfter hentry he, name_of_reportsAfter hentry he]
  -- An earlier entry has the name of its endpoint too, for it is after those before it.
  have hname : ∀ other ∈ before, ∀ e', other.endpoint = some e' → other.name = e'.metadata.name := by
    intro other hother e' he'
    obtain ⟨first, second, rfl⟩ := List.append_of_mem hother
    have hfirst : entries = first ++ other :: (second ++ entry :: after) := by simpa using hsplit
    obtain ⟨_, hreport⟩ := h.reportsAfter hfirst
    exact name_of_reportsAfter hreport he'
  constructor
  · intro hfree other hother hok
    obtain ⟨e', he'⟩ := exists_endpoint_of_ok hok
    have hclear := not_or.1 (hfree e' (mem_okEndpoints_iff.2 ⟨other, hother, hok, he'⟩))
    refine ⟨hname other hother e' he' ▸ hclear.1, fun e'' he'' => ?_⟩
    obtain rfl : e'' = e' := Option.some.inj (he''.symm.trans he')
    exact hclear.2
  · intro hfree e' he'
    obtain ⟨other, hother, hok, hendpoint⟩ := mem_okEndpoints_iff.1 he'
    obtain ⟨hne, hroute⟩ := hfree other hother hok
    rw [hname other hother e' hendpoint] at hne
    exact not_or.2 ⟨hne, hroute e' hendpoint⟩

/-! ## Steps of a check -/

/-- What holds after every step of a check: the items so far have their entries, and the catalog holds the endpoints of those
with nothing wrong. -/
structure Accounted (config : Config) (items : List CheckItem) (entries : List CheckEntry) (catalog : Catalog) : Prop where
  reported : Reported config items entries
  held : catalog.Holds (okEndpoints entries)

theorem accounted_of_description (h : Accounted config items earlier catalog)
    (hd : description config source catalog d = .ok (entry, catalog')) :
    Accounted config (items ++ [.description source d]) (earlier ++ [entry]) catalog' := by
  have hok (entry : CheckEntry) : okEndpoints (earlier ++ [entry]) = okEndpoints earlier ++ okEndpoints [entry] :=
    okEndpoints_append earlier [entry]
  unfold description at hd
  split at hd
  · rename_i report hcompile
    cases hd
    refine ⟨.snoc h.reported (.refused hcompile), ?_⟩
    rw [hok]
    simpa [okEndpoints, CheckEntry.ok] using h.held
  · cases hd
  · rename_i e hcompile
    rcases h.held.register e with ⟨err, herr, hadmits⟩ | ⟨c, hc, hadmits, hheld⟩
    · rw [herr] at hd
      cases hd
      refine ⟨.snoc h.reported (.taken hcompile hadmits), ?_⟩
      rw [hok]
      simpa [okEndpoints, not_ok_taken] using h.held
    · rw [hc] at hd
      cases hd
      refine ⟨.snoc h.reported (.joined hcompile hadmits), ?_⟩
      rw [hok]
      exact hheld

theorem accounted_of_descriptions (h : Accounted config items earlier catalog)
    (hds : descriptions config source catalog ds = .ok (entries, catalog')) :
    Accounted config (items ++ ds.map (.description source)) (earlier ++ entries) catalog' := by
  induction ds generalizing items earlier catalog entries with
  | nil =>
    cases hds
    simpa using h
  | cons d ds ih =>
    obtain ⟨⟨entry, next⟩, hfirst, hds⟩ := Outcome.bind_eq_ok_iff.1 hds
    obtain ⟨⟨later, last⟩, hrest, hds⟩ := Outcome.bind_eq_ok_iff.1 hds
    cases hds
    have hlast := ih (accounted_of_description h hfirst) hrest
    rwa [List.append_assoc, List.append_assoc] at hlast

theorem accounted_of_file (h : Accounted config items earlier catalog)
    (hfile : file tree config catalog source = .ok (entries, catalog')) :
    Accounted config (items ++ itemsOf tree source) (earlier ++ entries) catalog' := by
  unfold file at hfile
  unfold itemsOf
  cases hload : load tree source source with
  | ok ds =>
    rw [hload] at hfile
    exact accounted_of_descriptions h hfile
  | error stop =>
    rw [hload] at hfile
    cases stop with
    | unusable err =>
      cases hfile
      refine ⟨.snoc h.reported .unusable, ?_⟩
      rw [okEndpoints_append]
      simpa [okEndpoints, CheckEntry.ok] using h.held
    | beyondLimit | notUtf8 => cases hfile

theorem accounted_of_files (h : Accounted config items earlier catalog)
    (hfiles : files tree config catalog sources = .ok (entries, catalog')) :
    Accounted config (items ++ sources.flatMap (itemsOf tree)) (earlier ++ entries) catalog' := by
  induction sources generalizing items earlier catalog entries with
  | nil =>
    cases hfiles
    simpa using h
  | cons source sources ih =>
    obtain ⟨⟨first, next⟩, hfirst, hfiles⟩ := Outcome.bind_eq_ok_iff.1 hfiles
    obtain ⟨⟨later, last⟩, hrest, hfiles⟩ := Outcome.bind_eq_ok_iff.1 hfiles
    cases hfiles
    have hlast := ih (accounted_of_file h hfirst) hrest
    rwa [List.append_assoc, List.append_assoc] at hlast

/-! ## A whole check -/

/-- A result is the account of the files that were found. -/
theorem accounted_of_run {r : CheckResult} (h : run tree config paths = .ok r) :
    ∃ sources, tree.expand paths = .ok sources ∧ r.filesScanned = sources.length ∧
      (∀ source ∈ sources, SurvivesFile tree config source) ∧
      Accounted config (sources.flatMap (itemsOf tree)) r.entries r.catalog := by
  obtain ⟨sources, hsources, h⟩ := Outcome.bind_eq_ok_iff.1 h
  obtain ⟨⟨entries, catalog⟩, hfiles, h⟩ := Outcome.bind_eq_ok_iff.1 h
  cases h
  refine ⟨sources, Outcome.mapError_eq_ok_iff.1 hsources, rfl, (exists_files_iff Catalog.empty).1 ⟨_, hfiles⟩, ?_⟩
  exact accounted_of_files ⟨.nil, Catalog.holds_empty⟩ hfiles

theorem result_ok_iff (r : CheckResult) : r.ok = true ↔ ∀ entry ∈ r.entries, entry.ok = true := by
  simp [CheckResult.ok, CheckResult.failed]

/-- A check reports what is there, and nothing else. Every file that was found has one entry if it is unusable, and otherwise
one for each description in it, in this order. A description that does not compile has its issues; one that does is fine just
if no entry before it is that has the same name, or an endpoint with the same method and path, and otherwise has the error of
the catalog. The catalog holds the endpoints of the entries with nothing wrong, and a result is fine if all its entries are. -/
theorem run_reports_all {r : CheckResult} (h : run tree config paths = .ok r) :
    ∃ sources, tree.expand paths = .ok sources ∧ r.filesScanned = sources.length ∧
      (∀ source ∈ sources,
        (∃ err, load tree source source = .error (.unusable err)) ∨ ∃ ds, load tree source source = .ok ds) ∧
      Reported config (sources.flatMap (itemsOf tree)) r.entries ∧
      (∀ before entry after e, r.entries = before ++ entry :: after → entry.endpoint = some e →
        (entry.ok = true ↔ ∀ other ∈ before, other.ok = true → other.name ≠ entry.name ∧
          ∀ e', other.endpoint = some e' →
            ¬(e'.metadata.method = e.metadata.method ∧ e'.metadata.path = e.metadata.path))) ∧
      r.catalog.Holds (okEndpoints r.entries) ∧
      (r.ok = true ↔ ∀ entry ∈ r.entries, entry.ok = true) := by
  obtain ⟨sources, hsources, hscanned, hsurvives, hreported, hheld⟩ := accounted_of_run h
  refine ⟨sources, hsources, hscanned, fun source hsource => ?_, hreported, ?_, hheld, result_ok_iff r⟩
  · rcases survivesFile_iff.1 (hsurvives source hsource) with herr | ⟨ds, hload, _⟩
    · exact Or.inl herr
    · exact Or.inr ⟨ds, hload⟩
  · intro before entry after e hsplit he
    exact hreported.ok_iff hsplit he

/-! ## A file of three descriptions -/

/-- A tree of one file. -/
def oneFile (data : List UInt8) : FileTree := ⟨"", .directory [("f", .file data)]⟩

theorem expand_oneFile (data : List UInt8) : (oneFile data).expand ["/f"] = .ok ["/f"] := by
  have hnode : (oneFile data).node "/f" = .ok (.file data) := by rfl
  have hresolve : (oneFile data).resolve "/f" = "/f" := by rfl
  simp only [FileTree.expand, List.mapM_cons, FileTree.filesOf, FileTree.node?, hnode, hresolve]
  rfl

/-- The check of the only file of a tree is that of the tree. -/
theorem run_oneFile {data : List UInt8} (h : file (oneFile data) config Catalog.empty "/f" = .ok (entries, catalog)) :
    run (oneFile data) config ["/f"] = .ok ⟨1, entries, catalog⟩ := by
  have hfiles : files (oneFile data) config Catalog.empty ["/f"] = .ok (entries, catalog) := by
    simp [files, h, bind, Except.bind]
  exact Outcome.bind_eq_ok_iff.2 ⟨_, Outcome.mapError_eq_ok_iff.2 (expand_oneFile data),
    Outcome.bind_eq_ok_iff.2 ⟨_, hfiles, rfl⟩⟩

/-- Three descriptions: the second has the route of the first, and the path of the third does not start with a slash. -/
def mixedText : String :=
  "[\x7b\"metadata\":\x7b\"method\":\"GET\",\"name\":\"a\",\"path\":\"/x\"\x7d\x7d," ++
  "\x7b\"metadata\":\x7b\"method\":\"GET\",\"name\":\"b\",\"path\":\"/x\"\x7d\x7d," ++
  "\x7b\"metadata\":\x7b\"method\":\"GET\",\"name\":\"c\",\"path\":\"x\"\x7d\x7d]"

/-- A description without fields. -/
def bareRoute (name path : String) : Description := ⟨⟨.get, name, "", path, false, false⟩, [], []⟩

/-- The value of a description without fields. -/
def bareValue (name path : String) : Value :=
  .object [("metadata", .object [("method", .text "GET"), ("name", .text name), ("path", .text path)])]

/-- The endpoint without fields at `/x`. -/
def bareEndpoint (name : String) : Endpoint :=
  .fitted (bareRoute name "/x").metadata ⟨⟨"request", []⟩, ⟨"response", []⟩, ⟨"/x", [.literal "x"]⟩⟩ .default

theorem holdsValue_mixed : HoldsValue (oneFile (Text.utf8 mixedText)) "/f"
    (.array [bareValue "a" "/x", bareValue "b" "/x", bareValue "c" "x"]) := by
  have hvalue (levels : Nat) : Document.value (levels + 4) mixedText.toList =
      .ok (.array [bareValue "a" "/x", bareValue "b" "/x", bareValue "c" "x"], []) := by cbv
  exact holdsValue_of_value rfl (by decide +kernel) (hvalue 986)

/-- What a check finds in the file. -/
def mixedResult : CheckResult :=
  ⟨1, [⟨"/f", "a", some (bareEndpoint "a"), [], ""⟩,
      ⟨"/f", "b", some (bareEndpoint "b"), [], "route GET /x already registered by a"⟩,
      ⟨"/f", "c", none, [⟨.unrootedPath "x", []⟩], ""⟩],
    ⟨[("a", bareEndpoint "a")], [("GET /x", bareEndpoint "a")]⟩⟩

theorem run_mixed : run (oneFile (Text.utf8 mixedText)) .default ["/f"] = .ok mixedResult := by
  have hlist : Description.listOfValue (.array [bareValue "a" "/x", bareValue "b" "/x", bareValue "c" "x"]) (some "/f") =
      .ok [bareRoute "a" "/x", bareRoute "b" "/x", bareRoute "c" "x"] := by rfl
  have hload := (load_of_holdsValue holdsValue_mixed).trans (Outcome.mapError_eq_ok_iff.2 hlist)
  have hfirst : Endpoint.compile (bareRoute "a" "/x") .default = .ok (bareEndpoint "a") := by rfl
  have hsecond : Endpoint.compile (bareRoute "b" "/x") .default = .ok (bareEndpoint "b") := by rfl
  have hthird : Endpoint.compile (bareRoute "c" "x") .default = .error (.schema ⟨"c", [⟨.unrootedPath "x", []⟩]⟩) := by rfl
  have hdescriptions : descriptions .default "/f" Catalog.empty [bareRoute "a" "/x", bareRoute "b" "/x", bareRoute "c" "x"] =
      .ok (mixedResult.entries, mixedResult.catalog) := by
    simp only [descriptions, description, hfirst, hsecond, hthird]
    rfl
  refine run_oneFile ?_
  rw [file, hload]
  exact hdescriptions

/-- Of the three descriptions the catalog holds the first, and the result is not fine. -/
theorem reports_mixed :
    run (oneFile (Text.utf8 mixedText)) .default ["/f"] = .ok mixedResult ∧
      mixedResult.catalog.Holds [bareEndpoint "a"] ∧ mixedResult.ok = false := by
  obtain ⟨_, _, _, _, _, _, hheld, hok⟩ := run_reports_all run_mixed
  refine ⟨run_mixed, hheld, ?_⟩
  rw [← Bool.not_eq_true, hok]
  decide

end Check

end HttpContract

import HttpContract.Proofs.Files.Relisted

/-!
# Scans of file trees

A scan gives the resolved paths of the description files under its root, each of them once and in one order, whatever the
order in which the file system lists entries. Several paths stand for what they are or for what their scans give, one after
the other, and what was there before is left out; as every path is resolved, no file comes twice. Main statement:
`scan_lists_descriptions`.
-/

namespace HttpContract

/-- A list without what was there before: an item that is new stays, and one that is not is left out. -/
inductive FirstsOf {α : Type} : List α → List α → Prop
  | nil : FirstsOf [] []
  | new {xs firsts : List α} {x : α} : FirstsOf xs firsts → x ∉ xs → FirstsOf (xs ++ [x]) (firsts ++ [x])
  | again {xs firsts : List α} {x : α} : FirstsOf xs firsts → x ∈ xs → FirstsOf (xs ++ [x]) firsts

namespace FirstsOf

variable {α : Type} {xs firsts : List α} {x : α}

theorem mem_iff (h : FirstsOf xs firsts) : x ∈ firsts ↔ x ∈ xs := by
  induction h with
  | nil => rfl
  | new _ _ ih => rw [List.mem_append, List.mem_append, ih]
  | again _ hx ih =>
    rw [ih, List.mem_append, List.mem_singleton, or_iff_left_of_imp]
    rintro rfl
    exact hx

theorem nodup (h : FirstsOf xs firsts) : firsts.Nodup := by
  induction h with
  | nil => exact List.nodup_nil
  | new hfirsts hx ih =>
    refine ih.append (List.nodup_singleton _) ?_
    rw [List.disjoint_singleton, hfirsts.mem_iff]
    exact hx
  | again _ _ ih => exact ih

theorem eraseDups [BEq α] [LawfulBEq α] (xs : List α) : FirstsOf xs xs.eraseDups := by
  induction xs using List.reverseRecOn with
  | nil => exact .nil
  | append_singleton xs x ih =>
    rw [List.eraseDups_append]
    by_cases hx : x ∈ xs
    · have hnone : [x].removeAll xs = [] := by simp [List.removeAll, hx]
      rw [hnone, List.eraseDups_nil, List.append_nil]
      exact .again ih hx
    · have hone : [x].removeAll xs = [x] := by simp [List.removeAll, hx]
      rw [hone]
      exact .new ih hx

end FirstsOf

namespace FileTree

open Node (IsName ListedBefore)

variable {t : FileTree} {path : String} {node : Node} {steps files : List String}

/-! ## One root -/

theorem hasNull_of_node (hnode : t.node path = .ok node) : hasNull path = false := by
  unfold FileTree.node at hnode
  split at hnode
  · cases hnode
  · rename_i hnull
    exact Bool.eq_false_iff.2 hnull

/-- What a search below a path finds has a place in the tree, and the path that goes on to it is resolved to the path of the
place. -/
theorem place_of_mem_found (h : t.top.Proper) (hnode : t.node path = .ok node) (hsteps : steps ∈ node.found []) :
    ∃ start, t.stepsTo? path = some start ∧ (∀ step ∈ resolveSteps start ++ steps, IsName step) ∧
      (∃ data, t.top.at? (resolveSteps start ++ steps) = some (.file data)) ∧
      t.resolve (pathBelow path steps) = t.pathOf (resolveSteps start ++ steps) := by
  have hdescription := (Node.mem_found_iff (proper_of_node h hnode)).1 hsteps
  obtain ⟨_, _, _, ⟨data, hdata⟩, _⟩ := hdescription
  have hinside : node ≠ .directory [] := by
    rintro rfl
    simp [Node.found_directory_nil, Node.taken, Node.entered, sortByName] at hsteps
  cases hstart : t.stepsTo? path with
  | none => exact absurd (eq_of_node_of_none hstart hnode) hinside
  | some start =>
    have hroot := (at?_of_node hstart hnode).resolve_right hinside
    have hfile : t.top.at? (resolveSteps start ++ steps) = some (.file data) := by
      rw [Node.at?_append, hroot]
      exact hdata
    have hnames := (h.of_at? hfile).1
    refine ⟨start, rfl, hnames, ⟨data, hfile⟩, resolve_pathBelow hstart ?_⟩
    exact fun step hstep => hnames step (List.mem_append_right _ hstep)

/-- A scan gives the resolved paths of what a search finds below its root. -/
theorem scan_eq_map (h : t.top.Proper) (hnode : t.node path = .ok node) :
    t.scan path none = .ok ((node.found []).map fun steps => t.resolve (pathBelow path steps)) := by
  rw [scan, hasNull_of_node hnode, if_neg Bool.false_ne_true]
  refine congrArg Except.ok ?_
  unfold filesUnder
  rw [hnode]
  cases hstart : t.stepsTo? path with
  | none =>
    obtain rfl := eq_of_node_of_none hstart hnode
    simp [Node.found_directory_nil, Node.taken, Node.entered, sortByName]
  | some start =>
    show (node.found (resolveSteps start)).map t.pathOf = _
    rw [Node.found_eq_map, List.map_map]
    refine List.map_congr_left fun steps hsteps => ?_
    obtain ⟨start', hstart', _, _, hresolved⟩ := place_of_mem_found h hnode hsteps
    rw [hstart, Option.some.injEq] at hstart'
    rw [hresolved, ← hstart']
    rfl

/-- No path is given twice by a scan. -/
theorem nodup_scan (h : t.top.Proper) (hnode : t.node path = .ok node) :
    ((node.found []).map fun steps => t.resolve (pathBelow path steps)).Nodup := by
  have hproper := proper_of_node h hnode
  refine (Node.nodup_of_pairwise (Node.pairwise_found hproper)).map_on fun steps hsteps steps' hsteps' hsame => ?_
  obtain ⟨start, hstart, hnames, _, hresolved⟩ := place_of_mem_found h hnode hsteps
  obtain ⟨start', hstart', hnames', _, hresolved'⟩ := place_of_mem_found h hnode hsteps'
  rw [hstart, Option.some.injEq] at hstart'
  subst hstart'
  rw [hresolved, hresolved'] at hsame
  have hne : ∀ steps ∈ node.found [], resolveSteps start ++ steps ≠ [] := by
    intro steps hsteps hnil
    obtain ⟨_, rfl⟩ := List.append_eq_nil_iff.1 hnil
    exact Node.not_hasDescription_nil ((Node.mem_found_iff hproper).1 hsteps)
  exact List.append_cancel_left (pathOf_inj (hne _ hsteps) (hne _ hsteps') hnames hnames' hsame)

/-! ## Several paths -/

/-- The files that a path stands for: those that its scan gives if it leads to a directory, and itself if it leads to a
file. -/
inductive StandsFor (t : FileTree) (path : String) : List String → Prop
  | directory {entries : List (String × Node)} {files : List String} : t.node path = .ok (.directory entries) →
      t.scan path none = .ok files → StandsFor t path files
  | file {data : List UInt8} : t.node path = .ok (.file data) → StandsFor t path [t.resolve path]

/-- A path of a file at a place of the tree. -/
def IsPlaceOf (t : FileTree) (path : String) (place : List String) : Prop :=
  t.pathOf place = path ∧ ∃ data, t.top.at? place = some (.file data)

/-- Whatever a path leads to, it stands for files at places of the tree. -/
theorem exists_standsFor (h : t.top.Proper) (hnode : t.node path = .ok node) :
    ∃ files, t.filesOf path = .ok files ∧ t.StandsFor path files ∧ ∀ file ∈ files, ∃ place, t.IsPlaceOf file place := by
  have hlookup : t.node? path = .ok (some node) := by rw [node?, hnode]
  cases node with
  | directory entries =>
    have hscan := scan_eq_map h hnode
    refine ⟨_, ?_, .directory hnode hscan, fun file hfile => ?_⟩
    · rw [filesOf, hlookup]
      exact hscan
    · obtain ⟨steps, hsteps, rfl⟩ := List.mem_map.1 hfile
      obtain ⟨start, _, _, hdata, hresolved⟩ := place_of_mem_found h hnode hsteps
      exact ⟨_, hresolved.symm, hdata⟩
  | file data =>
    refine ⟨_, ?_, .file hnode, fun file hfile => ?_⟩
    · rw [filesOf, hlookup]
      exact if_neg (Bool.eq_false_iff.1 (hasNull_of_node hnode))
    · rw [List.mem_singleton] at hfile
      subst hfile
      cases hstart : t.stepsTo? path with
      | none => cases eq_of_node_of_none hstart hnode
      | some start =>
        have hroot := (at?_of_node hstart hnode).resolve_right nofun
        refine ⟨resolveSteps start, ?_, data, hroot⟩
        rw [resolve, hstart]

/-- Paths that lead to files and directories stand for the first occurrences of what each of them stands for, and for no file
twice. -/
theorem exists_expand (h : t.top.Proper) {paths : List String} (hpaths : ∀ path ∈ paths, ∃ node, t.node path = .ok node) :
    ∃ found sources, t.expand paths = .ok sources ∧ List.Forall₂ t.StandsFor paths found ∧
      FirstsOf found.flatten sources ∧ ∃ places, List.Forall₂ t.IsPlaceOf sources places ∧ places.Nodup := by
  have hall : ∀ path ∈ paths, ∃ files, t.filesOf path = .ok files ∧ t.StandsFor path files ∧
      ∀ file ∈ files, ∃ place, t.IsPlaceOf file place := by
    intro path hpath
    obtain ⟨node, hnode⟩ := hpaths path hpath
    exact exists_standsFor h hnode
  obtain ⟨found, hfound⟩ := Outcome.exists_forall₂ hall
  have hfirsts := FirstsOf.eraseDups found.flatten
  have hplaces : ∀ source ∈ found.flatten.eraseDups, ∃ place, t.IsPlaceOf source place := by
    intro source hsource
    obtain ⟨files, hfiles, hsource⟩ := List.mem_flatten.1 (hfirsts.mem_iff.1 hsource)
    obtain ⟨path, _, _, _, hplace⟩ := Outcome.exists_of_forall₂ hfound.flip hfiles
    exact hplace source hsource
  obtain ⟨places, hplaces⟩ := Outcome.exists_forall₂ hplaces
  have hexpand : t.expand paths = .ok found.flatten.eraseDups :=
    Outcome.map_eq_ok_iff.2 ⟨found, Outcome.mapM_eq_ok_iff.2 (hfound.imp fun _ _ h => h.1), rfl⟩
  have hsources : found.flatten.eraseDups = places.map t.pathOf := by
    rw [← List.forall₂_eq_eq_eq, List.forall₂_map_right_iff]
    exact hplaces.imp fun _ _ h => h.1.symm
  refine ⟨found, _, hexpand, hfound.imp fun _ _ h => h.2.1, hfirsts, places, hplaces, ?_⟩
  exact List.Nodup.of_map _ (hsources ▸ hfirsts.nodup)

/-- A scan of a proper tree. It lists the resolved paths of exactly the description files under its root, each of them once, in
every directory the files first, by name, and then what is in the directories that are entered, by name. In whatever order
directories list their entries, it gives the same. Several paths that lead to files and directories stand for what is given by
their scans, and for the files among them, one after the other, without what was there before, and no place of the tree comes
twice. -/
theorem scan_lists_descriptions (h : t.top.Proper) :
    (∀ path node, t.node path = .ok node → ∃ listed : List (List String),
      t.scan path none = .ok (listed.map fun steps => t.resolve (pathBelow path steps)) ∧
      (listed.map fun steps => t.resolve (pathBelow path steps)).Nodup ∧
      (∀ steps, steps ∈ listed ↔ node.HasDescription steps) ∧ listed.Pairwise ListedBefore) ∧
    (∀ other : FileTree, other.base = t.base → t.top.Relisted other.top →
      ∀ path, other.scan path none = t.scan path none) ∧
    ∀ paths, (∀ path ∈ paths, ∃ node, t.node path = .ok node) → ∃ found sources, t.expand paths = .ok sources ∧
      List.Forall₂ t.StandsFor paths found ∧ FirstsOf found.flatten sources ∧ sources.Nodup ∧
      ∃ places, List.Forall₂ t.IsPlaceOf sources places ∧ places.Nodup := by
  refine ⟨fun path node hnode => ?_, fun other hbase hrelisted path => scan_relisted hbase h hrelisted path,
    fun paths hpaths => ?_⟩
  · have hproper := proper_of_node h hnode
    exact ⟨node.found [], scan_eq_map h hnode, nodup_scan h hnode, fun steps => Node.mem_found_iff hproper,
      Node.pairwise_found hproper⟩
  · obtain ⟨found, sources, hexpand, hstands, hfirsts, hplaces⟩ := exists_expand h hpaths
    exact ⟨found, sources, hexpand, hstands, hfirsts, hfirsts.nodup, hplaces⟩

/-- A tree with a directory of an ignored name, and below it one to enter, one of an ignored name and a file of an ignored
name. -/
def workspace : FileTree :=
  ⟨"/t", .directory [("build", .directory [
    ("nested", .directory [("b.endpoint.json", .file []), ("~b.endpoint.json", .file [])]),
    ("node_modules", .directory [("c.endpoint.json", .file [])]), ("a.endpoint.json", .file [])])]⟩

/-- The tree with the entries below the directory of an ignored name the other way round. -/
def workspaceRelisted : FileTree :=
  ⟨"/t", .directory [("build", .directory [
    ("a.endpoint.json", .file []), ("node_modules", .directory [("c.endpoint.json", .file [])]),
    ("nested", .directory [("b.endpoint.json", .file []), ("~b.endpoint.json", .file [])])])]⟩

theorem proper_workspace : workspace.top.Proper := by
  simp [workspace, Node.proper_directory_iff, Node.isName_iff, Node.Proper.file]

theorem relisted_workspace : workspace.top.Relisted workspaceRelisted.top :=
  @Node.Relisted.within [] [] _ _ _ (.shuffled (List.reverse_perm _).symm)

/-- Scans of a root of an ignored name, in two listings, and paths that overlap. -/
theorem scan_lists_workspace :
    workspace.top.Proper ∧
      (∃ (node : Node) (listed : List (List String)), workspace.node "/t/build" = .ok node ∧
        (∀ steps, steps ∈ listed ↔ node.HasDescription steps) ∧
        listed.map (fun steps => workspace.resolve (pathBelow "/t/build" steps)) =
          ["/t/build/a.endpoint.json", "/t/build/nested/b.endpoint.json"]) ∧
      workspace.top.Relisted workspaceRelisted.top ∧
      workspaceRelisted.scan "/t/build" none = workspace.scan "/t/build" none ∧
      ∃ found, List.Forall₂ workspace.StandsFor ["/t/build/nested/b.endpoint.json", "/t/build"] found ∧
        FirstsOf found.flatten ["/t/build/nested/b.endpoint.json", "/t/build/a.endpoint.json"] := by
  obtain ⟨hscan, hrelisted, hexpand⟩ := scan_lists_descriptions proper_workspace
  have hpaths : ∀ path ∈ ["/t/build/nested/b.endpoint.json", "/t/build"], ∃ node, workspace.node path = .ok node := by
    simp only [List.forall_mem_cons]
    exact ⟨⟨_, rfl⟩, ⟨_, rfl⟩, nofun⟩
  obtain ⟨listed, hlisted, _, hmem, _⟩ := hscan "/t/build" _ rfl
  obtain ⟨found, sources, hsources, hstands, hfirsts, _⟩ := hexpand _ hpaths
  have hscanned : workspace.scan "/t/build" none = .ok ["/t/build/a.endpoint.json", "/t/build/nested/b.endpoint.json"] := by
    decide +kernel
  have hexpanded : workspace.expand ["/t/build/nested/b.endpoint.json", "/t/build"] =
      .ok ["/t/build/nested/b.endpoint.json", "/t/build/a.endpoint.json"] := by
    decide +kernel
  rw [hscanned, Except.ok.injEq] at hlisted
  rw [hexpanded, Except.ok.injEq] at hsources
  exact ⟨proper_workspace, ⟨_, listed, rfl, hmem, hlisted.symm⟩, relisted_workspace,
    hrelisted workspaceRelisted rfl relisted_workspace "/t/build", found, hstands, hsources ▸ hfirsts⟩

end FileTree

end HttpContract

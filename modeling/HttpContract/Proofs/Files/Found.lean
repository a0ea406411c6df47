import HttpContract.Files.Scan
import HttpContract.Proofs.Json.Members
import Mathlib.Data.List.Pairwise
import Mathlib.Data.String.Basic

/-!
# What a search of a directory finds

A search of a directory gives the steps to the description files below it (`Node.HasDescription`), in one order: files before
directories, each by name, at every depth (`ListedBefore`). Both together leave one list only, so that the order in which a
directory lists its entries cannot show.
-/

namespace HttpContract

/-! ## Pairs by name -/

section SortByName

variable {α β : Type} {pairs : List (String × α)}

theorem mem_sortByName {pair : String × α} : pair ∈ sortByName pairs ↔ pair ∈ pairs :=
  List.mem_mergeSort

/-- What is done to each of the pairs can be done before or after they are in order. -/
theorem sortByName_map (f : String × α → β) :
    sortByName (pairs.map fun e => (e.1, f e)) = (sortByName pairs).map fun e => (e.1, f e) := by
  rw [sortByName, sortByName, List.map_mergeSort]
  exact fun _ _ _ _ => rfl

/-- Pairs whose names are given once go strictly up by name. -/
theorem pairwise_sortByName (hn : (pairs.map (·.1)).Nodup) : (sortByName pairs).Pairwise fun e e' => e.1 < e'.1 := by
  have hle : (sortByName pairs).Pairwise fun e e' => e.1 ≤ e'.1 := by
    refine (List.pairwise_mergeSort ?_ ?_ pairs).imp fun h => of_decide_eq_true h
    · intro a b c hab hbc
      exact decide_eq_true ((of_decide_eq_true hab).trans (of_decide_eq_true hbc))
    · intro a b
      simpa using le_total a.1 b.1
  have hne : (sortByName pairs).Pairwise fun e e' => e.1 ≠ e'.1 := by
    rw [← List.pairwise_map]
    exact ((List.mergeSort_perm pairs _).map _).nodup_iff.2 hn
  exact (hle.and hne).imp fun h => lt_of_le_of_ne h.1 h.2

end SortByName

namespace Node

variable {entries : List (String × Node)} {node : Node} {path steps : List String} {name : String}

/-- What holds of every file, and of a directory if it holds of its entries, holds of every node. -/
@[elab_as_elim]
theorem induct {motive : Node → Prop} (file : ∀ data, motive (file data))
    (directory : ∀ entries, (∀ e ∈ entries, motive e.2) → motive (directory entries)) (node : Node) : motive node :=
  match node with
  | .file data => file data
  | .directory entries => directory entries fun e _ => induct file directory e.2
termination_by node
decreasing_by
  rename_i he
  have hlist := List.sizeOf_lt_of_mem he
  have hpair : sizeOf e = 1 + sizeOf e.1 + sizeOf e.2 := rfl
  simp_wf
  omega

/-! ## Searches one level at a time -/

/-- The entries of a directory that are description files. -/
def taken (entries : List (String × Node)) : List (String × Node) :=
  entries.filter fun e => !e.2.isDirectory && takesFile e.1

/-- The entries of a directory that a search enters. -/
def entered (entries : List (String × Node)) : List (String × Node) :=
  entries.filter fun e => e.2.isDirectory && !ignoresDirectory e.1

theorem foundBelow_eq (path : List String) (entries : List (String × Node)) :
    foundBelow path entries = (entered entries).map fun e => (e.1, found (path ++ [e.1]) e.2) := by
  induction entries with
  | nil => rfl
  | cons e rest ih =>
    obtain ⟨name, node⟩ := e
    rw [foundBelow, entered, List.filter_cons]
    split
    · rw [List.map_cons, ih, entered]
    · rw [ih, entered]

theorem searches_eq (path : List String) (entries : List (String × Node)) :
    searches path entries = (entered entries).map fun e => (e.1, foundUpTo (path ++ [e.1]) e.2) := by
  induction entries with
  | nil => rfl
  | cons e rest ih =>
    obtain ⟨name, node⟩ := e
    rw [searches, entered, List.filter_cons]
    split
    · rw [List.map_cons, ih, entered]
    · rw [ih, entered]

/-- In a directory the description files come first, by name, and then, by name, the directories that are entered. -/
theorem found_directory (path : List String) (entries : List (String × Node)) :
    found path (directory entries) =
      (sortByName (taken entries)).map (fun e => path ++ [e.1]) ++
        (sortByName (entered entries)).flatMap fun e => found (path ++ [e.1]) e.2 := by
  rw [found, foundBelow_eq, sortByName_map, List.flatMap_map]
  rfl

/-- The steps before a search stand before all that it finds. -/
theorem found_eq_map (node : Node) (path : List String) : node.found path = (node.found []).map (path ++ ·) := by
  induction node using Node.induct generalizing path with
  | file data => rfl
  | directory entries ih =>
    have hbelow : ∀ e ∈ sortByName (entered entries),
        found (path ++ [e.1]) e.2 = (found ([] ++ [e.1]) e.2).map (path ++ ·) := by
      intro e he
      have hmem : e ∈ entries := List.mem_of_mem_filter (mem_sortByName.1 he)
      rw [ih e hmem (path ++ [e.1]), ih e hmem ([] ++ [e.1]), List.map_map]
      exact List.map_congr_left fun steps _ => by simp
    rw [found_directory, found_directory, List.map_append, List.map_map, List.map_flatMap]
    congr 1
    exact List.flatMap_congr hbelow

theorem found_directory_nil (entries : List (String × Node)) :
    found [] (directory entries) =
      (sortByName (taken entries)).map (fun e => [e.1]) ++
        (sortByName (entered entries)).flatMap fun e => (found [] e.2).map (e.1 :: ·) := by
  rw [found_directory]
  congr 1
  exact List.flatMap_congr fun e _ => found_eq_map e.2 [e.1]

/-! ## What is found -/

/-- A name of an entry of a directory: it is not empty, goes neither nowhere nor back, and is one step. -/
@[mk_iff]
structure IsName (name : String) : Prop where
  ne_empty : name ≠ ""
  ne_dot : name ≠ "."
  ne_back : name ≠ ".."
  single : '/' ∉ name.toList

/-- A tree as there may be one: no directory gives a name to two entries, or to one what is no name. -/
inductive Proper : Node → Prop
  | file (data : List UInt8) : Proper (file data)
  | directory {entries : List (String × Node)} : (entries.map (·.1)).Nodup → (∀ e ∈ entries, IsName e.1) →
      (∀ e ∈ entries, Proper e.2) → Proper (directory entries)

theorem proper_directory_iff : (directory entries).Proper ↔
    (entries.map (·.1)).Nodup ∧ (∀ e ∈ entries, IsName e.1) ∧ ∀ e ∈ entries, e.2.Proper := by
  constructor
  · rintro (_ | ⟨hnodup, hnames, hproper⟩)
    exact ⟨hnodup, hnames, hproper⟩
  · rintro ⟨hnodup, hnames, hproper⟩
    exact .directory hnodup hnames hproper

/-- The node at the end of names below a node. -/
def at? : Node → List String → Option Node
  | node, [] => some node
  | directory entries, name :: rest => (member? name entries).bind (at? · rest)
  | file _, _ :: _ => none

@[simp] theorem at?_nil (node : Node) : node.at? [] = some node := by
  cases node <;> rfl

theorem at?_directory_cons (entries : List (String × Node)) (name : String) (rest : List String) :
    at? (directory entries) (name :: rest) = (member? name entries).bind (at? · rest) := rfl

/-- Whether a description file is at the end of names below a node: there is a file, its name ends like that of a description
and is none to be ignored, and no directory on the way has a name to be ignored. The node's own name does not count. -/
def HasDescription (node : Node) (steps : List String) : Prop :=
  ∃ folders name, steps = folders ++ [name] ∧ (∃ data, node.at? steps = some (file data)) ∧
    descriptionSuffix.toList <:+ name.toList ∧ ignoresFile name = false ∧ ∀ folder ∈ folders, ignoresDirectory folder = false

theorem takesFile_iff : takesFile name = true ↔ descriptionSuffix.toList <:+ name.toList ∧ ignoresFile name = false := by
  rw [takesFile, Bool.and_eq_true, List.isSuffixOf_iff_suffix, Bool.not_eq_true']

theorem not_hasDescription_nil : ¬node.HasDescription [] := by
  rintro ⟨folders, name, h, _⟩
  exact absurd h (by simp)

/-- A description is in the directory itself, or below one that is entered. -/
theorem hasDescription_cons_iff :
    (directory entries).HasDescription (name :: steps) ↔
      (steps = [] ∧ takesFile name = true ∧ ∃ data, member? name entries = some (file data)) ∨
        (ignoresDirectory name = false ∧ ∃ child, member? name entries = some child ∧ child.HasDescription steps) := by
  constructor
  · rintro ⟨folders, last, hsteps, ⟨data, hdata⟩, hsuffix, hignored, hfolders⟩
    rw [at?_directory_cons, Option.bind_eq_some_iff] at hdata
    obtain ⟨child, hchild, hdata⟩ := hdata
    cases folders with
    | nil =>
      cases hsteps
      cases hdata
      exact Or.inl ⟨rfl, takesFile_iff.2 ⟨hsuffix, hignored⟩, data, hchild⟩
    | cons folder folders =>
      cases hsteps
      rw [List.forall_mem_cons] at hfolders
      exact Or.inr ⟨hfolders.1, child, hchild, folders, last, rfl, ⟨data, hdata⟩, hsuffix, hignored, hfolders.2⟩
  · rintro (⟨rfl, htaken, data, hdata⟩ | ⟨hentered, child, hchild, folders, last, rfl, ⟨data, hdata⟩, hlast⟩)
    · obtain ⟨hsuffix, hignored⟩ := takesFile_iff.1 htaken
      exact ⟨[], name, rfl, ⟨data, by rw [at?_directory_cons, hdata]; rfl⟩, hsuffix, hignored, by simp⟩
    · obtain ⟨hsuffix, hignored, hfolders⟩ := hlast
      exact ⟨name :: folders, last, rfl, ⟨data, by rw [at?_directory_cons, hchild]; exact hdata⟩, hsuffix, hignored,
        List.forall_mem_cons.2 ⟨hentered, hfolders⟩⟩

/-- A search finds the description files, and nothing else. -/
theorem mem_found_iff (h : node.Proper) : steps ∈ node.found [] ↔ node.HasDescription steps := by
  induction node using Node.induct generalizing steps with
  | file data =>
    refine iff_of_false (by simp [found]) ?_
    rintro ⟨folders, name, rfl, ⟨data, hdata⟩, _⟩
    cases folders <;> cases hdata
  | directory entries ih =>
    cases h with
    | directory hnodup _ hproper =>
      cases steps with
      | nil =>
        refine iff_of_false ?_ not_hasDescription_nil
        simp [found_directory_nil]
      | cons name steps =>
        have hmember {child : Node} : member? name entries = some child ↔ (name, child) ∈ entries :=
          ⟨mem_of_member?, member?_of_mem hnodup⟩
        simp only [found_directory_nil, hasDescription_cons_iff, List.mem_append, List.mem_map, List.mem_flatMap,
          mem_sortByName, hmember, taken, entered, List.mem_filter]
        refine or_congr ⟨?_, ?_⟩ ⟨?_, ?_⟩
        · rintro ⟨⟨_, child⟩, ⟨hmem, hcond⟩, hsteps⟩
          cases hsteps
          cases child with
          | file data => exact ⟨rfl, by simpa [isDirectory] using hcond, data, hmem⟩
          | directory => simp [isDirectory] at hcond
        · rintro ⟨rfl, htaken, data, hmem⟩
          exact ⟨(name, file data), ⟨hmem, by simp [isDirectory, htaken]⟩, rfl⟩
        · rintro ⟨⟨_, child⟩, ⟨hmem, hcond⟩, rest, hrest, hsteps⟩
          cases hsteps
          rw [Bool.and_eq_true, Bool.not_eq_true'] at hcond
          exact ⟨hcond.2, child, hmem, (ih _ hmem (hproper _ hmem)).1 hrest⟩
        · rintro ⟨hentered, child, hmem, hdescription⟩
          have hrest : steps ∈ child.found [] := (ih _ hmem (hproper _ hmem)).2 hdescription
          -- A search of a file finds nothing, so the child is a directory.
          cases child with
          | file data => simp [found] at hrest
          | directory => exact ⟨(name, _), ⟨hmem, by simp [isDirectory, hentered]⟩, steps, hrest, rfl⟩

/-! ## The order -/

/-- The order of what is found: in a directory files go by name, come before everything in directories, and what is in one
directory comes before what is in another with a later name. -/
inductive ListedBefore : List String → List String → Prop
  | files {name other : String} : name < other → ListedBefore [name] [other]
  | fileFirst {name folder : String} {rest : List String} : rest ≠ [] → ListedBefore [name] (folder :: rest)
  | folders {folder other : String} {rest rest' : List String} : rest ≠ [] → rest' ≠ [] → folder < other →
      ListedBefore (folder :: rest) (other :: rest')
  | within {folder : String} {rest rest' : List String} : ListedBefore rest rest' →
      ListedBefore (folder :: rest) (folder :: rest')

theorem ListedBefore.asymm {steps steps' : List String} (h : ListedBefore steps steps') : ¬ListedBefore steps' steps := by
  induction h with
  | files hlt =>
    intro hback
    cases hback with
    | files hgt => exact lt_asymm hlt hgt
    | fileFirst hne | folders _ hne => exact hne rfl
    | within hback => cases hback
  | fileFirst hne =>
    intro hback
    cases hback with
    | files => exact hne rfl
    | fileFirst hother | folders _ hother => exact hother rfl
    | within hback => cases hback
  | folders hne hne' hlt =>
    intro hback
    cases hback with
    | files | fileFirst => exact hne' rfl
    | folders _ _ hgt => exact lt_asymm hlt hgt
    | within => exact lt_irrefl _ hlt
  | within hrest ih =>
    intro hback
    cases hback with
    | files hgt => exact lt_irrefl _ hgt
    | fileFirst => cases hrest
    | folders _ _ hgt => exact lt_irrefl _ hgt
    | within hback => exact ih hback

/-- A search gives what it finds in order. -/
theorem pairwise_found (h : node.Proper) : (node.found []).Pairwise ListedBefore := by
  induction node using Node.induct with
  | file data => exact .nil
  | directory entries ih =>
    cases h with
    | directory hnodup _ hproper =>
      have hnames {p : String × Node → Bool} : (sortByName (entries.filter p)).Pairwise fun e e' => e.1 < e'.1 :=
        pairwise_sortByName (hnodup.sublist (List.filter_sublist.map _))
      have hbelow : ∀ e ∈ sortByName (entered entries), e.2.Proper ∧ (found [] e.2).Pairwise ListedBefore := by
        intro e he
        have hmem : e ∈ entries := List.mem_of_mem_filter (mem_sortByName.1 he)
        exact ⟨hproper e hmem, ih e hmem (hproper e hmem)⟩
      have hne : ∀ e ∈ sortByName (entered entries), ∀ steps ∈ found [] e.2, steps ≠ [] := by
        rintro e he steps hsteps rfl
        exact not_hasDescription_nil ((mem_found_iff (hbelow e he).1).1 hsteps)
      rw [found_directory_nil, List.pairwise_append, List.pairwise_map, List.pairwise_flatMap]
      refine ⟨hnames.imp .files, ⟨fun e he => ?_, hnames.imp_of_mem ?_⟩, ?_⟩
      · rw [List.pairwise_map]
        exact (hbelow e he).2.imp .within
      · intro e e' he he' hlt steps hsteps steps' hsteps'
        obtain ⟨rest, hrest, rfl⟩ := List.mem_map.1 hsteps
        obtain ⟨rest', hrest', rfl⟩ := List.mem_map.1 hsteps'
        exact .folders (hne e he rest hrest) (hne e' he' rest' hrest') hlt
      · intro steps hsteps steps' hsteps'
        obtain ⟨file, _, rfl⟩ := List.mem_map.1 hsteps
        obtain ⟨e, he, hsteps'⟩ := List.mem_flatMap.1 hsteps'
        obtain ⟨rest, hrest, rfl⟩ := List.mem_map.1 hsteps'
        exact .fileFirst (hne e he rest hrest)

/-- In order nothing is given twice. -/
theorem nodup_of_pairwise {listed : List (List String)} (h : listed.Pairwise ListedBefore) : listed.Nodup := by
  refine h.imp ?_
  rintro steps _ hbefore rfl
  exact hbefore.asymm hbefore

/-- What is in a list in order tells the list. -/
theorem eq_of_mem_iff {listed listed' : List (List String)} (h : listed.Pairwise ListedBefore)
    (h' : listed'.Pairwise ListedBefore) (hmem : ∀ steps, steps ∈ listed ↔ steps ∈ listed') : listed = listed' := by
  have hperm : listed.Perm listed' := (List.perm_ext_iff_of_nodup (nodup_of_pairwise h) (nodup_of_pairwise h')).2 hmem
  exact hperm.eq_of_pairwise (fun _ _ _ _ hab hba => absurd hba hab.asymm) h h'

end Node

end HttpContract

import HttpContract.Proofs.Files.Found
import HttpContract.Proofs.Part.Path

/-!
# Places in a file tree

A path is text. The place that it leads to is made of the names from the directory of the tree on, with every step back taken:
a walk along the path ends at the node of that place (`FileTree.at?_of_node`). Below a path that leads through the tree, the
resolved paths of places are those of the names, and different places have different ones.
-/

namespace HttpContract

open Node (IsName)

/-! ## Paths that go on -/

/-- The path that goes on from another by steps. -/
def pathBelow (path : String) (steps : List String) : String := steps.foldl (fun path step => path ++ "/" ++ step) path

variable {path name : String} {steps : List String}

/-- A name is one step more. -/
theorem pathSteps_append (path : String) (h : IsName name) : pathSteps (path ++ "/" ++ name) = pathSteps path ++ [name] := by
  have hchars : (path ++ "/" ++ name).toList = path.toList ++ '/' :: name.toList := by simp
  have hkept : ([name].filter fun step => !step.isEmpty && step != ".") = [name] := by
    simp [h.ne_empty, h.ne_dot]
  rw [pathSteps, hchars, List.splitOn_append_cons_self, List.splitOn_eq_singleton h.single, List.map_append,
    List.filter_append, pathSteps, List.map_singleton, String.ofList_toList, hkept]

theorem pathSteps_pathBelow (path : String) (h : ∀ step ∈ steps, IsName step) :
    pathSteps (pathBelow path steps) = pathSteps path ++ steps := by
  induction steps generalizing path with
  | nil => simp [pathBelow]
  | cons step steps ih =>
    rw [List.forall_mem_cons] at h
    show pathSteps (pathBelow (path ++ "/" ++ step) steps) = _
    rw [ih _ h.2, pathSteps_append path h.1, List.append_assoc, List.singleton_append]

/-- A path is relative if it does not start with a slash. -/
theorem isEmpty_pathStart (path : String) : (pathStart path).isEmpty = (path.toList.head? != some '/') := by
  unfold pathStart
  cases path.toList with
  | nil => rfl
  | cons c cs =>
    by_cases hc : c = '/'
    · subst hc
      rw [List.takeWhile_cons_of_pos rfl, List.length_cons]
      split
      · omega
      · rfl
      · rfl
    · rw [List.takeWhile_cons_of_neg (by simpa using hc)]
      exact (bne_iff_ne.2 (by simpa using hc)).symm

theorem isEmpty_pathStart_pathBelow (steps : List String) (h : (pathStart path).isEmpty = false) :
    (pathStart (pathBelow path steps)).isEmpty = false := by
  induction steps generalizing path with
  | nil => exact h
  | cons step steps ih =>
    refine ih ?_
    rw [isEmpty_pathStart, bne_eq_false_iff_eq] at h ⊢
    simp [List.head?_append, h]

theorem resolveSteps_append (before : List String) (h : ∀ step ∈ steps, IsName step) :
    resolveSteps (before ++ steps) = resolveSteps before ++ steps := by
  unfold resolveSteps
  rw [List.foldl_append]
  generalize List.foldl _ [] before = trail
  induction steps generalizing trail with
  | nil => simp
  | cons step steps ih =>
    rw [List.forall_mem_cons] at h
    have hstep : (step == "..") = false := by simpa using h.1.ne_back
    rw [List.foldl_cons, hstep, ih h.2]
    simp

/-! ## Nodes at places -/

namespace Node

variable {node child : Node} {here : List String} {trail : List Node}

theorem at?_append (node : Node) (steps later : List String) :
    node.at? (steps ++ later) = (node.at? steps).bind (·.at? later) := by
  induction steps generalizing node with
  | nil => simp
  | cons name steps ih =>
    cases node with
    | file data => rfl
    | directory entries =>
      rw [List.cons_append, at?_directory_cons, at?_directory_cons, Option.bind_assoc]
      exact Option.bind_congr fun child _ => ih child

/-- In a proper tree everything has a name, and every part is a proper tree. -/
theorem Proper.of_at? (h : node.Proper) (hat : node.at? steps = some child) :
    (∀ step ∈ steps, IsName step) ∧ child.Proper := by
  induction steps generalizing node with
  | nil =>
    rw [at?_nil, Option.some.injEq] at hat
    exact ⟨by simp, hat ▸ h⟩
  | cons name steps ih =>
    cases h with
    | file data => cases hat
    | directory hnodup hnames hproper =>
      rw [at?_directory_cons, Option.bind_eq_some_iff] at hat
      obtain ⟨next, hnext, hat⟩ := hat
      have hmem := mem_of_member? hnext
      obtain ⟨hall, hchild⟩ := ih (hproper _ hmem) hat
      exact ⟨List.forall_mem_cons.2 ⟨hnames _ hmem, hall⟩, hchild⟩

/-- The directories that were passed on the way to a place, the last one first. -/
inductive Passed (top : Node) : List String → List Node → Prop
  | nil : Passed top [] []
  | cons {here : List String} {name : String} {parent : Node} {trail : List Node} : top.at? here = some parent →
      Passed top here trail → Passed top (here ++ [name]) (parent :: trail)

end Node

namespace FileTree

open Node (Passed)

variable {t : FileTree} {top node found : Node} {here start : List String} {trail : List Node}

/-- What a step makes of a place. -/
def placeAfter (here : List String) (step : String) : List String :=
  if step == ".." then here.dropLast else here ++ [step]

/-- Outside a tree there are only directories of which nothing is known. -/
theorem eq_of_outside (h : Node.outside steps = .ok node) : node = .directory [] := by
  unfold Node.outside at h
  split at h <;> cases h
  rfl

/-- A walk ends at the node of the place that its steps lead to, or outside the tree, where nothing is known. -/
theorem at?_of_walk (hpassed : Passed top here trail) (hhere : top.at? here = some node)
    (h : walk trail node steps = .ok found) :
    top.at? (steps.foldl placeAfter here) = some found ∨ found = .directory [] := by
  induction steps generalizing here trail node with
  | nil =>
    cases h
    exact Or.inl hhere
  | cons step steps ih =>
    cases node with
    | file data => cases h
    | directory entries =>
      rw [walk.eq_def] at h
      dsimp only at h
      split at h
      · rename_i hback
        have hplace : placeAfter here step = here.dropLast := if_pos hback
        cases hpassed with
        | nil => exact Or.inr (eq_of_outside h)
        | cons hparent hearlier =>
          rw [List.foldl_cons, hplace, List.dropLast_concat]
          exact ih hearlier hparent h
      · rename_i hback
        have hplace : placeAfter here step = here ++ [step] := if_neg hback
        cases hchild : member? step entries with
        | none =>
          rw [hchild] at h
          cases h
        | some child =>
          rw [hchild] at h
          rw [List.foldl_cons, hplace]
          refine ih (.cons hhere hpassed) ?_ h
          rw [Node.at?_append, hhere]
          show (member? step entries).bind _ = _
          rw [hchild]
          rfl

/-- A path through the tree leads to its place, or outside. -/
theorem at?_of_node (hstart : t.stepsTo? path = some start) (h : t.node path = .ok node) :
    t.top.at? (resolveSteps start) = some node ∨ node = .directory [] := by
  unfold FileTree.node at h
  split at h
  · cases h
  · split at h
    · cases h
    · rw [hstart] at h
      exact at?_of_walk .nil (Node.at?_nil _) h

/-- A path that does not lead through the tree leads outside. -/
theorem eq_of_node_of_none (hstart : t.stepsTo? path = none) (h : t.node path = .ok node) : node = .directory [] := by
  unfold FileTree.node at h
  split at h
  · cases h
  · split at h
    · cases h
    · rw [hstart] at h
      exact eq_of_outside h

/-! ## Paths of places -/

/-- Below a path through the tree names go on with its steps. -/
theorem stepsTo?_pathBelow (hstart : t.stepsTo? path = some start) (h : ∀ step ∈ steps, IsName step) :
    t.stepsTo? (pathBelow path steps) = some (start ++ steps) := by
  unfold stepsTo? at hstart ⊢
  dsimp only at hstart ⊢
  have hnames : steps.dropWhile (· == "..") = steps := by
    cases steps with
    | nil => rfl
    | cons step steps => exact List.dropWhile_cons_of_neg (by simpa using (h step List.mem_cons_self).ne_back)
  have hdrop : (pathSteps (pathBelow path steps)).dropWhile (· == "..") = (pathSteps path).dropWhile (· == "..") ++ steps := by
    rw [pathSteps_pathBelow path h, List.dropWhile_append, hnames]
    split
    · rename_i hempty
      rw [List.isEmpty_iff.1 hempty, List.nil_append]
    · rfl
  rw [Option.ite_none_left_eq_some, Bool.or_eq_true, Bool.not_eq_true', not_or, Bool.not_eq_true, Bool.not_eq_false,
    List.isPrefixOf_iff_prefix, Option.some.injEq] at hstart ⊢
  obtain ⟨⟨habsolute, hbase⟩, rfl⟩ := hstart
  rw [hdrop, List.drop_append_of_le_length hbase.length_le]
  exact ⟨⟨isEmpty_pathStart_pathBelow steps habsolute, hbase.trans (List.prefix_append _ _)⟩, rfl⟩

/-- The resolved path of a place below a path through the tree. -/
theorem resolve_pathBelow (hstart : t.stepsTo? path = some start) (h : ∀ step ∈ steps, IsName step) :
    t.resolve (pathBelow path steps) = t.pathOf (resolveSteps start ++ steps) := by
  rw [resolve, stepsTo?_pathBelow hstart h]
  exact congrArg t.pathOf (resolveSteps_append start h)

/-- Places have paths of their own. -/
theorem pathOf_inj {place place' : List String} (hne : place ≠ []) (hne' : place' ≠ []) (h : ∀ step ∈ place, IsName step)
    (h' : ∀ step ∈ place', IsName step) (hpath : t.pathOf place = t.pathOf place') : place = place' := by
  have htext {place : List String} (hne : place ≠ []) : t.pathOf place = t.base ++ ("/" ++ String.intercalate "/" place) := by
    have hsome : place.isEmpty = false := by simpa using hne
    rw [pathOf, hsome, Bool.and_false, if_neg Bool.false_ne_true, String.intercalate_cons_of_ne_nil hne, String.append_assoc]
  rw [htext hne, htext hne', String.append_right_inj] at hpath
  rw [← splitPath_join hne fun step hstep => (h step hstep).single, hpath,
    splitPath_join hne' fun step hstep => (h' step hstep).single]

end FileTree

end HttpContract

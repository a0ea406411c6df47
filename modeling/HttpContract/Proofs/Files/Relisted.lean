import HttpContract.Proofs.Files.Places
import HttpContract.Proofs.Outcome

/-!
# Directories that list their entries in another order

A file system lists the entries of a directory in any order. Trees that differ in nothing else have the same files and
directories at the same places (`Node.Alike`), a path leads to such nodes in both of them, and a search finds the same in the
same order.
-/

namespace HttpContract

namespace Node

variable {node node' child child' : Node} {entries entries' : List (String × Node)} {steps : List String}

/-- A tree with the entries of any of its directories in another order. -/
inductive Relisted : Node → Node → Prop
  | refl (node : Node) : Relisted node node
  | trans {node next last : Node} : Relisted node next → Relisted next last → Relisted node last
  | shuffled {entries entries' : List (String × Node)} : entries.Perm entries' →
      Relisted (directory entries) (directory entries')
  | within {before after : List (String × Node)} {name : String} {child child' : Node} : Relisted child child' →
      Relisted (directory (before ++ (name, child) :: after)) (directory (before ++ (name, child') :: after))

/-- The bytes of a file; a directory has none. -/
def data? : Node → Option (List UInt8)
  | file data => some data
  | directory _ => none

/-- Proper trees with the same files and directories at the same places. -/
structure Alike (node node' : Node) : Prop where
  proper : node.Proper
  proper' : node'.Proper
  same : ∀ steps, (node.at? steps).map data? = (node'.at? steps).map data?

namespace Alike

theorem refl (h : node.Proper) : node.Alike node := ⟨h, h, fun _ => rfl⟩

theorem trans {next last : Node} (h : node.Alike next) (h' : next.Alike last) : node.Alike last :=
  ⟨h.proper, h'.proper', fun steps => (h.same steps).trans (h'.same steps)⟩

/-- Alike directories have alike entries under the same names. -/
theorem below (h : (directory entries).Alike (directory entries')) (name : String) :
    (member? name entries = none ∧ member? name entries' = none) ∨
      ∃ child child', member? name entries = some child ∧ member? name entries' = some child' ∧ child.Alike child' := by
  have hbelow : ∀ rest, ((member? name entries).bind (·.at? rest)).map data? =
      ((member? name entries').bind (·.at? rest)).map data? := fun rest => h.same (name :: rest)
  have hproper {entries : List (String × Node)} {child : Node} (hproper : (directory entries).Proper)
      (hchild : member? name entries = some child) : child.Proper := by
    have hat : (directory entries).at? [name] = some child := by simp [at?_directory_cons, hchild]
    exact (hproper.of_at? hat).2
  cases hchild : member? name entries with
  | none =>
    cases hchild' : member? name entries' with
    | none => exact Or.inl ⟨rfl, rfl⟩
    | some child' => simpa [hchild, hchild'] using hbelow []
  | some child =>
    cases hchild' : member? name entries' with
    | none => simpa [hchild, hchild'] using hbelow []
    | some child' =>
      simp only [hchild, hchild', Option.bind_some] at hbelow
      exact Or.inr ⟨child, child', rfl, rfl, hproper h.proper hchild, hproper h.proper' hchild', hbelow⟩

theorem hasDescription_iff (h : node.Alike node') : node.HasDescription steps ↔ node'.HasDescription steps := by
  have hfile {node : Node} :
      (∃ data, node.at? steps = some (file data)) ↔ ∃ data, (node.at? steps).map data? = some (some data) := by
    refine exists_congr fun data => ?_
    cases node.at? steps with
    | none => simp
    | some found => cases found <;> simp [data?]
  simp only [HasDescription, hfile, h.same steps]

/-- A search finds the same in alike trees. -/
theorem found_eq (h : node.Alike node') (path : List String) : node.found path = node'.found path := by
  have hsame : node.found [] = node'.found [] := by
    refine eq_of_mem_iff (pairwise_found h.proper) (pairwise_found h.proper') fun steps => ?_
    rw [mem_found_iff h.proper, mem_found_iff h.proper', h.hasDescription_iff]
  rw [found_eq_map, hsame, ← found_eq_map]

end Alike

/-- Another order makes a tree that is alike. -/
theorem Relisted.alike (h : node.Relisted node') (hproper : node.Proper) : node.Alike node' := by
  induction h with
  | refl => exact .refl hproper
  | trans _ _ ih ih' =>
    have hfirst := ih hproper
    exact hfirst.trans (ih' hfirst.proper')
  | shuffled hperm =>
    cases hproper with
    | directory hnodup hnames hchildren =>
      refine ⟨.directory hnodup hnames hchildren, .directory ?_ ?_ ?_, fun steps => ?_⟩
      · exact (hperm.map _).nodup_iff.1 hnodup
      · exact fun e he => hnames e (hperm.mem_iff.2 he)
      · exact fun e he => hchildren e (hperm.mem_iff.2 he)
      · cases steps with
        | nil => rfl
        | cons name rest => rw [at?_directory_cons, at?_directory_cons, member?_perm hnodup hperm]
  | @within before after name child child' _ ih =>
    cases hproper with
    | directory hnodup hnames hchildren =>
      have halike := ih (hchildren (name, child) (by simp))
      have hkeys : (before ++ (name, child') :: after).map (·.1) = (before ++ (name, child) :: after).map (·.1) := by simp
      refine ⟨.directory hnodup hnames hchildren, .directory (hkeys ▸ hnodup) ?_ ?_, fun steps => ?_⟩
      · simp only [List.forall_mem_append, List.forall_mem_cons] at hnames ⊢
        exact hnames
      · simp only [List.forall_mem_append, List.forall_mem_cons] at hchildren ⊢
        exact ⟨hchildren.1, halike.proper', hchildren.2.2⟩
      · cases steps with
        | nil => simp [data?]
        | cons step rest =>
          rw [at?_directory_cons, at?_directory_cons, member?_append, member?_append, member?_cons, member?_cons]
          cases member? step before with
          | some other => rfl
          | none =>
            rw [Option.none_or, Option.none_or]
            split
            · exact halike.same rest
            · rfl

end Node

namespace FileTree

open Node (Alike)

variable {t t' : FileTree} {node node' : Node} {trail trail' : List Node}

theorem agree_outside (steps : List String) :
    Outcome.Agree Alike (Node.outside steps) (Node.outside steps) := by
  cases houtside : Node.outside steps with
  | error fault => exact .error fault fault
  | ok node =>
    obtain rfl := eq_of_outside houtside
    exact .ok (.refl (.directory List.nodup_nil (by simp) (by simp)))

/-- Walks along the same steps in alike trees end at alike nodes. -/
theorem agree_walk (htrail : List.Forall₂ Alike trail trail') (h : node.Alike node') (steps : List String) :
    Outcome.Agree Alike (walk trail node steps) (walk trail' node' steps) := by
  induction steps generalizing trail trail' node node' with
  | nil => exact .ok h
  | cons step steps ih =>
    have hkind := h.same []
    simp only [Node.at?_nil, Option.map_some, Option.some.injEq] at hkind
    cases node with
    | file data =>
      cases node' with
      | file => exact .error _ _
      | directory => cases hkind
    | directory entries =>
      cases node' with
      | file => cases hkind
      | directory entries' =>
        rw [walk.eq_def, walk.eq_def]
        dsimp only
        split
        · cases htrail with
          | nil => exact agree_outside steps
          | cons hparent hearlier => exact ih hearlier hparent
        · rcases h.below step with ⟨hnone, hnone'⟩ | ⟨child, child', hchild, hchild', halike⟩
          · rw [hnone, hnone']
            exact .error _ _
          · rw [hchild, hchild']
            exact ih (.cons h htrail) halike

/-- What a path leads through hangs on where a tree stands, not on what is in it. -/
theorem stepsTo?_congr (hbase : t'.base = t.base) (path : String) : t'.stepsTo? path = t.stepsTo? path := by
  simp only [stepsTo?, hbase]

/-- A path leads to alike nodes in alike trees that stand at the same place. -/
theorem agree_node (hbase : t'.base = t.base) (h : t.top.Alike t'.top) (path : String) :
    Outcome.Agree Alike (t.node path) (t'.node path) := by
  unfold FileTree.node
  rw [stepsTo?_congr hbase]
  split
  · exact .error _ _
  · split
    · exact .error _ _
    · cases t.stepsTo? path with
      | none => exact agree_outside _
      | some steps => exact agree_walk .nil h steps

/-- What a path leads to in a proper tree is proper. -/
theorem proper_of_node {path : String} (h : t.top.Proper) (hnode : t.node path = .ok node) : node.Proper := by
  have hagree := agree_node rfl (.refl h) path
  rw [hnode] at hagree
  cases hagree with
  | ok halike => exact halike.proper

/-- A scan gives the same paths in the same order whatever the order in which directories list their entries. -/
theorem scan_relisted (hbase : t'.base = t.base) (hproper : t.top.Proper) (h : t.top.Relisted t'.top) (path : String) :
    t'.scan path none = t.scan path none := by
  have hfiles : t'.filesUnder path none = t.filesUnder path none := by
    have hpath : t'.pathOf = t.pathOf := by
      funext steps
      simp only [pathOf, hbase]
    have hagree := agree_node hbase (h.alike hproper) path
    unfold filesUnder
    rw [stepsTo?_congr hbase, hpath]
    generalize t.node path = x at hagree
    generalize t'.node path = y at hagree
    cases t.stepsTo? path with
    | none => rfl
    | some steps =>
      cases hagree with
      | ok halike => exact congrArg (List.map t.pathOf) (halike.found_eq _).symm
      | error => rfl
  rw [scan, scan, hfiles]

end FileTree

end HttpContract

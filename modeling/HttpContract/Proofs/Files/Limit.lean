import HttpContract.Proofs.Files.Found
import Mathlib.Data.List.Forall2

/-!
# Scans with a limit

A search with a limit stops with the file that reaches it, at whatever depth and in whichever directory. As it looks at the
limit after a file is found, it never gives less than the first one: what it gives is the front of what it would give without
a limit, of as many files as the limit says, but for a limit of none. Main statement: `scan_limit_iff`.
-/

namespace HttpContract

namespace Node

/-- Searches one after the other, each giving the front of a list, give the front of all lists together. -/
theorem untilEnough_eq_take {α : Type} {searches : List (Nat → List α)} {lists : List (List α)}
    (h : List.Forall₂ (fun search list => ∀ n, search n = list.take n) searches lists) (n : Nat) :
    untilEnough searches n = lists.flatten.take n := by
  induction h generalizing n with
  | nil => simp [untilEnough]
  | @cons search list searches lists hsearch _ ih =>
    rw [untilEnough, hsearch, List.flatten_cons, List.take_append, List.length_take]
    by_cases hn : list.length < n
    · rw [if_pos (by omega), Nat.min_eq_right hn.le, ih]
    · rw [if_neg (by omega), Nat.sub_eq_zero_of_le (by omega), List.take_zero, List.append_nil]

/-- A search with a limit gives so many of the files that a search without one gives, from the first on. -/
theorem foundUpTo_eq_take (node : Node) (path : List String) (n : Nat) :
    node.foundUpTo path n = (node.found path).take n := by
  induction node using Node.induct generalizing path n with
  | file data => simp [foundUpTo, found]
  | directory entries ih =>
    have hbelow : List.Forall₂ (fun search list => ∀ n, search n = list.take n)
        ((sortByName (entered entries)).map fun e => foundUpTo (path ++ [e.1]) e.2)
        ((sortByName (entered entries)).map fun e => found (path ++ [e.1]) e.2) := by
      rw [List.forall₂_map_left_iff, List.forall₂_map_right_iff, List.forall₂_same]
      intro e he n
      exact ih e (List.mem_of_mem_filter (mem_sortByName.1 he)) _ n
    rw [foundUpTo, searches_eq, sortByName_map, List.map_map, found_directory, List.flatMap_def, ← List.flatten_cons]
    exact untilEnough_eq_take (.cons (fun _ => rfl) hbelow) n

end Node

namespace FileTree

variable {t : FileTree} {path : String}

/-- A scan with a limit gives the front of the scan without one, and at least its first file. -/
theorem scan_limit (t : FileTree) (path : String) (limit : Int) :
    t.scan path (some limit) = (t.scan path none).map (·.take (max limit 1).toNat) := by
  have hfiles : t.filesUnder path (some limit) = (t.filesUnder path none).take (max limit 1).toNat := by
    unfold filesUnder
    split
    · simp only [Node.foundUpTo_eq_take, List.map_take]
    · rw [List.take_nil]
  unfold scan
  split
  · rfl
  · rw [hfiles]
    rfl

/-- A scan with a limit of `k` files gives the first `k` that a scan without one gives, or all of them if there are fewer,
just if `k` is not zero or nothing is there to be found. With a limit of zero it gives the first file. -/
theorem scan_limit_iff (t : FileTree) (path : String) (k : Nat) :
    t.scan path (some k) = (t.scan path none).map (·.take (max k 1)) ∧
      (t.scan path (some k) = (t.scan path none).map (·.take k) ↔
        k ≠ 0 ∨ ∀ files, t.scan path none = .ok files → files = []) := by
  have hscan : t.scan path (some k) = (t.scan path none).map (·.take (max k 1)) := by
    have hlimit : (max (k : Int) 1).toNat = max k 1 := by omega
    rw [scan_limit, hlimit]
  refine ⟨hscan, ?_⟩
  rw [hscan]
  cases k with
  | succ k => simp
  | zero =>
    cases t.scan path none with
    | error fault => simp [Except.map]
    | ok files => cases files <;> simp [Except.map]

/-- A tree with one description file. -/
def oneDescription : FileTree := ⟨"/t", .directory [("a.endpoint.json", .file [])]⟩

/-- A limit of zero files gives one. -/
theorem scan_limit_zero_gives_one :
    oneDescription.scan "/t" none = .ok ["/t/a.endpoint.json"] ∧
      oneDescription.scan "/t" (some 0) = .ok ["/t/a.endpoint.json"] ∧
      ¬oneDescription.scan "/t" (some 0) = (oneDescription.scan "/t" none).map (·.take 0) := by
  have hall : oneDescription.scan "/t" none = .ok ["/t/a.endpoint.json"] := by
    decide +kernel
  have hone : oneDescription.scan "/t" (some 0) = .ok ["/t/a.endpoint.json"] := by
    rw [scan_limit, hall]
    rfl
  rw [hall, hone]
  exact ⟨rfl, rfl, by simp [Except.map]⟩

end FileTree

end HttpContract

import HttpContract.Json.Value
import Mathlib.Data.List.Nodup

/-!
# Members by name

Looking up, inserting and gathering members whose names are distinct: gathering then changes nothing, and what is gathered
always has distinct names.
-/

namespace HttpContract

variable {α β : Type}

/-! ## Looking up -/

theorem member?_cons {name : String} {m : String × α} {members : List (String × α)} :
    member? name (m :: members) = if m.1 = name then some m.2 else member? name members := by
  simp only [member?, List.find?_cons]
  by_cases h : m.1 = name
  · simp [h]
  · simp [beq_eq_false_iff_ne.2 h, h]

/-- There is no value under a name exactly when no member has it. -/
theorem member?_eq_none_iff {name : String} {members : List (String × α)} :
    member? name members = none ↔ name ∉ members.map (·.1) := by
  simp only [member?, Option.map_eq_none_iff, List.find?_eq_none, beq_iff_eq, List.mem_map, not_exists, not_and]

/-- What is found under a name is a member. -/
theorem mem_of_member? {name : String} {members : List (String × α)} {a : α} (h : member? name members = some a) :
    (name, a) ∈ members := by
  simp only [member?, Option.map_eq_some_iff] at h
  obtain ⟨⟨n, b⟩, hfind, rfl⟩ := h
  have hn := List.find?_some hfind
  simp only [beq_iff_eq] at hn
  exact hn ▸ List.mem_of_find?_eq_some hfind

/-- Among distinct names every member is found. -/
theorem member?_of_mem {name : String} {members : List (String × α)} {a : α} (hn : (members.map (·.1)).Nodup)
    (h : (name, a) ∈ members) : member? name members = some a := by
  induction members with
  | nil => cases h
  | cons m members ih =>
    rw [List.map_cons, List.nodup_cons] at hn
    rw [member?_cons]
    rcases List.mem_cons.1 h with rfl | h
    · rw [if_pos rfl]
    · have hne : m.1 ≠ name := by
        rintro rfl
        exact hn.1 (List.mem_map.2 ⟨_, h, rfl⟩)
      rw [if_neg hne, ih hn.2 h]

/-- Members with distinct names are found whatever their order. -/
theorem member?_perm {xs ys : List (String × α)} (hn : (xs.map (·.1)).Nodup) (h : xs.Perm ys) (name : String) :
    member? name xs = member? name ys := by
  cases hfound : member? name xs with
  | none =>
    rw [member?_eq_none_iff, (h.map _).mem_iff] at hfound
    exact (member?_eq_none_iff.2 hfound).symm
  | some a => exact (member?_of_mem ((h.map _).nodup_iff.1 hn) (h.mem_iff.1 (mem_of_member? hfound))).symm

/-- What is found among members is found among the first ones, or else among the others. -/
theorem member?_append (name : String) (xs ys : List (String × α)) :
    member? name (xs ++ ys) = (member? name xs).or (member? name ys) := by
  induction xs with
  | nil => rfl
  | cons m xs ih =>
    rw [List.cons_append, member?_cons, member?_cons, ih]
    split <;> rfl

section Keyed

variable {key : α → String} {xs : List α} {name : String}

/-- Among things under distinct keys each is found for its own. -/
theorem member?_keyed_eq_some_iff (hn : (xs.map key).Nodup) {a : α} :
    member? name (xs.map fun x => (key x, x)) = some a ↔ a ∈ xs ∧ key a = name := by
  constructor
  · intro h
    obtain ⟨x, hx, hpair⟩ := List.mem_map.1 (mem_of_member? h)
    obtain ⟨hkey, rfl⟩ := Prod.mk.inj hpair
    exact ⟨hx, hkey⟩
  · rintro ⟨ha, rfl⟩
    refine member?_of_mem ?_ (List.mem_map_of_mem (f := fun x => (key x, x)) ha)
    rwa [List.map_map]

end Keyed

/-! ## Gathering -/

/-- A new name joins at the end. -/
theorem insertMember_of_not_mem {name : String} {members : List (String × α)} (a : α)
    (h : name ∉ members.map (·.1)) : insertMember members name a = members ++ [(name, a)] := by
  have hany : members.any (·.1 == name) = false := by
    simp only [List.any_eq_false, beq_iff_eq]
    rintro m hm rfl
    exact h (List.mem_map_of_mem hm)
  simp [insertMember, hany]

/-- Inserting a member adds its name unless it is there. -/
theorem names_insertMember (members : List (String × α)) (name : String) (a : α) :
    (insertMember members name a).map (·.1) =
      if name ∈ members.map (·.1) then members.map (·.1) else members.map (·.1) ++ [name] := by
  split
  · rename_i h
    have hany : members.any (·.1 == name) = true := by
      obtain ⟨m, hm, rfl⟩ := List.mem_map.1 h
      exact List.any_eq_true.2 ⟨m, hm, beq_self_eq_true _⟩
    simp only [insertMember, hany, if_true, List.map_map]
    refine List.map_congr_left fun m _ => ?_
    by_cases hm : m.1 = name <;> simp [hm]
  · rename_i h
    rw [insertMember_of_not_mem a h, List.map_append]
    rfl

/-- A member that is inserted is found under its name, and the others as before. -/
theorem member?_insertMember {members : List (String × α)} {name other : String} {a : α} :
    member? name (insertMember members other a) = if other = name then some a else member? name members := by
  have hmap : ∀ members : List (String × α), member? name (members.map fun m => if m.1 == other then (other, a) else m) =
      if other = name then (member? name members).map fun _ => a else member? name members := by
    intro members
    induction members with
    | nil => split <;> rfl
    | cons m members ih =>
      rw [List.map_cons, member?_cons, member?_cons, ih]
      by_cases hm : m.1 = other
      · by_cases hname : other = name <;> simp [hm, hname]
      · have hkept : (if (m.1 == other) = true then (other, a) else m) = m := if_neg fun h => hm (beq_iff_eq.1 h)
        rw [hkept]
        by_cases hname : m.1 = name
        · rw [if_pos hname, if_pos hname, if_neg fun h => hm (hname.trans h.symm)]
        · rw [if_neg hname, if_neg hname]
  unfold insertMember
  split
  · rename_i hany
    rw [hmap]
    by_cases hname : other = name
    · have hfound : name ∈ members.map (·.1) := by
        obtain ⟨m, hm, hown⟩ := List.any_eq_true.1 hany
        exact List.mem_map.2 ⟨m, hm, (beq_iff_eq.1 hown).trans hname⟩
      obtain ⟨b, hb⟩ := Option.ne_none_iff_exists'.1 fun hnone => member?_eq_none_iff.1 hnone hfound
      rw [if_pos hname, if_pos hname, hb, Option.map_some]
    · rw [if_neg hname, if_neg hname]
  · rename_i hany
    have hnone : member? other members = none := by
      rw [member?_eq_none_iff]
      intro hmem
      obtain ⟨m, hm, hown⟩ := List.mem_map.1 hmem
      exact hany (List.any_eq_true.2 ⟨m, hm, beq_iff_eq.2 hown⟩)
    rw [member?_append, member?_cons]
    by_cases hname : other = name
    · rw [← hname, hnone, if_pos rfl, if_pos rfl, Option.none_or]
    · rw [if_neg hname, if_neg hname]
      exact Option.or_none

theorem nodup_insertMember {members : List (String × α)} {name : String} {a : α} (h : (members.map (·.1)).Nodup) :
    ((insertMember members name a).map (·.1)).Nodup := by
  rw [names_insertMember]
  split
  · exact h
  · rename_i hn
    exact List.nodup_append.2 ⟨h, List.nodup_singleton _, fun x hx y hy => by
      rw [List.mem_singleton.1 hy]
      rintro rfl
      exact hn hx⟩

/-- What is gathered has distinct names. -/
theorem nodup_membersOf (pairs : List (String × α)) : ((membersOf pairs).map (·.1)).Nodup := by
  have key : ∀ (pairs members : List (String × α)), (members.map (·.1)).Nodup →
      ((pairs.foldl (fun members pair => insertMember members pair.1 pair.2) members).map (·.1)).Nodup := by
    intro pairs
    induction pairs with
    | nil => exact fun _ h => h
    | cons p pairs ih => exact fun members h => ih _ (nodup_insertMember h)
  exact key pairs [] List.nodup_nil

/-- A member after inserting one is an old member or the new one. -/
theorem mem_or_eq_of_mem_insertMember {members : List (String × α)} {name : String} {a : α} {m : String × α}
    (h : m ∈ insertMember members name a) : m ∈ members ∨ m = (name, a) := by
  unfold insertMember at h
  split at h
  · obtain ⟨q, hq, rfl⟩ := List.mem_map.1 h
    by_cases hqn : q.1 = name
    · exact Or.inr (by simp [hqn])
    · exact Or.inl (by simpa [beq_eq_false_iff_ne.2 hqn] using hq)
  · rcases List.mem_append.1 h with h | h
    · exact Or.inl h
    · exact Or.inr (List.mem_singleton.1 h)

/-- Every member that is gathered is one of the pairs. -/
theorem mem_of_mem_membersOf {pairs : List (String × α)} {m : String × α} (h : m ∈ membersOf pairs) : m ∈ pairs := by
  have key : ∀ (pairs members : List (String × α)),
      m ∈ pairs.foldl (fun members pair => insertMember members pair.1 pair.2) members → m ∈ members ∨ m ∈ pairs := by
    intro pairs
    induction pairs with
    | nil => exact fun _ h => Or.inl h
    | cons p pairs ih =>
      intro members h
      rcases ih _ h with h | h
      · exact (mem_or_eq_of_mem_insertMember h).imp_right fun h => List.mem_cons.2 (Or.inl h)
      · exact Or.inr (List.mem_cons_of_mem p h)
  exact (key pairs [] h).resolve_left (by simp)

/-- The names of the pairs are gathered, and no others. -/
theorem mem_names_membersOf {name : String} {pairs : List (String × α)} :
    name ∈ (membersOf pairs).map (·.1) ↔ name ∈ pairs.map (·.1) := by
  have key : ∀ (pairs members : List (String × α)),
      name ∈ (pairs.foldl (fun members pair => insertMember members pair.1 pair.2) members).map (·.1) ↔
        name ∈ members.map (·.1) ∨ name ∈ pairs.map (·.1) := by
    intro pairs
    induction pairs with
    | nil => simp
    | cons p pairs ih =>
      intro members
      rw [List.foldl_cons, ih, names_insertMember, List.map_cons, List.mem_cons]
      by_cases hp : p.1 ∈ members.map (·.1)
      · rw [if_pos hp]
        constructor
        · rintro (h | h)
          · exact Or.inl h
          · exact Or.inr (Or.inr h)
        · rintro (h | rfl | h)
          · exact Or.inl h
          · exact Or.inl hp
          · exact Or.inr h
      · rw [if_neg hp, List.mem_append, List.mem_singleton, or_assoc]
  rw [membersOf, key]
  simp

/-- Of several pairs with one name the last is gathered. -/
theorem member?_membersOf (name : String) (pairs : List (String × α)) :
    member? name (membersOf pairs) = member? name pairs.reverse := by
  have key : ∀ (pairs members : List (String × α)),
      member? name (pairs.foldl (fun members pair => insertMember members pair.1 pair.2) members) =
        (member? name pairs.reverse).or (member? name members) := by
    intro pairs
    induction pairs with
    | nil => exact fun _ => rfl
    | cons p pairs ih =>
      intro members
      rw [List.foldl_cons, ih, member?_insertMember, List.reverse_cons, member?_append, Option.or_assoc, member?_cons]
      split <;> rfl
  rw [membersOf, key]
  exact Option.or_none

/-- What is gathered from two lists is gathered from the second one, or else from the first. -/
theorem member?_membersOf_append (name : String) (xs ys : List (String × α)) :
    member? name (membersOf (xs ++ ys)) = (member? name (membersOf ys)).or (member? name (membersOf xs)) := by
  rw [member?_membersOf, member?_membersOf, member?_membersOf, List.reverse_append, member?_append]

/-- A value that all pairs with its name have is gathered under the name. -/
theorem member?_membersOf_of_unique {name : String} {a : α} {pairs : List (String × α)} (h : (name, a) ∈ pairs)
    (hunique : ∀ m ∈ pairs, m.1 = name → m.2 = a) : member? name (membersOf pairs) = some a := by
  cases hfound : member? name (membersOf pairs) with
  | none =>
    have hname : name ∈ pairs.map (·.1) := List.mem_map_of_mem (f := (·.1)) h
    exact absurd (mem_names_membersOf.2 hname) (member?_eq_none_iff.1 hfound)
  | some b => exact congrArg some (hunique (name, b) (mem_of_mem_membersOf (mem_of_member? hfound)) rfl)

/-- Pairs with distinct names are gathered as they are. -/
theorem membersOf_of_nodup {pairs : List (String × α)} (h : (pairs.map (·.1)).Nodup) : membersOf pairs = pairs := by
  have key : ∀ (pairs members : List (String × α)), ((members ++ pairs).map (·.1)).Nodup →
      pairs.foldl (fun members pair => insertMember members pair.1 pair.2) members = members ++ pairs := by
    intro pairs
    induction pairs with
    | nil => exact fun _ _ => (List.append_nil _).symm
    | cons p pairs ih =>
      intro members h
      have hp : p.1 ∉ members.map (·.1) := by
        rw [List.map_append, List.map_cons] at h
        exact fun hm => (List.nodup_append.1 h).2.2 _ hm _ (List.mem_cons_self) rfl
      rw [List.foldl_cons, insertMember_of_not_mem _ hp, ih, List.append_assoc]
      · rfl
      · rw [List.append_assoc]
        exact h
  exact key pairs [] h

end HttpContract

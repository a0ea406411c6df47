import HttpContract.FieldType.Name
import HttpContract.Proofs.Json.Members
import HttpContract.Proofs.Outcome
import HttpContract.Proofs.Text.Trim
import Mathlib

/-!
# Spellings of types

The grammar of type names (`FieldType.Spells`), apart from how they are read. Blanks around a spelling and the letter case
of a word do not count; a list is read from both ends and an optional type from its end. Reading a name takes off the blanks
first, and what is left tells by its ends which rule of the grammar it can come from (`NameForm`), so that no name has two
types. Main statement: `ofName_eq_ok_iff_spells`.
-/

namespace HttpContract.FieldType

variable {cs name inner item : List Char} {t t' : FieldType} {n m : Nat}

/-! ## The grammar -/

/-- A word with each letter as it is or as a capital. -/
def InAnyCase (word cs : List Char) : Prop := List.Forall₂ (fun letter c => c = letter ∨ c = letter.toUpper) word cs

/-- The name of a list of something with a name. -/
def listName (item : List Char) : List Char := ['l', 'i', 's', 't', '['] ++ item ++ [']']

/-- The spellings of types: a scalar name in any case; a list of what is spelled without a line feed; what is spelled with a
mark that it may be null, twice being the same as once; and any of these between blanks. -/
inductive Spells : List Char → FieldType → Prop
  | word {name : String} {cs : List Char} {t : FieldType} : (name, t) ∈ scalarNames → InAnyCase name.toList cs →
      Spells cs t
  | list {item : List Char} {t : FieldType} : Spells item t → '\n' ∉ item → Spells (listName item) (.list t)
  | optional {inner : List Char} {t : FieldType} : Spells inner t → Spells (inner ++ ['?']) t.orNull
  | padded {before cs after : List Char} {t : FieldType} : (∀ c ∈ before, Text.isBlank c = true) → Spells cs t →
      (∀ c ∈ after, Text.isBlank c = true) → Spells (before ++ cs ++ after) t

/-! ## Words -/

theorem toLower_eq_iff {letter c : Char} (h : letter.isLower = true) :
    c.toLower = letter ↔ c = letter ∨ c = letter.toUpper := by
  have hlower : letter.toLower = letter := Char.toLower_eq_of_not_isUpper (Char.not_isUpper_of_isLower h)
  constructor
  · rintro rfl
    by_cases hcapital : c.isUpper = true
    · rw [Char.toUpper_toLower_eq_toUpper, Char.toUpper_eq_of_not_isLower (Char.not_isLower_of_isUpper hcapital)]
      exact Or.inr rfl
    · exact Or.inl (Char.toLower_eq_of_not_isUpper hcapital).symm
  · rintro (rfl | rfl)
    · exact hlower
    · rw [Char.toLower_toUpper_eq_toLower, hlower]

theorem isLower_of_mem_scalarNames {name : String} (h : (name, t) ∈ scalarNames) : ∀ c ∈ name.toList, c.isLower = true := by
  have hall : ∀ entry ∈ scalarNames, entry.1.toList.all Char.isLower = true := by decide +kernel
  exact List.all_eq_true.1 (hall _ h)

theorem inAnyCase_iff {word : List Char} (h : ∀ c ∈ word, c.isLower = true) :
    InAnyCase word cs ↔ cs.map Char.toLower = word := by
  unfold InAnyCase
  induction word generalizing cs with
  | nil => simp
  | cons letter word ih =>
    rw [List.forall_mem_cons] at h
    cases cs with
    | nil => simp
    | cons c cs => rw [List.forall₂_cons, ih h.2, List.map_cons, List.cons.injEq, toLower_eq_iff h.1]

/-- The scalar names in any case are the names without parts. -/
theorem ofScalarName?_eq_some_iff :
    ofScalarName? cs = some t ↔ ∃ name, (name, t) ∈ scalarNames ∧ InAnyCase name.toList cs := by
  have hmember : ofScalarName? cs = member? (String.ofList (cs.map Char.toLower)) scalarNames := by
    have hsame : (fun entry : String × FieldType => entry.1.toList == cs.map Char.toLower) =
        fun entry => entry.1 == String.ofList (cs.map Char.toLower) := by
      funext entry
      rw [Bool.eq_iff_iff, beq_iff_eq, beq_iff_eq, ← String.toList_inj, String.toList_ofList]
    rw [ofScalarName?, hsame, member?]
  have hnames : (scalarNames.map (·.1)).Nodup := by decide +kernel
  rw [hmember]
  constructor
  · intro h
    have hmem := mem_of_member? h
    refine ⟨_, hmem, (inAnyCase_iff (isLower_of_mem_scalarNames hmem)).2 ?_⟩
    rw [String.toList_ofList]
  · rintro ⟨name, hmem, hcase⟩
    rw [(inAnyCase_iff (isLower_of_mem_scalarNames hmem)).1 hcase, String.ofList_toList]
    exact member?_of_mem hnames hmem

/-- No scalar name is empty. -/
theorem ne_nil_of_inAnyCase {name : String} (h : (name, t) ∈ scalarNames) (hcase : InAnyCase name.toList cs) : cs ≠ [] := by
  have hall : ∀ entry ∈ scalarNames, entry.1.toList ≠ [] := by decide +kernel
  rintro rfl
  exact hall _ h (List.forall₂_nil_right_iff.1 hcase)

theorem isAlpha_of_inAnyCase {name : String} (h : (name, t) ∈ scalarNames) (hcase : InAnyCase name.toList cs) :
    ∀ c ∈ cs, c.isAlpha = true := by
  have hlower := isLower_of_mem_scalarNames h
  rw [inAnyCase_iff hlower] at hcase
  intro c hc
  have hletter : c.toLower.isLower = true := hlower _ (hcase ▸ List.mem_map_of_mem hc)
  rwa [Char.isLower_toLower_eq_isAlpha] at hletter

/-- Letters are no blanks. -/
theorem isBlank_of_isAlpha {c : Char} (h : c.isAlpha = true) : Text.isBlank c = false := by
  have hbounds : 65 ≤ c.toNat ∧ c.toNat < 123 := by
    simp only [Char.isAlpha, Char.isUpper, Char.isLower, Char.toNat, UInt32.le_iff_toNat_le] at h ⊢
    grind
  have hwhite : ∀ n < 123, 65 ≤ n → Text.inRanges Text.whiteBoundaries n = false := by decide
  have hseparator : ¬c.toNat ≤ 0x1F := by omega
  simp [Text.isBlank, Text.isWhite, hwhite _ hbounds.2 hbounds.1, hseparator]

/-! ## Names without blanks around them -/

/-- The spellings without blanks around them. -/
inductive SpellsBare : List Char → FieldType → Prop
  | word {name : String} {cs : List Char} {t : FieldType} : (name, t) ∈ scalarNames → InAnyCase name.toList cs →
      SpellsBare cs t
  | list {item : List Char} {t : FieldType} : Spells item t → '\n' ∉ item → SpellsBare (listName item) (.list t)
  | optional {inner : List Char} {t : FieldType} : Spells inner t → SpellsBare (inner ++ ['?']) t.orNull

theorem SpellsBare.spells (h : SpellsBare cs t) : Spells cs t := by
  cases h with
  | word hname hcase => exact .word hname hcase
  | list hitem hline => exact .list hitem hline
  | optional hinner => exact .optional hinner

/-- Without the blanks around it a spelling is one by the other rules. -/
theorem Spells.bare (h : Spells cs t) : SpellsBare (Text.trimWhile Text.isBlank cs) t := by
  induction h with
  | word hname hcase =>
    rw [Text.trimWhile_eq_self fun c hc => isBlank_of_isAlpha (isAlpha_of_inAnyCase hname hcase c hc)]
    exact .word hname hcase
  | @list item t hitem hline =>
    have htrim : Text.trimWhile Text.isBlank (listName item) = listName item := Text.trimWhile_concat_of_neg (by decide)
    rw [htrim]
    exact .list hitem hline
  | optional hinner ih =>
    rw [Text.trimWhile_concat_of_neg (by decide)]
    obtain ⟨after, hafter, hblank⟩ := Text.exists_dropWhile Text.isBlank _
    rw [hafter]
    exact .optional (@Spells.padded [] _ _ _ (by simp) ih.spells hblank)
  | padded hbefore _ hafter ih =>
    rw [Text.trimWhile_padded hbefore hafter]
    exact ih

theorem spells_iff_bare : Spells cs t ↔ SpellsBare (Text.trimWhile Text.isBlank cs) t := by
  refine ⟨Spells.bare, fun h => ?_⟩
  obtain ⟨before, after, hcs, hbefore, hafter⟩ := Text.exists_trimWhile Text.isBlank cs
  rw [hcs]
  exact .padded hbefore h.spells hafter

/-- Blanks do not change what is spelled between them. -/
theorem spells_padded_iff {before after : List Char} (hb : ∀ c ∈ before, Text.isBlank c = true)
    (ha : ∀ c ∈ after, Text.isBlank c = true) : Spells (before ++ cs ++ after) t ↔ Spells cs t := by
  rw [spells_iff_bare, Text.trimWhile_padded hb ha, ← spells_iff_bare]

/-- Whether a character is a blank or the mark of an optional type, which may stand at the end of a name. -/
def trails (c : Char) : Bool := c == '?' || Text.isBlank c

theorem trails_of_isAlpha {c : Char} (h : c.isAlpha = true) : trails c = false := by
  rw [trails, isBlank_of_isAlpha h, Bool.or_false, beq_eq_false_iff_ne]
  rintro rfl
  exact absurd h (by decide)

/-- A spelling is more than blanks and marks. -/
theorem Spells.exists_not_trails (h : Spells cs t) : ∃ c ∈ cs, trails c = false := by
  induction h with
  | word hname hcase =>
    obtain ⟨c, hc⟩ := List.exists_mem_of_ne_nil _ (ne_nil_of_inAnyCase hname hcase)
    exact ⟨c, hc, trails_of_isAlpha (isAlpha_of_inAnyCase hname hcase c hc)⟩
  | list => exact ⟨']', List.mem_append_right _ List.mem_cons_self, by decide⟩
  | optional _ ih =>
    obtain ⟨c, hc, hstays⟩ := ih
    exact ⟨c, List.mem_append_left _ hc, hstays⟩
  | padded _ _ _ ih =>
    obtain ⟨c, hc, hstays⟩ := ih
    exact ⟨c, List.mem_append_left _ (List.mem_append_right _ hc), hstays⟩

theorem Spells.ne_nil (h : Spells cs t) : cs ≠ [] := by
  obtain ⟨c, hc, _⟩ := h.exists_not_trails
  exact List.ne_nil_of_mem hc

/-! ## The last character tells the rule -/

theorem length_listName (item : List Char) : (listName item).length = item.length + 6 := by
  simp [listName]

theorem getLast?_listName (item : List Char) : (listName item).getLast? = some ']' :=
  List.getLast?_concat

theorem itemName?_eq_some_iff : itemName? name = some item ↔ name = listName item ∧ item ≠ [] ∧ '\n' ∉ item := by
  constructor
  · intro h
    unfold itemName? at h
    split at h
    · rename_i rest
      split at h
      · rename_i hcond
        cases h
        simp only [Bool.and_eq_true, beq_iff_eq, decide_eq_true_eq, Bool.not_eq_true', List.contains_eq_mem,
          decide_eq_false_iff_not] at hcond
        obtain ⟨⟨hlast, hlength⟩, hline⟩ := hcond
        obtain ⟨init, rfl⟩ := List.getLast?_eq_some_iff.1 hlast
        rw [List.dropLast_concat] at hline ⊢
        refine ⟨rfl, ?_, hline⟩
        rintro rfl
        exact absurd hlength (by decide)
      · cases h
    · cases h
  · rintro ⟨rfl, hne, hline⟩
    have hlength := List.length_pos_of_ne_nil hne
    show (if _ then _ else none) = _
    rw [if_pos]
    · simp
    · simp [hline, hlength]

/-- What a name without blanks around it may be: nothing, the name of an optional type, that of a list of something, or a
word. -/
inductive NameForm : List Char → Prop
  | blank : NameForm []
  | optional (inner : List Char) : NameForm (inner ++ ['?'])
  | list {item : List Char} : item ≠ [] → '\n' ∉ item → NameForm (listName item)
  | word {name : List Char} : name ≠ [] → name.getLast? ≠ some '?' → itemName? name = none → NameForm name

theorem nameForm (name : List Char) : NameForm name := by
  by_cases hne : name = []
  · exact hne ▸ .blank
  · by_cases hlast : name.getLast? = some '?'
    · obtain ⟨inner, rfl⟩ := List.getLast?_eq_some_iff.1 hlast
      exact .optional inner
    · cases hitem : itemName? name with
      | none => exact .word hne hlast hitem
      | some item =>
        obtain ⟨rfl, hitem, hline⟩ := itemName?_eq_some_iff.1 hitem
        exact .list hitem hline

theorem spellsBare_optional_iff : SpellsBare (inner ++ ['?']) t ↔ ∃ t', Spells inner t' ∧ t'.orNull = t := by
  constructor
  · generalize hname : inner ++ ['?'] = name
    intro h
    cases h with
    | word hword hcase =>
      have hmark : '?' ∈ name := hname ▸ List.mem_append_right _ List.mem_cons_self
      exact absurd (isAlpha_of_inAnyCase hword hcase _ hmark) (by decide)
    | list =>
      have hlast := congrArg List.getLast? hname
      rw [List.getLast?_concat, getLast?_listName] at hlast
      cases hlast
    | optional hinner =>
      rw [List.append_left_inj] at hname
      exact ⟨_, hname ▸ hinner, rfl⟩
  · rintro ⟨t', hinner, rfl⟩
    exact .optional hinner

theorem spellsBare_list_iff (hline : '\n' ∉ item) : SpellsBare (listName item) t ↔ ∃ t', Spells item t' ∧ .list t' = t := by
  constructor
  · generalize hname : listName item = name
    intro h
    cases h with
    | word hword hcase =>
      have hmark : ']' ∈ name := hname ▸ List.mem_append_right _ List.mem_cons_self
      exact absurd (isAlpha_of_inAnyCase hword hcase _ hmark) (by decide)
    | list hitem =>
      rw [listName, listName, List.append_left_inj, List.append_right_inj] at hname
      exact ⟨_, hname ▸ hitem, rfl⟩
    | optional =>
      have hlast := congrArg List.getLast? hname
      rw [List.getLast?_concat, getLast?_listName] at hlast
      cases hlast
  · rintro ⟨t', hitem, rfl⟩
    exact .list hitem hline

theorem spellsBare_word_iff (hlast : name.getLast? ≠ some '?') (hitem : itemName? name = none) :
    SpellsBare name t ↔ ofScalarName? name = some t := by
  rw [ofScalarName?_eq_some_iff]
  constructor
  · intro h
    cases h with
    | word hword hcase => exact ⟨_, hword, hcase⟩
    | list hspelled hline =>
      rw [itemName?_eq_some_iff.2 ⟨rfl, hspelled.ne_nil, hline⟩] at hitem
      cases hitem
    | optional => exact absurd List.getLast?_concat hlast
  · rintro ⟨word, hword, hcase⟩
    exact .word hword hcase

/-! ## Reading -/

theorem ofNameWithin_blank (h : Text.trimWhile Text.isBlank cs = []) : ofNameWithin (n + 1) cs = .error .empty := by
  simp [ofNameWithin, h]

theorem ofNameWithin_optional (h : Text.trimWhile Text.isBlank cs = inner ++ ['?']) :
    ofNameWithin (n + 1) cs = (ofNameWithin n inner).map orNull := by
  simp [ofNameWithin, h]

theorem ofNameWithin_list (h : Text.trimWhile Text.isBlank cs = listName item) (hne : item ≠ []) (hline : '\n' ∉ item) :
    ofNameWithin (n + 1) cs = (ofNameWithin n item).map list := by
  have hitem : itemName? (listName item) = some item := itemName?_eq_some_iff.2 ⟨rfl, hne, hline⟩
  have hsome : (listName item).isEmpty = false := rfl
  simp only [ofNameWithin, h, hsome, getLast?_listName, hitem]
  rfl

theorem ofNameWithin_word (h : Text.trimWhile Text.isBlank cs = name) (hne : name ≠ []) (hlast : name.getLast? ≠ some '?')
    (hitem : itemName? name = none) :
    ofNameWithin (n + 1) cs = (ofScalarName? name).elim (.error (.unknown (String.ofList cs))) .ok := by
  simp only [ofNameWithin, h, List.isEmpty_iff, hne, beq_iff_eq, hlast, hitem, if_false]
  cases ofScalarName? name <;> rfl

theorem ofNameWithin_nil (n : Nat) : ofNameWithin n [] = .error .empty := by
  cases n with
  | zero => rfl
  | succ n => exact ofNameWithin_blank rfl

/-- Reading ends within as many steps as there are characters. -/
theorem ofNameWithin_of_le (hn : cs.length ≤ n) (hm : cs.length ≤ m) : ofNameWithin n cs = ofNameWithin m cs := by
  induction n generalizing m cs with
  | zero => rw [List.eq_nil_of_length_eq_zero (Nat.le_zero.1 hn), ofNameWithin_nil, ofNameWithin_nil]
  | succ n ih =>
    cases m with
    | zero => rw [List.eq_nil_of_length_eq_zero (Nat.le_zero.1 hm), ofNameWithin_nil, ofNameWithin_nil]
    | succ m =>
      have hlength := Text.length_trimWhile_le Text.isBlank cs
      have hform := nameForm (Text.trimWhile Text.isBlank cs)
      generalize hname : Text.trimWhile Text.isBlank cs = name at hlength hform
      cases hform with
      | blank => rw [ofNameWithin_blank hname, ofNameWithin_blank hname]
      | optional inner =>
        rw [List.length_append, List.length_singleton] at hlength
        rw [ofNameWithin_optional hname, ofNameWithin_optional hname, ih (m := m) (by omega) (by omega)]
      | list hne hline =>
        rw [length_listName] at hlength
        rw [ofNameWithin_list hname hne hline, ofNameWithin_list hname hne hline, ih (m := m) (by omega) (by omega)]
      | word hne hlast hitem => rw [ofNameWithin_word hname hne hlast hitem, ofNameWithin_word hname hne hlast hitem]

/-- Reading gives a type just for the spellings of the type. -/
theorem ofNameWithin_eq_ok_iff (h : cs.length ≤ n) : ofNameWithin n cs = .ok t ↔ Spells cs t := by
  induction n generalizing cs t with
  | zero =>
    rw [List.eq_nil_of_length_eq_zero (Nat.le_zero.1 h), ofNameWithin_nil]
    exact iff_of_false nofun fun hnil => hnil.ne_nil rfl
  | succ n ih =>
    have hlength := (Text.length_trimWhile_le Text.isBlank cs).trans h
    have hform := nameForm (Text.trimWhile Text.isBlank cs)
    rw [spells_iff_bare]
    generalize hname : Text.trimWhile Text.isBlank cs = name at hlength hform
    cases hform with
    | blank =>
      rw [ofNameWithin_blank hname]
      exact iff_of_false nofun fun hnil => hnil.spells.ne_nil rfl
    | optional inner =>
      rw [List.length_append, List.length_singleton] at hlength
      rw [ofNameWithin_optional hname, spellsBare_optional_iff, Outcome.map_eq_ok_iff]
      exact exists_congr fun t' => and_congr_left' (ih (by omega))
    | list hne hline =>
      rw [length_listName] at hlength
      rw [ofNameWithin_list hname hne hline, spellsBare_list_iff hline, Outcome.map_eq_ok_iff]
      exact exists_congr fun t' => and_congr_left' (ih (by omega))
    | word hne hlast hitem =>
      rw [ofNameWithin_word hname hne hlast hitem, spellsBare_word_iff hlast hitem]
      cases ofScalarName? name <;> simp

/-- No text is a spelling of two types. -/
theorem Spells.unique (h : Spells cs t) (h' : Spells cs t') : t = t' := by
  rw [← ofNameWithin_eq_ok_iff le_rfl] at h h'
  rw [h, Except.ok.injEq] at h'
  exact h'

/-! ## Null and lists -/

/-- A name is that of a type with null if it is marked so, or spells the type of everything. -/
theorem SpellsBare.allowsNull_iff (h : SpellsBare name t) :
    t.allowsNull = true ↔ name.getLast? = some '?' ∨ Spells name .any := by
  have hspelled := h.spells
  cases h with
  | word hword hcase =>
    have hany : ∀ entry ∈ scalarNames, entry.2.allowsNull = true → entry.2 = .any := by decide
    constructor
    · intro hnull
      obtain rfl := hany _ hword hnull
      exact Or.inr hspelled
    · rintro (hlast | hother)
      · have halpha := isAlpha_of_inAnyCase hword hcase _ (List.mem_of_getLast? hlast)
        exact absurd halpha (by decide)
      · rw [hspelled.unique hother]
        rfl
  | list =>
    refine iff_of_false (by simp [allowsNull]) ?_
    rintro (hlast | hother)
    · rw [getLast?_listName] at hlast
      cases hlast
    · cases hspelled.unique hother
  | optional => exact iff_of_true (allowsNull_orNull _) (Or.inl List.getLast?_concat)

/-- A text without the blanks and marks at its end. -/
def withoutMarks (cs : List Char) : List Char := Text.dropEndWhile trails cs

/-- A spelling is that of a list, optional or not, if without marks it spells a list. -/
theorem Spells.isSequence_iff (h : Spells cs t) : t.isSequence = true ↔ ∃ item, Spells (withoutMarks cs) (.list item) := by
  induction h with
  | @word name cs t hword hcase =>
    have hnone : ∀ entry ∈ scalarNames, entry.2.isSequence = false := by decide
    have hsame : withoutMarks cs = cs := by
      obtain ⟨front, c, rfl⟩ := (List.eq_nil_or_concat' cs).resolve_left (ne_nil_of_inAnyCase hword hcase)
      exact Text.dropEndWhile_concat_of_neg (trails_of_isAlpha (isAlpha_of_inAnyCase hword hcase _ (by simp)))
    rw [hsame, hnone _ hword]
    refine iff_of_false Bool.false_ne_true ?_
    rintro ⟨item, hlist⟩
    obtain rfl := hlist.unique (.word hword hcase)
    cases hnone _ hword
  | @list item t hitem hline =>
    have hsame : withoutMarks (listName item) = listName item := Text.dropEndWhile_concat_of_neg (by decide)
    rw [hsame]
    exact iff_of_true rfl ⟨t, .list hitem hline⟩
  | @optional inner t _ ih =>
    have hsame : withoutMarks (inner ++ ['?']) = withoutMarks inner := Text.dropEndWhile_append_of_pos (by simp [trails])
    rw [isSequence_orNull, hsame, ih]
  | @padded before cs after t hbefore hspelled hafter ih =>
    have hsame : withoutMarks (before ++ cs ++ after) = before ++ withoutMarks cs := by
      rw [withoutMarks, Text.dropEndWhile_append_of_pos fun c hc => by simp [trails, hafter c hc],
        Text.dropEndWhile_append_of_exists hspelled.exists_not_trails, withoutMarks]
    have hpadded {t : FieldType} : Spells (before ++ withoutMarks cs) t ↔ Spells (withoutMarks cs) t := by
      simpa using @spells_padded_iff (withoutMarks cs) t before [] hbefore (by simp)
    simp only [hsame, hpadded, ih]

/-- What names are read as. A name has the type that it spells, which no other type is spelled like, and a name that spells none
is refused; reading ends within as many steps as the name has characters. The type of a name takes null just if the name,
without blanks around it, ends with the mark for it or spells the type of everything; and it is a list, or an optional one,
just if the name without blanks and marks at its end spells a list. -/
theorem ofName_eq_ok_iff_spells (name : String) :
    (∀ t, ofName name = .ok t ↔ Spells name.toList t) ∧
    (∀ t t', Spells name.toList t → Spells name.toList t' → t = t') ∧
    ((∃ err, ofName name = .error err) ↔ ∀ t, ¬Spells name.toList t) ∧
    (∀ n, name.toList.length ≤ n → ofNameWithin n name.toList = ofName name) ∧
    ∀ t, ofName name = .ok t →
      (t.allowsNull = true ↔ (Text.strip name).toList.getLast? = some '?' ∨ Spells (Text.strip name).toList .any) ∧
      (t.isSequence = true ↔ ∃ item, Spells (withoutMarks name.toList) (.list item)) := by
  have hread : ∀ t, ofName name = .ok t ↔ Spells name.toList t := fun t => ofNameWithin_eq_ok_iff le_rfl
  refine ⟨hread, fun t t' h h' => h.unique h', ?_, fun n hn => ofNameWithin_of_le hn le_rfl, fun t ht => ?_⟩
  · simp only [← hread]
    cases ofName name <;> simp
  · have hspelled := (hread t).1 ht
    refine ⟨?_, hspelled.isSequence_iff⟩
    rw [Text.strip, String.toList_ofList]
    exact hspelled.bare.allowsNull_iff

end HttpContract.FieldType

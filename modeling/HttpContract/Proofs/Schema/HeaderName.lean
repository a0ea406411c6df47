import HttpContract.Message.Raw
import HttpContract.Proofs.Schema.WellFormed
import HttpContract.Proofs.Text.Trim
import Mathlib

/-!
# Names of headers in two spellings

A constant is written on the wire character by character: its joints become hyphens, and its letters small unless they start a
part (`spelled`). What comes of it is a constant again only if it is a capital with digits behind it, and such a name is written
as it is (`Settled`), so that writing a name twice is writing it once. A description may therefore name its headers in either
spelling. Main statement: `normalize_projects`.
-/

namespace HttpContract

/-! ## Texts of ASCII characters -/

namespace Text

/-- Between ASCII letters the small forms do not depend on what is around them. -/
theorem lowerChars_of_ascii {before cs : List Char} (h : ∀ c ∈ cs, c.toNat < 0x80) :
    lowerChars before cs = cs.map Char.toLower := by
  induction cs generalizing before with
  | nil => rfl
  | cons c cs ih =>
    rw [List.forall_mem_cons] at h
    have hsigma : (c.toNat == 0x3A3) = false := beq_eq_false_iff_ne.2 (by omega)
    rw [lowerChars, ih h.2, hsigma, lowerChar, if_pos h.1]
    rfl

/-- A character that can be seen is no blank. -/
theorem isBlank_of_visible {c : Char} (h : 0x20 < c.toNat ∧ c.toNat < 0x7F) : isBlank c = false := by
  have hwhite : ∀ n < 0x7F, 0x20 < n → inRanges whiteBoundaries n = false := by decide
  have hseparator : ¬c.toNat ≤ 0x1F := by omega
  simp [isBlank, isWhite, hwhite _ h.2 h.1, hseparator]

end Text

namespace HeaderName

variable {c : Char} {cs rest first : List Char} {parts : List (List Char)} {name : String}

/-! ## Constants -/

/-- What follows the first character of a constant: characters of constants, and joints that each have one behind them. -/
inductive Continues : List Char → Prop where
  | nil : Continues []
  | char {c : Char} {rest : List Char} : isConstantChar c = true → Continues rest → Continues (c :: rest)
  | joint {c : Char} {rest : List Char} : isConstantChar c = true → Continues rest → Continues ('_' :: c :: rest)

/-- The constants: a capital, and behind it capitals, digits and joints. -/
inductive Constant : List Char → Prop where
  | capital {c : Char} {rest : List Char} : c.isUpper = true → Continues rest → Constant (c :: rest)

theorem ne_joint (h : isConstantChar c = true) : c ≠ '_' := by
  rintro rfl
  cases h

/-- A joint ends a part. -/
theorem splitOn_joint (rest : List Char) : ('_' :: rest).splitOn '_' = [] :: rest.splitOn '_' := by
  rw [List.splitOn_eq_splitOnP, List.splitOnP_cons_eq_if_modifyHead, ← List.splitOn_eq_splitOnP]
  rfl

/-- Any other character joins the part behind it. -/
theorem splitOn_char (h : c ≠ '_') (hsplit : rest.splitOn '_' = first :: parts) :
    (c :: rest).splitOn '_' = (c :: first) :: parts := by
  rw [List.splitOn_eq_splitOnP, List.splitOnP_cons_eq_if_modifyHead, ← List.splitOn_eq_splitOnP, hsplit]
  simp [h]

/-- There is a first part. -/
theorem exists_splitOn (cs : List Char) : ∃ first parts, cs.splitOn '_' = first :: parts :=
  List.exists_cons_of_ne_nil (List.splitOn_ne_nil '_' cs)

/-- A part that may follow a joint. -/
def FullPart (part : List Char) : Prop := part ≠ [] ∧ ∀ c ∈ part, isConstantChar c = true

/-- A constant goes on as its parts do: the first may end where it is, the others are full. -/
theorem continues_iff (hsplit : rest.splitOn '_' = first :: parts) :
    Continues rest ↔ (∀ c ∈ first, isConstantChar c = true) ∧ ∀ part ∈ parts, FullPart part := by
  induction rest generalizing first parts with
  | nil =>
    cases hsplit
    simp [Continues.nil]
  | cons c rest ih =>
    obtain ⟨next, others, hrest⟩ := exists_splitOn rest
    by_cases hc : c = '_'
    · subst hc
      rw [splitOn_joint, hrest, List.cons.injEq] at hsplit
      obtain ⟨rfl, rfl⟩ := hsplit
      rw [List.forall_mem_cons, FullPart, and_assoc, ← ih hrest]
      -- The part behind a joint must not be empty, which is why the grammar takes a joint with the character behind it.
      constructor
      · intro h
        cases h with
        | char hchar => cases hchar
        | @joint d rest hd hcontinues =>
          obtain ⟨last, more, hlast⟩ := exists_splitOn rest
          rw [splitOn_char (ne_joint hd) hlast, List.cons.injEq] at hrest
          exact ⟨by simp, hrest.1 ▸ List.cons_ne_nil _ _, .char hd hcontinues⟩
      · rintro ⟨_, hne, hcontinues⟩
        cases hcontinues with
        | nil =>
          cases hrest
          exact absurd rfl hne
        | char hd hcontinues => exact .joint hd hcontinues
        | joint =>
          rw [splitOn_joint, List.cons.injEq] at hrest
          exact absurd hrest.1.symm hne
    · rw [splitOn_char hc hrest, List.cons.injEq] at hsplit
      obtain ⟨rfl, rfl⟩ := hsplit
      rw [List.forall_mem_cons, and_assoc, ← ih hrest]
      constructor
      · intro h
        cases h with
        | char hchar hcontinues => exact ⟨hchar, hcontinues⟩
        | joint => exact absurd rfl hc
      · rintro ⟨hchar, hcontinues⟩
        exact .char hchar hcontinues

/-- A name is taken for a constant exactly if it is one. -/
theorem isConstant_iff : isConstant cs = true ↔ Constant cs := by
  cases cs with
  | nil =>
    constructor
    · intro h
      cases h
    · intro h
      cases h
  | cons c rest =>
    obtain ⟨first, parts, hrest⟩ := exists_splitOn rest
    have hparts : ∀ parts : List (List Char),
        (parts.all fun part => !part.isEmpty && part.all isConstantChar) = true ↔ ∀ part ∈ parts, FullPart part := by
      intro parts
      simp [FullPart]
    rw [isConstant, Bool.and_eq_true, hparts, List.head?_cons, Option.map_some, Option.getD_some]
    constructor
    · rintro ⟨hcapital, hfull⟩
      have hchar : isConstantChar c = true := by simp [isConstantChar, hcapital]
      rw [splitOn_char (ne_joint hchar) hrest, List.forall_mem_cons, FullPart, List.forall_mem_cons] at hfull
      exact .capital hcapital ((continues_iff hrest).2 ⟨hfull.1.2.2, hfull.2⟩)
    · intro h
      cases h with
      | capital hcapital hcontinues =>
        have hchar : isConstantChar c = true := by simp [isConstantChar, hcapital]
        obtain ⟨hfirst, hothers⟩ := (continues_iff hrest).1 hcontinues
        rw [splitOn_char (ne_joint hchar) hrest, List.forall_mem_cons, FullPart, List.forall_mem_cons]
        exact ⟨hcapital, ⟨List.cons_ne_nil _ _, hchar, hfirst⟩, hothers⟩

theorem Continues.mem (h : Continues rest) : ∀ c ∈ rest, c = '_' ∨ isConstantChar c = true := by
  induction h with
  | nil => exact List.forall_mem_nil _
  | char hchar _ ih => exact List.forall_mem_cons.2 ⟨Or.inr hchar, ih⟩
  | joint hchar _ ih => exact List.forall_mem_cons.2 ⟨Or.inl rfl, List.forall_mem_cons.2 ⟨Or.inr hchar, ih⟩⟩

/-- A constant holds capitals, digits and joints. -/
theorem Constant.mem (h : Constant cs) : ∀ c ∈ cs, c = '_' ∨ isConstantChar c = true := by
  cases h with
  | capital hcapital hcontinues =>
    exact List.forall_mem_cons.2 ⟨Or.inr (by simp [isConstantChar, hcapital]), hcontinues.mem⟩

/-! ## What is written of a constant -/

/-- A constant as it is written, from the start of a part or from within one: a joint is a hyphen, and a letter is small unless
it starts its part. -/
def spelled : Bool → List Char → List Char
  | _, [] => []
  | starts, c :: rest =>
    if c = '_' then '-' :: spelled true rest else (if starts then c else c.toLower) :: spelled false rest

/-- What is written of a text by its parts, the first of them with its capital or without. -/
theorem spelled_eq (hsplit : cs.splitOn '_' = first :: parts) :
    spelled true cs = ['-'].intercalate (capitalized first :: parts.map capitalized) ∧
      spelled false cs = ['-'].intercalate (first.map Char.toLower :: parts.map capitalized) := by
  have hjoin : ∀ (c : Char) (part : List Char) (parts : List (List Char)),
      ['-'].intercalate ((c :: part) :: parts) = c :: ['-'].intercalate (part :: parts) := by
    intro c part parts
    cases parts with
    | nil => rfl
    | cons next parts => rw [List.intercalate_cons_cons, List.intercalate_cons_cons, List.cons_append, List.cons_append]
  induction cs generalizing first parts with
  | nil =>
    cases hsplit
    exact ⟨rfl, rfl⟩
  | cons c rest ih =>
    obtain ⟨next, others, hrest⟩ := exists_splitOn rest
    obtain ⟨hstarts, hwithin⟩ := ih hrest
    by_cases hc : c = '_'
    · subst hc
      rw [splitOn_joint, hrest, List.cons.injEq] at hsplit
      obtain ⟨rfl, rfl⟩ := hsplit
      have hwritten : '-' :: spelled true rest = ['-'].intercalate ([] :: (next :: others).map capitalized) := by
        rw [hstarts, List.map_cons, List.intercalate_cons_cons]
        rfl
      exact ⟨hwritten, hwritten⟩
    · rw [splitOn_char hc hrest, List.cons.injEq] at hsplit
      obtain ⟨rfl, rfl⟩ := hsplit
      rw [capitalized, List.map_cons, hjoin, hjoin, ← hwithin]
      simp [spelled, hc]

/-- A constant is written as it is spelled. -/
theorem toList_normalize_of_constant (h : Constant (Text.strip name).toList) :
    (normalize name).toList = spelled true (Text.strip name).toList := by
  rw [Text.strip, String.toList_ofList] at h ⊢
  obtain ⟨first, parts, hsplit⟩ := exists_splitOn (Text.trimWhile Text.isBlank name.toList)
  rw [normalize, if_pos (isConstant_iff.2 h), String.toList_ofList, hsplit, List.map_cons, (spelled_eq hsplit).1]

/-- What is no constant is taken without the blanks around it. -/
theorem normalize_of_not_constant (h : ¬Constant (Text.strip name).toList) : normalize name = Text.strip name := by
  rw [Text.strip, String.toList_ofList] at h
  rw [normalize, if_neg (mt isConstant_iff.1 h), Text.strip]

/-- A hyphen for a joint. -/
def hyphened (c : Char) : Char := if c = '_' then '-' else c

/-- But for the letter case only the joints are changed. -/
theorem toLower_spelled (starts : Bool) (cs : List Char) :
    (spelled starts cs).map Char.toLower = (cs.map hyphened).map Char.toLower := by
  induction cs generalizing starts with
  | nil => rfl
  | cons c cs ih =>
    rw [spelled, List.map_cons, hyphened]
    split
    · rw [List.map_cons, List.map_cons, ih]
    · rw [List.map_cons, List.map_cons, ih]
      split
      · rfl
      · rw [Char.toLower_toLower_eq_toLower]

/-- The characters of constants can be seen, with capitals or without. -/
theorem visible_of_isConstantChar (h : isConstantChar c = true) :
    (0x20 < c.toNat ∧ c.toNat < 0x7F) ∧ 0x20 < c.toLower.toNat ∧ c.toLower.toNat < 0x7F := by
  have hvisible : 0x20 < c.toNat ∧ c.toNat < 0x7F := by
    simp only [isConstantChar, Char.isUpper, Char.isDigit, Char.toNat, UInt32.le_iff_toNat_le] at h ⊢
    grind
  have hlower : ∀ n < 0x7F, 0x20 < n → 0x20 < (Char.ofNat n).toLower.toNat ∧ (Char.ofNat n).toLower.toNat < 0x7F := by
    decide
  have hsmall := hlower c.toNat hvisible.2 hvisible.1
  rw [Char.ofNat_toNat] at hsmall
  exact ⟨hvisible, hsmall⟩

/-- All that is written of a constant can be seen. -/
theorem visible_spelled {starts : Bool} (h : ∀ c ∈ cs, c = '_' ∨ isConstantChar c = true) :
    ∀ c ∈ spelled starts cs, 0x20 < c.toNat ∧ c.toNat < 0x7F := by
  induction cs generalizing starts with
  | nil => exact List.forall_mem_nil _
  | cons c cs ih =>
    rw [List.forall_mem_cons] at h
    rw [spelled]
    split
    · exact List.forall_mem_cons.2 ⟨by decide, ih h.2⟩
    · rename_i hc
      refine List.forall_mem_cons.2 ⟨?_, ih h.2⟩
      have hvisible := visible_of_isConstantChar (h.1.resolve_left hc)
      split
      · exact hvisible.1
      · exact hvisible.2

/-! ## Names that are written as they are -/

/-- A name without blanks around it, which is no constant, or one of a capital and digits. -/
structure Settled (cs : List Char) : Prop where
  trimmed : Text.trimWhile Text.isBlank cs = cs
  digits : Constant cs → ∀ c ∈ cs.tail, c.isDigit = true

/-- A joint leaves a hyphen. -/
theorem hyphen_mem_spelled {starts : Bool} (h : '_' ∈ cs) : '-' ∈ spelled starts cs := by
  induction cs generalizing starts with
  | nil => cases h
  | cons c cs ih =>
    rw [spelled]
    split
    · exact List.mem_cons_self
    · rename_i hc
      exact List.mem_cons_of_mem _ (ih ((List.mem_cons.1 h).resolve_left fun heq => hc heq.symm))

/-- Within a part without joints all letters are small. -/
theorem spelled_of_not_mem (h : '_' ∉ cs) : spelled false cs = cs.map Char.toLower := by
  induction cs with
  | nil => rfl
  | cons c cs ih =>
    rw [List.mem_cons, not_or] at h
    rw [spelled, if_neg fun heq => h.1 heq.symm, ih h.2]
    rfl

/-- No letter becomes a joint. -/
theorem toLower_ne_joint (h : c ≠ '_') : c.toLower ≠ '_' := by
  by_cases hcapital : c.isUpper = true
  · intro heq
    have halpha : c.toLower.isAlpha = true := by rw [Char.isAlpha_toLower_eq_isAlpha, Char.isAlpha, hcapital, Bool.true_or]
    rw [heq] at halpha
    cases halpha
  · rwa [Char.toLower_eq_of_not_isUpper hcapital]

/-- Behind the capital of a constant without joints there is no capital when it is written, so that it is a constant again only
with digits there. -/
theorem isDigit_of_spelled (h : Constant cs) (hjoint : '_' ∉ cs) (hagain : Constant (spelled true cs)) :
    ∀ c ∈ (spelled true cs).tail, c.isDigit = true := by
  cases h with
  | @capital first rest =>
    rw [List.mem_cons, not_or] at hjoint
    rw [spelled, if_neg fun heq => hjoint.1 heq.symm, spelled_of_not_mem hjoint.2] at hagain ⊢
    intro c hc
    obtain ⟨d, hd, rfl⟩ := List.mem_map.1 hc
    -- No small form is a capital, and the other characters of constants are digits.
    have hcapital := Char.isUpper_toLower_eq_false d
    have hchar := (hagain.mem _ (List.mem_cons_of_mem _ hc)).resolve_left (toLower_ne_joint fun heq => hjoint.2 (heq ▸ hd))
    simpa [isConstantChar, hcapital] using hchar

/-- What is written of a name is written as it is. -/
theorem settled_normalize (name : String) : Settled (normalize name).toList := by
  by_cases hconstant : Constant (Text.strip name).toList
  · rw [toList_normalize_of_constant hconstant]
    refine ⟨Text.trimWhile_eq_self fun c hc => Text.isBlank_of_visible (visible_spelled hconstant.mem c hc), fun hagain => ?_⟩
    -- A joint has left a hyphen, which no constant holds.
    have hjoint : '_' ∉ (Text.strip name).toList := by
      intro hmem
      rcases hagain.mem _ (hyphen_mem_spelled hmem) with h | h <;> cases h
    exact isDigit_of_spelled hconstant hjoint hagain
  · rw [normalize_of_not_constant hconstant, Text.strip, String.toList_ofList]
    rw [Text.strip, String.toList_ofList] at hconstant
    exact ⟨Text.trimWhile_trimWhile _ _, fun h => absurd h hconstant⟩

/-- Digits are spelled as they are. -/
theorem spelled_of_isDigit (h : ∀ c ∈ cs, c.isDigit = true) : spelled false cs = cs := by
  have hjoint : '_' ∉ cs := fun hmem => by cases h _ hmem
  rw [spelled_of_not_mem hjoint]
  refine (List.map_congr_left fun c hc => ?_).trans (List.map_id cs)
  have hdigit := h c hc
  refine Char.toLower_eq_of_not_isUpper ?_
  simp only [Char.isUpper, Char.isDigit] at hdigit ⊢
  grind

/-- A settled name is written as it is. -/
theorem normalize_of_settled (h : Settled name.toList) : normalize name = name := by
  have hstrip : Text.strip name = name := by rw [Text.strip, h.trimmed, String.ofList_toList]
  by_cases hconstant : Constant (Text.strip name).toList
  · rw [← String.toList_inj, toList_normalize_of_constant hconstant]
    rw [hstrip] at hconstant ⊢
    have hdigits := h.digits hconstant
    cases hcs : name.toList with
    | nil => rfl
    | cons c rest =>
      rw [hcs] at hconstant hdigits
      rw [List.tail_cons] at hdigits
      have hc : c ≠ '_' := by
        rintro rfl
        cases hconstant with
        | capital hcapital => cases hcapital
      rw [spelled, if_neg hc, spelled_of_isDigit hdigits]
      rfl
  · rw [normalize_of_not_constant hconstant, hstrip]

/-- Writing a name again changes nothing. -/
theorem normalize_normalize (name : String) : normalize (normalize name) = normalize name :=
  normalize_of_settled (settled_normalize name)

/-- Settled names neither start nor end with a blank. -/
theorem Settled.ends (h : Settled cs) (hc : cs.head? = some c ∨ cs.getLast? = some c) : Text.isBlank c = false := by
  rw [← h.trimmed] at hc
  exact Text.ends_trimWhile hc

/-- But for the letter case a constant is written with its joints as hyphens. -/
theorem sameName_of_constant (h : Constant (Text.strip name).toList) :
    Headers.sameName (normalize name) (String.ofList ((Text.strip name).toList.map hyphened)) = true := by
  have hhyphened : ∀ c ∈ (Text.strip name).toList.map hyphened, c.toNat < 0x80 := by
    intro c hc
    obtain ⟨d, hd, rfl⟩ := List.mem_map.1 hc
    rw [hyphened]
    split
    · decide
    · rename_i hjoint
      have hbounds := (visible_of_isConstantChar ((h.mem d hd).resolve_left hjoint)).1
      omega
  have hspelled : ∀ c ∈ spelled true (Text.strip name).toList, c.toNat < 0x80 := fun c hc => by
    have hbounds := visible_spelled h.mem c hc
    omega
  rw [Headers.sameName, beq_iff_eq, Text.lower, Text.lower, toList_normalize_of_constant h, String.toList_ofList,
    Text.lowerChars_of_ascii hspelled, Text.lowerChars_of_ascii hhyphened, toLower_spelled]

end HeaderName

/-! ## Descriptions in two spellings -/

/-- An attribute in two spellings: one and the same, or a header with its name as it is given and as it is written. -/
inductive Attribute.Respelled : Attribute → Attribute → Prop where
  | same (a : Attribute) : Respelled a a
  | header (name : String) : Respelled ⟨"header", some name⟩ ⟨"header", some (HeaderName.normalize name)⟩

/-- A declaration in two spellings of its attributes. -/
structure Declaration.Respelled (d d' : Declaration) : Prop where
  name : d'.name = d.name
  type : d'.type = d.type
  attributes : List.Forall₂ Attribute.Respelled d.attributes d'.attributes

namespace Declaration

variable {d d' : Declaration} {side : String}

theorem attributePlace_respelled {a a' : Attribute} (h : a.Respelled a') : attributePlace a' = attributePlace a := by
  cases h with
  | same => rfl
  | header name => simp only [attributePlace, HeaderName.normalize_normalize]

/-- One attribute gives the same place in both spellings. -/
theorem Respelled.place_eq (h : d.Respelled d') (hsingle : d.attributes.length ≤ 1) : d'.place = d.place := by
  have hattributes := h.attributes
  unfold place
  match hd : d.attributes, hd' : d'.attributes, hattributes with
  | [], [], _ => rfl
  | [a], [a'], .cons ha .nil => exact attributePlace_respelled ha
  | _ :: _ :: _, _, _ => simp [hd] at hsingle

/-- Several attributes give no place. -/
theorem place_of_several (h : 1 < d.attributes.length) : d.place = .error (.severalAttributes d.attributes) := by
  unfold place
  split <;> simp_all

/-- With one attribute a declaration is judged the same in both spellings. -/
theorem Respelled.classify_eq (h : d.Respelled d') (hsingle : d.attributes.length ≤ 1) :
    d'.classify side = d.classify side := by
  unfold classify declaredType location
  rw [h.place_eq hsingle, h.name, h.type]

/-- In both spellings a declaration becomes the same field, or none. -/
theorem Respelled.field_eq (h : d.Respelled d') : (d'.classify side).field = (d.classify side).field := by
  by_cases hsingle : d.attributes.length ≤ 1
  · rw [h.classify_eq hsingle]
  · have hseveral := Nat.lt_of_not_le hsingle
    have hseveral' := h.attributes.length_eq ▸ hseveral
    unfold classify
    rw [place_of_several hseveral, place_of_several hseveral']
    cases d.declaredType <;> cases d'.declaredType <;> rfl

/-- There is an issue with a declaration in one spelling just if there is one in the other. -/
theorem Respelled.issues_eq_nil_iff (h : d.Respelled d') :
    (d'.classify side).issues = [] ↔ (d.classify side).issues = [] := by
  by_cases hsingle : d.attributes.length ≤ 1
  · rw [h.classify_eq hsingle]
  · have hseveral := Nat.lt_of_not_le hsingle
    have hseveral' := h.attributes.length_eq ▸ hseveral
    rw [classify_issues_eq_nil_iff, classify_issues_eq_nil_iff, place_of_several hseveral, place_of_several hseveral']
    simp

end Declaration

namespace Schema

variable {side : String} {ds ds' : List Declaration}

/-- In both spellings the fields are the same. -/
theorem fieldsOf_respelled (h : List.Forall₂ Declaration.Respelled ds ds') : fieldsOf side ds' = fieldsOf side ds := by
  induction h with
  | nil => rfl
  | cons hd _ ih =>
    rw [fieldsOf, fieldsOf, List.filterMap_cons, List.filterMap_cons, hd.field_eq]
    rw [fieldsOf, fieldsOf] at ih
    rw [ih]

theorem names_respelled (h : List.Forall₂ Declaration.Respelled ds ds') : ds'.map (·.name) = ds.map (·.name) := by
  induction h with
  | nil => rfl
  | cons hd _ ih => rw [List.map_cons, List.map_cons, hd.name, ih]

/-- Declarations with one attribute each have the same issues in both spellings. -/
theorem declarationIssues_respelled (h : List.Forall₂ Declaration.Respelled ds ds')
    (hsingle : ∀ d ∈ ds, d.attributes.length ≤ 1) : declarationIssues side ds' = declarationIssues side ds := by
  induction h with
  | nil => rfl
  | cons hd _ ih =>
    rw [List.forall_mem_cons] at hsingle
    rw [declarationIssues, declarationIssues, List.flatMap_cons, List.flatMap_cons, hd.classify_eq hsingle.1]
    exact congrArg _ (ih hsingle.2)

theorem declarationIssues_eq_nil_respelled (h : List.Forall₂ Declaration.Respelled ds ds') :
    declarationIssues side ds' = [] ↔ declarationIssues side ds = [] := by
  induction h with
  | nil => rfl
  | cons hd _ ih =>
    rw [declarationIssues, declarationIssues, List.flatMap_cons, List.flatMap_cons, List.append_eq_nil_iff,
      List.append_eq_nil_iff, hd.issues_eq_nil_iff]
    exact and_congr_right fun _ => ih

end Schema

namespace Contract

open Schema

variable {metadata : Metadata} {request request' response response' : List Declaration}

/-- There are issues with a description in one spelling just if there are any in the other. -/
theorem issues_eq_nil_respelled (hrequest : List.Forall₂ Declaration.Respelled request request')
    (hresponse : List.Forall₂ Declaration.Respelled response response') :
    issues metadata request' response' = [] ↔ issues metadata request response = [] := by
  simp only [issues, requestIssues, responseIssues, nameIssues, List.append_eq_nil_iff, fieldsOf_respelled hrequest,
    fieldsOf_respelled hresponse, names_respelled hrequest, names_respelled hresponse,
    declarationIssues_eq_nil_respelled hrequest, declarationIssues_eq_nil_respelled hresponse]

/-- With one attribute for each declaration the issues are the same in both spellings. -/
theorem issues_respelled (hrequest : List.Forall₂ Declaration.Respelled request request')
    (hresponse : List.Forall₂ Declaration.Respelled response response')
    (hsingle : ∀ d ∈ request ++ response, d.attributes.length ≤ 1) :
    issues metadata request' response' = issues metadata request response := by
  rw [List.forall_mem_append] at hsingle
  simp only [issues, requestIssues, responseIssues, nameIssues, fieldsOf_respelled hrequest, fieldsOf_respelled hresponse,
    names_respelled hrequest, names_respelled hresponse, declarationIssues_respelled hrequest hsingle.1,
    declarationIssues_respelled hresponse hsingle.2]

/-- A contract comes of a description without issues, and has its fields and its template. -/
theorem check_eq_ok_iff {c : Contract} :
    check metadata request response = .ok c ↔ issues metadata request response = [] ∧
      c = ⟨⟨"request", fieldsOf "request" request⟩, ⟨"response", fieldsOf "response" response⟩, templateOf metadata.path⟩ := by
  constructor
  · exact fun h => ⟨issues_of_check h, eq_of_check h⟩
  · rintro ⟨hnil, rfl⟩
    exact check_of_nil hnil

end Contract

/-- Writing the name of a header is a projection: a name that is written is written as it is. No blank stands at its ends. But
for the letter case it is the name without the blanks around it, a constant with hyphens for its joints and each letter small
that starts no part; it is a constant itself only as a capital with digits. So a description comes to the same contract whether
it gives the names of its headers or what is written of them, and is refused with the same report if no declaration has several
attributes, which are quoted as they are given. -/
theorem HeaderName.normalize_projects :
    (∀ name, normalize (normalize name) = normalize name) ∧
    (∀ name c, (normalize name).toList.head? = some c ∨ (normalize name).toList.getLast? = some c → Text.isBlank c = false) ∧
    (∀ name, Constant (Text.strip name).toList →
      Headers.sameName (normalize name) (String.ofList ((Text.strip name).toList.map hyphened)) = true ∧
      (normalize name).toList = spelled true (Text.strip name).toList) ∧
    (∀ name, ¬Constant (Text.strip name).toList → normalize name = Text.strip name) ∧
    (∀ name, Constant (normalize name).toList → ∀ c ∈ (normalize name).toList.tail, c.isDigit = true) ∧
    ∀ metadata request request' response response', List.Forall₂ Declaration.Respelled request request' →
      List.Forall₂ Declaration.Respelled response response' →
      (∀ c, Contract.check metadata request' response' = .ok c ↔ Contract.check metadata request response = .ok c) ∧
      ((∀ d ∈ request ++ response, d.attributes.length ≤ 1) →
        Contract.check metadata request' response' = Contract.check metadata request response) := by
  refine ⟨normalize_normalize, fun name c hc => (settled_normalize name).ends hc, fun name h => ?_,
    fun name => normalize_of_not_constant, fun name => (settled_normalize name).digits, ?_⟩
  · exact ⟨sameName_of_constant h, toList_normalize_of_constant h⟩
  · intro metadata request request' response response' hrequest hresponse
    constructor
    · intro c
      rw [Contract.check_eq_ok_iff, Contract.check_eq_ok_iff, Contract.issues_eq_nil_respelled hrequest hresponse,
        Schema.fieldsOf_respelled hrequest, Schema.fieldsOf_respelled hresponse]
    · intro hsingle
      rw [Contract.check, Contract.check, Contract.issues_respelled hrequest hresponse hsingle,
        Schema.fieldsOf_respelled hrequest, Schema.fieldsOf_respelled hresponse]

/-- A trace in a header that is named by a constant with blanks around it, and a page in the query. -/
def tracedPage : List Declaration :=
  [⟨"trace", .text "str", [⟨"header", some " X_TRACE_1\t"⟩]⟩, ⟨"page", .text "int?", [⟨"query", none⟩]⟩]

/-- The same with the header named as it is written. -/
def tracedPageWritten : List Declaration :=
  [⟨"trace", .text "str", [⟨"header", some "X-Trace-1"⟩]⟩, ⟨"page", .text "int?", [⟨"query", none⟩]⟩]

/-- A trace comes to the same contract under both names of its header. A name in small letters is no constant and stays as it
is, and so does a constant of a capital and a digit. -/
theorem HeaderName.normalize_projects_traced :
    let metadata : Metadata := ⟨.get, "traced", "", "/pages", false, false⟩
    normalize (normalize " X_TRACE_1\t") = normalize " X_TRACE_1\t" ∧ Text.isBlank '1' = false ∧
      Constant (Text.strip " X_TRACE_1\t").toList ∧
      Headers.sameName (normalize " X_TRACE_1\t") "X-TRACE-1" = true ∧
      ¬Constant (Text.strip " x_TRACE ").toList ∧ normalize " x_TRACE " = "x_TRACE" ∧
      Constant (normalize " E2").toList ∧ '2'.isDigit = true ∧
      List.Forall₂ Declaration.Respelled tracedPage tracedPageWritten ∧
      (∃ c, Contract.check metadata tracedPage [] = .ok c ∧ Contract.check metadata tracedPageWritten [] = .ok c) ∧
      Contract.check metadata tracedPageWritten [] = Contract.check metadata tracedPage [] := by
  intro metadata
  obtain ⟨hagain, hends, hconstant, hplain, hdigits, hcheck⟩ := normalize_projects
  have htraced : Constant (Text.strip " X_TRACE_1\t").toList := isConstant_iff.1 (by decide +kernel)
  have hsmall : ¬Constant (Text.strip " x_TRACE ").toList := mt isConstant_iff.2 (by decide +kernel)
  have hshort : Constant (normalize " E2").toList := isConstant_iff.1 (by decide +kernel)
  have hname : normalize " X_TRACE_1\t" = "X-Trace-1" := by decide +kernel
  have hheader : Attribute.Respelled ⟨"header", some " X_TRACE_1\t"⟩ ⟨"header", some "X-Trace-1"⟩ := hname ▸ .header _
  have hpage : List.Forall₂ Declaration.Respelled tracedPage tracedPageWritten :=
    .cons ⟨rfl, rfl, .cons hheader .nil⟩ (.cons ⟨rfl, rfl, .cons (.same _) .nil⟩ .nil)
  obtain ⟨hsame, hreport⟩ := hcheck metadata _ _ _ _ hpage .nil
  obtain ⟨c, hc⟩ : ∃ c, Contract.check metadata tracedPage [] = .ok c :=
    ⟨_, Contract.check_of_nil (by decide +kernel)⟩
  have hhyphens : String.ofList ((Text.strip " X_TRACE_1\t").toList.map hyphened) = "X-TRACE-1" := by decide +kernel
  refine ⟨hagain _, hends " X_TRACE_1\t" '1' (Or.inr (by decide +kernel)), htraced, hhyphens ▸ (hconstant _ htraced).1, hsmall,
    (hplain _ hsmall).trans (by decide +kernel), hshort, hdigits _ hshort _ (by decide +kernel), hpage,
    ⟨c, hc, (hsame c).2 hc⟩, hreport ?_⟩
  decide

end HttpContract

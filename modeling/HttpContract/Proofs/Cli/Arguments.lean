import Mathlib.Data.List.TakeWhile
import HttpContract.Cli.Arguments

/-!
# What arguments stand for

The arguments of a command as a grammar, which says for each way to write options and operands what is read. The parser reads
the command lines of the grammar and refuses all others (`parse_eq_some_iff`, and `parseGroup_eq_some_iff` for the options
before a command).
-/

namespace HttpContract.Cli

/-- An argument that is no option. A hyphen alone is one too. -/
def IsOperand (a : String) : Prop := a.toList.head? ≠ some '-' ∨ a = "-"

/-- Names for options: two hyphens before a text without an equals sign. The name that asks for help is taken. -/
structure OptionNames (names : List String) : Prop where
  long : ∀ name ∈ names, ∃ c cs, name.toList = '-' :: '-' :: c :: cs
  plain : ∀ name ∈ names, '=' ∉ name.toList
  helpless : "--help" ∉ names

/-- What the arguments of a command stand for. Operands and options come in any order, and behind two hyphens all are
operands. -/
inductive Reads (names : List String) : List String → Parsed → Prop where
  | nil : Reads names [] .empty
  | operand {a : String} {rest : List String} {p : Parsed} : IsOperand a → Reads names rest p →
      Reads names (a :: rest) { p with operands := a :: p.operands }
  | joined {name value : String} {rest : List String} {p : Parsed} : name ∈ names → Reads names rest p →
      Reads names ((name ++ "=" ++ value) :: rest) { p with options := (name, value) :: p.options }
  | apart {name value : String} {rest : List String} {p : Parsed} : name ∈ names → Reads names rest p →
      Reads names (name :: value :: rest) { p with options := (name, value) :: p.options }
  | help {rest : List String} {p : Parsed} : Reads names rest p → Reads names ("--help" :: rest) { p with help := true }
  | ending (rest : List String) : Reads names ("--" :: rest) { Parsed.empty with operands := rest }

/-- What the options before a command stand for, and the arguments from the command on. The first operand ends the options, and
so do two hyphens. -/
inductive Leads (names : List String) : List String → Parsed → List String → Prop where
  | nil : Leads names [] .empty []
  | command {a : String} {rest : List String} : IsOperand a → Leads names (a :: rest) .empty (a :: rest)
  | joined {name value : String} {rest left : List String} {p : Parsed} : name ∈ names → Leads names rest p left →
      Leads names ((name ++ "=" ++ value) :: rest) { p with options := (name, value) :: p.options } left
  | apart {name value : String} {rest left : List String} {p : Parsed} : name ∈ names → Leads names rest p left →
      Leads names (name :: value :: rest) { p with options := (name, value) :: p.options } left
  | help {rest left : List String} {p : Parsed} : Leads names rest p left →
      Leads names ("--help" :: rest) { p with help := true } left
  | ending (rest : List String) : Leads names ("--" :: rest) .empty rest

/-! ## One argument -/

section Classify

variable {names : List String} {a name : String}

theorem classifyArgument_operand (h : IsOperand a) : classifyArgument names a = .operand := by
  rcases h with h | rfl
  · simp [classifyArgument, h]
  · simp [classifyArgument]

theorem classifyArgument_ending : classifyArgument names "--" = .ending := by simp [classifyArgument]

theorem takeWhile_of_not_mem {cs : List Char} (h : '=' ∉ cs) : cs.takeWhile (· != '=') = cs :=
  List.takeWhile_eq_self_iff.2 fun _ hc => bne_iff_ne.2 (ne_of_mem_of_not_mem hc h)

/-- A text is cut at its first equals sign. -/
theorem cut_of_not_mem {front : List Char} (h : '=' ∉ front) (back : List Char) :
    (front ++ '=' :: back).takeWhile (· != '=') = front ∧ (front ++ '=' :: back).dropWhile (· != '=') = '=' :: back := by
  have hfront : ∀ c ∈ front, (c != '=') = true := fun _ hc => bne_iff_ne.2 (ne_of_mem_of_not_mem hc h)
  rw [List.takeWhile_append_of_pos hfront, List.dropWhile_append_of_pos hfront]
  simp

/-- An argument that can be an option is cut at its first equals sign. -/
theorem classifyArgument_option (hop : ¬IsOperand a) (hend : a ≠ "--") :
    classifyArgument names a =
      if String.ofList (a.toList.takeWhile (· != '=')) ∈ names then
        .option (String.ofList (a.toList.takeWhile (· != '=')))
          (if '=' ∈ a.toList then some (String.ofList ((a.toList.dropWhile (· != '=')).drop 1)) else none)
      else if a = "--help" then .help else .unknown := by
  obtain ⟨hhead, halone⟩ := not_or.1 hop
  have hlength : a.toList.length ≠ 1 := by
    intro hone
    obtain ⟨c, hc⟩ := List.length_eq_one_iff.1 hone
    refine halone (String.toList_injective ?_)
    simpa [hc] using hhead
  simp [classifyArgument, hhead, hlength, hend]

/-- A text that starts like a long option is none of the other arguments. -/
theorem not_isOperand_of_long {c : Char} {cs : List Char} (h : a.toList = '-' :: '-' :: c :: cs) :
    ¬IsOperand a ∧ a ≠ "--" := by
  refine ⟨?_, ?_⟩
  · rintro (hhead | rfl)
    · simp [h] at hhead
    · simp at h
  · rintro rfl
    simp at h

theorem classifyArgument_help (hn : OptionNames names) : classifyArgument names "--help" = .help := by
  have hlong := not_isOperand_of_long (a := "--help") rfl
  rw [classifyArgument_option hlong.1 hlong.2, if_neg, if_pos rfl]
  exact hn.helpless

theorem classifyArgument_name (hn : OptionNames names) (h : name ∈ names) :
    classifyArgument names name = .option name none := by
  obtain ⟨c, cs, hname⟩ := hn.long name h
  have hlong := not_isOperand_of_long hname
  rw [classifyArgument_option hlong.1 hlong.2, takeWhile_of_not_mem (hn.plain name h), String.ofList_toList, if_pos h,
    if_neg (hn.plain name h)]

theorem classifyArgument_joined (hn : OptionNames names) (h : name ∈ names) (value : String) :
    classifyArgument names (name ++ "=" ++ value) = .option name (some value) := by
  have htext : (name ++ "=" ++ value).toList = name.toList ++ '=' :: value.toList := by simp
  have hlong : ¬IsOperand (name ++ "=" ++ value) ∧ name ++ "=" ++ value ≠ "--" := by
    obtain ⟨c, cs, hname⟩ := hn.long name h
    rw [hname] at htext
    exact not_isOperand_of_long htext
  obtain ⟨hfront, hback⟩ := cut_of_not_mem (hn.plain name h) value.toList
  rw [classifyArgument_option hlong.1 hlong.2, htext, hfront, hback, String.ofList_toList, if_pos h, if_pos (by simp)]
  simp

/-- The kinds of arguments, each with how such an argument is written. -/
theorem classifyArgument_cases (names : List String) (a : String) :
    (classifyArgument names a = .operand ∧ IsOperand a) ∨ (classifyArgument names a = .ending ∧ a = "--") ∨
      (classifyArgument names a = .help ∧ a = "--help") ∨ (classifyArgument names a = .option a none ∧ a ∈ names) ∨
      (∃ name ∈ names, ∃ value, classifyArgument names a = .option name (some value) ∧ a = name ++ "=" ++ value) ∨
      classifyArgument names a = .unknown := by
  by_cases hop : IsOperand a
  · exact .inl ⟨classifyArgument_operand hop, hop⟩
  by_cases hend : a = "--"
  · exact .inr (.inl ⟨hend ▸ classifyArgument_ending, hend⟩)
  rw [classifyArgument_option hop hend]
  by_cases hname : String.ofList (a.toList.takeWhile (· != '=')) ∈ names
  · rw [if_pos hname]
    by_cases hmark : '=' ∈ a.toList
    · obtain ⟨front, back, ha, hfront⟩ := List.eq_append_cons_of_mem hmark
      obtain ⟨htake, hdrop⟩ := cut_of_not_mem hfront back
      rw [ha, htake] at hname
      refine .inr (.inr (.inr (.inr (.inl ⟨_, hname, String.ofList back, ?_, String.toList_injective ?_⟩))))
      · simp [ha, htake, hdrop]
      · simp [ha]
    · rw [takeWhile_of_not_mem hmark, String.ofList_toList] at hname ⊢
      exact .inr (.inr (.inr (.inl ⟨by rw [if_neg hmark], hname⟩)))
  · rw [if_neg hname]
    by_cases hhelp : a = "--help"
    · exact .inr (.inr (.inl ⟨if_pos hhelp, hhelp⟩))
    · exact .inr (.inr (.inr (.inr (.inr (if_neg hhelp)))))

end Classify

/-! ## All arguments -/

/-- One part of a command line before another. -/
def Parsed.append (p q : Parsed) : Parsed := ⟨p.options ++ q.options, p.operands ++ q.operands, p.help || q.help⟩

theorem Parsed.append_empty (p : Parsed) : p.append .empty = p := by simp [append, empty]

theorem Parsed.empty_append (p : Parsed) : Parsed.empty.append p = p := by simp [append, empty]

section Parse

variable {names args : List String} {p : Parsed}

/-- What stands for the arguments comes behind what is read before them. -/
theorem parse_of_reads (hn : OptionNames names) (h : Reads names args p) (before : Parsed) :
    parse names before none args = some (before.append p) := by
  induction h generalizing before with
  | nil => simp [parse, Parsed.append_empty]
  | operand ha _ ih =>
    simp only [parse, classifyArgument_operand ha, ih]
    simp [Parsed.append]
  | joined hname _ ih =>
    simp only [parse, classifyArgument_joined hn hname, ih]
    simp [Parsed.append, Parsed.addOption]
  | apart hname _ ih =>
    simp only [parse, classifyArgument_name hn hname, ih]
    simp [Parsed.append, Parsed.addOption]
  | help _ ih =>
    simp only [parse, classifyArgument_help hn, ih]
    simp [Parsed.append]
  | ending rest =>
    simp only [parse, classifyArgument_ending]
    simp [Parsed.append, Parsed.empty]

/-- What is read stands for the arguments. An option that waits for its value counts as one more argument before them. -/
theorem reads_of_parse {before result : Parsed} {awaiting : Option String} (hawaiting : ∀ name ∈ awaiting, name ∈ names)
    (h : parse names before awaiting args = some result) :
    ∃ p, Reads names (awaiting.toList ++ args) p ∧ result = before.append p := by
  induction args generalizing before awaiting with
  | nil =>
    cases awaiting with
    | none =>
      cases h
      exact ⟨_, .nil, (Parsed.append_empty _).symm⟩
    | some name => cases h
  | cons a rest ih =>
    cases awaiting with
    | some name =>
      obtain ⟨p, hp, rfl⟩ := ih (by simp) h
      exact ⟨_, .apart (hawaiting name rfl) hp, by simp [Parsed.append, Parsed.addOption]⟩
    | none =>
      rw [parse] at h
      rcases classifyArgument_cases names a with
        ⟨hk, ha⟩ | ⟨hk, rfl⟩ | ⟨hk, rfl⟩ | ⟨hk, hname⟩ | ⟨name, hname, value, hk, rfl⟩ | hk <;> simp only [hk] at h
      · obtain ⟨p, hp, rfl⟩ := ih (by simp) h
        exact ⟨_, .operand ha hp, by simp [Parsed.append]⟩
      · cases h
        exact ⟨_, .ending _, by simp [Parsed.append, Parsed.empty]⟩
      · obtain ⟨p, hp, rfl⟩ := ih (by simp) h
        exact ⟨_, .help hp, by simp [Parsed.append]⟩
      · -- The name becomes the option that waits, so the step before the value changes nothing.
        exact ih (by simpa using hname) h
      · obtain ⟨p, hp, rfl⟩ := ih (by simp) h
        exact ⟨_, .joined hname hp, by simp [Parsed.append, Parsed.addOption]⟩
      · cases h

/-- The parser reads what the arguments of a command stand for, and refuses arguments that stand for nothing. -/
theorem parse_eq_some_iff (hn : OptionNames names) : parse names .empty none args = some p ↔ Reads names args p := by
  refine ⟨fun h => ?_, fun h => by rw [parse_of_reads hn h, Parsed.empty_append]⟩
  obtain ⟨q, hq, rfl⟩ := reads_of_parse (by simp) h
  rwa [Parsed.empty_append]

/-- What stands for the options before a command comes behind what is read before them. -/
theorem parseGroup_of_leads {left : List String} (hn : OptionNames names) (h : Leads names args p left) (before : Parsed) :
    parseGroup names before none args = some (before.append p, left) := by
  induction h generalizing before with
  | nil => simp [parseGroup, Parsed.append_empty]
  | command ha => simp only [parseGroup, classifyArgument_operand ha, Parsed.append_empty]
  | joined hname _ ih =>
    simp only [parseGroup, classifyArgument_joined hn hname, ih]
    simp [Parsed.append, Parsed.addOption]
  | apart hname _ ih =>
    simp only [parseGroup, classifyArgument_name hn hname, ih]
    simp [Parsed.append, Parsed.addOption]
  | help _ ih =>
    simp only [parseGroup, classifyArgument_help hn, ih]
    simp [Parsed.append]
  | ending rest => simp only [parseGroup, classifyArgument_ending, Parsed.append_empty]

/-- What is read stands for the options before a command. An option that waits for its value counts as one more argument before
them. -/
theorem leads_of_parseGroup {before result : Parsed} {left : List String} {awaiting : Option String}
    (hawaiting : ∀ name ∈ awaiting, name ∈ names) (h : parseGroup names before awaiting args = some (result, left)) :
    ∃ p, Leads names (awaiting.toList ++ args) p left ∧ result = before.append p := by
  induction args generalizing before awaiting with
  | nil =>
    cases awaiting with
    | none =>
      cases h
      exact ⟨_, .nil, (Parsed.append_empty _).symm⟩
    | some name => cases h
  | cons a rest ih =>
    cases awaiting with
    | some name =>
      obtain ⟨p, hp, rfl⟩ := ih (by simp) h
      exact ⟨_, .apart (hawaiting name rfl) hp, by simp [Parsed.append, Parsed.addOption]⟩
    | none =>
      rw [parseGroup] at h
      rcases classifyArgument_cases names a with
        ⟨hk, ha⟩ | ⟨hk, rfl⟩ | ⟨hk, rfl⟩ | ⟨hk, hname⟩ | ⟨name, hname, value, hk, rfl⟩ | hk <;> simp only [hk] at h
      · cases h
        exact ⟨_, .command ha, (Parsed.append_empty _).symm⟩
      · cases h
        exact ⟨_, .ending _, (Parsed.append_empty _).symm⟩
      · obtain ⟨p, hp, rfl⟩ := ih (by simp) h
        exact ⟨_, .help hp, by simp [Parsed.append]⟩
      · exact ih (by simpa using hname) h
      · obtain ⟨p, hp, rfl⟩ := ih (by simp) h
        exact ⟨_, .joined hname hp, by simp [Parsed.append, Parsed.addOption]⟩
      · cases h

/-- The parser reads what the options before a command stand for, and refuses arguments that stand for nothing. -/
theorem parseGroup_eq_some_iff {left : List String} (hn : OptionNames names) :
    parseGroup names .empty none args = some (p, left) ↔ Leads names args p left := by
  refine ⟨fun h => ?_, fun h => by rw [parseGroup_of_leads hn h, Parsed.empty_append]⟩
  obtain ⟨q, hq, rfl⟩ := leads_of_parseGroup (by simp) h
  rwa [Parsed.empty_append]

end Parse

end HttpContract.Cli

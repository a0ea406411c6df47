import HttpContract.Proofs.Outcome
import HttpContract.Proofs.Schema.Mistyped
import HttpContract.Proofs.Schema.WellFormed

/-!
# Declarations judged into one report

Declarations are judged one after the other into a report that all of them share. Whatever finds a fault adds an issue to the
report and returns nothing, from more than one place and for more than one reason (`Declaration.collect`); that nothing is
returned just where something is added has to be shown, and it comes to what the judgement of the declaration alone says
(`run_collect`). So a step only adds to the report, and what it adds and returns does not depend on what is there. Main
statement: `collected_step_by_step`.
-/

namespace HttpContract

/-! ## Reports that are shared -/

namespace SchemaReport

@[simp] theorem extend_nil (r : SchemaReport) : r.extend [] = r := by
  rw [extend, List.append_nil]

@[simp] theorem extend_extend (r : SchemaReport) (a b : List SchemaIssue) : (r.extend a).extend b = r.extend (a ++ b) := by
  rw [extend, extend, extend, List.append_assoc]

/-- The issues that a report held stay in front. -/
theorem prefix_extend (r : SchemaReport) (issues : List SchemaIssue) : r.issues <+: (r.extend issues).issues :=
  List.prefix_append _ _

end SchemaReport

namespace Declaration

variable {side : String} {d : Declaration} {r : SchemaReport}

/-- What a step returns and leaves behind when it comes to a place or to a violation. -/
def placed (side : String) (d : Declaration) (r : SchemaReport) : Except Violation Place → Option Place × SchemaReport
  | .ok place => (some place, r)
  | .error v => (none, r.extend [⟨v, [d.location side]⟩])

/-- An attribute that gives no place is reported. -/
theorem run_collectAttribute (side : String) (d : Declaration) (a : Attribute) (r : SchemaReport) :
    (d.collectAttribute side a).run r = d.placed side r (attributePlace a) := by
  unfold collectAttribute attributePlace
  cases a.value with
  | none =>
    dsimp only
    cases wordPlace? a.name <;> rfl
  | some value =>
    dsimp only
    split
    · rfl
    · split <;> rfl

/-- Attributes that give no place are reported. -/
theorem run_collectPlace (side : String) (d : Declaration) (r : SchemaReport) :
    (d.collectPlace side).run r = d.placed side r d.place := by
  obtain ⟨name, type, attributes⟩ := d
  match attributes with
  | [] => rfl
  | [a] => exact run_collectAttribute side _ a r
  | _ :: _ :: _ => rfl

/-- Judged into a report a declaration becomes the field that it is, and the report gets its issues. -/
theorem run_collect (side : String) (d : Declaration) (r : SchemaReport) :
    (d.collect side).run r = ((d.classify side).field, r.extend (d.classify side).issues) := by
  have hplace := run_collectPlace side d r
  unfold classify declaredType collect
  rw [StateT.run_bind, hplace]
  -- The type is judged behind the place in either case, so that there are four ways to end.
  cases d.place with
  | ok place =>
    cases DeclaredType.ofValue d.type with
    | ok type => exact congrArg (Prod.mk _) r.extend_nil.symm
    | error e => rfl
  | error v =>
    cases DeclaredType.ofValue d.type with
    | ok type => rfl
    | error e => exact congrArg (Prod.mk none) (r.extend_extend _ _)

/-- What is found of a declaration, whatever comes before it: it is a field, and there is no issue; or it is none, and there are
one or two issues at its location, one with its attributes if they stand for no place and one with its type if it names none. -/
inductive Judged (side : String) (d : Declaration) : Option Field → List SchemaIssue → Prop where
  | field {f : Field} : Declares side d f → Judged side d (some f) []
  | refused {issues : List SchemaIssue} : issues.length = 1 ∨ issues.length = 2 →
    (∀ i ∈ issues, i.locations = [d.location side]) →
    ((∃ i ∈ issues, i.violation.topic = .attribute) ↔ ∀ p, ¬Place.Given d.attributes p) →
    ((∃ i ∈ issues, i.violation.topic = .type) ↔ ∀ t, DeclaredType.ofValue d.type ≠ .ok t) → Judged side d none issues

/-- What is wrong with a type is about a type. -/
theorem topic_of_declaredType {v : Violation} (h : d.declaredType = .error v) : v.topic = .type := by
  obtain ⟨e, _, rfl⟩ := Outcome.mapError_eq_error_iff.1 h
  rfl

/-- The judgement of a declaration finds a field or one or two issues. -/
theorem judged_classify (side : String) (d : Declaration) :
    Judged side d (d.classify side).field (d.classify side).issues := by
  have hplaced : (∀ p, ¬Place.Given d.attributes p) ↔ ∀ p, d.place ≠ .ok p :=
    forall_congr' fun p => not_congr place_eq_ok_iff.symm
  have htyped : (∀ t, DeclaredType.ofValue d.type ≠ .ok t) ↔ ∀ t, d.declaredType ≠ .ok t :=
    forall_congr' fun t => not_congr declaredType_eq_ok_iff.symm
  cases hplace : d.place with
  | ok p =>
    cases htype : d.declaredType with
    | ok t =>
      rw [classify_of_ok side hplace htype]
      exact .field ⟨rfl, declaredType_eq_ok_iff.1 htype, place_eq_ok_iff.1 hplace, rfl⟩
    | error w =>
      have htopic := topic_of_declaredType htype
      have hjudged : d.classify side = ⟨[⟨w, [d.location side]⟩], none⟩ := by simp only [classify, hplace, htype]
      rw [hjudged]
      exact .refused (Or.inl rfl) (by simp) (by simp [hplaced, hplace, htopic]) (by simp [htyped, htype, htopic])
  | error v =>
    have hattribute := topic_of_place hplace
    cases htype : d.declaredType with
    | ok t =>
      have hjudged : d.classify side = ⟨[⟨v, [d.location side]⟩], none⟩ := by simp only [classify, hplace, htype]
      rw [hjudged]
      exact .refused (Or.inl rfl) (by simp) (by simp [hplaced, hplace, hattribute]) (by simp [htyped, htype, hattribute])
    | error w =>
      have htopic := topic_of_declaredType htype
      have hjudged : d.classify side = ⟨[⟨v, [d.location side]⟩, ⟨w, [d.location side]⟩], none⟩ := by
        simp only [classify, hplace, htype]
      rw [hjudged]
      exact .refused (Or.inr rfl) (by simp) (by simp [hplaced, hplace, hattribute, htopic])
        (by simp [htyped, htype, hattribute, htopic])

/-- A declaration that is no field has an issue at its location. -/
theorem Judged.field_or_issue {field? : Option Field} {issues : List SchemaIssue} (h : Judged side d field? issues) :
    (∃ f, field? = some f ∧ Declares side d f) ∨ ∃ i ∈ issues, i.locations = [d.location side] := by
  cases h with
  | field hdeclares => exact Or.inl ⟨_, rfl, hdeclares⟩
  | refused hlength hlocated =>
    have hne : issues ≠ [] := by
      rintro rfl
      simp at hlength
    obtain ⟨i, hi⟩ := List.exists_mem_of_ne_nil issues hne
    exact Or.inr ⟨i, hi, hlocated i hi⟩

end Declaration

/-! ## One declaration after the other -/

/-- Judges declarations, each as one of its side, one after the other. -/
def Schema.collectAll (entries : List (String × Declaration)) : StateM SchemaReport (List (Option Field)) :=
  entries.mapM fun e => e.2.collect e.1

/-- Of every declaration there is the field that it is, or none, and the report gets the issues of all. -/
theorem Schema.run_collectAll (entries : List (String × Declaration)) (r : SchemaReport) :
    (collectAll entries).run r = (entries.map fun e => (e.2.classify e.1).field,
      r.extend (entries.flatMap fun e => (e.2.classify e.1).issues)) := by
  induction entries generalizing r with
  | nil => exact congrArg (Prod.mk []) r.extend_nil.symm
  | cons entry entries ih =>
    unfold collectAll at ih ⊢
    rw [List.mapM_cons, StateT.run_bind, Declaration.run_collect]
    have hrest := ih (r.extend (entry.2.classify entry.1).issues)
    rw [SchemaReport.extend_extend] at hrest
    exact congrArg (fun out => ((entry.2.classify entry.1).field :: out.1, out.2)) hrest

/-- Later declarations add to the report that the first ones leave. -/
theorem Schema.report_append (first later : List (String × Declaration)) (r : SchemaReport) :
    ((collectAll (first ++ later)).run r).2 =
      ((collectAll first).run r).2.extend (later.flatMap fun e => (e.2.classify e.1).issues) := by
  rw [run_collectAll, run_collectAll, List.flatMap_append, SchemaReport.extend_extend]

/-- Declarations of any sides, judged one after the other into a report that held anything: at every step the report keeps what
it held in front, and either a field with the name, the type and the place that are declared is returned and no issue added, or
nothing is returned and one or two issues are added, all of them at the declaration. Neither what is returned nor what is added
depends on what the report held. So a side has of each of its declarations the field or an issue at it. -/
theorem collected_step_by_step (r : SchemaReport) :
    (∀ before side d after, ∃ field? issues,
      d.Judged side field? issues ∧ d.classify side = ⟨issues, field?⟩ ∧
      (∀ other, (d.collect side).run other = (field?, other.extend issues)) ∧
      (Schema.collectAll (before ++ [(side, d)])).run r =
        (((Schema.collectAll before).run r).1 ++ [field?], ((Schema.collectAll before).run r).2.extend issues) ∧
      r.issues <+: ((Schema.collectAll before).run r).2.issues ∧
      ((Schema.collectAll (before ++ [(side, d)])).run r).2.issues <+:
        ((Schema.collectAll (before ++ (side, d) :: after)).run r).2.issues) ∧
    ∀ side ds,
      ((Schema.collectAll (ds.map fun d => (side, d))).run r).1.filterMap id = Schema.fieldsOf side ds ∧
      ((Schema.collectAll (ds.map fun d => (side, d))).run r).2 = r.extend (Schema.declarationIssues side ds) ∧
      ∀ d ∈ ds, (∃ f ∈ Schema.fieldsOf side ds, d.Declares side f) ∨
        ∃ i ∈ Schema.declarationIssues side ds, i.locations = [d.location side] := by
  refine ⟨fun before side d after => ?_, fun side ds => ⟨?_, ?_, fun d hd => ?_⟩⟩
  · have hstep : (Schema.collectAll (before ++ [(side, d)])).run r =
        (((Schema.collectAll before).run r).1 ++ [(d.classify side).field],
          ((Schema.collectAll before).run r).2.extend (d.classify side).issues) := by
      simp [Schema.run_collectAll]
    refine ⟨_, _, d.judged_classify side, rfl, d.run_collect side, hstep, ?_, ?_⟩
    · rw [Schema.run_collectAll]
      exact r.prefix_extend _
    · have hall : before ++ (side, d) :: after = (before ++ [(side, d)]) ++ after := by simp
      rw [hall, Schema.report_append (before ++ [(side, d)])]
      exact SchemaReport.prefix_extend _ _
  · rw [Schema.run_collectAll, List.map_map, List.filterMap_map]
    rfl
  · rw [Schema.run_collectAll, List.flatMap_map]
    rfl
  · rcases (d.judged_classify side).field_or_issue with ⟨f, hfield, hdeclares⟩ | ⟨i, hi, hlocated⟩
    · exact Or.inl ⟨f, List.mem_filterMap.2 ⟨d, hd, hfield⟩, hdeclares⟩
    · exact Or.inr ⟨i, List.mem_flatMap.2 ⟨d, hd, hi⟩, hlocated⟩

/-- A field of the path, and a declaration that is wrong in its attribute and in its type. -/
def plainAndSpoilt : List Declaration :=
  [⟨"id", .text "int", [⟨"path", none⟩]⟩, ⟨"when", .text "date", [⟨"cookie", some "at"⟩]⟩]

/-- The field of the path is returned and the other declaration is none; the report that held an issue has two more, at it. -/
theorem collected_plainAndSpoilt :
    let start : SchemaReport := ⟨"spoilt", [⟨.bodyOnGet, ["request.b"]⟩]⟩
    let run := (Schema.collectAll (plainAndSpoilt.map fun d => ("request", d))).run start
    ⟨"when", .text "date", [⟨"cookie", some "at"⟩]⟩ ∈ plainAndSpoilt ∧
      (∃ i ∈ Schema.declarationIssues "request" plainAndSpoilt, i.locations = ["request.when"]) ∧
      (run.1.filterMap id).map (·.name) = ["id"] ∧
      run.2.issues.map (·.code) = ["body-fields-on-get", "unknown-attribute-key", "unknown-type-name"] := by
  intro start run
  obtain ⟨hfields, hreport, hall⟩ := (collected_step_by_step start).2 "request" plainAndSpoilt
  have hmem : ⟨"when", .text "date", [⟨"cookie", some "at"⟩]⟩ ∈ plainAndSpoilt := List.mem_cons_of_mem _ List.mem_cons_self
  refine ⟨hmem, ?_, ?_, ?_⟩
  · refine (hall _ hmem).resolve_left ?_
    rintro ⟨f, _, hdeclares⟩
    have hplace := Declaration.place_eq_ok_iff.2 hdeclares.place
    simp [Declaration.place, Declaration.attributePlace] at hplace
  · rw [hfields]
    decide +kernel
  · rw [hreport]
    decide +kernel

end HttpContract

import HttpContract.Endpoint.Catalog
import HttpContract.Proofs.Json.Members
import Mathlib.Data.List.Induction

/-!
# Catalogs hold each name and each route once

However often endpoints are registered, and whichever of the calls fail, a catalog holds the endpoints that joined it, each
once under its name and once under its route (`Catalog.Holds`). A call fails just if an endpoint with the same name or the
same method and path is there. The two indexes are written one after the other (`Catalog.enter`), and a call that fails has
not begun to write.
-/

namespace HttpContract

/-! ## Routes -/

theorem Method.ofName?_name (m : Method) : ofName? m.name = some m := by
  cases m <;> rfl

/-- A method is known by its name. -/
theorem Method.name_injective : Function.Injective name := by
  intro m m' h
  rw [← Option.some_inj, ← m.ofName?_name, h, m'.ofName?_name]

theorem Method.space_not_mem_name (m : Method) : ' ' ∉ m.name.toList := by
  cases m <;> decide

theorem Method.upper_name (m : Method) : Text.upper m.name = m.name := by
  cases m <;> decide +kernel

/-- The key of a route tells its method and its path. -/
theorem routeKey_inj {m m' : Method} {path path' : String} :
    routeKey m.name path = routeKey m'.name path' ↔ m = m' ∧ path = path' := by
  constructor
  · intro h
    have hchars : m.name.toList ++ ' ' :: path.toList = m'.name.toList ++ ' ' :: path'.toList := by
      simpa [routeKey, Method.upper_name] using congrArg String.toList h
    have hstart (m : Method) (rest : List Char) : (m.name.toList ++ ' ' :: rest).takeWhile (· != ' ') = m.name.toList := by
      rw [List.takeWhile_append_of_pos fun c hc => by simpa using ne_of_mem_of_not_mem hc m.space_not_mem_name]
      simp
    have hm : m = m' := by
      apply Method.name_injective
      rw [← String.toList_inj, ← hstart m path.toList, hchars, hstart]
    subst hm
    rw [List.append_cancel_left_eq, List.cons.injEq] at hchars
    exact ⟨rfl, String.toList_inj.1 hchars.2⟩
  · rintro ⟨rfl, rfl⟩
    rfl

/-- Endpoints of which a catalog has one at most: they have the same name, or the same method and path. -/
def Endpoint.Conflicts (a b : Endpoint) : Prop :=
  a.metadata.name = b.metadata.name ∨ a.metadata.method = b.metadata.method ∧ a.metadata.path = b.metadata.path

theorem Endpoint.route_eq_iff {a b : Endpoint} :
    a.route = b.route ↔ a.metadata.method = b.metadata.method ∧ a.metadata.path = b.metadata.path :=
  routeKey_inj

namespace Catalog

variable {c : Catalog} {es : List Endpoint} {e : Endpoint}

/-! ## What a catalog holds -/

/-- A catalog that holds endpoints: each under its name and its route, no two of them with the same. -/
structure Holds (c : Catalog) (es : List Endpoint) : Prop where
  byName : c.byName = es.map fun e => (e.metadata.name, e)
  byRoute : c.byRoute = es.map fun e => (e.route, e)
  names : (es.map (·.metadata.name)).Nodup
  routes : (es.map fun e => (e.metadata.method, e.metadata.path)).Nodup

theorem holds_empty : empty.Holds [] := ⟨rfl, rfl, List.nodup_nil, List.nodup_nil⟩

namespace Holds

theorem routeKeys (h : c.Holds es) : (es.map Endpoint.route).Nodup := by
  have hkey : Function.Injective fun route : Method × String => routeKey route.1.name route.2 := by
    intro a b hab
    exact Prod.ext_iff.2 (routeKey_inj.1 hab)
  have hmap := h.routes.map hkey
  rwa [List.map_map] at hmap

theorem size_eq (h : c.Holds es) : c.size = es.length := by
  rw [size, h.byName, List.length_map]

theorem get?_eq_some_iff (h : c.Holds es) {name : String} : c.get? name = some e ↔ e ∈ es ∧ e.metadata.name = name := by
  rw [get?, h.byName]
  exact member?_keyed_eq_some_iff h.names

theorem contains_iff (h : c.Holds es) {name : String} : c.contains name = true ↔ ∃ e ∈ es, e.metadata.name = name := by
  rw [contains, Option.isSome_iff_exists]
  exact exists_congr fun e => h.get?_eq_some_iff

theorem member?_byRoute (h : c.Holds es) {route : String} :
    member? route c.byRoute = some e ↔ e ∈ es ∧ e.route = route := by
  rw [h.byRoute]
  exact member?_keyed_eq_some_iff h.routeKeys

theorem atRoute?_eq_some_iff (h : c.Holds es) {m : Method} {path : String} :
    c.atRoute? m.name path = some e ↔ e ∈ es ∧ e.metadata.method = m ∧ e.metadata.path = path := by
  rw [atRoute?, h.member?_byRoute, Endpoint.route, routeKey_inj]

/-- An endpoint without conflicts may be held besides. -/
theorem append (h : c.Holds es) (hfree : ∀ other ∈ es, ¬other.Conflicts e) :
    Holds ⟨c.byName ++ [(e.metadata.name, e)], c.byRoute ++ [(e.route, e)]⟩ (es ++ [e]) := by
  have happend {α : Type} {key : Endpoint → α} (hn : (es.map key).Nodup) (hne : ∀ other ∈ es, key other ≠ key e) :
      ((es ++ [e]).map key).Nodup := by
    rw [List.map_append, List.nodup_append]
    refine ⟨hn, List.nodup_singleton _, ?_⟩
    intro a ha b hb
    obtain ⟨other, hother, rfl⟩ := List.mem_map.1 ha
    rw [List.mem_singleton.1 hb]
    exact hne other hother
  refine ⟨?_, ?_, happend h.names ?_, happend h.routes ?_⟩
  · rw [h.byName, List.map_append]
    rfl
  · rw [h.byRoute, List.map_append]
    rfl
  · intro other hother hname
    exact hfree other hother (Or.inl hname)
  · intro other hother hroute
    exact hfree other hother (Or.inr (Prod.mk.inj hroute))

end Holds

/-! ## One call -/

/-- What becomes of an endpoint beside others. One with the name of another is refused; one with the method and path of
another is too, which is then named; and every other one joins them. -/
inductive Admits (others : List Endpoint) (e : Endpoint) : Option RegisterError → Prop where
  | nameTaken {other : Endpoint} : other ∈ others → other.metadata.name = e.metadata.name →
      Admits others e (some (.nameTaken e.metadata.name))
  | routeTaken {other : Endpoint} : (∀ other ∈ others, other.metadata.name ≠ e.metadata.name) → other ∈ others →
      other.metadata.method = e.metadata.method → other.metadata.path = e.metadata.path →
      Admits others e (some (.routeTaken e.route other.metadata.name))
  | joins : (∀ other ∈ others, ¬other.Conflicts e) → Admits others e none

/-- An endpoint is admitted just if none of the others conflicts with it. -/
theorem Admits.eq_none_iff {outcome : Option RegisterError} (h : Admits es e outcome) :
    outcome = none ↔ ∀ other ∈ es, ¬other.Conflicts e := by
  cases h with
  | nameTaken hother hname => simpa using ⟨_, hother, Or.inl hname⟩
  | routeTaken _ hother hmethod hpath => simpa using ⟨_, hother, Or.inr ⟨hmethod, hpath⟩⟩
  | joins h => simpa using h

/-- A catalog registers an endpoint just if those that it holds admit it, and then holds it too. -/
theorem Holds.register (h : c.Holds es) (e : Endpoint) :
    (∃ err, c.register e = .error err ∧ Admits es e (some err)) ∨
      ∃ c', c.register e = .ok c' ∧ Admits es e none ∧ c'.Holds (es ++ [e]) := by
  unfold Catalog.register
  by_cases hname : c.contains e.metadata.name = true
  · obtain ⟨other, hother, hsame⟩ := h.contains_iff.1 hname
    rw [if_pos hname]
    exact Or.inl ⟨_, rfl, .nameTaken hother hsame⟩
  · have hnames : ∀ other ∈ es, other.metadata.name ≠ e.metadata.name := by
      intro other hother hsame
      exact hname (h.contains_iff.2 ⟨other, hother, hsame⟩)
    rw [if_neg hname]
    cases hroute : member? e.route c.byRoute with
    | some other =>
      obtain ⟨hother, hsame⟩ := h.member?_byRoute.1 hroute
      obtain ⟨hmethod, hpath⟩ := Endpoint.route_eq_iff.1 hsame
      exact Or.inl ⟨_, rfl, .routeTaken hnames hother hmethod hpath⟩
    | none =>
      have hfree : ∀ other ∈ es, ¬other.Conflicts e := by
        rintro other hother (hsame | hsame)
        · exact hnames other hother hsame
        · have hfound := h.member?_byRoute.2 ⟨hother, Endpoint.route_eq_iff.2 hsame⟩
          rw [hroute] at hfound
          cases hfound
      exact Or.inr ⟨_, rfl, .joins hfree, h.append hfree⟩

/-- The catalog refuses an endpoint just if one that it holds conflicts with it. -/
theorem Holds.register_fails_iff (h : c.Holds es) :
    (∃ err, c.register e = .error err) ↔ ∃ other ∈ es, other.Conflicts e := by
  rcases h.register e with ⟨err, herr, hadmits⟩ | ⟨c', hc', hadmits, _⟩
  · have hclash : ¬∀ other ∈ es, ¬other.Conflicts e := by
      intro hfree
      cases hadmits.eq_none_iff.2 hfree
    simp only [not_forall, not_not, exists_prop] at hclash
    exact iff_of_true ⟨err, herr⟩ hclash
  · refine iff_of_false ?_ ?_
    · rintro ⟨err, herr⟩
      rw [hc'] at herr
      cases herr
    · rintro ⟨other, hother, hconflicts⟩
      exact hadmits.eq_none_iff.1 rfl other hother hconflicts

/-- The call in steps: both indexes are looked into before the first is written. -/
def enter (e : Endpoint) : ExceptT RegisterError (StateM Catalog) Endpoint := do
  let c ← get
  if c.contains e.metadata.name then
    throw (.nameTaken e.metadata.name)
  else
    match member? e.route c.byRoute with
    | some other => throw (.routeTaken e.route other.metadata.name)
    | none =>
      modify fun c => { c with byName := insertMember c.byName e.metadata.name e }
      modify fun c => { c with byRoute := insertMember c.byRoute e.route e }
      return e

/-- In steps a call ends as it does at once, and one that fails leaves the catalog as it was. -/
theorem run_enter (c : Catalog) (e : Endpoint) :
    (enter e).run.run c =
      match c.register e with
      | .ok c' => (.ok e, c')
      | .error err => (.error err, c) := by
  -- The steps read the catalog, and what they do next hangs on what they find in it.
  change StateT.run (ExceptT.run (if c.contains e.metadata.name = true then _ else _)) c = _
  unfold register
  by_cases hname : c.contains e.metadata.name = true
  · rw [if_pos hname, if_pos hname]
    rfl
  · rw [if_neg hname, if_neg hname]
    change StateT.run (ExceptT.run (match member? e.route c.byRoute with | some other => _ | none => _)) c = _
    cases hroute : member? e.route c.byRoute with
    | some other => rfl
    | none =>
      have hfresh : e.metadata.name ∉ c.byName.map (·.1) := by
        rw [← member?_eq_none_iff, ← Option.not_isSome_iff_eq_none]
        exact hname
      have hwritten : (⟨insertMember c.byName e.metadata.name e, insertMember c.byRoute e.route e⟩ : Catalog) =
          ⟨c.byName ++ [(e.metadata.name, e)], c.byRoute ++ [(e.route, e)]⟩ := by
        rw [insertMember_of_not_mem e hfresh, insertMember_of_not_mem e (member?_eq_none_iff.1 hroute)]
      exact congrArg (Prod.mk (Except.ok e)) hwritten

/-! ## All calls -/

/-- How calls end, one after the other, and the catalog after them, which is empty before. -/
def calls (es : List Endpoint) : List (Except RegisterError Endpoint) × Catalog :=
  (es.mapM fun e => (enter e).run).run empty

/-- The endpoints that calls have put into the catalog. -/
def joined (es : List Endpoint) : List Endpoint := (calls es).1.filterMap Except.toOption

/-- One more call starts from what the others have left. -/
theorem calls_append (es : List Endpoint) (e : Endpoint) :
    calls (es ++ [e]) =
      match (calls es).2.register e with
      | .ok c' => ((calls es).1 ++ [.ok e], c')
      | .error err => ((calls es).1 ++ [.error err], (calls es).2) := by
  have hlast : calls (es ++ [e]) =
      ((calls es).1 ++ [((enter e).run.run (calls es).2).1], ((enter e).run.run (calls es).2).2) := by
    simp only [calls, List.mapM_append, List.mapM_cons, List.mapM_nil]
    rfl
  rw [hlast, run_enter]
  cases (calls es).2.register e <;> rfl

/-- An endpoint joins by a call that does not fail. -/
theorem joined_append (es : List Endpoint) (e : Endpoint) :
    joined (es ++ [e]) =
      match (calls es).2.register e with
      | .ok _ => joined es ++ [e]
      | .error _ => joined es := by
  unfold joined
  rw [calls_append]
  cases (calls es).2.register e with
  | ok => rw [List.filterMap_append]; rfl
  | error => rw [List.filterMap_append]; exact List.append_nil _

/-- After all calls the catalog holds the endpoints that joined. -/
theorem holds_joined (es : List Endpoint) : (calls es).2.Holds (joined es) := by
  induction es using List.reverseRecOn with
  | nil => exact holds_empty
  | append_singleton es e ih =>
    rw [calls_append, joined_append]
    rcases ih.register e with ⟨err, herr, _⟩ | ⟨c', hc', _, hheld⟩
    · rw [herr]
      exact ih
    · rw [hc']
      exact hheld

/-- Every catalog that calls leave holds each endpoint that joined under its name and its route, which no other has; it has as
many as calls did not fail, and finds them by name and by route. The next call fails just if an endpoint with the name, or
with the method and the path, has joined, and then leaves the catalog as it is. -/
theorem calls_hold_each_once (es : List Endpoint) :
    (calls es).2.Holds (joined es) ∧
    (calls es).2.size = (calls es).1.countP (·.isOk) ∧
    (∀ name e, (calls es).2.get? name = some e ↔ e ∈ joined es ∧ e.metadata.name = name) ∧
    (∀ name, (calls es).2.contains name = true ↔ ∃ e ∈ joined es, e.metadata.name = name) ∧
    (∀ (m : Method) path e, (calls es).2.atRoute? m.name path = some e ↔
      e ∈ joined es ∧ e.metadata.method = m ∧ e.metadata.path = path) ∧
    ∀ e, ((∃ err, (calls es).2.register e = .error err) ↔ ∃ other ∈ joined es, other.Conflicts e) ∧
      (∀ err, (calls es).2.register e = .error err → calls (es ++ [e]) = ((calls es).1 ++ [.error err], (calls es).2)) ∧
      ∀ c, (calls es).2.register e = .ok c → calls (es ++ [e]) = ((calls es).1 ++ [.ok e], c) := by
  have h := holds_joined es
  refine ⟨h, ?_, fun _ _ => h.get?_eq_some_iff, fun _ => h.contains_iff, fun _ _ _ => h.atRoute?_eq_some_iff,
    fun e => ⟨h.register_fails_iff, fun err herr => ?_, fun c hc => ?_⟩⟩
  · rw [h.size_eq, joined, List.length_filterMap_eq_countP]
    exact List.countP_congr fun outcome _ => by cases outcome <;> simp [Except.toOption, Except.isOk, Except.toBool]
  · rw [calls_append, herr]
  · rw [calls_append, hc]

end Catalog

end HttpContract

import HttpContract.Proofs.Endpoint.Build
import HttpContract.Proofs.Endpoint.Catalog
import Mathlib.Data.Prod.Lex
import Mathlib.Data.String.Basic

/-!
# The order of the listing

A catalog lists its endpoints by path, method and name (`Endpoint.listingKey`). No two endpoints of a catalog have the same
name, so that the order leaves no ties, and what is listed hangs on which endpoints there are and not on how they came.
Main statement: `exists_listing_of_distinct`.
-/

namespace HttpContract

/-- What endpoints are listed by: the path, then the method, then the name. -/
def Endpoint.listingKey (e : Endpoint) : String ×ₗ String ×ₗ String :=
  toLex (e.metadata.path, toLex (e.metadata.method.name, e.metadata.name))

namespace Catalog

variable {c c' : Catalog} {es es' : List Endpoint}

/-! ## One catalog -/

/-- The comparison of the listing is that of the keys. -/
theorem listedBefore_iff {a b : Endpoint} : listedBefore a b = true ↔ a.listingKey ≤ b.listingKey := by
  unfold listedBefore Endpoint.listingKey
  rw [Prod.Lex.toLex_le_toLex, Prod.Lex.toLex_le_toLex]
  simp only [beq_iff_eq, ← Method.name_injective.eq_iff (a := a.metadata.method)]
  by_cases hpath : a.metadata.path = b.metadata.path
  · by_cases hmethod : a.metadata.method.name = b.metadata.method.name
    · simp [-String.lt_iff_ltb, hpath, hmethod]
    · simp [-String.lt_iff_ltb, hpath, hmethod, le_iff_lt_or_eq]
  · simp [-String.lt_iff_ltb, hpath, le_iff_lt_or_eq]

/-- What is listed is what is held. -/
theorem Holds.toList_perm (h : c.Holds es) : c.toList.Perm es := by
  have hvalues : c.byName.map (·.2) = es := by
    rw [h.byName, List.map_map]
    exact List.map_id es
  rw [toList, hvalues]
  exact List.mergeSort_perm es listedBefore

/-- The keys of a listing never go back. -/
theorem pairwise_toList (c : Catalog) : c.toList.Pairwise fun a b => a.listingKey ≤ b.listingKey := by
  refine (List.pairwise_mergeSort ?_ ?_ _).imp listedBefore_iff.1
  · intro a b c hab hbc
    exact listedBefore_iff.2 ((listedBefore_iff.1 hab).trans (listedBefore_iff.1 hbc))
  · intro a b
    simpa only [Bool.or_eq_true, listedBefore_iff] using le_total a.listingKey b.listingKey

/-- Names are held once, so no two keys of a listing are the same. -/
theorem Holds.pairwise_lt_toList (h : c.Holds es) : c.toList.Pairwise fun a b => a.listingKey < b.listingKey := by
  have hnames : c.toList.Pairwise fun a b => a.metadata.name ≠ b.metadata.name := by
    rw [← List.pairwise_map]
    exact (h.toList_perm.map _).nodup_iff.2 h.names
  refine (c.pairwise_toList.and hnames).imp ?_
  rintro a b ⟨hle, hne⟩
  refine lt_of_le_of_ne hle fun hkey => hne ?_
  exact congrArg (fun key => (ofLex (ofLex key).2).2) hkey

theorem Holds.nodup_toList (h : c.Holds es) : c.toList.Nodup :=
  h.pairwise_lt_toList.imp fun hlt => by
    rintro rfl
    exact lt_irrefl _ hlt

/-- Catalogs that hold the same endpoints list them in the same order. -/
theorem Holds.toList_eq_of_perm (h : c.Holds es) (h' : c'.Holds es') (hperm : es'.Perm es) : c'.toList = c.toList := by
  refine List.Perm.eq_of_pairwise ?_ h'.pairwise_lt_toList h.pairwise_lt_toList
    (h'.toList_perm.trans (hperm.trans h.toList_perm.symm))
  intro a b _ _ hab hba
  exact absurd hba hab.asymm

/-! ## Endpoints without conflicts -/

/-- Endpoints with names and routes of their own all join, whatever the order. -/
theorem calls_of_distinct (hnames : (es.map (·.metadata.name)).Nodup)
    (hroutes : (es.map fun e => (e.metadata.method, e.metadata.path)).Nodup) :
    (calls es).1 = es.map .ok ∧ (calls es).2.Holds es := by
  induction es using List.reverseRecOn with
  | nil => exact ⟨rfl, holds_empty⟩
  | append_singleton es e ih =>
    rw [List.map_append, List.nodup_append] at hnames hroutes
    obtain ⟨hall, hheld⟩ := ih hnames.1 hroutes.1
    have hfree : ∀ other ∈ es, ¬other.Conflicts e := by
      rintro other hother (hname | ⟨hmethod, hpath⟩)
      · exact hnames.2.2 _ (List.mem_map_of_mem hother) _ List.mem_cons_self hname
      · exact hroutes.2.2 _ (List.mem_map_of_mem hother) _ List.mem_cons_self (Prod.ext hmethod hpath)
    rw [calls_append]
    rcases hheld.register e with ⟨err, _, hrefused⟩ | ⟨c', hc', _, hheld'⟩
    · cases hrefused.eq_none_iff.2 hfree
    · rw [hc', hall, List.map_append]
      exact ⟨rfl, hheld'⟩

/-- Endpoints with names and routes of their own have one listing. It has each of them once and goes strictly up by path,
method and name; and in whatever order they are registered, no call fails, and what the catalog lists and describes is this
listing. -/
theorem exists_listing_of_distinct (hnames : (es.map (·.metadata.name)).Nodup)
    (hroutes : (es.map fun e => (e.metadata.method, e.metadata.path)).Nodup) :
    ∃ listing : List Endpoint, listing.Perm es ∧ listing.Nodup ∧
      (listing.Pairwise fun a b => a.listingKey < b.listingKey) ∧
      ∀ es' : List Endpoint, es'.Perm es →
        (calls es').1 = es'.map .ok ∧ (calls es').2.toList = listing ∧
          (calls es').2.describe = listing.map Endpoint.describe := by
  obtain ⟨_, hheld⟩ := calls_of_distinct hnames hroutes
  refine ⟨(calls es).2.toList, hheld.toList_perm, hheld.nodup_toList, hheld.pairwise_lt_toList, fun es' hperm => ?_⟩
  obtain ⟨hall, hheld'⟩ := calls_of_distinct ((hperm.map _).nodup_iff.2 hnames) ((hperm.map _).nodup_iff.2 hroutes)
  have hsame := hheld.toList_eq_of_perm hheld' hperm
  exact ⟨hall, hsame, congrArg (List.map Endpoint.describe) hsame⟩

/-- An endpoint without fields. -/
def plainEndpoint (method : Method) (name step : String) : Endpoint :=
  .fitted ⟨method, name, "", "/" ++ step, false, false⟩
    ⟨⟨"request", []⟩, ⟨"response", []⟩, ⟨"/" ++ step, [.literal step]⟩⟩ .default

/-- Three endpoints, two of them with one path and two with one method. -/
def threeEndpoints : List Endpoint :=
  [plainEndpoint .get "b" "b", plainEndpoint .post "a_post" "a", plainEndpoint .get "a" "a"]

/-- Registered last to first, they are listed by path and then by method. -/
theorem listing_threeEndpoints :
    (threeEndpoints.map (·.metadata.name)).Nodup ∧
      (threeEndpoints.map fun e => (e.metadata.method, e.metadata.path)).Nodup ∧
      (calls threeEndpoints).1 = threeEndpoints.map .ok ∧
      (calls threeEndpoints).2.toList = threeEndpoints.reverse := by
  have hnames : (threeEndpoints.map (·.metadata.name)).Nodup := by decide
  have hroutes : (threeEndpoints.map fun e => (e.metadata.method, e.metadata.path)).Nodup := by decide
  obtain ⟨listing, hperm, _, hsorted, hlisted⟩ := exists_listing_of_distinct hnames hroutes
  obtain ⟨hall, hlist, _⟩ := hlisted _ (.refl _)
  have hreverse : threeEndpoints.reverse.Pairwise fun a b => a.listingKey < b.listingKey := by decide +kernel
  have hsame : listing = threeEndpoints.reverse :=
    (hperm.trans threeEndpoints.reverse_perm.symm).eq_of_pairwise (fun _ _ _ _ hab hba => absurd hba hab.asymm)
      hsorted hreverse
  exact ⟨hnames, hroutes, hall, hlist.trans hsame⟩

end Catalog

end HttpContract

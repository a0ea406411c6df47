import HttpContract.Proofs.Part.Header

/-!
# Headers are read whatever their order and letter case

Headers that differ from one another beyond letter case hold one value under a name. A lookup finds it in whatever place
and spelling it is there: that the name as it is spelled is tried first makes no difference (`lookup_eq_scan`). So headers in
another order and other spellings are read alike, with the same values or with the same error. Main statement:
`decode_eq_of_respelled`.
-/

namespace HttpContract

namespace Headers

variable {headers others : Headers} {name value : String}

/-! ## Looking up among distinct headers -/

/-- Nothing is found under a name exactly when no header has it in any spelling. -/
theorem lookup_eq_none_iff : headers.lookup name = none ↔ ∀ m ∈ headers, sameName m.1 name = false := by
  unfold lookup
  constructor
  · intro h m hm
    split at h
    · cases h
    · rw [Option.map_eq_none_iff, List.find?_eq_none] at h
      exact Bool.eq_false_iff.2 (h m hm)
  · intro h
    have hexact : member? name headers = none := by
      rw [member?_eq_none_iff]
      intro hmem
      obtain ⟨m, hm, rfl⟩ := List.mem_map.1 hmem
      have hself := h m hm
      rw [sameName_self] at hself
      cases hself
    have hscan : headers.find? (fun m => sameName m.1 name) = none :=
      List.find?_eq_none.2 fun m hm => Bool.eq_false_iff.1 (h m hm)
    rw [hexact, hscan]
    rfl

/-- Distinct headers with one name are one. -/
theorem Distinct.eq_of_sameName (distinct : headers.Distinct) {m n : String × String} (hm : m ∈ headers) (hn : n ∈ headers)
    (hmname : sameName m.1 name = true) (hnname : sameName n.1 name = true) : m = n :=
  List.inj_on_of_nodup_map distinct hm hn ((beq_iff_eq.1 hmname).trans (beq_iff_eq.1 hnname).symm)

/-- Among distinct headers the value under a name is that of the header with the name, in any spelling. -/
theorem Distinct.lookup_eq_some_iff (distinct : headers.Distinct) :
    headers.lookup name = some value ↔ ∃ m ∈ headers, sameName m.1 name = true ∧ m.2 = value := by
  constructor
  · exact exists_of_lookup
  · rintro ⟨m, hm, hname, rfl⟩
    cases hfound : headers.lookup name with
    | none =>
      have hother := lookup_eq_none_iff.1 hfound m hm
      rw [hname] at hother
      cases hother
    | some found =>
      obtain ⟨n, hn, hnname, rfl⟩ := exists_of_lookup hfound
      rw [distinct.eq_of_sameName hn hm hnname hname]

/-- Among distinct headers the first one with the name in any spelling is the one that is found, though the name as it is
spelled is tried first. -/
theorem Distinct.lookup_eq_scan (distinct : headers.Distinct) (name : String) :
    headers.lookup name = (headers.find? fun m => sameName m.1 name).map (·.2) := by
  cases hscan : headers.find? fun m => sameName m.1 name with
  | none =>
    rw [List.find?_eq_none] at hscan
    exact lookup_eq_none_iff.2 fun m hm => Bool.eq_false_iff.2 (hscan m hm)
  | some m =>
    have hname := List.find?_some hscan
    exact distinct.lookup_eq_some_iff.2 ⟨m, List.mem_of_find?_eq_some hscan, hname, rfl⟩

/-! ## Other spellings -/

/-- Whether two headers have one name and the same value. -/
def SameEntry (m n : String × String) : Prop := sameName m.1 n.1 = true ∧ m.2 = n.2

/-- Whether headers are the others in another order and other spellings of their names. -/
def Respelled (headers others : Headers) : Prop := ∃ moved, headers.Perm moved ∧ List.Forall₂ SameEntry moved others

theorem Respelled.exists_left (h : headers.Respelled others) {m : String × String} (hm : m ∈ headers) :
    ∃ n ∈ others, SameEntry m n := by
  obtain ⟨moved, hperm, hsame⟩ := h
  exact Outcome.exists_of_forall₂ hsame (hperm.mem_iff.1 hm)

theorem Respelled.exists_right (h : headers.Respelled others) {n : String × String} (hn : n ∈ others) :
    ∃ m ∈ headers, SameEntry m n := by
  obtain ⟨moved, hperm, hsame⟩ := h
  obtain ⟨m, hm, hentry⟩ := Outcome.exists_of_forall₂ hsame.flip hn
  exact ⟨m, hperm.mem_iff.2 hm, hentry⟩

/-- In another order and other spellings distinct headers stay distinct. -/
theorem Distinct.of_respelled (distinct : headers.Distinct) (h : headers.Respelled others) : others.Distinct := by
  obtain ⟨moved, hperm, hsame⟩ := h
  have hlower : moved.map (fun m => Text.lower m.1) = others.map fun m => Text.lower m.1 := by
    rw [← List.forall₂_eq_eq_eq, List.forall₂_map_left_iff, List.forall₂_map_right_iff]
    exact hsame.imp fun m n hentry => beq_iff_eq.1 hentry.1
  rw [Distinct, ← hlower]
  exact (hperm.map _).nodup_iff.1 distinct

/-- In another order and other spellings distinct headers hold the same values. -/
theorem Distinct.lookup_eq_of_respelled (distinct : headers.Distinct) (h : headers.Respelled others) (name : String) :
    headers.lookup name = others.lookup name := by
  refine Option.ext fun value => ?_
  rw [distinct.lookup_eq_some_iff, (distinct.of_respelled h).lookup_eq_some_iff]
  constructor
  · rintro ⟨m, hm, hname, rfl⟩
    obtain ⟨n, hn, hsame, hvalue⟩ := h.exists_left hm
    exact ⟨n, hn, (sameName_congr hsame name).symm.trans hname, hvalue.symm⟩
  · rintro ⟨n, hn, hname, rfl⟩
    obtain ⟨m, hm, hsame, hvalue⟩ := h.exists_right hn
    exact ⟨m, hm, (sameName_congr hsame name).trans hname, hvalue⟩

end Headers

namespace HeaderPart

/-- Headers are read by what is found under the names of the slots, and by nothing else. -/
theorem decode_eq_of_lookup (p : HeaderPart) {headers others : Headers}
    (h : ∀ slot ∈ p.slots, headers.lookup slot.header = others.lookup slot.header) : p.decode headers = p.decode others := by
  refine congrArg (Except.map membersOf) (Outcome.mapM_congr fun slot hslot => ?_)
  simp only [decodeSlot, h slot hslot]

/-- Headers that differ from one another beyond letter case are read alike in whatever order and spelling: with the same values,
or with the same error for the same slot. Under each name both hold the value of the one header with that name, whether the
name is spelled like it or not. -/
theorem decode_eq_of_respelled (p : HeaderPart) {headers others : Headers} (distinct : headers.Distinct)
    (respelled : headers.Respelled others) :
    p.decode headers = p.decode others ∧
      ∀ name, headers.lookup name = others.lookup name ∧
        headers.lookup name = (headers.find? fun m => Headers.sameName m.1 name).map (·.2) ∧
        others.lookup name = (others.find? fun m => Headers.sameName m.1 name).map (·.2) := by
  have hlookup := distinct.lookup_eq_of_respelled respelled
  exact ⟨p.decode_eq_of_lookup fun slot _ => hlookup slot.header,
    fun name => ⟨hlookup name, distinct.lookup_eq_scan name, (distinct.of_respelled respelled).lookup_eq_scan name⟩⟩

/-- A count, a mark if there is one, and a rate. -/
def countedFields : List Field :=
  [⟨"count", .known .int, .header "X-Count", ""⟩, ⟨"mark", .known (.optional .str), .header "ETag", ""⟩,
    ⟨"rate", .known .float, .header "X-Rate", ""⟩]

/-- A count, a mark and a rate that is no number are read alike in another order and in small letters: the error is that of the
rate. -/
theorem decode_countedFields :
    Headers.Distinct [("X-Count", "3"), ("etag", "a"), ("X-Rate", "fast")] ∧
      Headers.Respelled [("X-Count", "3"), ("etag", "a"), ("X-Rate", "fast")]
        [("x-rate", "fast"), ("x-count", "3"), ("ETag", "a")] ∧
      (fitted countedFields).decode [("X-Count", "3"), ("etag", "a"), ("X-Rate", "fast")] =
        (fitted countedFields).decode [("x-rate", "fast"), ("x-count", "3"), ("ETag", "a")] := by
  have hdistinct : Headers.Distinct [("X-Count", "3"), ("etag", "a"), ("X-Rate", "fast")] := by
    unfold Headers.Distinct
    decide
  have hrespelled : Headers.Respelled [("X-Count", "3"), ("etag", "a"), ("X-Rate", "fast")]
      [("x-rate", "fast"), ("x-count", "3"), ("ETag", "a")] := by
    refine ⟨[("X-Rate", "fast"), ("X-Count", "3"), ("etag", "a")], by decide, ?_⟩
    exact .cons ⟨by decide, rfl⟩ (.cons ⟨by decide, rfl⟩ (.cons ⟨by decide, rfl⟩ .nil))
  exact ⟨hdistinct, hrespelled, ((fitted countedFields).decode_eq_of_respelled hdistinct hrespelled).1⟩

end HeaderPart

end HttpContract

import HttpContract.Path.Template

/-!
# Templates and their segments

A template is its text cut at the slashes, so that no segment holds one and there is always a segment. Written again and joined
the segments are the text (`PathTemplate.join_segments`). The other way round a list of segments is read back from the text
that it is joined to, as long as each of them is read as what it is written for (`Segment.Plain`): then the list and the text
tell each other. Main statement: `PathTemplate.parse_lossless`.
-/

namespace HttpContract

/-! ## Texts between slashes -/

/-- Splitting at slashes undoes joining with them. -/
theorem splitPath_join {texts : List String} (hne : texts ≠ []) (h : ∀ text ∈ texts, '/' ∉ text.toList) :
    splitPath ("/" ++ String.intercalate "/" texts) = texts := by
  have hsplit : (['/'].intercalate (texts.map String.toList)).splitOn '/' = texts.map String.toList := by
    refine List.splitOn_intercalate _ (fun cs hcs => ?_) (by simpa using hne)
    obtain ⟨text, htext, rfl⟩ := List.mem_map.1 hcs
    exact h text htext
  have hlist : ("/" ++ String.intercalate "/" texts).toList = '/' :: ['/'].intercalate (texts.map String.toList) := by
    rw [String.toList_append, String.toList_intercalate]
    rfl
  have hback : String.ofList ∘ String.toList = id := funext fun _ => String.ofList_toList
  rw [splitPath, hlist]
  show ((['/'].intercalate (texts.map String.toList)).splitOn '/').map String.ofList = texts
  rw [hsplit, List.map_map, hback, List.map_id]

/-- What lies between separators holds none. -/
theorem not_mem_of_mem_splitOn {c : Char} {cs part : List Char} (h : part ∈ cs.splitOn c) : c ∉ part := by
  rw [List.splitOn_eq_splitOnP] at h
  induction cs generalizing part with
  | nil =>
    rw [List.splitOnP_nil, List.mem_singleton] at h
    exact h ▸ List.not_mem_nil
  | cons d cs ih =>
    rw [List.splitOnP_cons_eq_if_modifyHead] at h
    split at h
    · rcases List.mem_cons.1 h with rfl | h
      · exact List.not_mem_nil
      · exact ih h
    · rename_i hd
      rw [beq_iff_eq] at hd
      cases hsplit : cs.splitOnP (· == c) with
      | nil => exact absurd hsplit (List.splitOnP_ne_nil _ _)
      | cons first rest =>
        rw [hsplit, List.modifyHead_cons, List.mem_cons] at h
        rw [hsplit] at ih
        rcases h with rfl | h
        · rw [List.mem_cons, not_or]
          exact ⟨fun heq => hd heq.symm, ih List.mem_cons_self⟩
        · exact ih (List.mem_cons_of_mem _ h)

theorem slash_not_mem_pathSegments {path part : List Char} (h : part ∈ pathSegments path) : '/' ∉ part := by
  unfold pathSegments at h
  split at h <;> exact not_mem_of_mem_splitOn h

/-- A path has at least one segment. -/
theorem pathSegments_ne_nil (path : List Char) : pathSegments path ≠ [] := by
  unfold pathSegments
  split <;> exact List.splitOn_ne_nil _ _

/-! ## Segments -/

namespace Segment

/-- A segment is written as it was read. -/
theorem text_ofChars (cs : List Char) : (ofChars cs).text = String.ofList cs := by
  unfold ofChars
  split
  · rw [text, ← String.toList_inj, String.toList_append, String.toList_ofList, String.toList_ofList]
    simp
  · rfl

/-- A segment that is read as what it is written for: there is no slash in it, and a literal one does not start with a
colon. -/
def Plain : Segment → Prop
  | literal text => '/' ∉ text.toList ∧ text.toList.head? ≠ some ':'
  | placeholder name => '/' ∉ name.toList

/-- A plain segment has no slash as it is written. -/
theorem Plain.slash_not_mem {s : Segment} (h : s.Plain) : '/' ∉ s.text.toList := by
  cases s with
  | literal text => exact h.1
  | placeholder name =>
    rw [text, String.toList_append, List.mem_append, not_or]
    exact ⟨by decide, h⟩

/-- A plain segment is read as it was written. -/
theorem Plain.ofChars_text {s : Segment} (h : s.Plain) : ofChars s.text.toList = s := by
  cases s with
  | literal text =>
    show ofChars text.toList = literal text
    unfold ofChars
    split
    · rename_i name hname
      rw [Plain, hname] at h
      exact absurd rfl h.2
    · rw [String.ofList_toList]
  | placeholder name =>
    have hchars : (placeholder name).text.toList = ':' :: name.toList := by
      rw [text, String.toList_append]
      rfl
    rw [hchars, ofChars, String.ofList_toList]

/-- What is read of a text without slashes is plain. -/
theorem plain_ofChars {cs : List Char} (h : '/' ∉ cs) : (ofChars cs).Plain := by
  unfold ofChars
  split
  · rename_i name
    rw [Plain, String.toList_ofList]
    exact fun hmem => h (List.mem_cons_of_mem _ hmem)
  · rename_i hliteral
    rw [Plain, String.toList_ofList]
    refine ⟨h, fun hhead => ?_⟩
    obtain ⟨name, rfl⟩ := List.head?_eq_some_iff.1 hhead
    exact hliteral name rfl

end Segment

/-! ## Templates -/

/-- The literal segments of a template hold no slash. -/
theorem slash_not_mem_literal {path text : String} (h : .literal text ∈ (PathTemplate.ofRooted path).segments) :
    '/' ∉ text.toList := by
  obtain ⟨cs, hcs, hsegment⟩ := List.mem_map.1 h
  have hnot := slash_not_mem_pathSegments hcs
  unfold Segment.ofChars at hsegment
  split at hsegment
  · cases hsegment
  · cases hsegment
    rwa [String.toList_ofList]

namespace PathTemplate

/-- The path of segments: each as it is written, behind a slash. -/
def join (segments : List Segment) : String := "/" ++ String.intercalate "/" (segments.map Segment.text)

/-- Joined again, the segments of a template are its text. -/
theorem join_segments {path : String} (h : isRooted path = true) : join (ofRooted path).segments = path := by
  rw [isRooted, beq_iff_eq] at h
  obtain ⟨rest, hrest⟩ := List.head?_eq_some_iff.1 h
  have hsegments : (ofRooted path).segments.map Segment.text = (rest.splitOn '/').map String.ofList := by
    rw [ofRooted, List.map_map, hrest]
    exact List.map_congr_left fun cs _ => Segment.text_ofChars cs
  have hback : String.toList ∘ String.ofList = id := funext fun _ => String.toList_ofList
  rw [join, hsegments, ← String.toList_inj, String.toList_append, String.toList_intercalate, List.map_map, hback,
    List.map_id, hrest]
  exact congrArg ('/' :: ·) (List.intercalate_splitOn '/')

/-- The segments of a template are those that its text splits into. -/
theorem segments_ofRooted (path : String) :
    (ofRooted path).segments = (splitPath path).map fun text => Segment.ofChars text.toList := by
  rw [ofRooted, splitPath, List.map_map]
  refine List.map_congr_left fun cs _ => ?_
  rw [Function.comp_apply, String.toList_ofList]

theorem isRooted_join (segments : List Segment) : isRooted (join segments) = true := by
  rw [isRooted, join, String.toList_append]
  rfl

/-- Plain segments are read back from the path that they are joined to. -/
theorem segments_join {segments : List Segment} (hne : segments ≠ []) (h : ∀ s ∈ segments, s.Plain) :
    (ofRooted (join segments)).segments = segments := by
  have hsplit : splitPath (join segments) = segments.map Segment.text := by
    refine splitPath_join (by simpa using hne) fun text htext => ?_
    obtain ⟨s, hs, rfl⟩ := List.mem_map.1 htext
    exact (h s hs).slash_not_mem
  rw [segments_ofRooted, hsplit, List.map_map]
  exact (List.map_congr_left fun s hs => (h s hs).ofChars_text).trans (List.map_id segments)

/-- Segments that a template can have: there is one, and all of them are plain. -/
structure Segmented (segments : List Segment) : Prop where
  ne_nil : segments ≠ []
  plain : ∀ s ∈ segments, s.Plain

theorem segmented_ofRooted (path : String) : Segmented (ofRooted path).segments where
  ne_nil h := pathSegments_ne_nil path.toList (List.map_eq_nil_iff.1 h)
  plain s hs := by
    obtain ⟨cs, hcs, rfl⟩ := List.mem_map.1 hs
    exact Segment.plain_ofChars (slash_not_mem_pathSegments hcs)

/-- A text is read as a template exactly if the segments of the template are plain and joined to the text. -/
theorem parse_eq_ok_iff {path : String} {t : PathTemplate} :
    parse path = .ok t ↔ t.raw = path ∧ Segmented t.segments ∧ join t.segments = path := by
  unfold parse
  constructor
  · intro h
    split at h
    · rename_i hrooted
      cases h
      exact ⟨rfl, segmented_ofRooted path, join_segments hrooted⟩
    · cases h
  · obtain ⟨raw, segments⟩ := t
    rintro ⟨rfl, hsegmented, hjoin⟩
    dsimp only at hsegmented hjoin
    rw [← hjoin, if_pos (isRooted_join segments), Except.ok.injEq, PathTemplate.mk.injEq]
    exact ⟨rfl, segments_join hsegmented.ne_nil hsegmented.plain⟩

/-- Reading a template loses nothing. A text with a slash in front is read as segments that are joined to it again, and there is
one of them at least and all are plain; every list of plain segments, if it is not empty, is read back from the text that it
is joined to; and a text without a slash in front is refused. -/
theorem parse_lossless :
    (∀ path, path.toList.head? = some '/' →
      ∃ t, parse path = .ok t ∧ t.raw = path ∧ join t.segments = path ∧ t.segments ≠ [] ∧ ∀ s ∈ t.segments, s.Plain) ∧
    (∀ segments : List Segment, segments ≠ [] → (∀ s ∈ segments, s.Plain) →
      parse (join segments) = .ok ⟨join segments, segments⟩) ∧
    ∀ path, path.toList.head? ≠ some '/' → parse path = .error ⟨path⟩ := by
  refine ⟨fun path hrooted => ?_, fun segments hne hplain => ?_, fun path hunrooted => ?_⟩
  · have hparse : parse path = .ok (ofRooted path) := if_pos (beq_iff_eq.2 hrooted)
    obtain ⟨hraw, hsegmented, hjoin⟩ := parse_eq_ok_iff.1 hparse
    exact ⟨_, hparse, hraw, hjoin, hsegmented.ne_nil, hsegmented.plain⟩
  · exact parse_eq_ok_iff.2 ⟨rfl, ⟨hne, hplain⟩, rfl⟩
  · exact if_neg fun hrooted => hunrooted (beq_iff_eq.1 hrooted)

/-- The segments of a path with an empty one, a placeholder without a name, and colons that mark none. -/
def oddSegments : List Segment := [.literal "", .placeholder "", .literal "a:b", .placeholder ":c", .literal ""]

/-- Odd segments are read back, and so is the text that they are joined to. Without its slash it is refused. -/
theorem parse_oddSegments :
    (∀ s ∈ oddSegments, s.Plain) ∧ join oddSegments = "//:/a:b/::c/" ∧
      parse "//:/a:b/::c/" = .ok ⟨"//:/a:b/::c/", oddSegments⟩ ∧
      (∃ t, parse "//:/a:b/::c/" = .ok t ∧ join t.segments = "//:/a:b/::c/") ∧
      parse ":/a:b/" = .error ⟨":/a:b/"⟩ := by
  obtain ⟨hread, hback, hrefused⟩ := parse_lossless
  have hplain : ∀ s ∈ oddSegments, s.Plain := by simp [oddSegments, Segment.Plain]
  have hjoin : join oddSegments = "//:/a:b/::c/" := by decide +kernel
  have hparse := hback oddSegments (List.cons_ne_nil _ _) hplain
  obtain ⟨t, ht, _, hown, _⟩ := hread "//:/a:b/::c/" (by decide)
  rw [hjoin] at hparse
  exact ⟨hplain, hjoin, hparse, ⟨t, ht, hown⟩, hrefused _ (by decide)⟩

end PathTemplate

end HttpContract

import HttpContract.Part.Body
import HttpContract.Part.Header
import HttpContract.Proofs.Part.Path
import HttpContract.Proofs.Part.Query

/-!
# Errors lie in the part that was read

Every error of reading tells which part of a message it lies in, but for two: that a hidden slot has no value, and that the
gathered values make up no record. Reading a part of visible slots fails with none of these two, and always with an error of
the part that was read.
-/

namespace HttpContract

/-- The parts of messages that are looked at one by one. -/
inductive MessagePart where
  | status
  | path
  | query
  | headers
  | body
  deriving DecidableEq, Repr

/-- The part of the message that an error lies in. The values as a whole are no part of the message. -/
def DecodeError.part? : DecodeError → Option MessagePart
  | missingSegment _ | badSegment .. => some .path
  | badQuery .. => some .query
  | missingHeader _ | badHeader .. => some .headers
  | badBody _ => some .body
  | status _ => some .status
  | hidden _ | invalid .. => none

variable {slots : List Slot} {e : DecodeError}

/-! ## The path -/

namespace PathPart

/-- A path that cannot be read has an error of the path. -/
theorem part?_of_decode {p : PathPart} {path : String} (h : p.decode path = .error e) : e.part? = some .path := by
  rw [decode_eq_mapM, Outcome.mapM_eq_error_iff] at h
  obtain ⟨_, place, _, _, _, h⟩ := h
  unfold readAt at h
  split at h
  · cases h
    rfl
  · split at h
    · cases h
    · cases h
      rfl

end PathPart

/-! ## The query -/

namespace QueryPart

theorem exists_badQuery_of_slotInput {query : String} {q : QuerySlot} {texts : List String}
    (h : slotInput query q texts = .error e) : ∃ detail, e = .badQuery query detail := by
  unfold slotInput at h
  split at h
  · cases h
  · split at h
    · cases h
    · split at h
      · split at h
        · cases h
        · cases h
          exact ⟨_, rfl⟩
      · cases h
        exact ⟨_, rfl⟩

theorem exists_badQuery_of_inputs {query : String} {pairs : List (String × String)} {qs : List QuerySlot}
    (h : inputs query pairs qs = .error e) : ∃ detail, e = .badQuery query detail := by
  induction qs with
  | nil => cases h
  | cons q qs ih =>
    rcases Outcome.bind_eq_error_iff.1 h with h | ⟨input, _, h⟩
    · exact exists_badQuery_of_slotInput h
    · rcases Outcome.bind_eq_error_iff.1 h with h | ⟨later, _, h⟩
      · exact ih h
      · cases h

/-- A query of visible slots that cannot be read has an error with the query. -/
theorem exists_badQuery_of_decode {name : String} (hn : (slots.map (·.name)).Nodup)
    (hvisible : ∀ s ∈ slots, s.isHidden = false) {text : Option String} (h : (ofSlots name slots).decode text = .error e) :
    ∃ detail, e = .badQuery (text.getD "") detail := by
  rcases Outcome.bind_eq_error_iff.1 h with h | ⟨members, _, h⟩
  · exact exists_badQuery_of_inputs h
  · rcases Outcome.bind_eq_error_iff.1 h with h | ⟨values, hvalues, h⟩
    · obtain ⟨issues, _, rfl⟩ := Outcome.mapError_eq_error_iff.1 h
      exact ⟨_, rfl⟩
    · -- All slots are accepted, so that none of them is without a value.
      obtain ⟨slot, hslot, _⟩ := Outcome.mapError_eq_error_iff.1 h
      rw [Outcome.mapError_eq_ok_iff, Record.acceptOpen, Record.memberSlots_of_visible hvisible,
        Record.acceptSlots_eq_ok_iff] at hvalues
      rw [Record.read_of_fills hn hvalues] at hslot
      cases hslot

/-- A query of visible slots that cannot be read has an error of the query. -/
theorem part?_of_decode {name : String} (hn : (slots.map (·.name)).Nodup) (hvisible : ∀ s ∈ slots, s.isHidden = false)
    {text : Option String} (h : (ofSlots name slots).decode text = .error e) : e.part? = some .query := by
  obtain ⟨detail, rfl⟩ := exists_badQuery_of_decode hn hvisible h
  rfl

end QueryPart

/-! ## Headers -/

namespace HeaderPart

theorem part?_of_decodeSlot {headers : Headers} {s : HeaderSlot} (h : decodeSlot headers s = .error e) :
    e.part? = some .headers := by
  unfold decodeSlot at h
  split at h
  · split at h
    · cases h
    · cases h
      rfl
  · split at h
    · cases h
    · cases h
      rfl

/-- Headers that cannot be read have an error of headers. -/
theorem part?_of_decode {p : HeaderPart} {headers : Headers} (h : p.decode headers = .error e) :
    e.part? = some .headers := by
  obtain ⟨_, s, _, _, _, hs⟩ := Outcome.mapM_eq_error_iff.1 (Outcome.map_eq_error_iff.1 h)
  exact part?_of_decodeSlot hs

end HeaderPart

/-! ## The body -/

namespace BodyPart

/-- A record of visible slots has a value for each of them once it is accepted. -/
theorem read_of_acceptRecord {r : Record} (hn : (r.slots.map (·.name)).Nodup)
    (hvisible : ∀ s ∈ r.slots, s.isHidden = false) {payload : List UInt8} {values : List (String × Value)}
    (h : acceptRecord r payload = .ok values) : r.read values = .ok values := by
  unfold acceptRecord at h
  split at h
  · cases h
  · rw [Record.acceptOpen, Record.memberSlots_of_visible hvisible, Record.acceptSlots_eq_ok_iff] at h
    exact Record.read_of_fills hn h
  · cases h

/-- A body of visible slots that cannot be read has an error of the body. -/
theorem part?_of_decode {p : BodyPart} (hn : (p.carried.map (·.name)).Nodup)
    (hvisible : ∀ s ∈ p.carried, s.isHidden = false) {payload : List UInt8} (h : p.decode payload = .error e) :
    e.part? = some .body := by
  cases p with
  | empty => cases h
  | newtype s =>
    simp only [decode] at h
    split at h
    · cases h
    · cases h
      rfl
  | aggregate r =>
    simp only [decode] at h
    split at h
    · rename_i values hvalues
      rw [read_of_acceptRecord hn hvisible hvalues] at h
      cases h
    · cases h
      rfl

end BodyPart

end HttpContract

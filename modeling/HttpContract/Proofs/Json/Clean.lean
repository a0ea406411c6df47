import HttpContract.Proofs.Json.RoundTrip
import HttpContract.Proofs.Number.Decimal

/-!
# JSON text holds no control characters

Within texts control characters are escaped, and nothing else that is written is one. So compact JSON can stand in a header
whatever the value holds.
-/

namespace HttpContract.Json

/-- Whether no character is a control character. -/
def isClean (cs : List Char) : Prop := ∀ c ∈ cs, 0x20 ≤ c.toNat

theorem isClean_append {as bs : List Char} : isClean (as ++ bs) ↔ isClean as ∧ isClean bs := List.forall_mem_append

theorem isClean_cons {c : Char} {cs : List Char} : isClean (c :: cs) ↔ 0x20 ≤ c.toNat ∧ isClean cs := List.forall_mem_cons

theorem isClean_nil : isClean [] := fun _ h => by cases h

theorem isClean_of_all (cs : List Char) (h : cs.all (fun c => 0x20 ≤ c.toNat) = true) : isClean cs := by
  exact fun c hc => of_decide_eq_true (List.all_eq_true.1 h c hc)

theorem isClean_toDigits {base : Nat} (h : 1 < base) (h' : base ≤ 16) (n : Nat) : isClean (Nat.toDigits base n) := by
  have digit : ∀ d < 16, 0x20 ≤ (Nat.digitChar d).toNat := by decide
  induction n using Nat.strongRecOn with
  | _ n ih =>
    rw [Nat.toDigits_eq_if h]
    split
    · exact isClean_cons.2 ⟨digit n (by omega), isClean_nil⟩
    · have hlt : n / base < n := Nat.div_lt_self (by omega) h
      have hmod : n % base < base := Nat.mod_lt n (by omega)
      exact isClean_append.2 ⟨ih _ hlt, isClean_cons.2 ⟨digit _ (by omega), isClean_nil⟩⟩

theorem isClean_escapeNumber (n : Nat) : isClean (escapeNumber n) := by
  have unit : ∀ u, isClean ('\\' :: 'u' :: Text.hexDigits 4 u) := by
    intro u
    refine isClean_cons.2 ⟨by decide, isClean_cons.2 ⟨by decide, isClean_append.2 ⟨fun c hc => ?_, ?_⟩⟩⟩
    · rw [(List.mem_replicate.1 hc).2]
      decide
    · exact isClean_toDigits (by decide) (by decide) u
  unfold escapeNumber
  dsimp only
  split
  · exact unit _
  · exact isClean_append.2 ⟨unit _, unit _⟩

/-- Control characters are escaped. -/
theorem isClean_writeText (asciiOnly : Bool) (s : String) : isClean (writeText asciiOnly s) := by
  have hmark : 0x20 ≤ '\x22'.toNat := by decide
  have hchar : ∀ c, isClean (writeChar asciiOnly c) := by
    intro c
    unfold writeChar
    iterate 7
      split
      · exact isClean_cons.2 ⟨by decide, isClean_cons.2 ⟨by decide, isClean_nil⟩⟩
    split
    · exact isClean_escapeNumber _
    · rename_i hplain
      simp only [Bool.or_eq_true, decide_eq_true_eq, not_or] at hplain
      exact isClean_cons.2 ⟨by omega, isClean_nil⟩
  refine isClean_cons.2 ⟨hmark, isClean_append.2 ⟨fun c hc => ?_, isClean_cons.2 ⟨hmark, isClean_nil⟩⟩⟩
  obtain ⟨d, _, hd⟩ := List.mem_flatMap.1 hc
  exact hchar d c hd

theorem isClean_toString (n : Int) : isClean (toString n).toList := by
  rw [Numeral.toList_toString]
  split
  · exact isClean_cons.2 ⟨by decide, isClean_toDigits (by decide) (by decide) _⟩
  · exact isClean_toDigits (by decide) (by decide) _

theorem isClean_writeItems {style : Style} {vs : List Value} (h : ∀ v ∈ vs, isClean (writeChars style v)) :
    isClean (writeItems style vs) := by
  match vs with
  | [] => exact isClean_nil
  | [v] => exact h v List.mem_cons_self
  | v :: w :: vs =>
    exact isClean_append.2 ⟨h v List.mem_cons_self,
      isClean_cons.2 ⟨by decide, isClean_writeItems fun v hv => h v (List.mem_cons_of_mem _ hv)⟩⟩

theorem isClean_writeMembers {style : Style} {ms : List (String × Value)}
    (h : ∀ m ∈ ms, isClean (writeChars style m.2)) : isClean (writeMembers style ms) := by
  match ms with
  | [] => exact isClean_nil
  | [m] =>
    exact isClean_append.2 ⟨isClean_writeText _ _, isClean_cons.2 ⟨by decide, h m List.mem_cons_self⟩⟩
  | m :: m' :: ms =>
    have hmember := isClean_append.2 ⟨isClean_writeText style.asciiOnly m.1,
      isClean_cons.2 ⟨show 0x20 ≤ ':'.toNat by decide, h m List.mem_cons_self⟩⟩
    exact isClean_append.2 ⟨hmember,
      isClean_cons.2 ⟨by decide, isClean_writeMembers fun m hm => h m (List.mem_cons_of_mem _ hm)⟩⟩

/-- A layout writes numbers without control characters, if it spells out those that are not finite without them. -/
theorem isClean_number {layout : NumberLayout} (hlayout : layout.firstExponential ≤ 16)
    (hwords : [layout.nan, layout.infinity, layout.minusInfinity].all (fun word => word.toList.all (0x20 ≤ ·.toNat)) = true)
    (x : Binary64) : isClean (layout.write x).toList := by
  rw [List.all_eq_true] at hwords
  cases x with
  | nan => exact isClean_of_all _ (hwords _ List.mem_cons_self)
  | infinite negative =>
    refine isClean_of_all _ (hwords _ (List.mem_cons_of_mem _ ?_))
    cases negative with
    | false => exact List.mem_cons_self
    | true => exact List.mem_cons_of_mem _ List.mem_cons_self
  | finite negative s e =>
    obtain ⟨d, hvalid, _, hchars⟩ := NumberLayout.exists_write hlayout negative s e
    rw [hchars]
    intro c hc
    rcases Numeral.mem_chars hvalid hc with hdigit | hmark
    · obtain ⟨n, hn, rfl⟩ := Numeral.exists_digitChar hdigit
      have hall : ∀ n < 10, 0x20 ≤ (Nat.digitChar n).toNat := by decide
      exact hall n hn
    · simp only [List.mem_cons, List.not_mem_nil, or_false] at hmark
      rcases hmark with rfl | rfl | rfl | rfl <;> decide

theorem isClean_plain (x : Binary64) : isClean (NumberLayout.plain.write x).toList :=
  isClean_number (by decide) (by decide) x

theorem isClean_nested (x : Binary64) : isClean (NumberLayout.nested.write x).toList :=
  isClean_number (by decide) (by decide) x

/-- The JSON of a value holds no control characters, if its numbers are written without them. -/
theorem isClean_writeChars {style : Style} (hnumbers : ∀ x, isClean (style.numbers.write x).toList) :
    ∀ v, isClean (writeChars style v)
  | .null => isClean_of_all "null".toList (by decide)
  | .bool true => isClean_of_all "true".toList (by decide)
  | .bool false => isClean_of_all "false".toList (by decide)
  | .int n => isClean_toString n
  | .float x => hnumbers x
  | .text s => isClean_writeText _ s
  | .bytes data => isClean_writeText _ (Text.decodeLossy data)
  | .array items =>
    have hitems := isClean_writeItems fun v (_ : v ∈ items) => isClean_writeChars hnumbers v
    isClean_cons.2 ⟨by decide, isClean_append.2 ⟨hitems, isClean_cons.2 ⟨by decide, isClean_nil⟩⟩⟩
  | .object members =>
    have hmembers := isClean_writeMembers fun m (hm : m ∈ members) =>
      have : sizeOf m.2 < 1 + sizeOf members := by
        have hmember := List.sizeOf_lt_of_mem hm
        rw [Prod.mk.sizeOf_spec] at hmember
        omega
      isClean_writeChars hnumbers m.2
    isClean_cons.2 ⟨by decide, isClean_append.2 ⟨hmembers, isClean_cons.2 ⟨by decide, isClean_nil⟩⟩⟩

end HttpContract.Json

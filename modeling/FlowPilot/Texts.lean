import FlowPilot.Audit.Loads
import Mathlib.Data.List.Induction

/-!
# Texts and their lengths

What the texts of the services share: prefixes, decimal and hexadecimal digits, and the number of
bytes of a canonical JSON text.
-/

namespace FlowPilot

/-! ## Prefixes -/

theorem utf8_inj {s t : String} (h : utf8 s = utf8 t) : s = t := by
  have hs := decodeUtf8_utf8 s
  rw [h, decodeUtf8_utf8] at hs
  exact (Option.some.inj hs).symm

theorem startsWith_iff {text lead : List Nat} :
    startsWith text lead = true ↔ lead <+: text := by
  induction lead generalizing text with
  | nil =>
    refine iff_of_true ?_ (List.nil_prefix)
    cases text <;> rfl
  | cons c lead ih =>
    cases text with
    | nil =>
      refine iff_of_false (fun h => by cases h) fun h => ?_
      exact List.cons_ne_nil _ _ (List.prefix_nil.mp h)
    | cons b text =>
      show (Nat.beq b c && startsWith text lead) = true ↔ _
      rw [Bool.and_eq_true, ih, Nat.beq_eq, List.cons_prefix_cons]
      constructor
      · exact fun h => ⟨h.1.symm, h.2⟩
      · exact fun h => ⟨h.1.symm, h.2⟩

theorem startsWith_append (lead rest : List Nat) : startsWith (lead ++ rest) lead = true := by
  induction lead with
  | nil => cases rest <;> rfl
  | cons b lead ih =>
    show (Nat.beq b b && startsWith (lead ++ rest) lead) = true
    rw [ih, Nat.beq_refl]
    rfl

/-! ## Decimal digits -/

/-- Digits without a leading zero are those of their value. -/
theorem decimal_digitsValue {digits : List Nat} (hdigits : ∀ b ∈ digits, isDigit b = true)
    (hhead : digits.head? ≠ some 48) (hne : digits ≠ []) :
    1 ≤ digitsValue digits ∧ decimal (digitsValue digits) = digits := by
  induction digits using List.reverseRecOn with
  | nil => exact absurd rfl hne
  | append_singleton digits b ih =>
    have hb := hdigits b (by simp)
    have hrange : 48 ≤ b ∧ b ≤ 57 := by
      unfold isDigit at hb
      simpa [Nat.ble_eq] using hb
    have hchar : (Nat.digitChar (b - 48)).toNat = b := by
      rw [Nat.toNat_digitChar_of_lt_ten (by omega)]
      omega
    have hvalue : digitsValue (digits ++ [b]) = 10 * digitsValue digits + (b - 48) := by
      unfold digitsValue
      rw [List.foldl_append]
      rfl
    rw [hvalue]
    by_cases hnil : digits = []
    · subst hnil
      have hzero : b ≠ 48 := fun h => hhead (by rw [h]; rfl)
      have hsingle : 10 * digitsValue [] + (b - 48) = b - 48 := by
        show 10 * 0 + (b - 48) = _
        omega
      rw [hsingle]
      refine ⟨by omega, ?_⟩
      unfold decimal
      rw [Nat.toDigits_of_lt_base (by omega), List.map_singleton, hchar, List.nil_append]
    · have hearlier := ih (fun c hc => hdigits c (List.mem_append_left _ hc))
        (fun h => hhead (by rw [List.head?_append, h]; rfl)) hnil
      refine ⟨by omega, ?_⟩
      have hquotient : (10 * digitsValue digits + (b - 48)) / 10 = digitsValue digits := by omega
      have hrest : (10 * digitsValue digits + (b - 48)) % 10 = b - 48 := by omega
      have hsplit := hearlier.2
      unfold decimal at hsplit ⊢
      rw [Nat.toDigits_of_base_le (by decide) (by omega), hquotient, hrest, List.map_append, hsplit,
        List.map_singleton, hchar]

theorem isDigit_of_spanDigits (text : List Nat) :
    (∀ b ∈ (spanDigits text).1, isDigit b = true) ∧
      (spanDigits text).1 ++ (spanDigits text).2 = text := by
  induction text with
  | nil => exact ⟨fun b hb => absurd hb List.not_mem_nil, rfl⟩
  | cons b text ih =>
    rw [spanDigits]
    by_cases hb : isDigit b = true
    · rw [if_pos hb]
      constructor
      · intro c hc
        rcases List.mem_cons.mp hc with hcb | hc
        · rw [hcb]
          exact hb
        · exact ih.1 c hc
      · rw [List.cons_append, ih.2]
    · rw [if_neg hb]
      exact ⟨fun c hc => absurd hc List.not_mem_nil, rfl⟩

/-! ## Hexadecimal digits -/

/-- `[0-9a-f]`. -/
def hexByte (b : Nat) : Bool := isDigit b || Nat.ble 97 b && Nat.ble b 102

theorem hexByte_digitChar {n : Nat} (h : n < 16) : hexByte (Nat.digitChar n).toNat = true := by
  have hall : (List.range 16).all (fun n => hexByte (Nat.digitChar n).toNat) = true := by decide
  exact List.all_eq_true.mp hall n (List.mem_range.mpr h)

theorem digitChar_ascii {n : Nat} (h : n < 16) : (Nat.digitChar n).val ≤ 127 := by
  have hall : (List.range 16).all (fun n => decide ((Nat.digitChar n).val ≤ 127)) = true := by
    decide
  exact of_decide_eq_true (List.all_eq_true.mp hall n (List.mem_range.mpr h))

/-- The sixty-four bytes of a digest. -/
theorem utf8_hex (d : Digest) : utf8 d.hex = ((List.range 64).map fun i =>
    Nat.digitChar (d.bits.toNat / 16 ^ (63 - i) % 16)).map Char.toNat := by
  unfold Digest.hex
  apply utf8_ofList_ascii
  intro c hc
  obtain ⟨i, _, rfl⟩ := List.mem_map.mp hc
  exact digitChar_ascii (Nat.mod_lt _ (by decide))

theorem length_hex (d : Digest) : (utf8 d.hex).length = 64 := by
  rw [utf8_hex, List.length_map, List.length_map, List.length_range]

theorem hexByte_of_hex (d : Digest) : ∀ b ∈ utf8 d.hex, hexByte b = true := by
  rw [utf8_hex]
  intro b hb
  obtain ⟨c, hc, rfl⟩ := List.mem_map.mp hb
  obtain ⟨i, _, rfl⟩ := List.mem_map.mp hc
  exact hexByte_digitChar (Nat.mod_lt _ (by decide))

theorem utf8_take (d : Digest) (n : Nat) : utf8 (d.take n) = (utf8 d.hex).take n := by
  have hchars : d.hex.toList = (List.range 64).map fun i =>
      Nat.digitChar (d.bits.toNat / 16 ^ (63 - i) % 16) := by
    unfold Digest.hex
    rw [String.toList_ofList]
  unfold Digest.take
  rw [utf8_hex, ← List.map_take, hchars]
  apply utf8_ofList_ascii
  intro c hc
  obtain ⟨i, _, rfl⟩ := List.mem_map.mp (List.mem_of_mem_take hc)
  exact digitChar_ascii (Nat.mod_lt _ (by decide))

/-! ## Lengths -/

/-- The bytes of a text within a text. -/
def escapedLength (bytes : List Nat) : Nat := (bytes.flatMap escapeByte).length

theorem escapedLength_append (xs ys : List Nat) :
    escapedLength (xs ++ ys) = escapedLength xs + escapedLength ys := by
  unfold escapedLength
  rw [List.flatMap_append, List.length_append]

theorem escapedLength_plain {bytes : List Nat} (h : ∀ b ∈ bytes, escapeByte b = [b]) :
    escapedLength bytes = bytes.length := by
  unfold escapedLength
  induction bytes with
  | nil => rfl
  | cons b bytes ih =>
    rw [List.flatMap_cons, List.length_append, h b List.mem_cons_self,
      ih fun c hc => h c (List.mem_cons_of_mem b hc), List.length_cons]
    simp only [List.length_cons, List.length_nil]
    omega

theorem escapeByte_plain {b : Nat} (hlow : 32 ≤ b) (hquote : b ≠ 34) (hslash : b ≠ 92) :
    escapeByte b = [b] := by
  unfold escapeByte
  rw [if_pos (Nat.ble_eq_true_of_le hlow), if_neg]
  simp [hquote, hslash]

theorem escapedLength_hex (d : Digest) : escapedLength (utf8 d.hex) = 64 := by
  rw [escapedLength_plain, length_hex]
  intro b hb
  have hhex := hexByte_of_hex d b hb
  unfold hexByte isDigit at hhex
  simp only [Bool.or_eq_true, Bool.and_eq_true, Nat.ble_eq] at hhex
  apply escapeByte_plain <;> omega

theorem canonicalLength_str (s : String) :
    canonicalLength (.str s) = escapedLength (utf8 s) + 2 := by
  unfold canonicalLength canonicalBytes quoted escapedLength
  simp

theorem canonicalLength_pair (v w : Json) :
    canonicalLength (.arr [v, w]) = canonicalLength v + canonicalLength w + 3 := by
  have hitems : canonicalItems [v, w] = [canonicalBytes v, canonicalBytes w] := rfl
  have hjoin := commaJoin_length_succ (List.cons_ne_nil (canonicalBytes v) [canonicalBytes w])
  unfold canonicalLength
  rw [canonicalBytes, hitems]
  simp only [List.map_cons, List.map_nil, List.sum_cons, List.sum_nil, List.length_append,
    List.length_cons, List.length_nil] at hjoin ⊢
  omega

/-- The bytes of the fields of an object, each with its quotes, its colon and one separator. -/
def fieldsLength : List (String × Json) → Nat
  | [] => 0
  | (name, value) :: rest =>
    escapedLength (utf8 name) + canonicalLength value + 4 + fieldsLength rest

theorem sum_canonicalFields (fields : List (String × Json)) :
    ((canonicalFields fields).map fun field => field.2.length + 1).sum = fieldsLength fields := by
  induction fields with
  | nil => rfl
  | cons field rest ih =>
      rw [canonicalFields, fieldsLength, List.map_cons, List.sum_cons, ih]
      unfold quoted escapedLength canonicalLength
      simp only [List.length_append, List.length_cons, List.length_nil]
      omega

theorem canonicalLength_obj {fields : List (String × Json)} (h : fields ≠ []) :
    canonicalLength (.obj fields) = 1 + fieldsLength fields := by
  have hperm := (List.perm_insertionSort (fun f g : List Nat × List Nat => textLe f.1 g.1)
    (canonicalFields fields)).map (·.2)
  have hne : (sortFields (canonicalFields fields)).map (·.2) ≠ [] := by
    intro hnil
    have hlength := hperm.length_eq
    unfold sortFields at hnil
    rw [hnil] at hlength
    cases fields with
    | nil => exact h rfl
    | cons field rest => simp [canonicalFields] at hlength
  -- the order of the fields does not show in the length
  have hsum := (hperm.map fun item => item.length + 1).sum_nat
  have hjoin := commaJoin_length_succ hne
  unfold sortFields at hjoin
  rw [hsum, List.map_map] at hjoin
  have hfields : ((canonicalFields fields).map ((fun item => item.length + 1) ∘ (·.2))).sum =
    fieldsLength fields := sum_canonicalFields fields
  rw [hfields] at hjoin
  unfold canonicalLength canonicalBytes sortFields
  rw [List.length_append, List.length_cons]
  simp only [List.length_cons, List.length_nil]
  omega

/-- The digits of a number. -/
def width (n : Int) : Nat := (utf8 (toString n)).length

theorem width_mono {m n : Int} (hm : 0 ≤ m) (h : m ≤ n) : width m ≤ width n := by
  obtain ⟨m, rfl⟩ := Int.eq_ofNat_of_zero_le hm
  obtain ⟨n, rfl⟩ := Int.eq_ofNat_of_zero_le (Int.le_trans hm h)
  have hwidth : ∀ k : Nat, width k = (Nat.toDigits 10 k).length := by
    intro k
    show (utf8 (toString k)).length = _
    rw [utf8_toString_nat]
    exact List.length_map _
  have hpos : 0 < (Nat.toDigits 10 n).length := Nat.length_toDigits_pos
  have hn : n < 10 ^ (Nat.toDigits 10 n).length :=
    (Nat.length_toDigits_le_iff (by decide) hpos).mp (Nat.le_refl _)
  rw [hwidth, hwidth]
  exact (Nat.length_toDigits_le_iff (by decide) hpos).mpr (by omega)

end FlowPilot

import FlowPilot.Recovery.Values
import Mathlib.Algebra.BigOperators.Group.List.Basic

/-!
# Loading what was dumped

A dumped value is read back from the left, with enough fuel for every byte.  Sorting moves the
fields of an object and changes neither their names nor their number, so that what is loaded from
a canonical text is equal to what was dumped, and the length of the text does not depend on the
order of the fields.
-/

namespace FlowPilot.Recovery

/-! ## Numbers that were dumped -/

theorem afterItem_endsNumber {rest : List Nat} (h : AfterItem rest) : EndsNumber rest := by
  cases rest with
  | nil => exact ⟨fun b more h => (by cases h), rfl⟩
  | cons b more =>
      rcases h with rfl | rfl | rfl
      all_goals exact ⟨fun b more h => (by cases h; rfl), rfl⟩

/-- A scan that stops at the end of a value. -/
def Scans (scan : List Nat → List Nat × List Nat) : Prop :=
  ∀ text rest, AfterItem rest → scan (text ++ rest) = ((scan text).1, (scan text).2 ++ rest)

theorem spanDigits_scans : Scans spanDigits := by
  intro text rest hrest
  induction text with
  | nil =>
      have hends := (afterItem_endsNumber hrest).1
      exact spanDigits_append (fun b hb => (by cases hb)) hends
  | cons b text ih =>
      rw [List.cons_append, spanDigits, spanDigits, ih]
      by_cases hb : isDigit b = true
      · rw [if_pos hb, if_pos hb]
      · rw [if_neg hb, if_neg hb]
        rfl

theorem signPart_scans : Scans signPart := by
  intro text rest hrest
  cases text with
  | nil =>
      cases rest with
      | nil => rfl
      | cons b more => rcases hrest with rfl | rfl | rfl <;> rfl
  | cons b text =>
      by_cases hb : b = 45
      · subst hb
        rfl
      · simp [signPart, hb]

theorem exponentSign_scans : Scans exponentSign := by
  intro text rest hrest
  cases text with
  | nil =>
      cases rest with
      | nil => rfl
      | cons b more => rcases hrest with rfl | rfl | rfl <;> rfl
  | cons b text =>
      by_cases hplus : b = 43
      · subst hplus
        rfl
      · by_cases hminus : b = 45
        · subst hminus
          rfl
        · simp [exponentSign, hplus, hminus]

theorem wholePart_scans : Scans wholePart := by
  intro text rest hrest
  cases text with
  | nil =>
      cases rest with
      | nil => rfl
      | cons b more => rcases hrest with rfl | rfl | rfl <;> rfl
  | cons b text =>
      by_cases hb : b = 48
      · subst hb
        rfl
      · have hspan := spanDigits_scans (b :: text) rest hrest
        simpa [wholePart, hb] using hspan

theorem fractionPart_scans : Scans fractionPart := by
  intro text rest hrest
  cases text with
  | nil =>
      cases rest with
      | nil => rfl
      | cons b more => rcases hrest with rfl | rfl | rfl <;> rfl
  | cons b text =>
      by_cases hb : b = 46
      · subst hb
        have hspan := spanDigits_scans text rest hrest
        show fractionPart (46 :: (text ++ rest)) = _
        simp only [fractionPart, hspan]
        by_cases hnone : (spanDigits text).1 = []
        · simp [hnone]
        · simp [hnone]
      · simp [fractionPart, hb]

theorem exponentPart_scans : Scans exponentPart := by
  intro text rest hrest
  cases text with
  | nil =>
      cases rest with
      | nil => rfl
      | cons b more => rcases hrest with rfl | rfl | rfl <;> simp [exponentPart]
  | cons b text =>
      have hsign := exponentSign_scans text rest hrest
      have hdigits := spanDigits_scans (exponentSign text).2 rest hrest
      show exponentPart (b :: (text ++ rest)) = _
      simp only [exponentPart, hsign, hdigits]
      by_cases hsome : (b = 101 ∨ b = 69) ∧ (spanDigits (exponentSign text).2).1 ≠ []
      · rw [if_pos hsome, if_pos hsome]
      · rw [if_neg hsome, if_neg hsome]
        rfl

theorem floatToken_append (text : List Nat) {rest : List Nat} (hrest : AfterItem rest) :
    floatToken (text ++ rest) = (floatToken text).map fun loaded => (loaded.1, loaded.2 ++ rest) := by
  simp only [floatToken, signPart_scans text rest hrest, wholePart_scans _ rest hrest,
    fractionPart_scans _ rest hrest, exponentPart_scans _ rest hrest]
  split <;> rfl

theorem loadNumber_float (x : FloatText) {rest : List Nat} (hrest : AfterItem rest) :
    loadNumber (x.token ++ rest) = some (.float x, rest) := by
  unfold loadNumber
  rw [floatToken_append x.token hrest, x.isFloat]
  show (if h : floatToken x.token = some (x.token, []) then _ else none) = _
  rw [dif_pos x.isFloat]
  rfl

/-- An integer has neither a fraction nor an exponent. -/
theorem floatToken_decimal (n : Nat) : floatToken (decimal n) = none := by
  have hdigit : ∀ b ∈ decimal n, isDigit b = true := fun b hb => isDigit_of_mem_decimal hb
  have hspan := @spanDigits_append (decimal n) [] hdigit (fun b more h => (by cases h))
  rw [List.append_nil] at hspan
  have hsign : signPart (decimal n) = ([], decimal n) := by
    cases hn : decimal n with
    | nil => rfl
    | cons b more =>
        have hb := hdigit b (hn ▸ List.mem_cons_self)
        have hminus : b ≠ 45 := by
          intro h
          subst h
          cases hb
        simp [signPart, hminus]
  have hwhole : (wholePart (decimal n)).2 = [] := by
    rcases Nat.eq_zero_or_pos n with rfl | hn
    · rw [decimal_zero]
      rfl
    · obtain ⟨b, more, hdigits, hb⟩ := decimal_pos hn
      rw [hdigits] at hspan ⊢
      simp [wholePart, hb, hspan]
  simp [floatToken, hsign, hwhole, fractionPart, exponentPart]

theorem floatToken_int (n : Int) : floatToken (utf8 (toString n)) = none := by
  cases n with
  | ofNat n =>
      have htext : utf8 (toString (Int.ofNat n)) = decimal n := utf8_toString_nat n
      rw [htext, floatToken_decimal]
  | negSucc n =>
      have htext : utf8 (toString (Int.negSucc n)) = 45 :: decimal (n + 1) := by
        have hminus : toString (Int.negSucc n) = "-" ++ toString (n + 1) := rfl
        rw [hminus, utf8_append, utf8_toString_nat]
        rfl
      -- past the sign the digits are those of a positive integer
      obtain ⟨b, more, hdigits, hb⟩ := decimal_pos (Nat.succ_pos n)
      have hplain := floatToken_decimal (n + 1)
      rw [htext]
      rw [show n + 1 = n.succ from rfl, hdigits] at hplain ⊢
      have hdigit : isDigit b = true :=
        isDigit_of_mem_decimal (n := n.succ) (hdigits ▸ List.mem_cons_self)
      have hminus : b ≠ 45 := by
        intro h
        subst h
        cases hdigit
      have hsign : signPart (b :: more) = ([], b :: more) := by simp [signPart, hminus]
      have hsigned : signPart (45 :: b :: more) = ([45], b :: more) := rfl
      simp only [floatToken, hsign] at hplain
      simp only [floatToken, hsigned]
      by_cases hnone : (wholePart (b :: more)).1 = [] ∨
          ((fractionPart (wholePart (b :: more)).2).1 = [] ∧
            (exponentPart (fractionPart (wholePart (b :: more)).2).2).1 = [])
      · rw [if_pos hnone]
      · rw [if_neg hnone] at hplain
        cases hplain

theorem loadNumber_int (n : Int) {rest : List Nat} (hrest : AfterItem rest) :
    loadNumber (utf8 (toString n) ++ rest) = some (.int n, rest) := by
  unfold loadNumber
  rw [floatToken_append _ hrest, floatToken_int]
  show (loadInt (utf8 (toString n) ++ rest)).map _ = _
  rw [loadInt_toString n (afterItem_endsNumber hrest)]
  rfl

/-! ## Values that were dumped -/

theorem Value.writeItems_eq_map (items : List Value) :
    Value.writeItems items = items.map Value.write := by
  induction items with
  | nil => rfl
  | cons item items ih =>
      show item.write :: Value.writeItems items = _
      rw [ih]
      rfl

/-- A field as `json.dumps` writes it. -/
def writtenField (field : String × Value) : List Nat :=
  quoted field.1 ++ 58 :: field.2.write

theorem Value.writeFields_eq_map (fields : List (String × Value)) :
    Value.writeFields fields = fields.map writtenField := by
  induction fields with
  | nil => rfl
  | cons f fields ih =>
      show writtenField f :: Value.writeFields fields = _
      rw [ih]
      rfl

/-- A float begins with a digit or a minus sign. -/
theorem FloatText.token_head (x : FloatText) :
    ∃ b more, x.token = b :: more ∧ 45 ≤ b ∧ b ≤ 57 := by
  have hfloat := x.isFloat
  cases htoken : x.token with
  | nil =>
      rw [htoken] at hfloat
      cases hfloat
  | cons b more =>
      rw [htoken] at hfloat
      by_cases hminus : b = 45
      · exact ⟨b, more, rfl, by omega, by omega⟩
      · by_cases hdigit : isDigit b = true
        · unfold isDigit at hdigit
          rw [Bool.and_eq_true] at hdigit
          have hlow := Nat.le_of_ble_eq_true hdigit.1
          have hhigh := Nat.le_of_ble_eq_true hdigit.2
          exact ⟨b, more, rfl, by omega, hhigh⟩
        · have hzero : b ≠ 48 := by
            intro h
            subst h
            exact hdigit rfl
          have hspan : spanDigits (b :: more) = ([], b :: more) := by
            rw [spanDigits, if_neg hdigit]
          simp [floatToken, signPart, hminus, wholePart, hzero, hspan] at hfloat

/-- The first byte of a value is no blank, and it closes neither an array nor an object. -/
theorem Value.write_head (v : Value) :
    ∃ b more, v.write = b :: more ∧ 32 < b ∧ b ≠ 93 ∧ b ≠ 125 := by
  cases v with
  | null => exact ⟨110, _, rfl, by decide, by decide, by decide⟩
  | bool b =>
      cases b
      · exact ⟨102, _, rfl, by decide, by decide, by decide⟩
      · exact ⟨116, _, rfl, by decide, by decide, by decide⟩
  | int n =>
      obtain ⟨b, more, htext, hlow, hhigh⟩ := toString_int_head n
      exact ⟨b, more, htext, by omega, by omega, by omega⟩
  | float x =>
      obtain ⟨b, more, htext, hlow, hhigh⟩ := x.token_head
      exact ⟨b, more, htext, by omega, by omega, by omega⟩
  | str s => exact ⟨34, _, rfl, by decide, by decide, by decide⟩
  | arr items => exact ⟨91, _, rfl, by decide, by decide, by decide⟩
  | obj fields => exact ⟨123, _, rfl, by decide, by decide, by decide⟩

theorem skipBlanks_cons {b : Nat} (h : 32 < b) (more : List Nat) :
    skipBlanks (b :: more) = b :: more := by
  have hblank : ¬ (Nat.beq b 32 || Nat.beq b 9 || Nat.beq b 10 || Nat.beq b 13) = true := by
    simp only [Bool.or_eq_true, Nat.beq_eq]
    omega
  rw [skipBlanks, if_neg hblank]

theorem Value.skipBlanks_write (v : Value) (rest : List Nat) :
    skipBlanks (v.write ++ rest) = v.write ++ rest := by
  obtain ⟨b, more, htext, hb, _⟩ := v.write_head
  rw [htext, List.cons_append, skipBlanks_cons hb]

/-- Enough fuel reads the value and leaves what follows it. -/
def Value.Loads (v : Value) : Prop :=
  ∀ fuel rest, AfterItem rest → 2 * v.write.length ≤ fuel →
    Value.load fuel (v.write ++ rest) = some (v, rest)

theorem Value.load_number {b : Nat} (hlow : 45 ≤ b) (hhigh : b ≤ 57) (fuel : Nat)
    (more : List Nat) : Value.load (fuel + 1) (b :: more) = loadNumber (b :: more) := by
  rw [Value.load]
  all_goals
    intro tail htail
    have hb := List.head_eq_of_cons_eq htail
    omega

section

variable {v : Value} {fuel : Nat} {rest : List Nat}

/-- No value is written as nothing, so that the fuel is not used up. -/
theorem Value.fuel_pos (hfuel : 2 * v.write.length ≤ fuel) :
    ∃ k, fuel = k + 1 ∧ 2 * v.write.length ≤ k + 1 := by
  obtain ⟨b, more, htext, _⟩ := v.write_head
  have hlength : v.write.length = more.length + 1 := by rw [htext, List.length_cons]
  exact ⟨fuel - 1, by omega, by omega⟩

end

theorem Value.loads_null : Value.null.Loads := by
  intro fuel rest _ hfuel
  obtain ⟨k, rfl, _⟩ := fuel_pos hfuel
  rfl

theorem Value.loads_bool (b : Bool) : (Value.bool b).Loads := by
  intro fuel rest _ hfuel
  obtain ⟨k, rfl, _⟩ := fuel_pos hfuel
  cases b <;> rfl

theorem Value.loads_int (n : Int) : (Value.int n).Loads := by
  intro fuel rest hrest hfuel
  obtain ⟨k, rfl, _⟩ := fuel_pos hfuel
  have hload := loadNumber_int n hrest
  obtain ⟨b, more, htext, hlow, hhigh⟩ := toString_int_head n
  show Value.load (k + 1) (utf8 (toString n) ++ rest) = _
  rw [htext, List.cons_append] at hload ⊢
  rw [load_number hlow hhigh, hload]

theorem Value.loads_float (x : FloatText) : (Value.float x).Loads := by
  intro fuel rest hrest hfuel
  obtain ⟨k, rfl, _⟩ := fuel_pos hfuel
  have hload := loadNumber_float x hrest
  obtain ⟨b, more, htext, hlow, hhigh⟩ := x.token_head
  show Value.load (k + 1) (x.token ++ rest) = _
  rw [htext, List.cons_append] at hload ⊢
  rw [load_number hlow hhigh, hload]

theorem Value.loads_str (s : String) : (Value.str s).Loads := by
  intro fuel rest _ hfuel
  obtain ⟨k, rfl, _⟩ := fuel_pos hfuel
  show Value.load (k + 1) (34 :: (utf8 s).flatMap escapeByte ++ [34] ++ rest) = _
  rw [List.append_assoc]
  show (loadText ((utf8 s).flatMap escapeByte ++ 34 :: rest)).map _ = _
  rw [loadText_quoted]
  rfl

/-- The items of an array, read one after the other behind those that are loaded already. -/
theorem Value.loadItems_written {items : List Value} (hne : items ≠ [])
    (h : ∀ v ∈ items, v.Loads) (loaded : List Value) (fuel : Nat) (rest : List Nat)
    (hfuel : 2 * (commaJoin (items.map Value.write)).length + 1 ≤ fuel) :
    Value.loadItems fuel loaded (commaJoin (items.map Value.write) ++ 93 :: rest) =
      some (.arr (loaded ++ items), rest) := by
  induction items generalizing loaded fuel with
  | nil => exact absurd rfl hne
  | cons v items ih =>
      have hv := h v List.mem_cons_self
      cases fuel with
      | zero => omega
      | succ k =>
        cases items with
        | nil =>
            have hload := hv k (93 :: rest) (.inr (.inl rfl)) (by
              simp only [List.map_cons, List.map_nil, commaJoin] at hfuel
              omega)
            have hclose : skipBlanks (93 :: rest) = 93 :: rest := rfl
            show Value.loadItems (k + 1) loaded (v.write ++ 93 :: rest) = _
            rw [Value.loadItems, hload]
            simp only [Option.bind_eq_bind, Option.bind_some, hclose]
        | cons w items =>
            -- behind the comma the rest of the items follows
            have hcomma : commaJoin ((v :: w :: items).map Value.write) ++ 93 :: rest =
                v.write ++ 44 :: (commaJoin ((w :: items).map Value.write) ++ 93 :: rest) := by
              show (v.write ++ 44 :: commaJoin ((w :: items).map Value.write)) ++ _ = _
              rw [List.append_assoc]
              rfl
            have hlength : (commaJoin ((v :: w :: items).map Value.write)).length =
                v.write.length + (commaJoin ((w :: items).map Value.write)).length + 1 := by
              show (v.write ++ 44 :: commaJoin ((w :: items).map Value.write)).length = _
              rw [List.length_append, List.length_cons]
              omega
            rw [hlength] at hfuel
            have hload := hv k
              (44 :: (commaJoin ((w :: items).map Value.write) ++ 93 :: rest)) (.inl rfl)
              (by omega)
            have hmore := ih (List.cons_ne_nil w items) (fun x hx => h x (.tail _ hx))
              (loaded ++ [v]) k (by omega)
            have hskip : skipBlanks (commaJoin ((w :: items).map Value.write) ++ 93 :: rest) =
                commaJoin ((w :: items).map Value.write) ++ 93 :: rest := by
              cases items with
              | nil => exact w.skipBlanks_write _
              | cons u items =>
                  show skipBlanks ((w.write ++ 44 :: commaJoin _) ++ _) = _
                  rw [List.append_assoc, w.skipBlanks_write]
                  rw [← List.append_assoc]
                  rfl
            have hhead : ∀ l, skipBlanks (44 :: l) = 44 :: l := fun _ => rfl
            rw [hcomma, Value.loadItems, hload]
            simp only [Option.bind_eq_bind, Option.bind_some, hhead, hskip]
            rw [hmore, List.append_assoc]
            rfl

theorem Value.loads_arr {items : List Value} (h : ∀ v ∈ items, v.Loads) :
    (Value.arr items).Loads := by
  intro fuel rest hrest hfuel
  obtain ⟨k, rfl, hk⟩ := fuel_pos hfuel
  rw [Value.write, Value.writeItems_eq_map] at hk ⊢
  cases items with
  | nil => rfl
  | cons v items =>
      have hload := Value.loadItems_written (List.cons_ne_nil v items) h [] k rest (by
        simp only [List.length_append, List.length_cons] at hk
        omega)
      have htext : (91 :: commaJoin ((v :: items).map Value.write) ++ [93]) ++ rest =
          91 :: (commaJoin ((v :: items).map Value.write) ++ 93 :: rest) := by
        simp only [List.cons_append, List.append_assoc, List.nil_append]
      obtain ⟨b, more, hhead, hblank, hclose, _⟩ := v.write_head
      obtain ⟨tail, htail⟩ : ∃ tail, commaJoin ((v :: items).map Value.write) ++ 93 :: rest =
          b :: tail := by
        cases items with
        | nil => exact ⟨_, by rw [List.map_cons, List.map_nil, commaJoin, hhead]; rfl⟩
        | cons w items =>
            refine ⟨more ++ 44 :: commaJoin ((w :: items).map Value.write) ++ 93 :: rest, ?_⟩
            show (v.write ++ 44 :: _) ++ _ = _
            rw [hhead]
            rfl
      rw [htext]
      rw [htail] at hload ⊢
      rw [Value.load, skipBlanks_cons hblank]
      split
      · next heq =>
        cases heq
        exact absurd rfl hclose
      · exact hload

theorem setKey_new {fields : List (String × Value)} {name : String}
    (h : name ∉ fields.map (·.1)) (value : Value) :
    setKey fields name value = fields ++ [(name, value)] := by
  unfold setKey
  rw [if_neg]
  intro hany
  rw [List.any_eq_true] at hany
  obtain ⟨f, hf, hname⟩ := hany
  exact h (List.mem_map.mpr ⟨f, hf, of_decide_eq_true hname⟩)

theorem writtenField_append (field : String × Value) (rest : List Nat) :
    writtenField field ++ rest =
      34 :: ((utf8 field.1).flatMap escapeByte ++ 34 :: 58 :: (field.2.write ++ rest)) := by
  unfold writtenField quoted
  simp only [List.cons_append, List.append_assoc, List.nil_append]

theorem length_writtenField (field : String × Value) :
    field.2.write.length + 3 ≤ (writtenField field).length := by
  unfold writtenField quoted
  simp only [List.length_append, List.length_cons, List.length_nil]
  omega

theorem Value.loadFields_written {fields : List (String × Value)} (hne : fields ≠ [])
    (h : ∀ f ∈ fields, f.2.Loads) (loaded : List (String × Value))
    (hnodup : ((loaded ++ fields).map (·.1)).Nodup) (fuel : Nat) (rest : List Nat)
    (hfuel : 2 * (commaJoin (fields.map writtenField)).length ≤ fuel) :
    Value.loadFields fuel loaded (commaJoin (fields.map writtenField) ++ 125 :: rest) =
      some (.obj (loaded ++ fields), rest) := by
  induction fields generalizing loaded fuel with
  | nil => exact absurd rfl hne
  | cons f fields ih =>
      have hnew : f.1 ∉ loaded.map (·.1) := by
        rw [List.map_append, List.map_cons] at hnodup
        intro hmem
        exact (List.nodup_append.mp hnodup).2.2 f.1 hmem f.1 List.mem_cons_self rfl
      have hf := h f List.mem_cons_self
      have hlengthField := length_writtenField f
      have hcolon : ∀ l, skipBlanks (58 :: l) = 58 :: l := fun _ => rfl
      cases fields with
      | nil =>
          have hlength : (commaJoin ([f].map writtenField)).length = (writtenField f).length := rfl
          rw [hlength] at hfuel
          cases fuel with
          | zero => omega
          | succ k =>
            have hload := hf k (125 :: rest) (.inr (.inr rfl)) (by omega)
            have hclose : skipBlanks (125 :: rest) = 125 :: rest := rfl
            show Value.loadFields (k + 1) loaded (writtenField f ++ 125 :: rest) = _
            rw [writtenField_append, Value.loadFields, loadText_quoted]
            simp only [Option.bind_eq_bind, Option.bind_some, hcolon, f.2.skipBlanks_write, hload,
              hclose, setKey_new hnew]
      | cons g fields =>
          -- behind the comma the rest of the fields follows
          have hcomma : commaJoin ((f :: g :: fields).map writtenField) ++ 125 :: rest =
              writtenField f ++ 44 :: (commaJoin ((g :: fields).map writtenField) ++
                125 :: rest) := by
            show (writtenField f ++ 44 :: commaJoin ((g :: fields).map writtenField)) ++ _ = _
            rw [List.append_assoc]
            rfl
          have hlength : (commaJoin ((f :: g :: fields).map writtenField)).length =
              (writtenField f).length + (commaJoin ((g :: fields).map writtenField)).length + 1 := by
            show (writtenField f ++ 44 :: commaJoin ((g :: fields).map writtenField)).length = _
            rw [List.length_append, List.length_cons]
            omega
          rw [hlength] at hfuel
          cases fuel with
          | zero => omega
          | succ k =>
            have hload := hf k
              (44 :: (commaJoin ((g :: fields).map writtenField) ++ 125 :: rest)) (.inl rfl)
              (by omega)
            have hmore := ih (List.cons_ne_nil g fields) (fun x hx => h x (.tail _ hx))
              (loaded ++ [f]) (by rwa [List.append_assoc]) k (by omega)
            have hskip : skipBlanks (commaJoin ((g :: fields).map writtenField) ++ 125 :: rest) =
                commaJoin ((g :: fields).map writtenField) ++ 125 :: rest := by
              cases fields <;> rfl
            have hhead : ∀ l, skipBlanks (44 :: l) = 44 :: l := fun _ => rfl
            rw [hcomma, writtenField_append, Value.loadFields, loadText_quoted]
            simp only [Option.bind_eq_bind, Option.bind_some, hcolon, f.2.skipBlanks_write, hload,
              hhead, hskip, setKey_new hnew]
            rw [hmore, List.append_assoc]
            rfl

theorem Value.loads_obj {fields : List (String × Value)}
    (hnodup : (fields.map (·.1)).Nodup) (h : ∀ f ∈ fields, f.2.Loads) :
    (Value.obj fields).Loads := by
  intro fuel rest hrest hfuel
  obtain ⟨k, rfl, hk⟩ := fuel_pos hfuel
  rw [Value.write, Value.writeFields_eq_map] at hk ⊢
  cases fields with
  | nil => rfl
  | cons f fields =>
      have hload := Value.loadFields_written (List.cons_ne_nil f fields) h [] hnodup k rest (by
        simp only [List.length_append, List.length_cons] at hk
        omega)
      have htext : (123 :: commaJoin ((f :: fields).map writtenField) ++ [125]) ++ rest =
          123 :: (commaJoin ((f :: fields).map writtenField) ++ 125 :: rest) := by
        simp only [List.cons_append, List.append_assoc, List.nil_append]
      obtain ⟨tail, htail⟩ : ∃ tail, commaJoin ((f :: fields).map writtenField) ++ 125 :: rest =
          34 :: tail := by
        cases fields <;> exact ⟨_, rfl⟩
      rw [htext]
      rw [htail] at hload ⊢
      exact hload

mutual

theorem Value.loads_of_distinct : ∀ {v : Value}, v.Distinct → v.Loads
  | .null, _ => Value.loads_null
  | .bool b, _ => Value.loads_bool b
  | .int n, _ => Value.loads_int n
  | .float x, _ => Value.loads_float x
  | .str s, _ => Value.loads_str s
  | .arr _, h => Value.loads_arr (Value.loads_of_items h)
  | .obj _, h => Value.loads_obj h.1 (Value.loads_of_fields h.2)

theorem Value.loads_of_items : ∀ {items : List Value}, Value.DistinctItems items →
    ∀ v ∈ items, v.Loads
  | _ :: _, h, _, .head _ => Value.loads_of_distinct h.1
  | _ :: _, h, v, .tail _ hv => Value.loads_of_items h.2 v hv

theorem Value.loads_of_fields : ∀ {fields : List (String × Value)}, Value.DistinctFields fields →
    ∀ f ∈ fields, f.2.Loads
  | _ :: _, h, _, .head _ => Value.loads_of_distinct h.1
  | _ :: _, h, f, .tail _ hf => Value.loads_of_fields h.2 f hf

end

/-! ## Sorting keeps names apart -/

theorem Value.sortedFields_names (fields : List (String × Value)) :
    (Value.sortedFields fields).map (·.1) = fields.map (·.1) := by
  induction fields with
  | nil => rfl
  | cons f fields ih =>
      show f.1 :: (Value.sortedFields fields).map (·.1) = _
      rw [ih]
      rfl

theorem Value.distinctFields_iff (fields : List (String × Value)) :
    Value.DistinctFields fields ↔ ∀ f ∈ fields, f.2.Distinct := by
  induction fields with
  | nil => exact ⟨fun _ f hf => (by cases hf), fun _ => trivial⟩
  | cons f fields ih =>
      show f.2.Distinct ∧ Value.DistinctFields fields ↔ _
      rw [ih, List.forall_mem_cons]

theorem Value.distinct_sortByName {fields : List (String × Value)}
    (hnodup : (fields.map (·.1)).Nodup) (h : Value.DistinctFields fields) :
    (Value.obj (sortByName fields)).Distinct := by
  have hperm : List.Perm (sortByName fields) fields := List.perm_insertionSort _ fields
  refine ⟨(hperm.map _).nodup_iff.mpr hnodup, ?_⟩
  rw [Value.distinctFields_iff] at h ⊢
  intro f hf
  exact h f (hperm.mem_iff.mp hf)

mutual

theorem Value.sorted_distinct : ∀ {v : Value}, v.Distinct → v.sorted.Distinct
  | .null, _ | .bool _, _ | .int _, _ | .float _, _ | .str _, _ => trivial
  | .arr _, h => Value.sortedItems_distinct h
  | .obj fields, h => by
    have hnames := Value.sortedFields_names fields
    exact Value.distinct_sortByName (hnames ▸ h.1) (Value.sortedFields_distinct h.2)

theorem Value.sortedItems_distinct : ∀ {items : List Value}, Value.DistinctItems items →
    Value.DistinctItems (Value.sortedItems items)
  | [], _ => trivial
  | _ :: _, h => ⟨Value.sorted_distinct h.1, Value.sortedItems_distinct h.2⟩

theorem Value.sortedFields_distinct : ∀ {fields : List (String × Value)},
    Value.DistinctFields fields → Value.DistinctFields (Value.sortedFields fields)
  | [], _ => trivial
  | _ :: _, h => ⟨Value.sorted_distinct h.1, Value.sortedFields_distinct h.2⟩

end

instance : Std.Total fun f g : String × Value => textLe (utf8 f.1) (utf8 g.1) = true :=
  ⟨fun f g => textLe_total (utf8 f.1) (utf8 g.1)⟩

instance : IsTrans (String × Value) fun f g => textLe (utf8 f.1) (utf8 g.1) = true :=
  ⟨fun _ _ _ => textLe_trans⟩

theorem Value.sortedFields_eq_map (fields : List (String × Value)) :
    Value.sortedFields fields = fields.map fun f => (f.1, f.2.sorted) := by
  induction fields with
  | nil => rfl
  | cons f fields ih =>
      show (f.1, f.2.sorted) :: Value.sortedFields fields = _
      rw [ih]
      rfl

/-- Only the names are compared. -/
theorem Value.sortedFields_sortByName (fields : List (String × Value)) :
    Value.sortedFields (sortByName fields) = sortByName (Value.sortedFields fields) := by
  rw [Value.sortedFields_eq_map, Value.sortedFields_eq_map]
  exact List.map_insertionSort (fun f g => textLe (utf8 f.1) (utf8 g.1))
    (fun f g => textLe (utf8 f.1) (utf8 g.1)) (fun f : String × Value => (f.1, f.2.sorted)) fields
    fun _ _ _ _ => Iff.rfl

mutual

theorem Value.sorted_sorted : ∀ (v : Value), v.sorted.sorted = v.sorted
  | .null | .bool _ | .int _ | .float _ | .str _ => rfl
  | .arr items => congrArg Value.arr (Value.sortedItems_sortedItems items)
  | .obj fields => by
    have hfields := Value.sortedFields_sortedFields fields
    have htwice : sortByName (sortByName (Value.sortedFields fields)) =
        sortByName (Value.sortedFields fields) :=
      (List.pairwise_insertionSort _ _).insertionSort_eq
    show Value.obj (sortByName (Value.sortedFields (sortByName (Value.sortedFields fields)))) = _
    rw [Value.sortedFields_sortByName, hfields, htwice]
    rfl

theorem Value.sortedItems_sortedItems : ∀ (items : List Value),
    Value.sortedItems (Value.sortedItems items) = Value.sortedItems items
  | [] => rfl
  | item :: items => by
    show item.sorted.sorted :: Value.sortedItems (Value.sortedItems items) = _
    rw [Value.sorted_sorted item, Value.sortedItems_sortedItems items]
    rfl

theorem Value.sortedFields_sortedFields : ∀ (fields : List (String × Value)),
    Value.sortedFields (Value.sortedFields fields) = Value.sortedFields fields
  | [] => rfl
  | (name, v) :: fields => by
    show (name, v.sorted.sorted) :: Value.sortedFields (Value.sortedFields fields) = _
    rw [Value.sorted_sorted v, Value.sortedFields_sortedFields fields]
    rfl

end

/-- Sorting the fields of a value gives an equal value. -/
theorem Value.sorted_equal (v : Value) : v.sorted.Equal v := v.sorted_sorted

/-- What is loaded from a dumped text is what was dumped, its fields in order. -/
theorem loads_canonicalJsonBytes {v : Value} (hv : v.Distinct) :
    loads (canonicalJsonBytes v) = some v.sorted := by
  have hload := Value.loads_of_distinct (Value.sorted_distinct hv)
    (2 * (canonicalJsonBytes v).length) [] trivial (Nat.le_refl _)
  have hskip := v.sorted.skipBlanks_write []
  rw [List.append_nil] at hload hskip
  unfold loads canonicalJsonBytes at *
  rw [hskip, hload]
  rfl

/-! ## Bytes -/

theorem utf8_lt (s : String) : ∀ b ∈ utf8 s, b < 256 := by
  intro b hb
  unfold utf8 at hb
  obtain ⟨c, _, rfl⟩ := List.mem_map.mp hb
  exact c.toNat_lt

theorem escapeByte_lt {b : Nat} (hb : b < 256) : ∀ c ∈ escapeByte b, c < 256 := by
  have hall : ∀ b < 256, (escapeByte b).all (· < 256) = true := by decide +kernel
  intro c hc
  exact of_decide_eq_true (List.all_eq_true.mp (hall b hb) c hc)

theorem quoted_lt (s : String) : ∀ b ∈ quoted s, b < 256 := by
  intro b hb
  unfold quoted at hb
  simp only [List.cons_append, List.mem_cons, List.mem_append, List.mem_flatMap,
    List.not_mem_nil, or_false] at hb
  rcases hb with rfl | ⟨c, hc, hb⟩ | rfl
  · decide
  · exact escapeByte_lt (utf8_lt s c hc) b hb
  · decide

theorem commaJoin_lt {items : List (List Nat)} (h : ∀ item ∈ items, ∀ b ∈ item, b < 256) :
    ∀ b ∈ commaJoin items, b < 256 := by
  induction items with
  | nil => exact fun b hb => (by cases hb)
  | cons item items ih =>
      have hitem := h item List.mem_cons_self
      cases items with
      | nil => exact hitem
      | cons next items =>
          intro b hb
          rw [commaJoin, List.mem_append, List.mem_cons] at hb
          rcases hb with hb | rfl | hb
          · exact hitem b hb
          · decide
          · exact ih (fun x hx => h x (.tail _ hx)) b hb
          · intro h
            cases h

theorem spanDigits_lt (text : List Nat) : ∀ b ∈ (spanDigits text).1, b < 256 := by
  induction text with
  | nil => exact fun b hb => (by cases hb)
  | cons c text ih =>
      rw [spanDigits]
      by_cases hc : isDigit c = true
      · rw [if_pos hc]
        intro b hb
        rcases List.mem_cons.mp hb with rfl | hb
        · unfold isDigit at hc
          rw [Bool.and_eq_true] at hc
          have := Nat.le_of_ble_eq_true hc.2
          omega
        · exact ih b hb
      · rw [if_neg hc]
        exact fun b hb => (by cases hb)

theorem FloatText.token_lt (x : FloatText) : ∀ b ∈ x.token, b < 256 := by
  have hfloat := x.isFloat
  have hsign : ∀ text, ∀ b ∈ (signPart text).1, b < 256 := by
    intro text b hb
    unfold signPart at hb
    split at hb
    · simp at hb
      omega
    · cases hb
  have hwhole : ∀ text, ∀ b ∈ (wholePart text).1, b < 256 := by
    intro text b hb
    unfold wholePart at hb
    split at hb
    · simp at hb
      omega
    · exact spanDigits_lt _ b hb
  have hfraction : ∀ text, ∀ b ∈ (fractionPart text).1, b < 256 := by
    intro text b hb
    unfold fractionPart at hb
    split at hb
    · split at hb
      · cases hb
      · rcases List.mem_cons.mp hb with rfl | hb
        · decide
        · exact spanDigits_lt _ b hb
    · cases hb
  have hexponentSign : ∀ text, ∀ b ∈ (exponentSign text).1, b < 256 := by
    intro text b hb
    unfold exponentSign at hb
    split at hb
    · simp at hb
      omega
    · simp at hb
      omega
    · cases hb
  have hexponent : ∀ text, ∀ b ∈ (exponentPart text).1, b < 256 := by
    intro text b hb
    unfold exponentPart at hb
    split at hb
    · cases hb
    · dsimp only at hb
      split at hb
      · next h =>
        rcases List.mem_cons.mp hb with rfl | hb
        · omega
        · rcases List.mem_append.mp hb with hb | hb
          · exact hexponentSign _ b hb
          · exact spanDigits_lt _ b hb
      · cases hb
  intro b hb
  unfold floatToken at hfloat
  dsimp only at hfloat
  split at hfloat
  · cases hfloat
  · have htoken := (Prod.mk.inj (Option.some.inj hfloat)).1
    rw [← htoken] at hb
    simp only [List.mem_append] at hb
    rcases hb with ((hb | hb) | hb) | hb
    · exact hsign _ b hb
    · exact hwhole _ b hb
    · exact hfraction _ b hb
    · exact hexponent _ b hb

mutual

/-- Every value is written in bytes. -/
theorem Value.write_lt : ∀ (v : Value), ∀ b ∈ v.write, b < 256
  | .null => utf8_lt "null"
  | .bool false => utf8_lt "false"
  | .bool true => utf8_lt "true"
  | .int n => utf8_lt (toString n)
  | .float x => x.token_lt
  | .str s => quoted_lt s
  | .arr items => by
    intro b hb
    rw [Value.write, List.cons_append, List.mem_cons, List.mem_append, List.mem_singleton] at hb
    rcases hb with rfl | hb | rfl
    · decide
    · exact commaJoin_lt (Value.writeItems_lt items) b hb
    · decide
  | .obj fields => by
    intro b hb
    rw [Value.write, List.cons_append, List.mem_cons, List.mem_append, List.mem_singleton] at hb
    rcases hb with rfl | hb | rfl
    · decide
    · exact commaJoin_lt (Value.writeFields_lt fields) b hb
    · decide

theorem Value.writeItems_lt : ∀ (items : List Value),
    ∀ item ∈ Value.writeItems items, ∀ b ∈ item, b < 256
  | v :: _, _, .head _ => Value.write_lt v
  | _ :: items, item, .tail _ hitem => Value.writeItems_lt items item hitem

theorem Value.writeFields_lt : ∀ (fields : List (String × Value)),
    ∀ item ∈ Value.writeFields fields, ∀ b ∈ item, b < 256
  | (name, v) :: _, _, .head _ => by
    intro b hb
    rw [List.mem_append, List.mem_cons] at hb
    rcases hb with hb | rfl | hb
    · exact quoted_lt name b hb
    · decide
    · exact Value.write_lt v b hb
  | _ :: fields, item, .tail _ hitem => Value.writeFields_lt fields item hitem

end

/-! ## Lengths -/

/-- The length of a dumped object does not depend on the order of its fields. -/
theorem length_canonicalJsonBytes_obj (field : String × Value) (fields : List (String × Value)) :
    (canonicalJsonBytes (.obj (field :: fields))).length =
      ((field :: fields).map fun f =>
        (quoted f.1).length + (canonicalJsonBytes f.2).length + 2).sum + 1 := by
  let sorted := Value.sortedFields (field :: fields)
  have hperm : List.Perm (sortByName sorted) sorted := List.perm_insertionSort _ sorted
  have hmap : ∀ l : List (String × Value), (Value.sortedFields l).map (fun f =>
      (writtenField f).length + 1) = l.map fun f =>
        (quoted f.1).length + (canonicalJsonBytes f.2).length + 2 := by
    intro l
    induction l with
    | nil => rfl
    | cons f l ih =>
        show ((writtenField (f.1, f.2.sorted)).length + 1) ::
          (Value.sortedFields l).map _ = _
        rw [ih]
        have hfield : (writtenField (f.1, f.2.sorted)).length + 1 =
            (quoted f.1).length + (canonicalJsonBytes f.2).length + 2 := by
          unfold writtenField canonicalJsonBytes
          dsimp only
          rw [List.length_append, List.length_cons]
          omega
        rw [hfield]
        rfl
  have hsum := (hperm.map fun f => (writtenField f).length + 1).sum_eq
  rw [hmap] at hsum
  show (123 :: commaJoin (Value.writeFields (sortByName sorted)) ++ [125]).length = _
  rw [Value.writeFields_eq_map]
  cases hsorted : sortByName sorted with
  | nil =>
      have hlength := hperm.length_eq
      rw [hsorted] at hlength
      cases hlength
  | cons f rest =>
      have hjoin := commaJoin_length_succ (List.cons_ne_nil (writtenField f)
        (rest.map writtenField))
      rw [hsorted] at hsum
      rw [← List.map_cons, List.map_map] at hjoin
      rw [← hsum, List.length_append, List.length_cons]
      show _ = ((f :: rest).map ((fun i => i.length + 1) ∘ writtenField)).sum + 1
      rw [← hjoin]
      simp

end FlowPilot.Recovery

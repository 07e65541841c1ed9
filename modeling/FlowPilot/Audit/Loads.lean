import FlowPilot.Canonical
import Mathlib.Tactic.IntervalCases

/-!
# Loading stored JSON

`json.loads` over the bytes of a stored text.  Besides a text that is not JSON, `none` is also a
value that no stored payload may hold: a float, or text with a lone surrogate.
-/

namespace FlowPilot

/-! ## Text -/

def hexDigit (b : Nat) : Option Nat :=
  if isDigit b then some (b - 48)
  else if Nat.ble 97 b && Nat.ble b 102 then some (b - 87)
  else if Nat.ble 65 b && Nat.ble b 70 then some (b - 55)
  else none

/-- The four digits of a `\u` escape. -/
def hexEscape (a b c d : Nat) : Option Nat := do
  let a ← hexDigit a
  let b ← hexDigit b
  let c ← hexDigit c
  let d ← hexDigit d
  some (a * 4096 + b * 256 + c * 16 + d)

def isSurrogate (code : Nat) : Bool := Nat.ble 0xD800 code && Nat.ble code 0xDFFF

def encodeChar (code : Nat) : List Nat := utf8 (String.singleton (Char.ofNat code))

/-- What the escapes of one letter stand for. -/
def escaped : Nat → Option Nat
  | 34 => some 34 | 92 => some 92 | 47 => some 47 | 98 => some 8 | 102 => some 12
  | 110 => some 10 | 114 => some 13 | 116 => some 9 | _ => none

/-- The bytes of a text up to its closing quote, and what follows the quote. -/
def loadChars : List Nat → Option (List Nat × List Nat)
  | [] => none
  | 34 :: rest => some ([], rest)
  | 92 :: 117 :: a :: b :: c :: d :: rest =>
    match hexEscape a b c d with
    | none => none
    | some code =>
      if isSurrogate code then
        match rest with
        | 92 :: 117 :: a :: b :: c :: d :: rest =>
          match hexEscape a b c d with
          | some low =>
            if code ≤ 0xDBFF ∧ 0xDC00 ≤ low ∧ low ≤ 0xDFFF then
              (loadChars rest).map fun loaded =>
                (encodeChar (0x10000 + (code - 0xD800) * 1024 + (low - 0xDC00)) ++ loaded.1,
                  loaded.2)
            else none
          | none => none
        | _ => none
      else (loadChars rest).map fun loaded => (encodeChar code ++ loaded.1, loaded.2)
  | 92 :: letter :: rest =>
    match escaped letter with
    | none => none
    | some b => (loadChars rest).map fun loaded => (b :: loaded.1, loaded.2)
  | b :: rest =>
    if Nat.blt b 32 then none else (loadChars rest).map fun loaded => (b :: loaded.1, loaded.2)

/-- The text with these bytes. -/
def decodeUtf8 (bytes : List Nat) : Option String :=
  String.fromUTF8? ⟨(bytes.map UInt8.ofNat).toArray⟩

def loadText (text : List Nat) : Option (String × List Nat) := do
  let (bytes, rest) ← loadChars text
  let s ← decodeUtf8 bytes
  some (s, rest)

/-! ## Numbers -/

def spanDigits : List Nat → List Nat × List Nat
  | [] => ([], [])
  | b :: rest => if isDigit b then (b :: (spanDigits rest).1, (spanDigits rest).2) else ([], b :: rest)

def digitsValue (digits : List Nat) : Nat := digits.foldl (fun n b => 10 * n + (b - 48)) 0

/-- A fraction or an exponent follows: the number is a float. -/
def floatFollows : List Nat → Bool
  | b :: _ => Nat.beq b 46 || Nat.beq b 101 || Nat.beq b 69
  | [] => false

def loadNat (text : List Nat) : Option (Nat × List Nat) :=
  let (digits, rest) := spanDigits text
  match digits with
  | [] => none
  -- a number does not start with a superfluous zero
  | 48 :: more => if floatFollows (more ++ rest) then none else some (0, more ++ rest)
  | digits => if floatFollows rest then none else some (digitsValue digits, rest)

def loadInt : List Nat → Option (Int × List Nat)
  | 45 :: text => (loadNat text).map fun loaded => (-(loaded.1 : Int), loaded.2)
  | text => (loadNat text).map fun loaded => ((loaded.1 : Int), loaded.2)

/-! ## Values -/

def skipBlanks : List Nat → List Nat
  | [] => []
  | b :: rest =>
    if Nat.beq b 32 || Nat.beq b 9 || Nat.beq b 10 || Nat.beq b 13 then skipBlanks rest
    else b :: rest

/-- `d[name] = value`. -/
def setKey (fields : List (String × Json)) (name : String) (value : Json) :
    List (String × Json) :=
  if fields.any (fun f => f.1 = name) then
    fields.map fun f => if f.1 = name then (name, value) else f
  else fields ++ [(name, value)]

mutual

def loadValue : Nat → List Nat → Option (Json × List Nat)
  | 0, _ => none
  | fuel + 1, text =>
    match text with
    | 34 :: rest => (loadText rest).map fun loaded => (.str loaded.1, loaded.2)
    | 123 :: rest =>
      match skipBlanks rest with
      | 125 :: rest => some (.obj [], rest)
      | rest => loadFields fuel [] rest
    | 91 :: rest =>
      match skipBlanks rest with
      | 93 :: rest => some (.arr [], rest)
      | rest => loadItems fuel [] rest
    | 110 :: 117 :: 108 :: 108 :: rest => some (.null, rest)
    | 116 :: 114 :: 117 :: 101 :: rest => some (.bool true, rest)
    | 102 :: 97 :: 108 :: 115 :: 101 :: rest => some (.bool false, rest)
    | text => (loadInt text).map fun loaded => (.num loaded.1, loaded.2)

/-- The fields from a name on, after those that are loaded already. -/
def loadFields : Nat → List (String × Json) → List Nat → Option (Json × List Nat)
  | 0, _, _ => none
  | fuel + 1, fields, text =>
    match text with
    | 34 :: text => do
      let (name, text) ← loadText text
      match skipBlanks text with
      | 58 :: text =>
        let (value, text) ← loadValue fuel (skipBlanks text)
        match skipBlanks text with
        | 44 :: text => loadFields fuel (setKey fields name value) (skipBlanks text)
        | 125 :: text => some (.obj (setKey fields name value), text)
        | _ => none
      | _ => none
    | _ => none

def loadItems : Nat → List Json → List Nat → Option (Json × List Nat)
  | 0, _, _ => none
  | fuel + 1, items, text => do
    let (value, text) ← loadValue fuel text
    match skipBlanks text with
    | 44 :: text => loadItems fuel (items ++ [value]) (skipBlanks text)
    | 93 :: text => some (.arr (items ++ [value]), text)
    | _ => none

end

/-- `json.loads`; no byte of a text takes more than two steps. -/
def jsonLoads (text : List Nat) : Option Json :=
  match loadValue (2 * text.length + 2) (skipBlanks text) with
  | some (value, rest) => if (skipBlanks rest).isEmpty then some value else none
  | none => none

/-! ## Text that was dumped -/

theorem loadChars_plain {b : Nat} (hquote : b ≠ 34) (hslash : b ≠ 92) (hlow : 32 ≤ b)
    (text : List Nat) :
    loadChars (b :: text) = (loadChars text).map fun loaded => (b :: loaded.1, loaded.2) := by
  have hblt : Nat.blt b 32 = false := by
    rw [Bool.eq_false_iff]
    intro hlt
    have := Nat.le_of_ble_eq_true hlt
    omega
  rw [loadChars]
  · rw [hblt]
    simp only [Bool.false_eq_true, if_false]
  all_goals intros; omega

theorem encodeChar_control {b : Nat} (hb : b < 32) : encodeChar b = [b] := by
  interval_cases b <;> decide

theorem loadChars_unicode {b c d : Nat} (hcode : hexEscape 48 48 c d = some b) (hb : b < 32)
    (text : List Nat) :
    loadChars (92 :: 117 :: 48 :: 48 :: c :: d :: text) =
      (loadChars text).map fun loaded => (b :: loaded.1, loaded.2) := by
  have hplain : ¬ isSurrogate b = true := by
    unfold isSurrogate
    rw [Bool.and_eq_true]
    intro hsurrogate
    have hlow := Nat.le_of_ble_eq_true hsurrogate.1
    omega
  rw [loadChars, hcode]
  dsimp only
  rw [if_neg hplain, encodeChar_control hb]
  rfl

theorem loadChars_escapeByte (b : Nat) (text : List Nat) :
    loadChars (escapeByte b ++ text) =
      (loadChars text).map fun loaded => (b :: loaded.1, loaded.2) := by
  by_cases hlow : 32 ≤ b
  · have hble : Nat.ble 32 b = true := Nat.ble_eq_true_of_le hlow
    unfold escapeByte
    rw [if_pos hble]
    by_cases hquote : b = 34
    · subst hquote
      rfl
    · by_cases hslash : b = 92
      · subst hslash
        rfl
      · have hplain : ¬ (Nat.beq b 34 || Nat.beq b 92) = true := by
          rw [Bool.or_eq_true, Nat.beq_eq, Nat.beq_eq]
          omega
        rw [if_neg hplain]
        exact loadChars_plain hquote hslash hlow text
  · have hb : b < 32 := by omega
    interval_cases b <;> first | rfl | exact loadChars_unicode rfl (by decide) text

theorem loadChars_quoted (bytes rest : List Nat) :
    loadChars (bytes.flatMap escapeByte ++ 34 :: rest) = some (bytes, rest) := by
  induction bytes with
  | nil => rfl
  | cons b bytes ih =>
      rw [List.flatMap_cons, List.append_assoc, loadChars_escapeByte, ih]
      rfl

theorem decodeUtf8_utf8 (s : String) : decodeUtf8 (utf8 s) = some s := by
  unfold decodeUtf8 utf8 String.fromUTF8?
  have hbytes : (⟨((s.toByteArray.data.toList.map UInt8.toNat).map UInt8.ofNat).toArray⟩ :
      ByteArray) = s.toByteArray := by
    rw [List.map_map]
    have hround : (UInt8.ofNat ∘ UInt8.toNat) = id := by
      funext b
      exact UInt8.ofNat_toNat
    rw [hround, List.map_id]
  rw [hbytes, dif_pos s.isValidUTF8]
  rfl

theorem loadText_quoted (s : String) (rest : List Nat) :
    loadText ((utf8 s).flatMap escapeByte ++ 34 :: rest) = some (s, rest) := by
  unfold loadText
  rw [loadChars_quoted]
  show (decodeUtf8 (utf8 s)).bind _ = _
  rw [decodeUtf8_utf8]
  rfl

/-! ## Numbers that were dumped -/

/-- What follows a number in a dumped text. -/
def EndsNumber (rest : List Nat) : Prop :=
  (∀ b more, rest = b :: more → isDigit b = false) ∧ floatFollows rest = false

theorem spanDigits_append {digits rest : List Nat} (hdigits : ∀ b ∈ digits, isDigit b = true)
    (hrest : ∀ b more, rest = b :: more → isDigit b = false) :
    spanDigits (digits ++ rest) = (digits, rest) := by
  induction digits with
  | nil =>
      cases rest with
      | nil => rfl
      | cons b more =>
          rw [List.nil_append, spanDigits, hrest b more rfl]
          rfl
  | cons b digits ih =>
      have hb := hdigits b List.mem_cons_self
      rw [List.cons_append, spanDigits, if_pos hb, ih fun c hc => hdigits c (.tail _ hc)]

/-- The bytes of the decimal digits of `n`. -/
def decimal (n : Nat) : List Nat := (Nat.toDigits 10 n).map Char.toNat

theorem utf8_ofList_ascii {l : List Char} (h : ∀ c ∈ l, c.val ≤ 127) :
    utf8 (String.ofList l) = l.map Char.toNat := by
  unfold utf8
  rw [String.toByteArray_ofList]
  induction l with
  | nil => rfl
  | cons c l ih =>
      have hsize : c.utf8Size = 1 := Char.utf8Size_eq_one_iff.mpr (h c List.mem_cons_self)
      rw [List.utf8Encode_cons, ByteArray.toList_data_append, List.map_append,
        ih fun d hd => h d (.tail _ hd), List.utf8Encode_singleton,
        String.utf8EncodeChar_eq_singleton hsize]
      have hc : c.val.toNat < 2 ^ 8 :=
        Nat.lt_of_le_of_lt (UInt32.le_iff_toNat_le.mp (h c List.mem_cons_self)) (by decide)
      show [c.val.toUInt8.toNat] ++ _ = c.toNat :: _
      rw [UInt32.toNat_toUInt8, Nat.mod_eq_of_lt hc]
      rfl

theorem isDigit_of_mem_decimal {n b : Nat} (h : b ∈ decimal n) : isDigit b = true := by
  obtain ⟨c, hc, rfl⟩ := List.mem_map.mp h
  have hdigit := Nat.isDigit_of_mem_toDigits (by decide) (by decide) hc
  unfold Char.isDigit at hdigit
  rw [Bool.and_eq_true, decide_eq_true_eq, decide_eq_true_eq] at hdigit
  have hlow := UInt32.le_iff_toNat_le.mp hdigit.1
  have hhigh := UInt32.le_iff_toNat_le.mp hdigit.2
  unfold isDigit
  rw [Bool.and_eq_true]
  exact ⟨Nat.ble_eq_true_of_le hlow, Nat.ble_eq_true_of_le hhigh⟩

theorem utf8_toString_nat (n : Nat) : utf8 (toString n) = decimal n := by
  rw [Nat.toString_eq_ofList_toDigits]
  apply utf8_ofList_ascii
  intro c hc
  have hdigit := Nat.isDigit_of_mem_toDigits (by decide) (by decide) hc
  unfold Char.isDigit at hdigit
  rw [Bool.and_eq_true, decide_eq_true_eq, decide_eq_true_eq] at hdigit
  have hhigh := UInt32.le_iff_toNat_le.mp hdigit.2
  exact UInt32.le_iff_toNat_le.mpr (Nat.le_trans hhigh (by decide))

theorem digitsValue_decimal (n : Nat) : digitsValue (decimal n) = n := by
  unfold digitsValue decimal
  rw [List.foldl_map]
  exact Nat.ofDigitChars_eq_foldl.symm.trans Nat.ofDigitChars_ten_toDigits

theorem decimal_ne_nil (n : Nat) : decimal n ≠ [] := by
  unfold decimal
  rw [ne_eq, List.map_eq_nil_iff]
  exact Nat.toDigits_ne_nil

theorem decimal_zero : decimal 0 = [48] := by
  unfold decimal
  rw [Nat.toDigits_zero]
  rfl

/-- The first digit of a positive number is not zero. -/
theorem decimal_pos {n : Nat} (hn : 0 < n) : ∃ b more, decimal n = b :: more ∧ b ≠ 48 := by
  induction n using Nat.strongRecOn with
  | ind n ih =>
      by_cases hlt : n < 10
      · refine ⟨n.digitChar.toNat, [], ?_, ?_⟩
        · unfold decimal
          rw [Nat.toDigits_of_lt_base hlt]
          rfl
        · rw [Nat.toNat_digitChar_of_lt_ten hlt]
          omega
      · obtain ⟨b, more, hdigits, hb⟩ := ih (n / 10) (by omega) (by omega)
        refine ⟨b, more ++ [(n % 10).digitChar.toNat], ?_, hb⟩
        unfold decimal at hdigits ⊢
        rw [Nat.toDigits_of_base_le (by decide) (by omega), List.map_append, hdigits]
        rfl

theorem loadNat_decimal (n : Nat) {rest : List Nat} (hrest : EndsNumber rest) :
    loadNat (decimal n ++ rest) = some (n, rest) := by
  unfold loadNat
  rw [spanDigits_append (fun b hb => isDigit_of_mem_decimal hb) hrest.1]
  dsimp only
  rcases Nat.eq_zero_or_pos n with rfl | hn
  · rw [decimal_zero]
    show (if floatFollows ([] ++ rest) then none else some (0, [] ++ rest)) = _
    rw [List.nil_append, hrest.2]
    rfl
  · obtain ⟨b, more, hdigits, hb⟩ := decimal_pos hn
    have hvalue := digitsValue_decimal n
    rw [hdigits] at hvalue ⊢
    split
    · next h => cases h
    · next h =>
        cases h
        exact absurd rfl hb
    · rw [hrest.2, hvalue]
      rfl

theorem loadInt_toString (n : Int) {rest : List Nat} (hrest : EndsNumber rest) :
    loadInt (utf8 (toString n) ++ rest) = some (n, rest) := by
  cases n with
  | ofNat n =>
      have htext : utf8 (toString (Int.ofNat n)) = decimal n := utf8_toString_nat n
      rw [htext]
      rw [loadInt]
      · rw [loadNat_decimal n hrest]
        rfl
      · intro text htext
        obtain ⟨b, more, hdecimal⟩ := List.exists_cons_of_ne_nil (decimal_ne_nil n)
        have hdigit := isDigit_of_mem_decimal (n := n) (b := b) (hdecimal ▸ List.mem_cons_self)
        rw [hdecimal] at htext
        cases htext
        cases hdigit
  | negSucc n =>
      have htext : utf8 (toString (Int.negSucc n)) = 45 :: decimal (n + 1) := by
        have hminus : toString (Int.negSucc n) = "-" ++ toString (n + 1) := rfl
        rw [hminus, utf8_append, utf8_toString_nat]
        rfl
      rw [htext, List.cons_append]
      show (loadNat (decimal (n + 1) ++ rest)).map _ = _
      rw [loadNat_decimal (n + 1) hrest]
      rfl

/-- The first byte of a number is a digit or a minus sign. -/
theorem toString_int_head (n : Int) :
    ∃ b more, utf8 (toString n) = b :: more ∧ 45 ≤ b ∧ b ≤ 57 := by
  cases n with
  | ofNat n =>
      have htext : utf8 (toString (Int.ofNat n)) = decimal n := utf8_toString_nat n
      obtain ⟨b, more, hdecimal⟩ := List.exists_cons_of_ne_nil (decimal_ne_nil n)
      have hdigit := isDigit_of_mem_decimal (n := n) (b := b) (hdecimal ▸ List.mem_cons_self)
      unfold isDigit at hdigit
      rw [Bool.and_eq_true] at hdigit
      have hlow := Nat.le_of_ble_eq_true hdigit.1
      have hhigh := Nat.le_of_ble_eq_true hdigit.2
      exact ⟨b, more, htext.trans hdecimal, by omega, hhigh⟩
  | negSucc n =>
      have hminus : toString (Int.negSucc n) = "-" ++ toString (n + 1) := rfl
      refine ⟨45, decimal (n + 1), ?_, by decide, by decide⟩
      rw [hminus, utf8_append, utf8_toString_nat]
      rfl

/-! ## Flat objects that were dumped -/

/-- Neither an array nor an object. -/
def Json.Scalar : Json → Prop
  | .null | .bool _ | .num _ | .str _ => True
  | .arr _ | .obj _ => False

theorem loadValue_scalar {v : Json} (hv : v.Scalar) (fuel : Nat) {rest : List Nat}
    (hrest : EndsNumber rest) :
    loadValue (fuel + 1) (canonicalBytes v ++ rest) = some (v, rest) := by
  cases v with
  | null => rfl
  | bool b => cases b <;> rfl
  | num n =>
      have hload := loadInt_toString n hrest
      obtain ⟨b, more, htext, hlow, hhigh⟩ := toString_int_head n
      show loadValue (fuel + 1) (utf8 (toString n) ++ rest) = _
      rw [htext, List.cons_append] at hload ⊢
      rw [loadValue]
      · rw [hload]
        rfl
      all_goals
        intro tail htail
        have hb := List.head_eq_of_cons_eq htail
        omega
  | str s =>
      show loadValue (fuel + 1) (34 :: (utf8 s).flatMap escapeByte ++ [34] ++ rest) = _
      rw [List.append_assoc]
      show (loadText ((utf8 s).flatMap escapeByte ++ 34 :: rest)).map _ = _
      rw [loadText_quoted]
      rfl
  | arr items => cases hv
  | obj fields => cases hv

theorem skipBlanks_scalar {v : Json} (hv : v.Scalar) (rest : List Nat) :
    skipBlanks (canonicalBytes v ++ rest) = canonicalBytes v ++ rest := by
  cases v with
  | null => rfl
  | bool b => cases b <;> rfl
  | num n =>
      obtain ⟨b, more, htext, hlow, hhigh⟩ := toString_int_head n
      have hblank : ¬ (Nat.beq b 32 || Nat.beq b 9 || Nat.beq b 10 || Nat.beq b 13) = true := by
        simp only [Bool.or_eq_true, Nat.beq_eq]
        omega
      show skipBlanks (utf8 (toString n) ++ rest) = utf8 (toString n) ++ rest
      rw [htext, List.cons_append, skipBlanks, if_neg hblank]
  | str s => rfl
  | arr items => cases hv
  | obj fields => cases hv

/-- A field as `json.dumps` writes it. -/
def dumpedField (field : String × Json) : List Nat :=
  quoted field.1 ++ 58 :: canonicalBytes field.2

theorem canonicalFields_eq_map (fields : List (String × Json)) :
    canonicalFields fields = fields.map fun f => (utf8 f.1, dumpedField f) := by
  induction fields with
  | nil => rfl
  | cons f fields ih =>
      show (utf8 f.1, dumpedField f) :: canonicalFields fields = _
      rw [ih]
      rfl

theorem setKey_new {fields : List (String × Json)} {name : String}
    (h : name ∉ fields.map (·.1)) (value : Json) :
    setKey fields name value = fields ++ [(name, value)] := by
  unfold setKey
  rw [if_neg]
  rw [List.any_eq_true]
  rintro ⟨f, hf, hname⟩
  exact h (List.mem_map.mpr ⟨f, hf, of_decide_eq_true hname⟩)

theorem dumpedField_append (field : String × Json) (rest : List Nat) :
    dumpedField field ++ rest =
      34 :: ((utf8 field.1).flatMap escapeByte ++ 34 :: 58 :: (canonicalBytes field.2 ++ rest)) := by
  unfold dumpedField quoted
  simp only [List.cons_append, List.append_assoc, List.nil_append]

section

variable {field : String × Json} {loaded : List (String × Json)}

theorem loadFields_more (hscalar : field.2.Scalar) (hnew : field.1 ∉ loaded.map (·.1))
    (fuel : Nat) (text : List Nat) :
    loadFields (fuel + 2) loaded (dumpedField field ++ 44 :: text) =
      loadFields (fuel + 1) (loaded ++ [field]) (skipBlanks text) := by
  have hends : EndsNumber (44 :: text) := ⟨fun b more h => by cases h; rfl, rfl⟩
  have hskip : ∀ l, skipBlanks (58 :: l) = 58 :: l := fun _ => rfl
  have hcomma : skipBlanks (44 :: text) = 44 :: text := rfl
  rw [dumpedField_append, loadFields, loadText_quoted]
  simp only [Option.bind_eq_bind, Option.bind_some, hskip, skipBlanks_scalar hscalar,
    loadValue_scalar hscalar fuel hends, hcomma, setKey_new hnew]

theorem loadFields_last (hscalar : field.2.Scalar) (hnew : field.1 ∉ loaded.map (·.1))
    (fuel : Nat) (text : List Nat) :
    loadFields (fuel + 2) loaded (dumpedField field ++ 125 :: text) =
      some (.obj (loaded ++ [field]), text) := by
  have hends : EndsNumber (125 :: text) := ⟨fun b more h => by cases h; rfl, rfl⟩
  have hskip : ∀ l, skipBlanks (58 :: l) = 58 :: l := fun _ => rfl
  have hbrace : skipBlanks (125 :: text) = 125 :: text := rfl
  rw [dumpedField_append, loadFields, loadText_quoted]
  simp only [Option.bind_eq_bind, Option.bind_some, hskip, skipBlanks_scalar hscalar,
    loadValue_scalar hscalar fuel hends, hbrace, setKey_new hnew]

end

theorem skipBlanks_dumped (f : String × Json) (fields : List (String × Json)) (rest : List Nat) :
    skipBlanks (commaJoin ((f :: fields).map dumpedField) ++ rest) =
      commaJoin ((f :: fields).map dumpedField) ++ rest := by
  cases fields <;> rfl

theorem loadFields_dumped {fields : List (String × Json)} (loaded : List (String × Json))
    (hne : fields ≠ []) (hscalar : ∀ f ∈ fields, f.2.Scalar)
    (hnodup : ((loaded ++ fields).map (·.1)).Nodup) (fuel : Nat) (rest : List Nat) :
    loadFields (fuel + fields.length + 1) loaded
        (commaJoin (fields.map dumpedField) ++ 125 :: rest) =
      some (.obj (loaded ++ fields), rest) := by
  induction fields generalizing loaded with
  | nil => exact absurd rfl hne
  | cons f fields ih =>
      have hnew : f.1 ∉ loaded.map (·.1) := by
        rw [List.map_append, List.map_cons] at hnodup
        intro hmem
        exact (List.nodup_append.mp hnodup).2.2 f.1 hmem f.1 List.mem_cons_self rfl
      have hf := hscalar f List.mem_cons_self
      cases fields with
      | nil => exact loadFields_last hf hnew fuel rest
      | cons g fields =>
          have hcomma : commaJoin ((f :: g :: fields).map dumpedField) ++ 125 :: rest =
              dumpedField f ++ 44 :: (commaJoin ((g :: fields).map dumpedField) ++ 125 :: rest) := by
            show (dumpedField f ++ 44 :: commaJoin ((g :: fields).map dumpedField)) ++ _ = _
            rw [List.append_assoc]
            rfl
          have hrest := ih (loaded ++ [f]) (by simp)
            (fun x hx => hscalar x (.tail _ hx)) (by rwa [List.append_assoc])
          rw [hcomma]
          refine (loadFields_more hf hnew (fuel + fields.length + 1) _).trans ?_
          rw [skipBlanks_dumped]
          refine hrest.trans ?_
          rw [List.append_assoc]
          rfl

theorem length_commaJoin (fields : List (String × Json)) :
    fields.length ≤ (commaJoin (fields.map dumpedField)).length := by
  have hfield : ∀ f, 1 ≤ (dumpedField f).length := fun f => Nat.succ_pos _
  induction fields with
  | nil => exact Nat.le_refl 0
  | cons f fields ih =>
      cases fields with
      | nil => exact hfield f
      | cons g fields =>
          show _ ≤ (dumpedField f ++ 44 :: commaJoin ((g :: fields).map dumpedField)).length
          simp only [List.length_append, List.length_cons] at ih ⊢
          omega

/-- The fields in the order in which they are dumped. -/
def sortByName (fields : List (String × Json)) : List (String × Json) :=
  fields.insertionSort fun f g => textLe (utf8 f.1) (utf8 g.1)

theorem sortFields_canonicalFields (fields : List (String × Json)) :
    (sortFields (canonicalFields fields)).map (·.2) = (sortByName fields).map dumpedField := by
  have hmap := List.map_insertionSort (fun f g => textLe (utf8 f.1) (utf8 g.1))
    (fun f g => textLe f.1 g.1) (fun f : String × Json => (utf8 f.1, dumpedField f)) fields
    fun f _ g _ => Iff.rfl
  unfold sortFields sortByName
  rw [canonicalFields_eq_map, ← hmap, List.map_map]
  rfl

theorem canonicalBytes_obj (fields : List (String × Json)) :
    canonicalBytes (.obj fields) =
      123 :: commaJoin ((sortByName fields).map dumpedField) ++ [125] := by
  rw [← sortFields_canonicalFields]
  rfl

theorem textLe_total (bs cs : List Nat) : textLe bs cs = true ∨ textLe cs bs = true := by
  induction bs generalizing cs with
  | nil => exact .inl rfl
  | cons b bs ih =>
      cases cs with
      | nil => exact .inr rfl
      | cons c cs =>
          simp only [textLe, Bool.or_eq_true, Bool.and_eq_true, Nat.beq_eq, Nat.blt_eq]
          rcases Nat.lt_trichotomy b c with hlt | rfl | hlt
          · exact .inl (.inl hlt)
          · rcases ih cs with hle | hle
            · exact .inl (.inr ⟨rfl, hle⟩)
            · exact .inr (.inr ⟨rfl, hle⟩)
          · exact .inr (.inl hlt)

theorem textLe_trans {bs cs ds : List Nat} (hbc : textLe bs cs = true)
    (hcd : textLe cs ds = true) : textLe bs ds = true := by
  induction bs generalizing cs ds with
  | nil => rfl
  | cons b bs ih =>
      cases cs with
      | nil => cases hbc
      | cons c cs =>
          cases ds with
          | nil => cases hcd
          | cons d ds =>
              simp only [textLe, Bool.or_eq_true, Bool.and_eq_true, Nat.beq_eq, Nat.blt_eq]
                at hbc hcd ⊢
              rcases hbc with hlt | ⟨rfl, hle⟩
              · rcases hcd with hlt' | ⟨rfl, _⟩
                · exact .inl (Nat.lt_trans hlt hlt')
                · exact .inl hlt
              · rcases hcd with hlt' | ⟨rfl, hle'⟩
                · exact .inl hlt'
                · exact .inr ⟨rfl, ih hle hle'⟩

instance : Std.Total fun f g : String × Json => textLe (utf8 f.1) (utf8 g.1) = true :=
  ⟨fun f g => textLe_total (utf8 f.1) (utf8 g.1)⟩

instance : IsTrans (String × Json) fun f g => textLe (utf8 f.1) (utf8 g.1) = true :=
  ⟨fun _ _ _ => textLe_trans⟩

theorem sortByName_sortByName (fields : List (String × Json)) :
    sortByName (sortByName fields) = sortByName fields :=
  (List.pairwise_insertionSort _ fields).insertionSort_eq

/-- The order of the fields of an object does not show in its canonical form. -/
theorem canonicalBytes_sortByName (fields : List (String × Json)) :
    canonicalBytes (.obj (sortByName fields)) = canonicalBytes (.obj fields) := by
  rw [canonicalBytes_obj, canonicalBytes_obj, sortByName_sortByName]

/-- Loading what was dumped from an object without nested values gives its fields in order. -/
theorem jsonLoads_dumped {fields : List (String × Json)} (hscalar : ∀ f ∈ fields, f.2.Scalar)
    (hnodup : (fields.map (·.1)).Nodup) :
    jsonLoads (canonicalBytes (.obj fields)) = some (.obj (sortByName fields)) := by
  have hsorted : ∀ f ∈ sortByName fields, f.2.Scalar := by
    intro f hf
    exact hscalar f ((List.mem_insertionSort _).mp hf)
  have hdistinct : ((sortByName fields).map (·.1)).Nodup :=
    ((List.perm_insertionSort _ fields).map _).nodup_iff.mpr hnodup
  rw [canonicalBytes_obj]
  cases hcases : sortByName fields with
  | nil => rfl
  | cons f rest =>
      rw [hcases] at hsorted hdistinct
      let text := commaJoin ((f :: rest).map dumpedField) ++ [125]
      have hlength : (f :: rest).length ≤ text.length := by
        have := length_commaJoin (f :: rest)
        rw [List.length_append]
        omega
      have hfuel : 2 * text.length + 3 = 2 * text.length + 2 - (f :: rest).length +
          (f :: rest).length + 1 := by omega
      have hload := loadFields_dumped [] (List.cons_ne_nil f rest) hsorted hdistinct
        (2 * text.length + 2 - (f :: rest).length) []
      have hvalue : loadValue (2 * text.length + 4) (123 :: text) =
          loadFields (2 * text.length + 3) [] text := by
        obtain ⟨tail, htail⟩ : ∃ tail, text = 34 :: tail := by
          cases rest <;> exact ⟨_, rfl⟩
        rw [htail]
        rfl
      rw [← hfuel] at hload
      unfold jsonLoads
      show (match loadValue (2 * (text.length + 1) + 2) (123 :: text) with
        | some (value, rest) => if (skipBlanks rest).isEmpty then some value else none
        | none => none) = _
      rw [show 2 * (text.length + 1) + 2 = 2 * text.length + 4 from by omega, hvalue, hload]
      rfl

/-! ## Dumped values are texts -/

/-- The bytes of a text. -/
def IsText (bytes : List Nat) : Prop := ∃ s, utf8 s = bytes

theorem isText_utf8 (s : String) : IsText (utf8 s) := ⟨s, rfl⟩

theorem isText_nil : IsText [] := ⟨"", rfl⟩

theorem IsText.append {xs ys : List Nat} (hx : IsText xs) (hy : IsText ys) :
    IsText (xs ++ ys) := by
  obtain ⟨s, rfl⟩ := hx
  obtain ⟨t, rfl⟩ := hy
  exact ⟨s ++ t, utf8_append s t⟩

theorem isText_ascii {bytes : List Nat} (h : ∀ b ∈ bytes, b < 128) : IsText bytes := by
  refine ⟨String.ofList (bytes.map Char.ofNat), ?_⟩
  have hchar : ∀ b < 128, (Char.ofNat b).val ≤ 127 ∧ (Char.ofNat b).toNat = b := by decide +kernel
  rw [utf8_ofList_ascii, List.map_map]
  · have hround : ∀ b ∈ bytes, (Char.toNat ∘ Char.ofNat) b = b := fun b hb => (hchar b (h b hb)).2
    rw [List.map_congr_left hround, List.map_id']
  · intro c hc
    obtain ⟨b, hb, rfl⟩ := List.mem_map.mp hc
    exact (hchar b (h b hb)).1

/-- A byte of a character beyond ASCII is none that is escaped. -/
theorem escapeByte_high {b : Nat} (h : 128 ≤ b) : escapeByte b = [b] := by
  have hble : Nat.ble 32 b = true := Nat.ble_eq_true_of_le (by omega)
  have hplain : ¬ (Nat.beq b 34 || Nat.beq b 92) = true := by
    rw [Bool.or_eq_true, Nat.beq_eq, Nat.beq_eq]
    omega
  unfold escapeByte
  rw [if_pos hble, if_neg hplain]

theorem utf8_singleton (c : Char) :
    utf8 (String.ofList [c]) = (String.utf8EncodeChar c).map UInt8.toNat := by
  unfold utf8
  rw [String.toByteArray_ofList, List.utf8Encode_singleton]
  simp

theorem high_or (x : UInt8) {mark : UInt8} (h : 128 ≤ mark.toNat) :
    128 ≤ (x ||| mark).toNat := by
  rw [UInt8.toNat_or]
  exact Nat.le_trans h Nat.right_le_or

/-- A character is one ASCII byte, or all of its bytes lie beyond ASCII. -/
theorem utf8EncodeChar_ascii_or_high (c : Char) :
    (∃ b < 128, (String.utf8EncodeChar c).map UInt8.toNat = [b]) ∨
      ∀ b ∈ (String.utf8EncodeChar c).map UInt8.toNat, 128 ≤ b := by
  rcases c.utf8Size_eq with h | h | h | h
  · left
    have hc : c.val ≤ 127 := Char.utf8Size_eq_one_iff.mp h
    have hlow : c.val.toNat ≤ 127 := UInt32.le_iff_toNat_le.mp hc
    refine ⟨c.val.toNat, by omega, ?_⟩
    rw [String.utf8EncodeChar_eq_singleton h, List.map_singleton, UInt32.toNat_toUInt8,
      Nat.mod_eq_of_lt (by omega)]
  all_goals
    right
    intro b hb
    first
      | rw [String.utf8EncodeChar_eq_cons_cons h] at hb
      | rw [String.utf8EncodeChar_eq_cons_cons_cons h] at hb
      | rw [String.utf8EncodeChar_eq_cons_cons_cons_cons h] at hb
    simp only [List.map_cons, List.map_nil, List.mem_cons, List.not_mem_nil, or_false] at hb
    rcases hb with rfl | rfl | rfl | rfl <;> exact high_or _ (by decide)

theorem isText_escape_char (c : Char) :
    IsText ((utf8 (String.ofList [c])).flatMap escapeByte) := by
  rw [utf8_singleton]
  cases utf8EncodeChar_ascii_or_high c with
  | inl hlow =>
      obtain ⟨b, hb, hbytes⟩ := hlow
      have hall : ∀ b < 128, ∀ x ∈ escapeByte b, x < 128 := by decide +kernel
      rw [hbytes, List.flatMap_singleton]
      exact isText_ascii (hall b hb)
  | inr hhigh =>
      have hsame : ∀ l : List Nat, (∀ b ∈ l, 128 ≤ b) → l.flatMap escapeByte = l := by
        intro l hl
        induction l with
        | nil => rfl
        | cons b l ih =>
            rw [List.flatMap_cons, escapeByte_high (hl b List.mem_cons_self),
              ih fun x hx => hl x (.tail _ hx)]
            rfl
      rw [hsame _ hhigh, ← utf8_singleton]
      exact isText_utf8 _

theorem isText_escape (s : String) : IsText ((utf8 s).flatMap escapeByte) := by
  have hlist : ∀ l : List Char, IsText ((utf8 (String.ofList l)).flatMap escapeByte) := by
    intro l
    induction l with
    | nil => exact isText_nil
    | cons c l ih =>
        have hcons : String.ofList (c :: l) = String.ofList [c] ++ String.ofList l := by
          rw [← String.ofList_append]
          rfl
        rw [hcons, utf8_append, List.flatMap_append]
        exact (isText_escape_char c).append ih
  have hs := hlist s.toList
  rwa [String.ofList_toList] at hs

theorem isText_quoted (s : String) : IsText (quoted s) :=
  ((isText_ascii (by decide : ∀ b ∈ [34], b < 128)).append (isText_escape s)).append
    (isText_ascii (by decide))

theorem IsText.cons {b : Nat} {bytes : List Nat} (h : IsText bytes) (hb : b < 128) :
    IsText (b :: bytes) :=
  (isText_ascii fun _ hx => List.mem_singleton.mp hx ▸ hb : IsText [b]).append h

theorem isText_commaJoin {items : List (List Nat)} (h : ∀ item ∈ items, IsText item) :
    IsText (commaJoin items) := by
  induction items with
  | nil => exact isText_nil
  | cons item rest ih =>
      cases rest with
      | nil => exact h item List.mem_cons_self
      | cons other rest =>
          have hrest := ih fun x hx => h x (.tail _ hx)
          exact (h item List.mem_cons_self).append (hrest.cons (by decide))

mutual

theorem isText_canonicalBytes : (value : Json) → IsText (canonicalBytes value)
  | .null => isText_utf8 _
  | .bool true => isText_utf8 _
  | .bool false => isText_utf8 _
  | .num _ => isText_utf8 _
  | .str s => isText_quoted s
  | .arr items => by
    rw [canonicalBytes]
    exact ((isText_commaJoin (isText_canonicalItems items)).cons (by decide)).append
      (isText_ascii (by decide))
  | .obj fields => by
    rw [canonicalBytes]
    refine ((isText_commaJoin ?_).cons (by decide)).append (isText_ascii (by decide))
    intro item hitem
    obtain ⟨field, hfield, rfl⟩ := List.mem_map.mp hitem
    have hmem := (List.perm_insertionSort _ (canonicalFields fields)).mem_iff.mp hfield
    exact isText_canonicalFields fields field hmem

theorem isText_canonicalItems : (items : List Json) → ∀ item ∈ canonicalItems items, IsText item
  | [] => fun _ h => absurd h List.not_mem_nil
  | value :: rest => by
    intro item hitem
    rw [canonicalItems] at hitem
    cases List.mem_cons.mp hitem with
    | inl hhead => exact hhead ▸ isText_canonicalBytes value
    | inr htail => exact isText_canonicalItems rest item htail

theorem isText_canonicalFields : (fields : List (String × Json)) →
    ∀ field ∈ canonicalFields fields, IsText field.2
  | [] => fun _ h => absurd h List.not_mem_nil
  | (name, value) :: rest => by
    intro field hfield
    rw [canonicalFields] at hfield
    cases List.mem_cons.mp hfield with
    | inl hhead =>
      subst hhead
      exact (isText_quoted name).append ((isText_canonicalBytes value).cons (by decide))
    | inr htail => exact isText_canonicalFields rest field htail

end

end FlowPilot

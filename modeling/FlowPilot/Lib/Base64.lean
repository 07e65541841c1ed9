import Mathlib.Data.List.Basic
import Mathlib.Tactic.IntervalCases

/-!
# Base64

Bytes are written in groups of three as four digits of six bits; one or two `=` fill the last
group.  Decoding reads the digits of both alphabets and takes nothing after the filled group.
-/

namespace FlowPilot.Lib.Base64

/-! ## Digits -/

def digit (n : Nat) : Char :=
  if n < 26 then Char.ofNat (65 + n)
  else if n < 52 then Char.ofNat (71 + n)
  else if n < 62 then Char.ofNat (n - 4)
  else if n = 62 then '+' else '/'

/-- The value of a digit; `-` and `_` are `+` and `/` of the alphabet for addresses. -/
def value (c : Char) : Option Nat :=
  let n := c.toNat
  if 65 ≤ n ∧ n ≤ 90 then some (n - 65)
  else if 97 ≤ n ∧ n ≤ 122 then some (n - 71)
  else if 48 ≤ n ∧ n ≤ 57 then some (n + 4)
  else if n = 43 ∨ n = 45 then some 62
  else if n = 47 ∨ n = 95 then some 63
  else none

/-- `[A-Za-z0-9+/]`. -/
def isDigit (c : Char) : Bool := (value c).isSome && c ≠ '-' && c ≠ '_'

theorem value_digit {n : Nat} (h : n < 64) : value (digit n) = some n := by
  interval_cases n <;> rfl

theorem isDigit_digit {n : Nat} (h : n < 64) : isDigit (digit n) = true := by
  interval_cases n <;> rfl

theorem digit_ne_pad {n : Nat} (h : n < 64) : digit n ≠ '=' := by
  intro hpad
  have hvalue := value_digit h
  rw [hpad] at hvalue
  cases hvalue

/-! ## Groups -/

/-- Three bytes as four digits. -/
def group (a b c : Nat) : List Char :=
  [digit (a / 4), digit (a % 4 * 16 + b / 16), digit (b % 16 * 4 + c / 64), digit (c % 64)]

def encode : List UInt8 → List Char
  | [] => []
  | [a] => (group a.toNat 0 0).take 2 ++ ['=', '=']
  | [a, b] => (group a.toNat b.toNat 0).take 3 ++ ['=']
  | a :: b :: c :: rest => group a.toNat b.toNat c.toNat ++ encode rest

def firstByte (p q : Nat) : UInt8 := UInt8.ofNat (p * 4 + q / 16)

def secondByte (q r : Nat) : UInt8 := UInt8.ofNat (q % 16 * 16 + r / 4)

def thirdByte (r s : Nat) : UInt8 := UInt8.ofNat (r % 4 * 64 + s)

def decode : List Char → Option (List UInt8)
  | [] => some []
  | a :: b :: c :: d :: rest => do
    let p ← value a
    let q ← value b
    if d = '=' ∧ rest = [] then
      if c = '=' then some [firstByte p q]
      else do
        let r ← value c
        some [firstByte p q, secondByte q r]
    else do
      let r ← value c
      let s ← value d
      let more ← decode rest
      some (firstByte p q :: secondByte q r :: thirdByte r s :: more)
  | _ => none

section

variable {a b c : UInt8}

theorem first_lt : a.toNat / 4 < 64 := by
  have := a.toNat_lt
  omega

theorem second_lt : a.toNat % 4 * 16 + b.toNat / 16 < 64 := by
  have := b.toNat_lt
  omega

theorem third_lt : b.toNat % 16 * 4 + c.toNat / 64 < 64 := by
  have := c.toNat_lt
  omega

theorem fourth_lt : c.toNat % 64 < 64 := Nat.mod_lt _ (by decide)

theorem firstByte_group (k : Nat) (hk : k < 16) :
    firstByte (a.toNat / 4) (a.toNat % 4 * 16 + k) = a := by
  have hsum : a.toNat / 4 * 4 + (a.toNat % 4 * 16 + k) / 16 = a.toNat := by omega
  rw [firstByte, hsum, UInt8.ofNat_toNat]

theorem secondByte_group (j k : Nat) (hk : k < 4) :
    secondByte (j * 16 + b.toNat / 16) (b.toNat % 16 * 4 + k) = b := by
  have hb := b.toNat_lt
  have hsum : (j * 16 + b.toNat / 16) % 16 * 16 + (b.toNat % 16 * 4 + k) / 4 = b.toNat := by
    omega
  rw [secondByte, hsum, UInt8.ofNat_toNat]

theorem thirdByte_group (j : Nat) : thirdByte (j * 4 + c.toNat / 64) (c.toNat % 64) = c := by
  have hc := c.toNat_lt
  have hsum : (j * 4 + c.toNat / 64) % 4 * 64 + c.toNat % 64 = c.toNat := by omega
  rw [thirdByte, hsum, UInt8.ofNat_toNat]

end

/-- What is decoded from an encoded text is what was encoded. -/
theorem decode_encode (bytes : List UInt8) : decode (encode bytes) = some bytes := by
  induction bytes using encode.induct with
  | case1 => rfl
  | case2 a =>
      have hp := value_digit (first_lt (a := a))
      have hq := value_digit (second_lt (a := a) (b := 0))
      have ha := firstByte_group (a := a) 0 (by decide)
      simp only [encode, group, List.take, List.cons_append, List.nil_append, decode]
      simp only [UInt8.toNat_zero, Nat.zero_div, Nat.add_zero] at hq ha
      simp [hp, hq, ha]
  | case3 a b =>
      have hp := value_digit (first_lt (a := a))
      have hq := value_digit (second_lt (a := a) (b := b))
      have hr := value_digit (third_lt (b := b) (c := 0))
      have hpad := digit_ne_pad (third_lt (b := b) (c := 0))
      have ha := firstByte_group (a := a) (b.toNat / 16) (by have := b.toNat_lt; omega)
      have hb := secondByte_group (b := b) (a.toNat % 4) 0 (by decide)
      simp only [encode, group, List.take, List.cons_append, List.nil_append, decode]
      simp only [UInt8.toNat_zero, Nat.zero_div, Nat.add_zero] at hr hpad hb
      simp [hp, hq, hr, hpad, ha, hb]
  | case4 a b c rest ih =>
      have hp := value_digit (first_lt (a := a))
      have hq := value_digit (second_lt (a := a) (b := b))
      have hr := value_digit (third_lt (b := b) (c := c))
      have hs := value_digit (fourth_lt (c := c))
      have hpad := digit_ne_pad (fourth_lt (c := c))
      have ha := firstByte_group (a := a) (b.toNat / 16) (by have := b.toNat_lt; omega)
      have hb := secondByte_group (b := b) (a.toNat % 4) (c.toNat / 64)
        (by have := c.toNat_lt; omega)
      have hc := thirdByte_group (c := c) (b.toNat % 16)
      simp only [encode, group, List.cons_append, List.nil_append, decode]
      simp [hp, hq, hr, hs, hpad, ha, hb, hc, ih]

theorem length_encode (bytes : List UInt8) :
    (encode bytes).length = (bytes.length + 2) / 3 * 4 := by
  induction bytes using encode.induct with
  | case1 => rfl
  | case2 a => simp [encode, group]
  | case3 a b => simp [encode, group]
  | case4 a b c rest ih =>
      simp only [encode, group, List.length_append, List.length_cons, List.length_nil, ih]
      omega

/-! ## The shape of an encoded text -/

/-- `^[A-Za-z0-9+/]+={0,2}$`. -/
def matchesPattern (text : List Char) : Bool :=
  (text.takeWhile isDigit ≠ []) &&
    (text.dropWhile isDigit).all (· = '=') && decide ((text.dropWhile isDigit).length ≤ 2)

theorem dropWhile_encode (bytes : List UInt8) :
    (encode bytes).dropWhile isDigit = List.replicate ((3 - bytes.length % 3) % 3) '=' := by
  have hpad : isDigit '=' = false := rfl
  induction bytes using encode.induct with
  | case1 => rfl
  | case2 a =>
      have hp := isDigit_digit (first_lt (a := a))
      have hq := isDigit_digit (second_lt (a := a) (b := 0))
      simp only [UInt8.toNat_zero, Nat.zero_div, Nat.add_zero] at hq
      simp [encode, group, hp, hq, hpad, List.dropWhile, List.replicate]
  | case3 a b =>
      have hp := isDigit_digit (first_lt (a := a))
      have hq := isDigit_digit (second_lt (a := a) (b := b))
      have hr := isDigit_digit (third_lt (b := b) (c := 0))
      simp only [UInt8.toNat_zero, Nat.zero_div, Nat.add_zero] at hr
      simp [encode, group, hp, hq, hr, hpad, List.dropWhile]
  | case4 a b c rest ih =>
      have hp := isDigit_digit (first_lt (a := a))
      have hq := isDigit_digit (second_lt (a := a) (b := b))
      have hr := isDigit_digit (third_lt (b := b) (c := c))
      have hs := isDigit_digit (fourth_lt (c := c))
      have hmod : (rest.length + 3) % 3 = rest.length % 3 := by omega
      simp [encode, group, hp, hq, hr, hs, List.dropWhile, ih, hmod]

theorem matchesPattern_encode {bytes : List UInt8} (h : bytes ≠ []) :
    matchesPattern (encode bytes) = true := by
  have hhead : (encode bytes).takeWhile isDigit ≠ [] := by
    cases bytes with
    | nil => exact absurd rfl h
    | cons a bytes =>
        have hp := isDigit_digit (first_lt (a := a))
        -- the first digit is the same however many bytes follow
        match bytes with
        | [] => simp [encode, group, hp]
        | [b] => simp [encode, group, hp]
        | b :: c :: rest => simp [encode, group, hp]
  have hrest := dropWhile_encode bytes
  have hcount : (3 - bytes.length % 3) % 3 ≤ 2 := by omega
  unfold matchesPattern
  rw [hrest]
  simp [hhead, hcount]

/-! ## The text of whole groups -/

theorem digit_value {c : Char} (h : isDigit c = true) :
    ∃ n, n < 64 ∧ value c = some n ∧ digit n = c := by
  unfold isDigit at h
  simp only [Bool.and_eq_true, decide_eq_true_eq, ne_eq] at h
  obtain ⟨⟨hsome, hminus⟩, hunderscore⟩ := h
  have hchar : Char.ofNat c.toNat = c := Char.ofNat_toNat c
  have hminus' : c.toNat ≠ 45 := by
    intro hcode
    rw [hcode] at hchar
    exact hminus hchar.symm
  have hunderscore' : c.toNat ≠ 95 := by
    intro hcode
    rw [hcode] at hchar
    exact hunderscore hchar.symm
  unfold value at hsome ⊢
  dsimp only at hsome ⊢
  by_cases hupper : 65 ≤ c.toNat ∧ c.toNat ≤ 90
  · refine ⟨c.toNat - 65, by omega, by rw [if_pos hupper], ?_⟩
    rw [digit, if_pos (by omega), show 65 + (c.toNat - 65) = c.toNat by omega, hchar]
  · rw [if_neg hupper] at hsome ⊢
    by_cases hlower : 97 ≤ c.toNat ∧ c.toNat ≤ 122
    · refine ⟨c.toNat - 71, by omega, by rw [if_pos hlower], ?_⟩
      rw [digit, if_neg (by omega), if_pos (by omega),
        show 71 + (c.toNat - 71) = c.toNat by omega, hchar]
    · rw [if_neg hlower] at hsome ⊢
      by_cases hdecimal : 48 ≤ c.toNat ∧ c.toNat ≤ 57
      · refine ⟨c.toNat + 4, by omega, by rw [if_pos hdecimal], ?_⟩
        rw [digit, if_neg (by omega), if_neg (by omega), if_pos (by omega),
          show c.toNat + 4 - 4 = c.toNat by omega, hchar]
      · rw [if_neg hdecimal] at hsome ⊢
        by_cases hplus : c.toNat = 43 ∨ c.toNat = 45
        · rw [if_pos hplus]
          have hcode : c.toNat = 43 := by omega
          rw [hcode] at hchar
          exact ⟨62, by omega, rfl, hchar⟩
        · rw [if_neg hplus] at hsome ⊢
          by_cases hslash : c.toNat = 47 ∨ c.toNat = 95
          · rw [if_pos hslash]
            have hcode : c.toNat = 47 := by omega
            rw [hcode] at hchar
            exact ⟨63, by omega, rfl, hchar⟩
          · rw [if_neg hslash] at hsome
            cases hsome

theorem value_pad : value '=' = none := rfl

section

variable {p q r s : Nat}

theorem group_bytes (hp : p < 64) (hq : q < 64) (hr : r < 64) (hs : s < 64) :
    group (firstByte p q).toNat (secondByte q r).toNat (thirdByte r s).toNat =
      [digit p, digit q, digit r, digit s] := by
  have hfirst : (firstByte p q).toNat = p * 4 + q / 16 := by
    rw [firstByte, UInt8.toNat_ofNat']
    omega
  have hsecond : (secondByte q r).toNat = q % 16 * 16 + r / 4 := by
    rw [secondByte, UInt8.toNat_ofNat']
    omega
  have hthird : (thirdByte r s).toNat = r % 4 * 64 + s := by
    rw [thirdByte, UInt8.toNat_ofNat']
    omega
  unfold group
  rw [hfirst, hsecond, hthird, show (p * 4 + q / 16) / 4 = p by omega,
    show (p * 4 + q / 16) % 4 * 16 + (q % 16 * 16 + r / 4) / 16 = q by omega,
    show (q % 16 * 16 + r / 4) % 16 * 4 + (r % 4 * 64 + s) / 64 = r by omega,
    show (r % 4 * 64 + s) % 64 = s by omega]

end

/-- Bytes in whole groups have one text in the alphabet. -/
theorem encode_of_decode {text : List Char} {bytes : List UInt8}
    (halphabet : ∀ c ∈ text, isDigit c = true ∨ c = '=') (h : decode text = some bytes)
    (hwhole : bytes.length % 3 = 0) : encode bytes = text := by
  induction text using decode.induct generalizing bytes with
  | case1 =>
      cases h
      rfl
  | case2 a b c d rest ih =>
      have hdigit : ∀ {x : Char} {n : Nat}, x ∈ a :: b :: c :: d :: rest →
          value x = some n → n < 64 ∧ digit n = x := by
        intro x n hx hn
        rcases halphabet x hx with hx | rfl
        · obtain ⟨m, hm, hvalue, htext⟩ := digit_value hx
          cases hn.symm.trans hvalue
          exact ⟨hm, htext⟩
        · cases hn
      simp only [decode, Option.bind_eq_bind, Option.bind_eq_some_iff] at h
      obtain ⟨p, hp, q, hq, h⟩ := h
      obtain ⟨hpLt, rfl⟩ := hdigit (by simp) hp
      obtain ⟨hqLt, rfl⟩ := hdigit (by simp) hq
      by_cases hlast : d = '=' ∧ rest = []
      · -- the last group, which holds one byte or two
        rw [if_pos hlast] at h
        by_cases hone : c = '='
        · rw [if_pos hone] at h
          cases h
          cases hwhole
        · rw [if_neg hone, Option.bind_eq_some_iff] at h
          obtain ⟨r, _, h⟩ := h
          cases h
          cases hwhole
      · rw [if_neg hlast] at h
        simp only [Option.bind_eq_some_iff] at h
        obtain ⟨r, hr, s, hs, more, hmore, h⟩ := h
        cases h
        obtain ⟨hrLt, rfl⟩ := hdigit (by simp) hr
        obtain ⟨hsLt, rfl⟩ := hdigit (by simp) hs
        have hrest := ih (fun x hx => halphabet x (by simp [hx])) hmore (by
          simp only [List.length_cons] at hwhole
          omega)
        rw [encode, group_bytes hpLt hqLt hrLt hsLt, hrest]
        rfl
  | case3 text hnil hfour =>
      rw [decode] at h
      · cases h
      · exact hnil
      · exact hfour

end FlowPilot.Lib.Base64

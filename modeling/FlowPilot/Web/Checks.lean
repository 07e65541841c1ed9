import FlowPilot.Audit.Loads
import FlowPilot.Control.Identifiers

/-!
# Checks of the web client

The tests that the modules of the web client share: the shape of a parsed response body, its
fields and the patterns of its texts, with what the services write that matches them.
-/

open FlowPilot.Control

namespace FlowPilot.Web

/-! ## Response bodies -/

/-- The fields of a JSON object. -/
abbrev Item := List (String × Json)

/-- `record`. -/
def record : Json → Option Item
  | .obj fields => some fields
  | _ => none

/-- `exactKeys`: the sorted names are the sorted expected ones. -/
def exactKeys (item : Item) (expected : List String) : Bool :=
  decide ((item.map (·.1)).Perm expected)

/-- `item.<name>`. -/
def field (item : Item) (name : String) : Option Json := item.lookup name

def require (b : Bool) : Option Unit := if b then some () else none

@[simp] theorem require_true : require true = some () := rfl

@[simp] theorem require_false : require false = none := rfl

/-- `item.<name> === text`. -/
def isText (item : Item) (name text : String) : Bool :=
  match field item name with
  | some (.str s) => s = text
  | _ => false

/-- `typeof item.<name> === "string"` with a test of the text. -/
def stringField (item : Item) (name : String) (ok : String → Bool) : Option String :=
  match field item name with
  | some (.str s) => if ok s then some s else none
  | _ => none

/-- `Number.MAX_SAFE_INTEGER`. -/
def maxSafeInteger : Int := 9007199254740991

/-- `Number.isSafeInteger` of a number that is not below `low`. -/
def safeInteger (item : Item) (name : String) (low : Int) : Option Int :=
  match field item name with
  | some (.num n) => if low ≤ n ∧ n ≤ maxSafeInteger then some n else none
  | _ => none

theorem stringField_of {item : Item} {name s : String} {ok : String → Bool}
    (hfield : field item name = some (.str s)) (hok : ok s = true) :
    stringField item name ok = some s := by
  unfold stringField
  rw [hfield]
  exact if_pos hok

theorem isText_of {item : Item} {name s : String} (hfield : field item name = some (.str s)) :
    isText item name s = true := by
  unfold isText
  rw [hfield]
  exact decide_eq_true rfl

theorem exactKeys_of {item : Item} {expected : List String} (h : item.map (·.1) = expected) :
    exactKeys item expected = true := by
  unfold exactKeys
  rw [h]
  exact decide_eq_true (List.Perm.refl expected)

/-! ## Timestamps -/

def dropDigits : Nat → List Nat → Option (List Nat)
  | 0, text => some text
  | _ + 1, [] => none
  | n + 1, b :: text => if isDigit b then dropDigits n text else none

def dropByte (b : Nat) : List Nat → Option (List Nat)
  | c :: text => if Nat.beq b c then some text else none
  | [] => none

/-- `(?:\.\d+)?`. -/
def dropFraction : List Nat → Option (List Nat)
  | 46 :: text =>
    match spanDigits text with
    | ([], _) => none
    | (_ :: _, rest) => some rest
  | text => some text

/-- `UTC_TIMESTAMP`. -/
def utcTimestamp (s : String) : Bool :=
  let rest := do
    let text ← dropDigits 4 (utf8 s)
    let text ← dropByte 45 text
    let text ← dropDigits 2 text
    let text ← dropByte 45 text
    let text ← dropDigits 2 text
    let text ← dropByte 84 text
    let text ← dropDigits 2 text
    let text ← dropByte 58 text
    let text ← dropDigits 2 text
    let text ← dropByte 58 text
    let text ← dropDigits 2 text
    dropFraction text
  match rest with
  | some text => decide (text = [90] ∨ text = utf8 "+00:00")
  | none => false

example : utcTimestamp "2026-08-01T00:00:00.250000Z" = true := by decide

/-! ## What the services write -/

theorem dropDigits_append {digits rest : List Nat} {n : Nat} (hlength : digits.length = n)
    (hdigits : ∀ b ∈ digits, isDigit b = true) : dropDigits n (digits ++ rest) = some rest := by
  induction digits generalizing n with
  | nil =>
    subst hlength
    rfl
  | cons b digits ih =>
    subst hlength
    rw [List.cons_append, List.length_cons, dropDigits, if_pos (hdigits b List.mem_cons_self)]
    exact ih rfl fun c hc => hdigits c (.tail _ hc)

theorem utf8_padded (width n : Nat) :
    utf8 (padded width n) = List.replicate (width - (decimal n).length) 48 ++ decimal n := by
  unfold padded decimal
  dsimp only
  rw [utf8_ofList_ascii, List.map_append, List.map_replicate, List.length_map]
  · rfl
  · intro c hc
    rcases List.mem_append.mp hc with hzero | hdigit
    · rw [List.eq_of_mem_replicate hzero]
      decide
    · have hdigit := Nat.isDigit_of_mem_toDigits (by decide) (by decide) hdigit
      unfold Char.isDigit at hdigit
      rw [Bool.and_eq_true, decide_eq_true_eq, decide_eq_true_eq] at hdigit
      have hhigh := UInt32.le_iff_toNat_le.mp hdigit.2
      exact UInt32.le_iff_toNat_le.mpr (Nat.le_trans hhigh (by decide))

theorem isDigit_padded {width n b : Nat} (h : b ∈ utf8 (padded width n)) : isDigit b = true := by
  rw [utf8_padded] at h
  rcases List.mem_append.mp h with hzero | hdigit
  · rw [List.eq_of_mem_replicate hzero]
    rfl
  · exact isDigit_of_mem_decimal hdigit

theorem length_padded {width n : Nat} (hwidth : 0 < width) (h : n < 10 ^ width) :
    (utf8 (padded width n)).length = width := by
  have hlength : (decimal n).length ≤ width := by
    unfold decimal
    rw [List.length_map]
    exact (Nat.length_toDigits_le_iff (by decide) hwidth).mpr h
  rw [utf8_padded, List.length_append, List.length_replicate]
  omega

theorem dropDigits_padded {width n : Nat} (rest : List Nat) (hwidth : 0 < width)
    (h : n < 10 ^ width) : dropDigits width (utf8 (padded width n) ++ rest) = some rest :=
  dropDigits_append (length_padded hwidth h) fun _ hb => isDigit_padded hb

/-- The first instant after `datetime.max`. -/
def endOfDatetime : Time := 253402300800000000

/-- The year of an era, from the day of the era. -/
theorem yearOfEra_bounds {doe yoe : Nat} (hdoe : doe ≤ 146096)
    (hyoe : (doe - doe / 1460 + doe / 36524 - doe / 146096) / 365 = yoe) :
    yoe ≤ 399 ∧ doe ≤ 365 * yoe + 465 := by
  omega

/-- Up to the year 9999 each part of a date has its usual number of digits. -/
theorem civilDate_lt {days : Nat} (h : days < 2932897) :
    (civilDate days).1 < 10 ^ 4 ∧ (civilDate days).2.1 < 10 ^ 2 ∧ (civilDate days).2.2 < 10 ^ 2 := by
  unfold civilDate
  dsimp only
  have hdoe : (days + 719468) % 146097 ≤ 146096 := by omega
  have hera : (days + 719468) / 146097 ≤ 24 := by omega
  have hlate : (days + 719468) / 146097 = 24 → (days + 719468) % 146097 ≤ 146036 := by omega
  generalize (days + 719468) % 146097 = doe at hdoe hlate ⊢
  generalize (days + 719468) / 146097 = era at hera hlate ⊢
  generalize hyoe : (doe - doe / 1460 + doe / 36524 - doe / 146096) / 365 = yoe
  obtain ⟨hyear, hlow⟩ := yearOfEra_bounds hdoe hyoe
  clear hyoe
  generalize hdoy : doe - (365 * yoe + yoe / 4 - yoe / 100) = doy
  have hdays : doy ≤ 470 := by omega
  -- the last year of the last era ends before January
  have hdecember : era = 24 → yoe = 399 → doy ≤ 305 := by
    intro hlast hyear
    subst hyear
    have hend := hlate hlast
    omega
  clear hdoy hlow hlate
  generalize hmp : (5 * doy + 2) / 153 = mp
  have hmonths : mp ≤ 15 := by omega
  refine ⟨?_, ?_, ?_⟩
  · by_cases hlast : era = 24 ∧ yoe = 399
    · have hmonth : mp < 10 := by
        have hend := hdecember hlast.1 hlast.2
        omega
      rw [if_pos hmonth, if_neg (by omega), hlast.1, hlast.2]
      decide
    · have hyears : yoe + era * 400 ≤ 9998 := by omega
      clear hmp
      split <;> split <;> omega
  · clear hdecember hmp
    split <;> omega
  · omega

theorem dropFraction_micro {micro : Nat} (h : micro < 10 ^ 6) :
    dropFraction (utf8 (if micro = 0 then "" else "." ++ padded 6 micro) ++ [90]) = some [90] := by
  by_cases hmicro : micro = 0
  · rw [if_pos hmicro]
    rfl
  · rw [if_neg hmicro, utf8_append]
    have hspan : spanDigits (utf8 (padded 6 micro) ++ [90]) = (utf8 (padded 6 micro), [90]) := by
      refine spanDigits_append (fun b hb => isDigit_padded hb) ?_
      intro b more hb
      cases hb
      rfl
    have hlength : (utf8 (padded 6 micro)).length = 6 := length_padded (by decide) h
    show (match spanDigits (utf8 (padded 6 micro) ++ [90]) with
      | ([], _) => none
      | (_ :: _, rest) => some rest) = some [90]
    rw [hspan]
    cases hdigits : utf8 (padded 6 micro) with
    | nil =>
      rw [hdigits] at hlength
      cases hlength
    | cons b digits => rfl

theorem utcTimestamp_of_parts {s : String} {year month day hour minute second fraction : List Nat}
    (hyear : ∀ rest, dropDigits 4 (year ++ rest) = some rest)
    (hmonth : ∀ rest, dropDigits 2 (month ++ rest) = some rest)
    (hday : ∀ rest, dropDigits 2 (day ++ rest) = some rest)
    (hhour : ∀ rest, dropDigits 2 (hour ++ rest) = some rest)
    (hminute : ∀ rest, dropDigits 2 (minute ++ rest) = some rest)
    (hsecond : ∀ rest, dropDigits 2 (second ++ rest) = some rest)
    (hfraction : dropFraction fraction = some [90])
    (hs : utf8 s = year ++ 45 :: (month ++ 45 :: (day ++ 84 :: (hour ++ 58 :: (minute ++ 58 ::
      (second ++ fraction)))))) : utcTimestamp s = true := by
  have hbyte : ∀ b rest, dropByte b (b :: rest) = some rest := by
    intro b rest
    show (if Nat.beq b b then some rest else none) = some rest
    rw [if_pos (Nat.beq_refl b)]
  unfold utcTimestamp
  rw [hs]
  dsimp only [bind]
  rw [hyear, Option.bind_some, hbyte, Option.bind_some, hmonth, Option.bind_some, hbyte,
    Option.bind_some, hday, Option.bind_some, hbyte, Option.bind_some, hhour, Option.bind_some,
    hbyte, Option.bind_some, hminute, Option.bind_some, hbyte, Option.bind_some, hsecond,
    Option.bind_some, hfraction]
  rfl

theorem utf8_isoformat {t year month day : Nat}
    (hdate : civilDate (t / 1000000 / 86400) = (year, month, day)) :
    utf8 (isoformat t) = utf8 (padded 4 year) ++ 45 :: (utf8 (padded 2 month) ++ 45 ::
      (utf8 (padded 2 day) ++ 84 :: (utf8 (padded 2 (t / 1000000 / 3600 % 24)) ++ 58 ::
        (utf8 (padded 2 (t / 1000000 / 60 % 60)) ++ 58 ::
          (utf8 (padded 2 (t / 1000000 % 60)) ++
            (utf8 (if t % 1000000 = 0 then "" else "." ++ padded 6 (t % 1000000)) ++ [90])))))) := by
  have hminus : utf8 "-" = [45] := by decide
  have hT : utf8 "T" = [84] := by decide
  have hcolon : utf8 ":" = [58] := by decide
  have hend : utf8 "Z" = [90] := by decide
  unfold isoformat
  simp only [hdate]
  simp only [utf8_append, List.append_assoc, hminus, hT, hcolon, hend, List.cons_append,
    List.nil_append]

/-- A date of `datetime` is written as the client expects it. -/
theorem utcTimestamp_isoformat {t : Nat} (h : t < endOfDatetime) :
    utcTimestamp (isoformat t) = true := by
  unfold endOfDatetime at h
  have hdays : t / 1000000 / 86400 < 2932897 := by omega
  have hbounds := civilDate_lt hdays
  have hhour : t / 1000000 / 3600 % 24 < 10 ^ 2 := by omega
  have hminute : t / 1000000 / 60 % 60 < 10 ^ 2 := by omega
  have hsecond : t / 1000000 % 60 < 10 ^ 2 := by omega
  have hmicro : t % 1000000 < 10 ^ 6 := by omega
  cases hdate : civilDate (t / 1000000 / 86400) with
  | mk year rest =>
    obtain ⟨month, day⟩ := rest
    rw [hdate] at hbounds
    obtain ⟨hyear, hmonth, hday⟩ := hbounds
    exact utcTimestamp_of_parts (fun rest => dropDigits_padded rest (by decide) hyear)
      (fun rest => dropDigits_padded rest (by decide) hmonth)
      (fun rest => dropDigits_padded rest (by decide) hday)
      (fun rest => dropDigits_padded rest (by decide) hhour)
      (fun rest => dropDigits_padded rest (by decide) hminute)
      (fun rest => dropDigits_padded rest (by decide) hsecond) (dropFraction_micro hmicro)
      (utf8_isoformat hdate)

end FlowPilot.Web

import Mathlib.Algebra.GroupWithZero.Nat
import Mathlib.Algebra.Ring.Int.Defs
import Mathlib.Data.List.Sort

/-!
# Canonical JSON and stable hashes

`canonicalJson` is `json.dumps(..., sort_keys=True, separators=(",", ":"), ensure_ascii=False)`
over the values the services hash.  SHA-256 itself is left abstract: every result holds for
whatever function of the encoded text stands for it.
-/

namespace FlowPilot

/-- Microseconds since the epoch, in UTC. -/
abbrev Time := Nat

def second : Time := 1000000

/-! ## Text -/

/-- The UTF-8 bytes of a text. -/
def utf8 (s : String) : List Nat := s.toByteArray.data.toList.map UInt8.toNat

/-- `len(s)`: the bytes that do not continue a character. -/
def textLength (s : String) : Nat :=
  ((utf8 s).filter fun b => Nat.blt b 128 || Nat.ble 192 b).length

theorem utf8_append (s t : String) : utf8 (s ++ t) = utf8 s ++ utf8 t := by
  unfold utf8
  rw [String.toByteArray_append]
  simp

theorem textLength_append (s t : String) : textLength (s ++ t) = textLength s + textLength t := by
  unfold textLength
  rw [utf8_append, List.filter_append, List.length_append]

/-- `a` to `z`. -/
def isLower (b : Nat) : Bool := Nat.ble 97 b && Nat.ble b 122

/-- `A` to `Z`. -/
def isUpper (b : Nat) : Bool := Nat.ble 65 b && Nat.ble b 90

/-- `0` to `9`. -/
def isDigit (b : Nat) : Bool := Nat.ble 48 b && Nat.ble b 57

/-- `_` or `-`. -/
def isJoiner (b : Nat) : Bool := Nat.beq b 95 || Nat.beq b 45

/-- `[A-Za-z0-9_-]`. -/
def idChar (b : Nat) : Bool := isLower b || isUpper b || isDigit b || isJoiner b

/-- `first` and then between `low` and `high` characters of `rest`. -/
def matchesPattern (first rest : Nat → Bool) (low high : Nat) (s : String) : Bool :=
  match utf8 s with
  | [] => false
  | b :: bs => first b && bs.all rest && decide (low ≤ bs.length ∧ bs.length ≤ high)

/-- `str.lower` as far as the ASCII letters of the text can tell: besides `A` to `Z`, only the
Kelvin sign and the dotted capital I have one in their lower case. -/
def lowerBytes : List Nat → List Nat
  | 226 :: 132 :: 170 :: rest => 107 :: lowerBytes rest
  | 196 :: 176 :: rest => 105 :: 204 :: 135 :: lowerBytes rest
  | b :: rest => (if isUpper b then b + 32 else b) :: lowerBytes rest
  | [] => []

def startsWith : List Nat → List Nat → Bool
  | _, [] => true
  | [], _ :: _ => false
  | b :: text, c :: lead => Nat.beq b c && startsWith text lead

/-- `marker in text`. -/
def containsText (marker : List Nat) : List Nat → Bool
  | [] => marker.isEmpty
  | b :: rest => startsWith (b :: rest) marker || containsText marker rest

/-- The order of Python's strings, which is that of their UTF-8 bytes. -/
def textLe : List Nat → List Nat → Bool
  | [], _ => true
  | _ :: _, [] => false
  | b :: bs, c :: cs => Nat.blt b c || (Nat.beq b c && textLe bs cs)

/-! ## Digests and identifiers -/

/-- A SHA-256 digest. -/
structure Digest where
  bits : BitVec 256
  deriving DecidableEq, Repr

/-- `hexdigest()`: sixty-four hexadecimal digits. -/
def Digest.hex (d : Digest) : String :=
  String.ofList ((List.range 64).map fun i => Nat.digitChar (d.bits.toNat / 16 ^ (63 - i) % 16))

/-- The leading digits of a digest. -/
def Digest.take (d : Digest) (n : Nat) : String := String.ofList (d.hex.toList.take n)

/-- The prefixes that `_opaque_id` is called with. -/
inductive IdKind where
  | org | usr | idn | mbr | mem | aut | apr | dec | grt | exe | run | out | lse | aud | obs | idm
  deriving DecidableEq, Repr

def IdKind.prefixText : IdKind → String
  | org => "org" | usr => "usr" | idn => "idn" | mbr => "mbr" | mem => "mem" | aut => "aut"
  | apr => "apr" | dec => "dec" | grt => "grt" | exe => "exe" | run => "run" | out => "out"
  | lse => "lse" | aud => "aud" | obs => "obs" | idm => "idm"

/-- An opaque identifier: its prefix and the 128-bit token behind it. -/
structure Id (kind : IdKind) where
  token : Nat
  deriving DecidableEq, Repr

def hexToken (n : Nat) : String :=
  let digits := Nat.toDigits 16 n
  String.ofList (List.replicate (32 - digits.length) '0' ++ digits)

def Id.text {kind : IdKind} (i : Id kind) : String := kind.prefixText ++ "_" ++ hexToken i.token

inductive Json where
  | null
  | bool (b : Bool)
  | num (n : Int)
  | str (s : String)
  | arr (items : List Json)
  | obj (fields : List (String × Json))

namespace Json

def ofOption {α : Type} (f : α → Json) : Option α → Json
  | none => .null
  | some a => f a

def digest (d : Digest) : Json := .str d.hex

def id {kind : IdKind} (i : Id kind) : Json := .str i.text

end Json

/-! ## Encoding -/

def escapeByte (b : Nat) : List Nat :=
  if Nat.ble 32 b then
    if Nat.beq b 34 || Nat.beq b 92 then [92, b] else [b]
  else
    match b with
    | 8 => utf8 "\\b"
    | 9 => utf8 "\\t"
    | 10 => utf8 "\\n"
    | 12 => utf8 "\\f"
    | 13 => utf8 "\\r"
    | _ => utf8 "\\u00" ++ [if b < 16 then 48 else 49, (Nat.digitChar (b % 16)).toNat]

def quoted (s : String) : List Nat := 34 :: (utf8 s).flatMap escapeByte ++ [34]

/-- The items with a comma between them. -/
def commaJoin : List (List Nat) → List Nat
  | [] => []
  | [item] => item
  | item :: rest => item ++ 44 :: commaJoin rest

/-- The commas make up for the last item. -/
theorem commaJoin_length_succ {items : List (List Nat)} (h : items ≠ []) :
    (commaJoin items).length + 1 = (items.map fun item => item.length + 1).sum := by
  induction items with
  | nil => exact absurd rfl h
  | cons item rest ih =>
      cases rest with
      | nil => simp [commaJoin]
      | cons other rest =>
          have hrest := ih (List.cons_ne_nil _ _)
          rw [commaJoin, List.map_cons, List.sum_cons, ← hrest, List.length_append,
            List.length_cons]
          · omega
          · intro h
            cases h

def sortFields (fields : List (List Nat × List Nat)) : List (List Nat × List Nat) :=
  fields.insertionSort fun f g => textLe f.1 g.1

mutual

/-- `canonical_json_bytes`. -/
def canonicalBytes : Json → List Nat
  | .null => utf8 "null"
  | .bool b => if b then utf8 "true" else utf8 "false"
  | .num n => utf8 (toString n)
  | .str s => quoted s
  | .arr items => 91 :: commaJoin (canonicalItems items) ++ [93]
  | .obj fields =>
    123 :: commaJoin ((sortFields (canonicalFields fields)).map (·.2)) ++ [125]

def canonicalItems : List Json → List (List Nat)
  | [] => []
  | item :: rest => canonicalBytes item :: canonicalItems rest

/-- Each field with the name it is sorted by. -/
def canonicalFields : List (String × Json) → List (List Nat × List Nat)
  | [] => []
  | (name, value) :: rest =>
    (utf8 name, quoted name ++ 58 :: canonicalBytes value) :: canonicalFields rest

end

/-- `len(canonical_json_bytes(value))`. -/
def canonicalLength (value : Json) : Nat := (canonicalBytes value).length

/-! ## Timestamps -/

/-- Year, month and day of a day count since 1970-01-01 in the proleptic Gregorian calendar. -/
def civilDate (days : Nat) : Nat × Nat × Nat :=
  let z := days + 719468
  let era := z / 146097
  let doe := z % 146097
  let yoe := (doe - doe / 1460 + doe / 36524 - doe / 146096) / 365
  let doy := doe - (365 * yoe + yoe / 4 - yoe / 100)
  let mp := (5 * doy + 2) / 153
  let day := doy - (153 * mp + 2) / 5 + 1
  let month := if mp < 10 then mp + 3 else mp - 9
  (yoe + era * 400 + (if month ≤ 2 then 1 else 0), month, day)

def padded (width n : Nat) : String :=
  let digits := Nat.toDigits 10 n
  String.ofList (List.replicate (width - digits.length) '0' ++ digits)

/-- `isoformat().replace("+00:00", "Z")`; the fraction is printed only when it is not zero. -/
def isoformat (t : Time) : String :=
  let micro := t % 1000000
  let s := t / 1000000
  let (year, month, day) := civilDate (s / 86400)
  padded 4 year ++ "-" ++ padded 2 month ++ "-" ++ padded 2 day ++ "T"
    ++ padded 2 (s / 3600 % 24) ++ ":" ++ padded 2 (s / 60 % 60) ++ ":" ++ padded 2 (s % 60)
    ++ (if micro = 0 then "" else "." ++ padded 6 micro) ++ "Z"

example : isoformat 1785542400000000 = "2026-08-01T00:00:00Z" := by decide

def Json.time (t : Time) : Json := .str (isoformat t)

/-! ## Hashes -/

/-- `hashlib.sha256` of the bytes. -/
class Sha256 where
  sha256 : List Nat → Digest

section

variable [Sha256]

def stableHash (value : Json) : Digest := Sha256.sha256 (canonicalBytes value)

/-- `stable_hash` of a string hashes its bytes, not its JSON form. -/
def stableHashText (value : String) : Digest := Sha256.sha256 (utf8 value)

end

/-- The text read as a polynomial in 257, for concrete runs. -/
abbrev polynomialSha256 : Sha256 where
  sha256 text := ⟨BitVec.ofNat 256 (text.foldl (fun acc b => (acc * 257 + b) % 2 ^ 256) 0)⟩

end FlowPilot

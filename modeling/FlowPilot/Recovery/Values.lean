import FlowPilot.Audit.Loads

/-!
# JSON values with floats

The recovery envelope carries any JSON value, where the authority and audit texts hold integers
only.  A finite float is carried as the text that `repr` gives it; reading that text back gives
the same float.
-/

namespace FlowPilot.Recovery

/-! ## Float literals -/

/-- What follows a value in a dumped text. -/
def AfterItem : List Nat → Prop
  | [] => True
  | b :: _ => b = 44 ∨ b = 93 ∨ b = 125

def signPart : List Nat → List Nat × List Nat
  | 45 :: rest => ([45], rest)
  | text => ([], text)

/-- `0|[1-9]\d*`. -/
def wholePart : List Nat → List Nat × List Nat
  | 48 :: rest => ([48], rest)
  | text => spanDigits text

/-- `(\.\d+)?`. -/
def fractionPart : List Nat → List Nat × List Nat
  | 46 :: rest =>
    if (spanDigits rest).1 = [] then ([], 46 :: rest)
    else (46 :: (spanDigits rest).1, (spanDigits rest).2)
  | text => ([], text)

def exponentSign : List Nat → List Nat × List Nat
  | 43 :: rest => ([43], rest)
  | 45 :: rest => ([45], rest)
  | text => ([], text)

/-- `([eE][-+]?\d+)?`. -/
def exponentPart : List Nat → List Nat × List Nat
  | [] => ([], [])
  | b :: rest =>
    let sign := exponentSign rest
    let digits := spanDigits sign.2
    if (b = 101 ∨ b = 69) ∧ digits.1 ≠ [] then (b :: (sign.1 ++ digits.1), digits.2)
    else ([], b :: rest)

/-- The number at the head of a text, when it has a fraction or an exponent. -/
def floatToken (text : List Nat) : Option (List Nat × List Nat) :=
  let sign := signPart text
  let whole := wholePart sign.2
  let fraction := fractionPart whole.2
  let exponent := exponentPart fraction.2
  if whole.1 = [] ∨ (fraction.1 = [] ∧ exponent.1 = []) then none
  else some (sign.1 ++ whole.1 ++ fraction.1 ++ exponent.1, exponent.2)

/-- The text of a finite float. -/
structure FloatText where
  token : List Nat
  isFloat : floatToken token = some (token, [])
  deriving DecidableEq

/-! ## Values -/

inductive Value where
  | null
  | bool (b : Bool)
  | int (n : Int)
  | float (x : FloatText)
  | str (s : String)
  | arr (items : List Value)
  | obj (fields : List (String × Value))

def sortByName (fields : List (String × Value)) : List (String × Value) :=
  fields.insertionSort fun f g => textLe (utf8 f.1) (utf8 g.1)

mutual

/-- The value with the fields of every object in the order of their names. -/
def Value.sorted : Value → Value
  | .arr items => .arr (Value.sortedItems items)
  | .obj fields => .obj (sortByName (Value.sortedFields fields))
  | value => value

def Value.sortedItems : List Value → List Value
  | [] => []
  | item :: rest => item.sorted :: Value.sortedItems rest

def Value.sortedFields : List (String × Value) → List (String × Value)
  | [] => []
  | (name, value) :: rest => (name, value.sorted) :: Value.sortedFields rest

end

mutual

def Value.write : Value → List Nat
  | .null => utf8 "null"
  | .bool b => if b then utf8 "true" else utf8 "false"
  | .int n => utf8 (toString n)
  | .float x => x.token
  | .str s => quoted s
  | .arr items => 91 :: commaJoin (Value.writeItems items) ++ [93]
  | .obj fields => 123 :: commaJoin (Value.writeFields fields) ++ [125]

def Value.writeItems : List Value → List (List Nat)
  | [] => []
  | item :: rest => item.write :: Value.writeItems rest

def Value.writeFields : List (String × Value) → List (List Nat)
  | [] => []
  | (name, value) :: rest => (quoted name ++ 58 :: value.write) :: Value.writeFields rest

end

/-- `canonical_json_bytes`. -/
def canonicalJsonBytes (value : Value) : List Nat := value.sorted.write

mutual

/-- No object holds two fields of one name. -/
def Value.Distinct : Value → Prop
  | .arr items => Value.DistinctItems items
  | .obj fields => (fields.map (·.1)).Nodup ∧ Value.DistinctFields fields
  | _ => True

def Value.DistinctItems : List Value → Prop
  | [] => True
  | item :: rest => item.Distinct ∧ Value.DistinctItems rest

def Value.DistinctFields : List (String × Value) → Prop
  | [] => True
  | (_, value) :: rest => value.Distinct ∧ Value.DistinctFields rest

end

mutual

def Value.decideDistinct : (value : Value) → Decidable value.Distinct
  | .arr items => Value.decideItems items
  | .obj fields =>
    have := Value.decideFields fields
    inferInstanceAs (Decidable ((fields.map (·.1)).Nodup ∧ Value.DistinctFields fields))
  | .null | .bool _ | .int _ | .float _ | .str _ => .isTrue trivial

def Value.decideItems : (items : List Value) → Decidable (Value.DistinctItems items)
  | [] => .isTrue trivial
  | item :: rest =>
    have := item.decideDistinct
    have := Value.decideItems rest
    inferInstanceAs (Decidable (item.Distinct ∧ Value.DistinctItems rest))

def Value.decideFields : (fields : List (String × Value)) →
    Decidable (Value.DistinctFields fields)
  | [] => .isTrue trivial
  | (_, value) :: rest =>
    have := value.decideDistinct
    have := Value.decideFields rest
    inferInstanceAs (Decidable (value.Distinct ∧ Value.DistinctFields rest))

end

instance (value : Value) : Decidable value.Distinct := value.decideDistinct

/-- The values are equal; a dictionary has no order. -/
def Value.Equal (v w : Value) : Prop := v.sorted = w.sorted

/-! ## Loading -/

/-- `d[name] = value`. -/
def setKey (fields : List (String × Value)) (name : String) (value : Value) :
    List (String × Value) :=
  if fields.any (fun f => f.1 = name) then
    fields.map fun f => if f.1 = name then (name, value) else f
  else fields ++ [(name, value)]

def loadNumber (text : List Nat) : Option (Value × List Nat) :=
  match floatToken text with
  | some (token, rest) =>
    if h : floatToken token = some (token, []) then some (.float ⟨token, h⟩, rest) else none
  | none => (loadInt text).map fun loaded => (.int loaded.1, loaded.2)

mutual

def Value.load : Nat → List Nat → Option (Value × List Nat)
  | 0, _ => none
  | fuel + 1, text =>
    match text with
    | 34 :: rest => (loadText rest).map fun loaded => (.str loaded.1, loaded.2)
    | 123 :: rest =>
      match skipBlanks rest with
      | 125 :: rest => some (.obj [], rest)
      | rest => Value.loadFields fuel [] rest
    | 91 :: rest =>
      match skipBlanks rest with
      | 93 :: rest => some (.arr [], rest)
      | rest => Value.loadItems fuel [] rest
    | 110 :: 117 :: 108 :: 108 :: rest => some (.null, rest)
    | 116 :: 114 :: 117 :: 101 :: rest => some (.bool true, rest)
    | 102 :: 97 :: 108 :: 115 :: 101 :: rest => some (.bool false, rest)
    | text => loadNumber text

/-- The fields from a name on, after those that are loaded already. -/
def Value.loadFields : Nat → List (String × Value) → List Nat → Option (Value × List Nat)
  | 0, _, _ => none
  | fuel + 1, fields, text =>
    match text with
    | 34 :: text => do
      let (name, text) ← loadText text
      match skipBlanks text with
      | 58 :: text =>
        let (value, text) ← Value.load fuel (skipBlanks text)
        match skipBlanks text with
        | 44 :: text => Value.loadFields fuel (setKey fields name value) (skipBlanks text)
        | 125 :: text => some (.obj (setKey fields name value), text)
        | _ => none
      | _ => none
    | _ => none

def Value.loadItems : Nat → List Value → List Nat → Option (Value × List Nat)
  | 0, _, _ => none
  | fuel + 1, items, text => do
    let (value, text) ← Value.load fuel text
    match skipBlanks text with
    | 44 :: text => Value.loadItems fuel (items ++ [value]) (skipBlanks text)
    | 93 :: text => some (.arr (items ++ [value]), text)
    | _ => none

end

/-- `json.loads`; no byte of a text takes more than two steps. -/
def loads (text : List Nat) : Option Value :=
  match Value.load (2 * text.length) (skipBlanks text) with
  | some (value, rest) => if (skipBlanks rest).isEmpty then some value else none
  | none => none

end FlowPilot.Recovery

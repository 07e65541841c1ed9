import FlowPilot.Audit.Loads

/-!
# Canonical JSON determines the value

Two values with the same canonical bytes are the same up to the order of the fields of their
objects.  The bytes are read from the left: the first one tells the kind of a value, and each
kind tells where it ends.
-/

namespace FlowPilot

/-! ## Field order -/

mutual

/-- The value with the fields of every object in the order in which they are dumped. -/
def Json.normal : Json → Json
  | .arr items => .arr (Json.normalItems items)
  | .obj fields => .obj (sortByName (Json.normalFields fields))
  | value => value

def Json.normalItems : List Json → List Json
  | [] => []
  | item :: rest => item.normal :: Json.normalItems rest

def Json.normalFields : List (String × Json) → List (String × Json)
  | [] => []
  | (name, value) :: rest => (name, value.normal) :: Json.normalFields rest

end

theorem Json.normalItems_eq_map (items : List Json) :
    Json.normalItems items = items.map Json.normal := by
  induction items with
  | nil => rfl
  | cons item items ih =>
      show item.normal :: Json.normalItems items = _
      rw [ih]
      rfl

theorem Json.normalFields_eq_map (fields : List (String × Json)) :
    Json.normalFields fields = fields.map fun f => (f.1, f.2.normal) := by
  induction fields with
  | nil => rfl
  | cons f fields ih =>
      show (f.1, f.2.normal) :: Json.normalFields fields = _
      rw [ih]
      rfl

/-- The fields are sorted by their names alone. -/
theorem sortByName_normal (fields : List (String × Json)) :
    sortByName (Json.normalFields fields) =
      (sortByName fields).map fun f => (f.1, f.2.normal) := by
  rw [Json.normalFields_eq_map]
  exact (List.map_insertionSort (fun f g => textLe (utf8 f.1) (utf8 g.1))
    (fun f g => textLe (utf8 f.1) (utf8 g.1)) (fun f : String × Json => (f.1, f.2.normal)) fields
    fun _ _ _ _ => Iff.rfl).symm

/-! ## Reading from the left -/

/-- The kinds of values, told apart by the first byte. -/
def Json.kind : Json → Nat
  | .null => 0
  | .bool _ => 1
  | .num _ => 2
  | .str _ => 3
  | .arr _ => 4
  | .obj _ => 5

def leadKind (b : Nat) : Nat :=
  if b = 110 then 0 else if b = 116 ∨ b = 102 then 1 else if b = 34 then 3
  else if b = 91 then 4 else if b = 123 then 5 else 2

/-- The first byte tells the kind, and it closes neither an array nor an object. -/
theorem canonicalBytes_lead (a : Json) :
    ∃ b more, canonicalBytes a = b :: more ∧ leadKind b = a.kind ∧ b ≠ 93 ∧ b ≠ 125 := by
  cases a with
  | null => exact ⟨110, _, rfl, rfl, by decide, by decide⟩
  | bool b =>
      cases b
      · exact ⟨102, _, rfl, rfl, by decide, by decide⟩
      · exact ⟨116, _, rfl, rfl, by decide, by decide⟩
  | num n =>
      obtain ⟨b, more, htext, hlow, hhigh⟩ := toString_int_head n
      refine ⟨b, more, htext, ?_, by omega, by omega⟩
      show leadKind b = 2
      unfold leadKind
      split_ifs <;> omega
  | str s => exact ⟨34, _, rfl, rfl, by decide, by decide⟩
  | arr items => exact ⟨91, _, rfl, rfl, by decide, by decide⟩
  | obj fields => exact ⟨123, _, rfl, rfl, by decide, by decide⟩

/-- Values whose texts begin alike are of one kind. -/
theorem kind_eq {a b : Json} {x y : List Nat}
    (h : canonicalBytes a ++ x = canonicalBytes b ++ y) : a.kind = b.kind := by
  obtain ⟨c, more, ha, hkind, _⟩ := canonicalBytes_lead a
  obtain ⟨d, more', hb, hkind', _⟩ := canonicalBytes_lead b
  rw [ha, hb, List.cons_append, List.cons_append] at h
  rw [← hkind, ← hkind', (List.cons.inj h).1]

theorem endsNumber_cons {b : Nat} (hb : b = 44 ∨ b = 93 ∨ b = 125) (rest : List Nat) :
    EndsNumber (b :: rest) := by
  rcases hb with rfl | rfl | rfl <;> exact ⟨fun c more h => by cases h; rfl, rfl⟩

/-- A string ends at its closing quote. -/
theorem quoted_append_inj {s t : String} {x y : List Nat} (h : quoted s ++ x = quoted t ++ y) :
    s = t ∧ x = y := by
  unfold quoted at h
  simp only [List.cons_append, List.append_assoc, List.nil_append] at h
  have htail := (List.cons.inj h).2
  have hs := loadText_quoted s x
  rw [htail, loadText_quoted t y] at hs
  have hpair := Prod.mk.inj (Option.some.inj hs)
  exact ⟨hpair.1.symm, hpair.2.symm⟩

/-! ## Lists with commas -/

section

variable {α β : Type} {text : α → List Nat} {close : Nat}

/-- What follows the first item of a list: its end, or a comma and the other items. -/
def afterItem (text : α → List Nat) (close : Nat) (rest : List α) (x : List Nat) : List Nat :=
  match rest with
  | [] => close :: x
  | _ :: _ => 44 :: (commaJoin (rest.map text) ++ close :: x)

theorem commaJoin_cons_append (a : α) (rest : List α) (x : List Nat) :
    commaJoin ((a :: rest).map text) ++ close :: x = text a ++ afterItem text close rest x := by
  cases rest with
  | nil => rfl
  | cons b rest =>
      show (text a ++ 44 :: commaJoin ((b :: rest).map text)) ++ close :: x = _
      rw [List.append_assoc]
      rfl

theorem afterItem_endsNumber (hclose : close = 93 ∨ close = 125) (rest : List α)
    (x : List Nat) : EndsNumber (afterItem text close rest x) := by
  cases rest with
  | nil => exact endsNumber_cons (.inr hclose) x
  | cons a rest => exact endsNumber_cons (.inl rfl) _

/-- Item by item, the text of a list determines the items and where the list ends. -/
theorem commaJoin_inj (norm : α → β) (hclose : close = 93 ∨ close = 125)
    (hlead : ∀ a, ∃ b more, text a = b :: more ∧ b ≠ close) {as : List α}
    (hitems : ∀ a ∈ as, ∀ b x y, EndsNumber x → EndsNumber y →
      text a ++ x = text b ++ y → norm a = norm b ∧ x = y)
    {bs : List α} {x y : List Nat}
    (h : commaJoin (as.map text) ++ close :: x = commaJoin (bs.map text) ++ close :: y) :
    as.map norm = bs.map norm ∧ x = y := by
  -- a list that has ended does not go on with an item
  have hended : ∀ (a : α) rest (x y : List Nat),
      close :: x ≠ commaJoin ((a :: rest).map text) ++ close :: y := by
    intro a rest x y h
    obtain ⟨b, more, htext, hb⟩ := hlead a
    rw [commaJoin_cons_append, htext, List.cons_append] at h
    exact hb (List.cons.inj h).1.symm
  induction as generalizing bs with
  | nil =>
      cases bs with
      | nil => exact ⟨rfl, (List.cons.inj h).2⟩
      | cons b bs => exact absurd h (hended b bs x y)
  | cons a as ih =>
      cases bs with
      | nil => exact absurd h.symm (hended a as y x)
      | cons b bs =>
          rw [commaJoin_cons_append, commaJoin_cons_append] at h
          obtain ⟨hab, hrest⟩ := hitems a List.mem_cons_self b _ _
            (afterItem_endsNumber hclose as x) (afterItem_endsNumber hclose bs y) h
          have hcomma : close ≠ 44 := by omega
          cases as with
          | nil =>
              cases bs with
              | nil =>
                  rw [List.map_cons, List.map_cons, hab]
                  exact ⟨rfl, (List.cons.inj hrest).2⟩
              | cons b' bs => exact absurd (List.cons.inj hrest).1 hcomma
          | cons a' as =>
              cases bs with
              | nil => exact absurd (List.cons.inj hrest).1.symm hcomma
              | cons b' bs =>
                  obtain ⟨hmap, hxy⟩ := ih (fun c hc => hitems c (.tail _ hc))
                    (List.cons.inj hrest).2
                  rw [List.map_cons, List.map_cons (l := b' :: bs), hab, hmap]
                  exact ⟨rfl, hxy⟩

end

/-! ## Values -/

/-- The text of `a` is not the beginning of that of a different value. -/
def Json.Determined (a : Json) : Prop :=
  ∀ (b : Json) (x y : List Nat), EndsNumber x → EndsNumber y →
    canonicalBytes a ++ x = canonicalBytes b ++ y → a.normal = b.normal ∧ x = y

theorem Json.determined_num (n : Int) : (Json.num n).Determined := by
  intro b x y hx hy h
  have hkind := kind_eq h
  cases b <;> cases hkind
  next m =>
    have hload := loadInt_toString n hx
    rw [show utf8 (toString n) ++ x = utf8 (toString m) ++ y from h, loadInt_toString m hy]
      at hload
    have hpair := Prod.mk.inj (Option.some.inj hload)
    rw [hpair.1]
    exact ⟨rfl, hpair.2.symm⟩

theorem Json.determined_arr {items : List Json} (hitems : ∀ a ∈ items, a.Determined) :
    (Json.arr items).Determined := by
  intro b x y hx hy h
  have hkind := kind_eq h
  cases b <;> cases hkind
  next items' =>
    have hlist : ∀ l, canonicalItems l = l.map canonicalBytes := by
      intro l
      induction l with
      | nil => rfl
      | cons a l ih =>
          show canonicalBytes a :: canonicalItems l = _
          rw [ih]
          rfl
    have hlead : ∀ a, ∃ b more, canonicalBytes a = b :: more ∧ b ≠ 93 := by
      intro a
      obtain ⟨b, more, htext, _, hb, _⟩ := canonicalBytes_lead a
      exact ⟨b, more, htext, hb⟩
    simp only [canonicalBytes, List.cons_append, List.append_assoc, List.nil_append, hlist] at h
    obtain ⟨hmap, hxy⟩ := commaJoin_inj Json.normal (.inl rfl) hlead hitems
      (List.cons.inj h).2
    unfold Json.normal
    rw [Json.normalItems_eq_map, Json.normalItems_eq_map, hmap]
    exact ⟨rfl, hxy⟩

theorem Json.determined_obj {fields : List (String × Json)}
    (hfields : ∀ f ∈ fields, f.2.Determined) : (Json.obj fields).Determined := by
  intro b x y hx hy h
  have hkind := kind_eq h
  cases b <;> cases hkind
  next fields' =>
    rw [canonicalBytes_obj, canonicalBytes_obj] at h
    simp only [List.cons_append, List.append_assoc, List.nil_append] at h
    have hlead : ∀ f, ∃ b more, dumpedField f = b :: more ∧ b ≠ 125 := by
      intro f
      exact ⟨34, _, rfl, by decide⟩
    have hfield : ∀ f ∈ sortByName fields, ∀ g x y, EndsNumber x → EndsNumber y →
        dumpedField f ++ x = dumpedField g ++ y →
        (f.1, f.2.normal) = (g.1, g.2.normal) ∧ x = y := by
      intro f hf g x y hx hy h
      unfold dumpedField at h
      rw [List.append_assoc, List.append_assoc] at h
      obtain ⟨hname, hvalue⟩ := quoted_append_inj h
      obtain ⟨hnormal, hxy⟩ := hfields f ((List.mem_insertionSort _).mp hf) g.2 x y hx hy
        (List.cons.inj hvalue).2
      rw [hname, hnormal]
      exact ⟨rfl, hxy⟩
    obtain ⟨hmap, hxy⟩ := commaJoin_inj (fun f : String × Json => (f.1, f.2.normal)) (.inr rfl)
      hlead hfield (List.cons.inj h).2
    unfold Json.normal
    rw [sortByName_normal, sortByName_normal, hmap]
    exact ⟨rfl, hxy⟩

mutual

theorem Json.determined : ∀ a : Json, a.Determined
  | .null => by
      intro b x y _ _ h
      have hkind := kind_eq h
      cases b <;> cases hkind
      exact ⟨rfl, List.append_cancel_left h⟩
  | .bool v => by
      intro b x y _ _ h
      have hkind := kind_eq h
      cases b <;> cases hkind
      next w =>
        cases v <;> cases w
        · exact ⟨rfl, List.append_cancel_left h⟩
        · cases (List.cons.inj h).1
        · cases (List.cons.inj h).1
        · exact ⟨rfl, List.append_cancel_left h⟩
  | .num n => Json.determined_num n
  | .str s => by
      intro b x y _ _ h
      have hkind := kind_eq h
      cases b <;> cases hkind
      obtain ⟨hst, hxy⟩ := quoted_append_inj h
      rw [hst]
      exact ⟨rfl, hxy⟩
  | .arr items => Json.determined_arr (Json.determined_items items)
  | .obj fields => Json.determined_obj (Json.determined_fields fields)

theorem Json.determined_items : ∀ items : List Json, ∀ a ∈ items, a.Determined
  | [], _, h => nomatch h
  | item :: rest, a, h => by
      rcases List.mem_cons.mp h with heq | hmem
      · rw [heq]
        exact Json.determined item
      · exact Json.determined_items rest a hmem

theorem Json.determined_fields : ∀ fields : List (String × Json), ∀ f ∈ fields, f.2.Determined
  | [], _, h => nomatch h
  | (name, value) :: rest, f, h => by
      rcases List.mem_cons.mp h with heq | hmem
      · rw [heq]
        exact Json.determined value
      · exact Json.determined_fields rest f hmem

end

theorem endsNumber_nil : EndsNumber [] := ⟨fun _ _ h => (nomatch h), rfl⟩

/-- Values with the same canonical bytes differ at most in the order of their fields. -/
theorem normal_of_canonicalBytes {a b : Json} (h : canonicalBytes a = canonicalBytes b) :
    a.normal = b.normal :=
  (a.determined b [] [] endsNumber_nil endsNumber_nil (by rw [h])).1

/-- Objects with the same normal form have the same fields up to order. -/
theorem fields_of_normal {fields fields' : List (String × Json)}
    (h : (Json.obj fields).normal = (Json.obj fields').normal) :
    (fields.map fun f => (f.1, f.2.normal)).Perm (fields'.map fun f => (f.1, f.2.normal)) := by
  unfold Json.normal at h
  have hsorted := Json.obj.inj h
  have hperm := (List.perm_insertionSort (fun f g : String × Json =>
    textLe (utf8 f.1) (utf8 g.1)) (Json.normalFields fields)).symm
  unfold sortByName at hsorted
  rw [hsorted] at hperm
  rw [← Json.normalFields_eq_map, ← Json.normalFields_eq_map]
  exact hperm.trans (List.perm_insertionSort _ _)

/-- A field of an object, found by its name. -/
theorem field_of_normal {fields fields' : List (String × Json)}
    (h : (Json.obj fields).normal = (Json.obj fields').normal)
    (hnodup : (fields'.map (·.1)).Nodup) (name : String) {v w : Json}
    (hv : (name, v) ∈ fields) (hw : (name, w) ∈ fields') : v.normal = w.normal := by
  have hmem : (name, v.normal) ∈ fields'.map fun f => (f.1, f.2.normal) :=
    (fields_of_normal h).mem_iff.mp (List.mem_map.mpr ⟨(name, v), hv, rfl⟩)
  obtain ⟨f, hf, hpair⟩ := List.mem_map.mp hmem
  have hname : f.1 = name := congrArg Prod.fst hpair
  have hvalue : f.2.normal = v.normal := congrArg Prod.snd hpair
  have hsame : f = (name, w) := List.inj_on_of_nodup_map hnodup hf hw hname
  rw [← hvalue, hsame]

/-! ## Identifiers -/

/-- The value of a lower-case hexadecimal digit. -/
def hexDigitValue (c : Char) : Nat := if c.toNat < 58 then c.toNat - 48 else c.toNat - 87

def hexTextValue (digits : List Char) : Nat :=
  digits.foldl (fun n c => 16 * n + hexDigitValue c) 0

theorem hexDigitValue_digitChar {d : Nat} (h : d < 16) : hexDigitValue (Nat.digitChar d) = d := by
  have hall : ∀ d : Fin 16, hexDigitValue (Nat.digitChar d) = d := by decide
  exact hall ⟨d, h⟩

theorem hexTextValue_toDigits (n : Nat) : hexTextValue (Nat.toDigits 16 n) = n := by
  induction n using Nat.strongRecOn with
  | ind n ih =>
      by_cases hn : n < 16
      · rw [Nat.toDigits_of_lt_base hn]
        show 16 * 0 + hexDigitValue n.digitChar = n
        rw [hexDigitValue_digitChar hn]
        omega
      · have hprev := ih (n / 16) (by omega)
        unfold hexTextValue at hprev ⊢
        rw [Nat.toDigits_of_base_le (by decide) (by omega), List.foldl_append, hprev]
        show 16 * (n / 16) + hexDigitValue (n % 16).digitChar = n
        rw [hexDigitValue_digitChar (Nat.mod_lt n (by decide))]
        omega

theorem hexTextValue_padded (k : Nat) (digits : List Char) :
    hexTextValue (List.replicate k '0' ++ digits) = hexTextValue digits := by
  induction k with
  | zero => rfl
  | succ k ih =>
      rw [List.replicate_succ, List.cons_append]
      exact ih

theorem hexToken_inj {m n : Nat} (h : hexToken m = hexToken n) : m = n := by
  unfold hexToken at h
  have hvalue := congrArg hexTextValue (String.ofList_injective h)
  rwa [hexTextValue_padded, hexTextValue_padded, hexTextValue_toDigits,
    hexTextValue_toDigits] at hvalue

theorem Id.text_inj {kind : IdKind} {i j : Id kind} (h : i.text = j.text) : i = j := by
  unfold Id.text at h
  have hlist := congrArg String.toList h
  simp only [String.toList_append] at hlist
  have htoken := hexToken_inj (String.toList_injective (List.append_cancel_left hlist))
  cases i
  cases j
  cases htoken
  rfl

end FlowPilot

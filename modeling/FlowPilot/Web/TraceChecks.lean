import FlowPilot.Web.RunTrace

/-!
# What the checks of the trace view accept

Dates, enumerations and attributes as the services write them.
-/

open FlowPilot.Lib FlowPilot.Control

namespace FlowPilot.Web

/-! ## Dates -/

theorem digitsValue_padded (width n : Nat) : digitsValue (utf8 (padded width n)) = n := by
  have hzeros : ∀ (k : Nat) (digits : List Nat),
      digitsValue (List.replicate k 48 ++ digits) = digitsValue digits := by
    intro k digits
    induction k with
    | zero => rfl
    | succ k ih =>
      rw [List.replicate_succ, List.cons_append, ← ih]
      rfl
  rw [utf8_padded, hzeros, digitsValue_decimal]

/-- The day of a year, from the day of its era. -/
theorem dayOfYear_le {doe yoe : Nat} (hdoe : doe ≤ 146096)
    (hyoe : (doe - doe / 1460 + doe / 36524 - doe / 146096) / 365 = yoe) :
    doe - (365 * yoe + yoe / 4 - yoe / 100) ≤ 366 := by
  omega

theorem civilDate_calendar (days : Nat) :
    (1 ≤ (civilDate days).2.1 ∧ (civilDate days).2.1 ≤ 12) ∧
      1 ≤ (civilDate days).2.2 ∧ (civilDate days).2.2 ≤ 31 := by
  unfold civilDate
  dsimp only
  have hdoe : (days + 719468) % 146097 ≤ 146096 := by omega
  generalize (days + 719468) % 146097 = doe at hdoe ⊢
  generalize hyoe : (doe - doe / 1460 + doe / 36524 - doe / 146096) / 365 = yoe
  have hdays := dayOfYear_le hdoe hyoe
  generalize doe - (365 * yoe + yoe / 4 - yoe / 100) = doy at hdays ⊢
  generalize hmp : (5 * doy + 2) / 153 = mp
  have hmonths : mp ≤ 11 := by omega
  constructor
  · split <;> omega
  · omega

/-- The fixed positions of a date. -/
theorem dateParse_of_parts {s : String} {year month day hour minute second fraction : List Nat}
    (hyear : year.length = 4) (hmonth : month.length = 2) (hday : day.length = 2)
    (hhour : hour.length = 2) (hminute : minute.length = 2) (hsecond : second.length = 2)
    (hmonths : 1 ≤ digitsValue month ∧ digitsValue month ≤ 12)
    (hdays : 1 ≤ digitsValue day ∧ digitsValue day ≤ 31) (hhours : digitsValue hour ≤ 23)
    (hminutes : digitsValue minute ≤ 59) (hseconds : digitsValue second ≤ 59)
    (hs : utf8 s = year ++ 45 :: (month ++ 45 :: (day ++ 84 :: (hour ++ 58 :: (minute ++ 58 ::
      (second ++ fraction)))))) : (dateParse s).isSome = true := by
  match year, hyear with
  | [y₁, y₂, y₃, y₄], _ =>
  match month, hmonth with
  | [m₁, m₂], _ =>
  match day, hday with
  | [d₁, d₂], _ =>
  match hour, hhour with
  | [h₁, h₂], _ =>
  match minute, hminute with
  | [n₁, n₂], _ =>
  match second, hsecond with
  | [s₁, s₂], _ =>
  unfold dateParse
  rw [hs]
  exact congrArg Option.isSome (if_pos ⟨hmonths, hdays, .inl ⟨hhours, hminutes, hseconds⟩⟩)

theorem validTimestamp_str (s : String) :
    validTimestamp (.str s) = (utcTimestamp s && (dateParse s).isSome) := rfl

theorem dateParse_isoformat {t : Nat} (h : t < endOfDatetime) :
    (dateParse (isoformat t)).isSome = true := by
  have hdays : t / 1000000 / 86400 < 2932897 := by
    unfold endOfDatetime at h
    omega
  have hbounds := civilDate_lt hdays
  have hcalendar := civilDate_calendar (t / 1000000 / 86400)
  cases hdate : civilDate (t / 1000000 / 86400) with
  | mk year rest =>
    obtain ⟨month, day⟩ := rest
    rw [hdate] at hbounds hcalendar
    obtain ⟨hyear, hmonth, hday⟩ := hbounds
    have hhour : t / 1000000 / 3600 % 24 < 24 := Nat.mod_lt _ (by decide)
    have hminute : t / 1000000 / 60 % 60 < 60 := Nat.mod_lt _ (by decide)
    have hsecond : t / 1000000 % 60 < 60 := Nat.mod_lt _ (by decide)
    have hs := utf8_isoformat hdate
    generalize t / 1000000 / 3600 % 24 = hour at hs hhour
    generalize t / 1000000 / 60 % 60 = minute at hs hminute
    generalize t / 1000000 % 60 = second at hs hsecond
    refine dateParse_of_parts (length_padded (by decide) hyear)
      (length_padded (by decide) hmonth) (length_padded (by decide) hday)
      (length_padded (by decide) ?_) (length_padded (by decide) ?_)
      (length_padded (by decide) ?_) ?_ ?_ ?_ ?_ ?_ hs
    · omega
    · omega
    · omega
    · rw [digitsValue_padded]
      exact hcalendar.1
    · rw [digitsValue_padded]
      exact hcalendar.2
    all_goals
      rw [digitsValue_padded]
      omega

/-- A date of `datetime` is one that the client can parse. -/
theorem validTimestamp_isoformat {t : Nat} (h : t < endOfDatetime) :
    validTimestamp (.time t) = true := by
  unfold Json.time
  rw [validTimestamp_str, utcTimestamp_isoformat h, dateParse_isoformat h, Bool.and_true]

/-! ## Fields of a body -/

/-- The integer is one that a double represents exactly; other values are no integers. -/
def representable : Json → Bool
  | .num n => n ≤ maxSafeInteger
  | _ => true

theorem validInteger_nat (low : Nat) {n : Nat} {high : Int} (hlow : low ≤ n) (hhigh : high ≤ maxSafeInteger)
    (h : (n : Int) ≤ high) : validInteger low high (.num n) = true := by
  unfold validInteger isSafeInteger maxSafeInteger at *
  simp only [Bool.and_eq_true, decide_eq_true_eq]
  omega

theorem validInteger_low {low n : Nat} (hlow : low ≤ n) :
    validInteger low maxSafeInteger (.num n) = representable (.num n) := by
  unfold validInteger isSafeInteger representable
  rw [Bool.eq_iff_iff]
  simp only [Bool.and_eq_true, decide_eq_true_eq]
  unfold maxSafeInteger
  omega

/-- The client accepts a validated value exactly when it is representable. -/
def Agree (f c : String × (Json → Bool)) : Prop :=
  f.1 = c.1 ∧ ∀ value, f.2 value = true → c.2 (literalValue f.1 value) = representable value

theorem agree_text (name : String) (ok : String → Bool) :
    Agree (name, textField ok) (name, nullable (stringCheck ok)) := by
  refine ⟨rfl, fun value h => ?_⟩
  cases value with
  | null => rfl
  | str s => exact h
  | _ => cases h

theorem literalValue_num {name : String} (hname : name ≠ "sensitive_fields_present") (n : Int) :
    literalValue name (.num n) = .num n := by
  unfold literalValue
  split
  · next h =>
    cases h
    rw [if_neg hname]
  · next h => cases h
  · rfl

theorem agree_range {name : String} {low high : Nat} (hname : name ≠ "sensitive_fields_present")
    (hhigh : (high : Int) ≤ maxSafeInteger) :
    Agree (name, intField low high) (name, nullable (validInteger low high)) := by
  refine ⟨rfl, fun value h => ?_⟩
  cases value with
  | null => rfl
  | num n =>
    have hrange := of_decide_eq_true h
    have hsafe : (high : Int) ≤ 9007199254740991 := hhigh
    dsimp only
    rw [literalValue_num hname]
    unfold nullable validInteger isSafeInteger representable maxSafeInteger
    rw [Bool.eq_iff_iff]
    simp only [Bool.and_eq_true, decide_eq_true_eq]
    omega
  | _ => cases h

theorem agree_from {name : String} {low : Nat} (hname : name ≠ "sensitive_fields_present") :
    Agree (name, intFrom low) (name, nullable (validInteger low maxSafeInteger)) := by
  refine ⟨rfl, fun value h => ?_⟩
  cases value with
  | null => rfl
  | num n =>
    have hlow := of_decide_eq_true h
    dsimp only
    rw [literalValue_num hname]
    unfold nullable validInteger isSafeInteger representable maxSafeInteger
    rw [Bool.eq_iff_iff]
    simp only [Bool.and_eq_true, decide_eq_true_eq]
    omega
  | _ => cases h

/-- Row by row the two tables of the attributes agree. -/
theorem attributes_agree : List.Forall₂ Agree traceFields attributeChecks := by
  unfold traceFields attributeChecks
  refine .cons ⟨rfl, fun value h => ?_⟩ ?_
  · cases value <;> first | exact h | cases h
  iterate 13 refine .cons (agree_text _ _) ?_
  iterate 4 refine .cons (agree_from (by decide)) ?_
  iterate 18 refine .cons (agree_range (by decide) (by decide)) ?_
  refine .cons ⟨rfl, fun value h => ?_⟩ ?_
  · cases value with
    | null => rfl
    | num n =>
      have hzero : n = 0 := of_decide_eq_true h
      rw [hzero]
      rfl
    | bool b =>
      cases b with
      | false => rfl
      | true => cases h
    | _ => cases h
  refine .cons (agree_text _ _) ?_
  refine .cons ⟨rfl, fun value h => ?_⟩ ?_
  · cases value with
    | arr items => exact h
    | _ => cases h
  refine .cons ⟨rfl, fun value h => ?_⟩ .nil
  cases value with
  | num n =>
    have hzero : n = 0 := of_decide_eq_true h
    rw [hzero]
    rfl
  | bool b =>
    cases b with
    | false => rfl
    | true => cases h
  | _ => cases h

/-! ## Attributes -/

theorem field_map {α : Type} {fields : List (String × α)} (value : String → Json) {name : String}
    (h : name ∈ fields.map (·.1)) :
    field (fields.map fun f => (f.1, value f.1)) name = some (value name) := by
  induction fields with
  | nil => cases h
  | cons f rest ih =>
    unfold field at ih ⊢
    rw [List.map_cons, List.lookup_cons]
    cases hname : name == f.1 with
    | true => rw [eq_of_beq hname]
    | false =>
      rcases List.mem_cons.mp h with hfirst | hrest
      · rw [hfirst, beq_self_eq_true] at hname
        cases hname
      · exact ih hrest

theorem lookup_validated (stored : List (String × Json)) (name : String) :
    (validatedFields stored).lookup name = (stored.lookup name).map (literalValue name) := by
  induction stored with
  | nil => rfl
  | cons f rest ih =>
    unfold validatedFields at ih ⊢
    rw [List.map_cons, List.lookup_cons, List.lookup_cons]
    cases hname : name == f.1 with
    | true => rw [eq_of_beq hname, Option.map_some]
    | false => exact ih

theorem mem_of_lookup {stored : List (String × Json)} {name : String} {value : Json}
    (h : stored.lookup name = some value) : (name, value) ∈ stored := by
  induction stored with
  | nil => cases h
  | cons f rest ih =>
    rw [List.lookup_cons] at h
    cases hname : name == f.1 with
    | true =>
      rw [hname] at h
      cases h
      rw [eq_of_beq hname]
      exact List.mem_cons_self
    | false =>
      rw [hname] at h
      exact List.mem_cons_of_mem _ (ih h)

theorem agree_of_mem {fields checks : List (String × (Json → Bool))}
    (h : List.Forall₂ Agree fields checks) {c : String × (Json → Bool)} (hc : c ∈ checks) :
    ∃ f ∈ fields, Agree f c := by
  induction h with
  | nil => cases hc
  | cons hfirst _ ih =>
    rcases List.mem_cons.mp hc with rfl | hrest
    · exact ⟨_, List.mem_cons_self, hfirst⟩
    · obtain ⟨f, hf, hagree⟩ := ih hrest
      exact ⟨f, List.mem_cons_of_mem _ hf, hagree⟩

theorem nodup_traceFields : (traceFields.map (·.1)).Nodup := by decide

theorem names_agree : traceFields.map (·.1) = attributeChecks.map (·.1) := by decide

theorem check_validated {c : String × (Json → Bool)} (hc : c ∈ attributeChecks) {value : Json}
    (hvalid : validTraceField (c.1, value) = true) :
    c.2 (literalValue c.1 value) = representable value := by
  obtain ⟨f, hf, hname, hagree⟩ := agree_of_mem attributes_agree hc
  rw [← hname]
  refine hagree value ?_
  unfold validTraceField at hvalid
  split at hvalid
  · cases hvalid
  · next g hg =>
    have hfound := List.find?_some hg
    have hsame : g.1 = c.1 := of_decide_eq_true hfound
    have hgf : g = f := List.inj_on_of_nodup_map nodup_traceFields
      (List.mem_of_find?_eq_some hg) hf (hsame.trans hname.symm)
    rw [← hgf]
    exact hvalid

theorem check_default : ∀ c ∈ attributeChecks, c.2 (attributeDefault c.1) = true := by
  refine List.all_eq_true.mp ?_
  decide

/-- Every integer among the attributes is representable. -/
def Exact (stored : List (String × Json)) : Prop :=
  ∀ name value, stored.lookup name = some value → representable value = true

theorem passes_attributes {stored : List (String × Json)}
    (hvalid : stored.all validTraceField = true) :
    passes (attributeFields (validatedFields stored)) attributeChecks = true ↔ Exact stored := by
  have hfield : ∀ c ∈ attributeChecks, field (attributeFields (validatedFields stored)) c.1 =
      some (((stored.lookup c.1).map (literalValue c.1)).getD (attributeDefault c.1)) := by
    intro c hc
    rw [← lookup_validated]
    refine field_map (fun name => ((validatedFields stored).lookup name).getD
      (attributeDefault name)) ?_
    rw [names_agree]
    exact List.mem_map_of_mem hc
  unfold passes
  rw [List.all_eq_true]
  constructor
  · intro h name value hvalue
    have hmem := List.all_eq_true.mp hvalid _ (mem_of_lookup hvalue)
    have hname : name ∈ attributeChecks.map (·.1) := by
      rw [← names_agree]
      unfold validTraceField at hmem
      split at hmem
      · cases hmem
      · next g hg =>
        have hfound := List.find?_some hg
        have hsame : g.1 = name := of_decide_eq_true hfound
        rw [← hsame]
        exact List.mem_map_of_mem (List.mem_of_find?_eq_some hg)
    obtain ⟨c, hc, rfl⟩ := List.mem_map.mp hname
    have hpass := h c hc
    rw [hfield c hc, hvalue] at hpass
    rw [← check_validated hc hmem]
    exact hpass
  · intro h c hc
    rw [hfield c hc]
    cases hvalue : stored.lookup c.1 with
    | none => exact check_default c hc
    | some value =>
      have hmem := List.all_eq_true.mp hvalid _ (mem_of_lookup hvalue)
      show c.2 (literalValue c.1 value) = true
      rw [check_validated hc hmem]
      exact h c.1 value hvalue

theorem throwUnless_iff {ok : Bool} {message : String} :
    throwUnless ok message = .ok () ↔ ok = true := by
  cases ok
  · exact iff_of_false (fun h => by cases h) Bool.false_ne_true
  · exact iff_of_true rfl rfl

theorem parseTraceAttributes_obj (item : Item) : parseTraceAttributes (.obj item) =
    throwUnless (exactKeys item (attributeChecks.map (·.1)) && passes item attributeChecks)
      "Trace attributes are invalid" := rfl

/-- The attributes of a validated event are accepted when their integers are representable. -/
theorem parseTraceAttributes_iff {stored : List (String × Json)}
    (hvalid : stored.all validTraceField = true) :
    parseTraceAttributes (.obj (attributeFields (validatedFields stored))) = .ok () ↔
      Exact stored := by
  have hkeys : exactKeys (attributeFields (validatedFields stored)) (attributeChecks.map (·.1)) =
      true := by
    unfold exactKeys attributeFields
    rw [List.map_map, ← names_agree]
    exact decide_eq_true (List.Perm.refl _)
  rw [← passes_attributes hvalid, parseTraceAttributes_obj, throwUnless_iff, hkeys, Bool.true_and]

/-! ## Tables of checks -/

theorem passes_cons {item : Item} {name : String} {check : Json → Bool} {value : Json}
    {checks : List (String × (Json → Bool))} (hfield : field item name = some value)
    (hcheck : check value = true) (hrest : passes item checks = true) :
    passes item ((name, check) :: checks) = true := by
  unfold passes at hrest ⊢
  rw [List.all_cons, hrest, hfield, Bool.and_true]
  exact hcheck

theorem passes_nil (item : Item) : passes item [] = true := rfl

theorem check_of_passes {item : Item} (name : String) (check : Json → Bool) {value : Json}
    {checks : List (String × (Json → Bool))} (h : passes item checks = true)
    (hmem : (name, check) ∈ checks) (hfield : field item name = some value) :
    check value = true := by
  have hpass := List.all_eq_true.mp h _ hmem
  rw [hfield] at hpass
  exact hpass

theorem textCheck_self (text : String) : textCheck text (.str text) = true := decide_eq_true rfl

theorem numberCheck_self (n : Int) : numberCheck n (.num n) = true := decide_eq_true rfl

theorem nullable_ofOption {α : Type} {check : Json → Bool} {write : α → Json} {value : Option α}
    (h : ∀ a ∈ value, check (write a) = true) :
    nullable check (.ofOption write value) = true := by
  cases value with
  | none => rfl
  | some a =>
    have hcheck := h a rfl
    unfold Json.ofOption
    dsimp only
    unfold nullable
    split
    · rfl
    · exact hcheck

theorem phase_known (phase : TracePhase) : tracePhases.contains phase.value = true := by
  cases phase <;> decide

theorem status_known (status : TraceStatus) : traceStatuses.contains status.value = true := by
  cases status <;> decide

theorem category_known (category : FailureCategory) :
    failureCategories.contains category.value = true := by
  cases category <;> decide

theorem reason_known (reason : TraceReason) : traceReasons.contains reason.value = true := by
  cases reason <;> decide

theorem runStatus_known (status : RunStatus) : runStatuses.contains status.value = true := by
  cases status <;> decide

theorem terminalReason_known (reason : TerminalReason) :
    terminalReasons.contains reason.value = true := by
  cases reason <;> decide

theorem taskId_known (taskId : TaskId) : taskIds.contains taskId.value = true := by
  cases taskId <;> decide

end FlowPilot.Web

import FlowPilot.Control.Logs
import FlowPilot.Texts
import FlowPilot.Worker.Logs

/-!
# Screening of trace attributes

The worker's `_safe_trace_attributes` and the Control API's `_safe_attributes` on the same
attributes: what the worker lets pass, the Control API takes in the same form, if it fits its
schema and no list holds a marker.
-/

open FlowPilot.Lib

namespace FlowPilot

/-! ## Texts with a marker -/

/-- A marker is in the text, in lower case. -/
def marked (text : List Nat) : Bool :=
  Worker.traceForbiddenText.any fun marker => containsText (utf8 marker) (lowerBytes text)

/-- The texts of a list. -/
def Json.listTexts : Json → List String
  | .arr items => items.filterMap fun item =>
      match item with
      | .str s => some s
      | _ => none
  | _ => []

/-- The texts of a value that is no object and has no list in a list. -/
def Json.texts : Json → List String
  | .str s => [s]
  | value => value.listTexts

theorem Json.mem_texts {value : Json} {s : String} (h : s ∈ value.listTexts) : s ∈ value.texts := by
  cases value with
  | arr items => exact h
  | null | bool | num | str | obj => cases h

/-- No key, no value and no list item has a marker. -/
def Unmarked (attributes : List (String × Json)) : Prop :=
  ∀ f ∈ attributes, ∀ s ∈ f.1 :: f.2.texts, marked (utf8 s) = false

/-! ## Fields -/

/-- `fields.get(key)`. -/
def valueOf (fields : List (String × Json)) (key : String) : Option Json :=
  (fields.find? fun f => f.1 = key).map (·.2)

theorem valueOf_cons (f : String × Json) (fields : List (String × Json)) (key : String) :
    valueOf (f :: fields) key = if f.1 = key then some f.2 else valueOf fields key := by
  unfold valueOf
  rw [List.find?_cons]
  by_cases hf : f.1 = key
  · rw [if_pos hf, decide_eq_true hf]
    rfl
  · rw [if_neg hf, decide_eq_false hf]

theorem valueOf_append (fields more : List (String × Json)) (key : String) :
    valueOf (fields ++ more) key = (valueOf fields key).or (valueOf more key) := by
  unfold valueOf
  rw [List.find?_append]
  cases fields.find? fun f => f.1 = key <;> rfl

theorem valueOf_eq_none {fields : List (String × Json)} {key : String} :
    valueOf fields key = none ↔ key ∉ fields.map (·.1) := by
  unfold valueOf
  rw [Option.map_eq_none_iff, List.find?_eq_none, List.mem_map]
  constructor
  · rintro h ⟨f, hf, hkey⟩
    exact h f hf (decide_eq_true hkey)
  · intro h f hf hkey
    exact h ⟨f, hf, of_decide_eq_true hkey⟩

/-- Only the field with the key is replaced. -/
theorem valueOf_replace (safe : List (String × Json)) (key : String) (value : Json)
    (name : String) :
    valueOf (safe.map fun f => if f.1 = key then (key, value) else f) name =
      if name = key then (valueOf safe key).map fun _ => value else valueOf safe name := by
  induction safe with
  | nil =>
    by_cases hname : name = key
    · rw [if_pos hname]
      rfl
    · rw [if_neg hname]
      rfl
  | cons f rest ih =>
    rw [List.map_cons, valueOf_cons, valueOf_cons, valueOf_cons, ih]
    by_cases hname : name = key
    · subst hname
      by_cases hf : f.1 = name
      · simp [hf]
      · simp [hf]
    · by_cases hf : f.1 = key
      · have hother : f.1 ≠ name := fun h => hname (h.symm.trans hf)
        simp [hf, hname, Ne.symm hname]
      · simp [hf, hname]

/-- `safe[key] = value`. -/
theorem valueOf_setField (safe : List (String × Json)) (key : String) (value : Json)
    (name : String) : valueOf (Worker.setField safe key value) name =
      if name = key then some value else valueOf safe name := by
  unfold Worker.setField
  have hpresent : (safe.any fun f => decide (f.1 = key)) = true ↔ valueOf safe key ≠ none := by
    rw [ne_eq, valueOf_eq_none, not_not, List.any_eq_true, List.mem_map]
    simp only [decide_eq_true_eq]
  by_cases hany : (safe.any fun f => decide (f.1 = key)) = true
  · rw [if_pos hany, valueOf_replace]
    obtain ⟨old, hold⟩ := Option.ne_none_iff_exists'.mp (hpresent.mp hany)
    rw [hold]
    rfl
  · have habsent : valueOf safe key = none := not_not.mp fun h => hany (hpresent.mpr h)
    rw [if_neg hany, valueOf_append, valueOf_cons]
    by_cases hname : name = key
    · rw [hname, habsent, if_pos rfl, if_pos rfl]
      rfl
    · rw [if_neg (Ne.symm hname), if_neg hname]
      cases valueOf safe name <;> rfl

/-! ## What is kept -/

/-- The attributes that are not `None`. -/
def given (attributes : List (String × Json)) : List (String × Json) :=
  attributes.filter fun f => Control.notNull f.2

theorem mem_of_valueOf {fields : List (String × Json)} {key : String} {value : Json}
    (h : valueOf fields key = some value) : (key, value) ∈ fields := by
  unfold valueOf at h
  obtain ⟨f, hf, rfl⟩ := Option.map_eq_some_iff.mp h
  have hkey : f.1 = key := by simpa using List.find?_some hf
  rw [← hkey]
  exact List.mem_of_find?_eq_some hf

/-! ## Literals -/

theorem literalValue_notNull (key : String) (value : Json) :
    Control.notNull (Control.literalValue key value) = Control.notNull value := by
  unfold Control.literalValue
  split
  · split <;> rfl
  · split <;> rfl
  · rfl

theorem literalValue_texts (key : String) (value : Json) :
    (Control.literalValue key value).texts = value.texts := by
  unfold Control.literalValue
  split
  · split <;> rfl
  · split <;> rfl
  · rfl

/-- Only the literals with an equal value are rewritten. -/
theorem literalValue_eq_self {key : String} {value : Json}
    (hzero : key = "sensitive_fields_present" → value ≠ .num 0)
    (hfalse : key = "real_cost_microusd" → value ≠ .bool false) :
    Control.literalValue key value = value := by
  unfold Control.literalValue
  split
  · exact if_neg fun hkey => hzero hkey rfl
  · exact if_neg fun hkey => hfalse hkey rfl
  · rfl

/-- The literal itself is accepted. -/
theorem valid_literalValue {f : String × Json} (h : Control.validTraceField f = true) :
    Control.validTraceField (f.1, Control.literalValue f.1 f.2) = true := by
  obtain ⟨key, value⟩ := f
  dsimp only
  by_cases hzero : key = "sensitive_fields_present" ∧ value = .num 0
  · obtain ⟨rfl, rfl⟩ := hzero
    rfl
  · by_cases hfalse : key = "real_cost_microusd" ∧ value = .bool false
    · obtain ⟨rfl, rfl⟩ := hfalse
      rfl
    · rw [literalValue_eq_self (fun hkey hvalue => hzero ⟨hkey, hvalue⟩)
        fun hkey hvalue => hfalse ⟨hkey, hvalue⟩]
      exact h

theorem valueOf_validated (fields : List (String × Json)) (key : String) :
    valueOf (Control.validatedFields fields) key =
      (valueOf fields key).map (Control.literalValue key) := by
  induction fields with
  | nil => rfl
  | cons f rest ih =>
    unfold Control.validatedFields at ih ⊢
    rw [List.map_cons, valueOf_cons, valueOf_cons, ih]
    by_cases hkey : f.1 = key
    · rw [if_pos hkey, if_pos hkey, ← hkey]
      rfl
    · rw [if_neg hkey, if_neg hkey]

theorem validated_given (attributes : List (String × Json)) :
    (Control.validatedFields attributes).filter (fun f => Control.notNull f.2) =
      Control.validatedFields (given attributes) := by
  unfold Control.validatedFields given
  rw [List.filter_map]
  congr 2
  exact funext fun f => literalValue_notNull f.1 f.2

/-- What `TraceAttributes` fills in. -/
def traceDefaults : List (String × Json) :=
  [("schema_version", .str "w13-trace-attributes/1.0"), ("completed_step_ids", .arr []),
    ("sensitive_fields_present", .bool false)]

theorem valueOf_dumped (attributes : List (String × Json)) (key : String) :
    valueOf (Control.dumpedAttributes attributes) key =
      ((valueOf (given attributes) key).map (Control.literalValue key)).or
        (valueOf traceDefaults key) := by
  have hmissing : ∀ fields defaults : List (String × Json),
      (valueOf fields key).or (valueOf (defaults.filter fun f =>
        !fields.any fun g => decide (g.1 = f.1)) key) =
      (valueOf fields key).or (valueOf defaults key) := by
    intro fields defaults
    cases hgiven : valueOf fields key with
    | some value => rfl
    | none =>
      rw [Option.none_or, Option.none_or]
      have habsent := valueOf_eq_none.mp hgiven
      induction defaults with
      | nil => rfl
      | cons f rest ih =>
        rw [List.filter_cons, valueOf_cons]
        split
        · rw [valueOf_cons, ih]
        · rename_i hknown
          rw [Bool.not_eq_true, Bool.not_eq_false', List.any_eq_true] at hknown
          obtain ⟨g, hg, hsame⟩ := hknown
          have hother : f.1 ≠ key := by
            intro hf
            apply habsent
            rw [← hf, ← of_decide_eq_true hsame]
            exact List.mem_map_of_mem hg
          rw [if_neg hother, ih]
  unfold Control.dumpedAttributes
  rw [validated_given, ← valueOf_validated, valueOf_append]
  exact hmissing (Control.validatedFields (given attributes)) traceDefaults

/-- What passes the checks is what is not skipped. -/
theorem safeTraceValue_kept {key : String} {value : Json} {checked : Option Json}
    (h : Worker.safeTraceValue key value = .ok checked) :
    checked = if Control.notNull value then some value else none := by
  unfold Worker.safeTraceValue at h
  repeat' split at h
  all_goals
    cases h <;> rfl

theorem valueOf_collected {attributes safe collected : List (String × Json)}
    (hdistinct : (attributes.map (·.1)).Nodup)
    (h : Worker.collectTraceAttributes safe attributes = .ok collected) (name : String) :
    valueOf collected name = (valueOf (given attributes) name).or (valueOf safe name) := by
  induction attributes generalizing safe with
  | nil =>
    cases h
    rfl
  | cons f rest ih =>
    rw [List.map_cons, List.nodup_cons] at hdistinct
    unfold Worker.collectTraceAttributes at h
    obtain ⟨checked, hchecked, hrest⟩ := ok_of_bind h
    rw [safeTraceValue_kept hchecked] at hrest
    unfold given
    rw [List.filter_cons]
    by_cases hnull : Control.notNull f.2 = true
    · rw [if_pos hnull] at hrest ⊢
      rw [ih hdistinct.2 hrest, valueOf_setField, valueOf_cons]
      by_cases hname : name = f.1
      · have habsent : valueOf (given rest) name = none := by
          rw [valueOf_eq_none, hname]
          intro hmem
          obtain ⟨g, hg, hkey⟩ := List.mem_map.mp hmem
          exact hdistinct.1 (hkey ▸ List.mem_map_of_mem (List.mem_filter.mp hg).1)
        rw [habsent, if_pos hname, if_pos hname.symm]
        rfl
      · rw [if_neg hname, if_neg (Ne.symm hname)]
        rfl
    · rw [if_neg hnull] at hrest ⊢
      exact ih hdistinct.2 hrest

theorem checked_of_collected {attributes safe collected : List (String × Json)}
    (h : Worker.collectTraceAttributes safe attributes = .ok collected) :
    ∀ f ∈ attributes, ∃ checked, Worker.safeTraceValue f.1 f.2 = .ok checked := by
  induction attributes generalizing safe with
  | nil => exact fun f hf => absurd hf List.not_mem_nil
  | cons f rest ih =>
    unfold Worker.collectTraceAttributes at h
    obtain ⟨checked, hchecked, hrest⟩ := ok_of_bind h
    refine List.forall_mem_cons.mpr ⟨⟨checked, hchecked⟩, ?_⟩
    cases checked with
    | none => exact ih hrest
    | some value => exact ih hrest

theorem notNull_of_collected {attributes safe collected : List (String × Json)}
    (hsafe : ∀ f ∈ safe, Control.notNull f.2 = true)
    (h : Worker.collectTraceAttributes safe attributes = .ok collected) :
    ∀ f ∈ collected, Control.notNull f.2 = true := by
  induction attributes generalizing safe with
  | nil =>
    cases h
    exact hsafe
  | cons f rest ih =>
    unfold Worker.collectTraceAttributes at h
    obtain ⟨checked, hchecked, hrest⟩ := ok_of_bind h
    rw [safeTraceValue_kept hchecked] at hrest
    by_cases hnull : Control.notNull f.2 = true
    · rw [if_pos hnull] at hrest
      refine ih (fun g hg => ?_) hrest
      unfold Worker.setField at hg
      split at hg
      · obtain ⟨old, hold, rfl⟩ := List.mem_map.mp hg
        split
        · exact hnull
        · exact hsafe old hold
      · rw [List.mem_append, List.mem_singleton] at hg
        rcases hg with hold | hnew
        · exact hsafe g hold
        · rw [hnew]
          exact hnull
    · rw [if_neg hnull] at hrest
      exact ih hsafe hrest

/-- What the worker fills in. -/
def workerDefaults : List (String × Json) :=
  [("schema_version", .str "w13-trace-attributes/1.0"), ("sensitive_fields_present", .bool false)]

theorem workerDefaults_or (key : String) :
    ((valueOf workerDefaults key).map (Control.literalValue key)).or (valueOf traceDefaults key) =
      valueOf traceDefaults key := by
  by_cases hversion : "schema_version" = key
  · subst hversion
    rfl
  · by_cases hsensitive : "sensitive_fields_present" = key
    · subst hsensitive
      rfl
    · have habsent : valueOf workerDefaults key = none := by
        unfold workerDefaults
        rw [valueOf_cons, if_neg hversion, valueOf_cons, if_neg hsensitive]
        rfl
      rw [habsent, Option.map_none, Option.none_or]

theorem collected_of_safe {attributes safe : List (String × Json)}
    (h : Worker.safeTraceAttributes attributes = .ok (.obj safe)) :
    Worker.collectTraceAttributes workerDefaults attributes = .ok safe := by
  unfold Worker.safeTraceAttributes at h
  obtain ⟨collected, hcollected, hrest⟩ := ok_of_bind h
  split at hrest
  · cases hrest
  · cases hrest
    exact hcollected

theorem valueOf_safe {attributes safe : List (String × Json)}
    (hdistinct : (attributes.map (·.1)).Nodup)
    (h : Worker.safeTraceAttributes attributes = .ok (.obj safe)) (key : String) :
    valueOf safe key = (valueOf (given attributes) key).or (valueOf workerDefaults key) :=
  valueOf_collected hdistinct (collected_of_safe h) key

/-- The worker's attributes and the given ones are the same `TraceAttributes`. -/
theorem dumped_safe {attributes safe : List (String × Json)}
    (hdistinct : (attributes.map (·.1)).Nodup)
    (h : Worker.safeTraceAttributes attributes = .ok (.obj safe)) (key : String) :
    valueOf (Control.dumpedAttributes safe) key =
      valueOf (Control.dumpedAttributes attributes) key := by
  have hall := notNull_of_collected (by decide) (collected_of_safe h)
  have hgiven : given safe = safe := List.filter_eq_self.mpr hall
  rw [valueOf_dumped, valueOf_dumped, hgiven, valueOf_safe hdistinct h, Option.map_or,
    Option.or_assoc, workerDefaults_or]

theorem false_of_checked {key : String} {checked : Option Json}
    (h : Worker.safeTraceValue key (.bool false) = .ok checked) :
    key = "sensitive_fields_present" := by
  unfold Worker.safeTraceValue at h
  split at h
  · cases h
  · dsimp only at h
    split at h
    · cases h
    · next hallowed => exact not_not.mp fun hkey => hallowed (.inl hkey)

/-- The schema alone fills in the empty list of completed steps, and writes a `0` that stands for
`False` as `False`. -/
theorem dumped_eq_safe_iff {attributes safe : List (String × Json)}
    (hdistinct : (attributes.map (·.1)).Nodup)
    (h : Worker.safeTraceAttributes attributes = .ok (.obj safe)) :
    (∀ key, valueOf (Control.dumpedAttributes attributes) key = valueOf safe key) ↔
      valueOf (given attributes) "completed_step_ids" ≠ none ∧
        valueOf (given attributes) "sensitive_fields_present" ≠ some (.num 0) := by
  constructor
  · intro hsame
    constructor
    · intro habsent
      have hsteps := hsame "completed_step_ids"
      rw [valueOf_dumped, valueOf_safe hdistinct h, habsent] at hsteps
      cases hsteps
    · intro hzero
      have hsensitive := hsame "sensitive_fields_present"
      rw [valueOf_dumped, valueOf_safe hdistinct h, hzero] at hsensitive
      cases hsensitive
  · rintro ⟨hsteps, hzero⟩ key
    rw [valueOf_dumped, valueOf_safe hdistinct h]
    cases hgiven : valueOf (given attributes) key with
    | some value =>
      -- the worker refuses `False` for every other key
      have hkept : Control.literalValue key value = value := by
        apply literalValue_eq_self
        · rintro rfl rfl
          exact hzero hgiven
        · rintro rfl rfl
          have hmem := (List.mem_filter.mp (mem_of_valueOf hgiven)).1
          obtain ⟨checked, hchecked⟩ := checked_of_collected (collected_of_safe h) _ hmem
          exact absurd (false_of_checked hchecked) (by decide)
      rw [Option.map_some, hkept]
      rfl
    | none =>
      have hother : "completed_step_ids" ≠ key := by
        rintro rfl
        exact hsteps hgiven
      rw [Option.map_none, Option.none_or, Option.none_or]
      unfold traceDefaults workerDefaults
      rw [valueOf_cons, valueOf_cons, valueOf_cons, if_neg hother, valueOf_cons, valueOf_cons]

/-! ## The schema -/

/-- A byte that stands for itself in a JSON text. -/
def plainByte (b : Nat) : Bool := Nat.ble 33 b && Nat.ble b 126 && !Nat.beq b 34 && !Nat.beq b 92

def plainText (s : String) : Bool := (utf8 s).all plainByte

/-- The values that the schema accepts. -/
def Json.isPlain : Json → Bool
  | .null | .bool false => true
  | .num n => decide (0 ≤ n)
  | .str s => plainText s
  | .arr items => items.all fun item =>
      match item with
      | .str s => plainText s
      | _ => false
  | _ => false

theorem plainByte_idChar {b : Nat} (h : idChar b = true) : plainByte b = true := by
  unfold idChar isLower isUpper isDigit isJoiner at h
  unfold plainByte
  simp only [Bool.or_eq_true, Bool.and_eq_true, Nat.ble_eq, Nat.beq_eq] at h
  simp only [Bool.and_eq_true, Nat.ble_eq, Bool.not_eq_true', ← Bool.not_eq_true, Nat.beq_eq]
  omega

theorem plainText_matchesId {kind : IdKind} {s : String} (h : Control.matchesId kind s = true) :
    plainText s = true := by
  unfold Control.matchesId at h
  simp only [Bool.and_eq_true, List.all_eq_true] at h
  have hlead : (utf8 kind.prefixText ++ [95]).all plainByte = true := by cases kind <;> decide
  obtain ⟨rest, hrest⟩ := startsWith_iff.mp h.1.1
  unfold plainText
  rw [← hrest, List.all_append, hlead, Bool.true_and, List.all_eq_true]
  intro b hb
  apply plainByte_idChar
  apply h.1.2
  rw [← hrest, List.drop_left]
  exact hb

theorem plainText_of_all {s : String} {p : Nat → Bool} (hp : ∀ b, p b = true → plainByte b = true)
    (h : (utf8 s).all p = true) : plainText s = true :=
  List.all_eq_true.mpr fun b hb => hp b (List.all_eq_true.mp h b hb)

theorem plainText_matchesSha256 {s : String} (h : Control.matchesSha256 s = true) :
    plainText s = true := by
  unfold Control.matchesSha256 at h
  refine plainText_of_all (fun b hb => ?_) (Bool.and_eq_true_iff.mp h).1
  apply plainByte_idChar
  unfold idChar isLower
  simp only [Bool.or_eq_true, Bool.and_eq_true, Nat.ble_eq] at hb ⊢
  rcases hb with hdigit | hletter
  · exact .inl (.inr hdigit)
  · exact .inl (.inl (.inl (by omega)))

theorem plainText_matchesStep {s : String} (h : Control.matchesStep s = true) :
    plainText s = true := by
  unfold Control.matchesStep matchesPattern at h
  unfold plainText
  cases htext : utf8 s with
  | nil => rfl
  | cons b bytes =>
    rw [htext] at h
    simp only [Bool.and_eq_true, List.all_eq_true] at h
    rw [List.all_eq_true]
    intro c hc
    apply plainByte_idChar
    unfold idChar isJoiner
    rw [List.mem_cons] at hc
    rcases hc with hcb | hc
    · rw [hcb, h.1.1]
      rfl
    · have hsafe := h.1.2 c hc
      simp only [Bool.or_eq_true] at hsafe ⊢
      tauto

theorem plain_textField {ok : String → Bool} (hok : ∀ s, ok s = true → plainText s = true)
    {value : Json} (h : Control.textField ok value = true) : value.isPlain = true := by
  unfold Control.textField at h
  split at h
  · exact hok _ h
  · rfl
  · cases h

theorem plain_listed {texts : List String} (hall : texts.all plainText = true) :
    ∀ s, texts.contains s = true → plainText s = true := by
  intro s hs
  exact List.all_eq_true.mp hall s (List.contains_iff_mem.mp hs)

theorem plain_intField {low high : Nat} {value : Json}
    (h : Control.intField low high value = true) : value.isPlain = true := by
  unfold Control.intField at h
  split at h
  · exact decide_eq_true (Int.le_trans (Int.natCast_nonneg low) (of_decide_eq_true h).1)
  · rfl
  · cases h

theorem plain_intFrom {low : Nat} {value : Json} (h : Control.intFrom low value = true) :
    value.isPlain = true := by
  unfold Control.intFrom at h
  split at h
  · exact decide_eq_true (Int.le_trans (Int.natCast_nonneg low) (of_decide_eq_true h))
  · rfl
  · cases h

theorem plain_zeroField {value : Json} (h : Control.zeroField value = true) :
    value.isPlain = true := by
  unfold Control.zeroField at h
  split at h
  · rw [of_decide_eq_true h]
    rfl
  · next b =>
      cases b
      · rfl
      · cases h
  · cases h

theorem plain_traceFields : ∀ g ∈ Control.traceFields, ∀ value, g.2 value = true →
    value.isPlain = true := by
  have hid : ∀ kind value, Control.textField (Control.matchesId kind) value = true →
      value.isPlain = true := fun kind _ => plain_textField fun _ => plainText_matchesId
  have hhash : ∀ value, Control.textField Control.matchesSha256 value = true →
      value.isPlain = true := fun _ => plain_textField fun _ => plainText_matchesSha256
  have hstep : ∀ value, Control.textField Control.matchesStep value = true →
      value.isPlain = true := fun _ => plain_textField fun _ => plainText_matchesStep
  have hint : ∀ low high value, Control.intField low high value = true → value.isPlain = true :=
    fun _ _ _ => plain_intField
  have hfrom : ∀ low value, Control.intFrom low value = true → value.isPlain = true :=
    fun _ _ => plain_intFrom
  have hlisted : ∀ texts : List String, texts.all plainText = true → ∀ value,
      Control.textField (fun s => texts.contains s) value = true → value.isPlain = true :=
    fun _ hall _ => plain_textField (plain_listed hall)
  unfold Control.traceFields
  repeat' refine List.forall_mem_cons.mpr ⟨?_, ?_⟩
  all_goals
    first
      | exact hid _
      | exact hhash
      | exact hstep
      | exact hint _ _
      | exact hfrom _
      | exact hlisted _ (by decide)
      | exact fun _ => plain_zeroField
      | exact fun _ h => absurd h List.not_mem_nil
      | skip
  · intro value h
    cases value with
    | str s =>
      rw [of_decide_eq_true h]
      decide
    | null | bool | num | arr | obj => cases h
  · intro value
    apply plain_textField
    intro s hs
    exact plainText_of_all (fun _ => plainByte_idChar) (Bool.and_eq_true_iff.mp hs).1
  · intro value h
    dsimp only at h
    split at h
    · rfl
    · exact plain_zeroField h
  · intro value h
    cases value with
    | arr items =>
      have hall := (Bool.and_eq_true_iff.mp h).2
      rw [List.all_eq_true] at hall
      show items.all _ = true
      rw [List.all_eq_true]
      intro item hitem
      have hstep := hall item hitem
      cases item with
      | str s => exact plainText_matchesStep hstep
      | null | bool | num | arr | obj => cases hstep
    | null | bool | num | str | obj => cases h

/-! ## Encoded fields -/

/-- A byte of a JSON text between its strings. -/
def betweenByte (b : Nat) : Bool :=
  isDigit b || [44, 58, 91, 93, 97, 101, 102, 108, 110, 115, 117, 123, 125].contains b

/-- A JSON text whose strings have the property. -/
inductive Quoting (content : List Nat → Prop) : List Nat → Prop
  | nil : Quoting content []
  | between {b : Nat} {rest : List Nat} (hb : betweenByte b = true)
      (hrest : Quoting content rest) : Quoting content (b :: rest)
  | string {text rest : List Nat} (htext : content text) (hrest : Quoting content rest) :
      Quoting content (34 :: (text ++ 34 :: rest))

theorem Quoting.append {content : List Nat → Prop} {xs ys : List Nat} (hxs : Quoting content xs)
    (hys : Quoting content ys) : Quoting content (xs ++ ys) := by
  induction hxs with
  | nil => exact hys
  | between hb _ ih => exact .between hb ih
  | string htext _ ih =>
    rw [List.cons_append, List.append_assoc, List.cons_append]
    exact .string htext ih

theorem Quoting.of_all {content : List Nat → Prop} {bytes : List Nat}
    (h : bytes.all betweenByte = true) : Quoting content bytes := by
  induction bytes with
  | nil => exact .nil
  | cons b bytes ih =>
    rw [List.all_cons, Bool.and_eq_true] at h
    exact .between h.1 (ih h.2)

theorem Quoting.commaJoin {content : List Nat → Prop} {items : List (List Nat)}
    (h : ∀ item ∈ items, Quoting content item) : Quoting content (commaJoin items) := by
  induction items with
  | nil => exact .nil
  | cons item rest ih =>
    have hfirst := h item List.mem_cons_self
    have hrest := ih fun other hother => h other (List.mem_cons_of_mem item hother)
    cases rest with
    | nil => exact hfirst
    | cons other rest => exact hfirst.append (.between (by decide) hrest)

/-- A text without quotes in a JSON text is in one of its strings, or between two of them. -/
theorem Quoting.not_lead {content : List Nat → Prop} {text marker : List Nat}
    (h : Quoting content text) (hquote : 34 ∉ marker)
    (hbetween : marker.all betweenByte = false) : ¬marker <+: text := by
  induction h generalizing marker with
  | nil =>
    intro hlead
    rw [List.prefix_nil.mp hlead] at hbetween
    cases hbetween
  | between hb _ ih =>
    intro hlead
    cases marker with
    | nil => cases hbetween
    | cons c marker =>
      rw [List.cons_prefix_cons] at hlead
      rw [List.all_cons, hlead.1, hb, Bool.true_and] at hbetween
      exact ih (fun hmem => hquote (List.mem_cons_of_mem c hmem)) hbetween hlead.2
  | string _ _ _ =>
    intro hlead
    cases marker with
    | nil => cases hbetween
    | cons c marker =>
      rw [List.cons_prefix_cons] at hlead
      exact hquote (hlead.1 ▸ List.mem_cons_self)

theorem infix_of_separated {α : Type} {marker xs ys : List α} {a : α} (ha : a ∉ marker)
    (h : marker <:+: xs ++ a :: ys) : marker <:+: xs ∨ marker <:+: ys := by
  have hright : ∀ {tail : List α}, (∀ b ∈ tail, b ∈ marker) → tail <+: a :: ys → tail = [] := by
    intro tail htail hlead
    rcases List.prefix_cons_iff.mp hlead with hnil | ⟨rest, hcons, _⟩
    · exact hnil
    · exact absurd (htail a (hcons ▸ List.mem_cons_self)) ha
  rcases List.infix_append_iff.mp h with hleft | hwithin | ⟨front, tail, hsplit, hfront, htail⟩
  · exact .inl hleft
  · rcases List.infix_cons_iff.mp hwithin with hlead | hwithin
    · left
      rw [hright (fun _ hb => hb) hlead]
      exact List.nil_infix
    · exact .inr hwithin
  · left
    have hnil := hright (fun b hb => hsplit ▸ List.mem_append_right front hb) htail
    rw [hsplit, hnil, List.append_nil]
    exact hfront.isInfix

theorem Quoting.not_within {content : List Nat → Prop} {text marker : List Nat}
    (h : Quoting content text) (hquote : 34 ∉ marker)
    (hbetween : marker.all betweenByte = false)
    (hcontent : ∀ s, content s → ¬marker <:+: s) : ¬marker <:+: text := by
  induction h with
  | nil =>
    intro hwithin
    rw [List.infix_nil.mp hwithin] at hbetween
    cases hbetween
  | between hb hrest ih =>
    intro hwithin
    rcases List.infix_cons_iff.mp hwithin with hlead | hwithin
    · exact (Quoting.between hb hrest).not_lead hquote hbetween hlead
    · exact ih hwithin
  | string htext hrest ih =>
    intro hwithin
    rcases List.infix_cons_iff.mp hwithin with hlead | hwithin
    · exact (Quoting.string htext hrest).not_lead hquote hbetween hlead
    · rcases infix_of_separated hquote hwithin with hinner | hwithin
      · exact hcontent _ htext hinner
      · exact ih hwithin

theorem Quoting.map {content mapped : List Nat → Prop} {f : Nat → Nat} {text : List Nat}
    (h : Quoting content text) (hf : ∀ b, betweenByte b = true ∨ b = 34 → f b = b)
    (hcontent : ∀ s, content s → mapped (s.map f)) : Quoting mapped (text.map f) := by
  induction h with
  | nil => exact .nil
  | between hb _ ih =>
    rw [List.map_cons, hf _ (.inl hb)]
    exact .between hb ih
  | string htext _ ih =>
    rw [List.map_cons, List.map_append, List.map_cons, hf 34 (.inr rfl)]
    exact .string (hcontent _ htext) ih

theorem containsText_iff {marker text : List Nat} :
    containsText marker text = true ↔ marker <:+: text := by
  induction text with
  | nil =>
    rw [List.infix_nil]
    exact List.isEmpty_iff
  | cons b rest ih =>
    show (startsWith (b :: rest) marker || containsText marker rest) = true ↔ _
    rw [Bool.or_eq_true, startsWith_iff, ih, List.infix_cons_iff]

def lowerByte (b : Nat) : Nat := if isUpper b then b + 32 else b

theorem lowerBytes_ascii {text : List Nat} (h : ∀ b ∈ text, b < 128) :
    lowerBytes text = text.map lowerByte := by
  induction text with
  | nil => rfl
  | cons b rest ih =>
    have hb := h b List.mem_cons_self
    have hrest := ih fun c hc => h c (List.mem_cons_of_mem b hc)
    rw [lowerBytes, hrest]
    · rfl
    · intro tail h226
      omega
    · intro tail h196
      omega

/-- A text that stands for itself in a JSON text and has the property. -/
def Screened (ok : List Nat → Prop) (bytes : List Nat) : Prop :=
  bytes.all plainByte = true ∧ ok bytes

theorem plainByte_range {b : Nat} (h : plainByte b = true) :
    32 ≤ b ∧ b < 128 ∧ b ≠ 34 ∧ b ≠ 92 := by
  unfold plainByte at h
  simp only [Bool.and_eq_true, Nat.ble_eq, Bool.not_eq_true', ← Bool.not_eq_true, Nat.beq_eq] at h
  omega

theorem escape_plain {bytes : List Nat} (h : bytes.all plainByte = true) :
    bytes.flatMap escapeByte = bytes := by
  induction bytes with
  | nil => rfl
  | cons b bytes ih =>
    rw [List.all_cons, Bool.and_eq_true] at h
    have hrange := plainByte_range h.1
    rw [List.flatMap_cons, escapeByte_plain hrange.1 hrange.2.2.1 hrange.2.2.2, ih h.2,
      List.singleton_append]

theorem quoting_quoted {ok : List Nat → Prop} {s : String} (hplain : plainText s = true)
    (hs : ok (utf8 s)) : Quoting (Screened ok) (quoted s) := by
  unfold quoted
  rw [escape_plain hplain]
  exact .string ⟨hplain, hs⟩ .nil

theorem quoting_item {ok : List Nat → Prop} {value : Json} (hplain : value.isPlain = true)
    (hscalar : ∀ items, value ≠ .arr items) (hok : ∀ s ∈ value.texts, ok (utf8 s)) :
    Quoting (Screened ok) (canonicalBytes value) := by
  cases value with
  | null => exact .of_all (by decide)
  | bool b =>
    cases b
    · exact .of_all (by decide)
    · cases hplain
  | num n =>
    obtain ⟨n, rfl⟩ := Int.eq_ofNat_of_zero_le (of_decide_eq_true hplain)
    have hbytes : canonicalBytes (.num n) = decimal n := utf8_toString_nat n
    rw [hbytes]
    refine .of_all (List.all_eq_true.mpr fun b hb => ?_)
    unfold betweenByte
    rw [isDigit_of_mem_decimal hb, Bool.true_or]
  | str s => exact quoting_quoted hplain (hok s (List.mem_singleton_self s))
  | arr items => exact absurd rfl (hscalar items)
  | obj fields => cases hplain

theorem mem_canonicalItems {bytes : List Nat} {items : List Json}
    (h : bytes ∈ canonicalItems items) : ∃ item ∈ items, bytes = canonicalBytes item := by
  induction items with
  | nil => cases h
  | cons item rest ih =>
    rcases List.mem_cons.mp h with hfirst | hrest
    · exact ⟨item, List.mem_cons_self, hfirst⟩
    · obtain ⟨other, hother, hbytes⟩ := ih hrest
      exact ⟨other, List.mem_cons_of_mem item hother, hbytes⟩

theorem mem_canonicalFields {entry : List Nat × List Nat} {fields : List (String × Json)}
    (h : entry ∈ canonicalFields fields) :
    ∃ f ∈ fields, entry.2 = quoted f.1 ++ 58 :: canonicalBytes f.2 := by
  induction fields with
  | nil => cases h
  | cons f rest ih =>
    rcases List.mem_cons.mp h with hfirst | hrest
    · exact ⟨f, List.mem_cons_self, congrArg Prod.snd hfirst⟩
    · obtain ⟨g, hg, hentry⟩ := ih hrest
      exact ⟨g, List.mem_cons_of_mem f hg, hentry⟩

theorem quoting_value {ok : List Nat → Prop} {value : Json} (hplain : value.isPlain = true)
    (hok : ∀ s ∈ value.texts, ok (utf8 s)) : Quoting (Screened ok) (canonicalBytes value) := by
  by_cases hlist : ∃ items, value = .arr items
  · obtain ⟨items, rfl⟩ := hlist
    have hitems : Quoting (Screened ok) (commaJoin (canonicalItems items)) := by
      apply Quoting.commaJoin
      intro bytes hbytes
      obtain ⟨item, hitem, rfl⟩ := mem_canonicalItems hbytes
      have hitemPlain := List.all_eq_true.mp hplain item hitem
      cases item with
      | str s =>
        exact quoting_quoted hitemPlain (hok s (List.mem_filterMap.mpr ⟨_, hitem, rfl⟩))
      | null | bool | num | arr | obj => cases hitemPlain
    exact Quoting.between (by decide) (hitems.append (.between (by decide) .nil))
  · exact quoting_item hplain (fun items h => hlist ⟨items, h⟩) hok

theorem betweenByte_range {b : Nat} (h : betweenByte b = true) :
    b < 128 ∧ isUpper b = false := by
  unfold betweenByte at h
  rw [Bool.or_eq_true] at h
  rcases h with hdigit | hother
  · unfold isDigit at hdigit
    unfold isUpper
    rw [Bool.and_eq_true, Nat.ble_eq, Nat.ble_eq] at hdigit
    rw [← Bool.not_eq_true, Bool.and_eq_true, Nat.ble_eq, Nat.ble_eq]
    omega
  · have hall : ∀ c ∈ [44, 58, 91, 93, 97, 101, 102, 108, 110, 115, 117, 123, 125],
        c < 128 ∧ isUpper c = false := by decide
    exact hall b (List.contains_iff_mem.mp hother)

theorem Quoting.ascii {ok : List Nat → Prop} {text : List Nat}
    (h : Quoting (Screened ok) text) : ∀ b ∈ text, b < 128 := by
  induction h with
  | nil => exact fun b hb => absurd hb List.not_mem_nil
  | between hb _ ih =>
    exact List.forall_mem_cons.mpr ⟨(betweenByte_range hb).1, ih⟩
  | string htext _ ih =>
    intro b hb
    rw [List.mem_cons, List.mem_append, List.mem_cons] at hb
    rcases hb with hquote | hinner | hquote | hrest
    · omega
    · exact (plainByte_range (List.all_eq_true.mp htext.1 b hinner)).2.1
    · omega
    · exact ih b hrest

/-- No marker fits between two strings or has a quote. -/
theorem Quoting.unmarked {text : List Nat}
    (h : Quoting (Screened fun bytes => marked bytes = false) text) : marked text = false := by
  have hmarkers : ∀ marker ∈ Worker.traceForbiddenText,
      34 ∉ utf8 marker ∧ (utf8 marker).all betweenByte = false := by decide
  have hself : ∀ b, betweenByte b = true ∨ b = 34 → lowerByte b = b := by
    intro b hb
    have hupper : isUpper b = false := by
      rcases hb with hbetween | hquote
      · exact (betweenByte_range hbetween).2
      · rw [hquote]
        decide
    unfold lowerByte
    rw [hupper]
    rfl
  have hlower : Quoting (fun bytes => ∀ marker ∈ Worker.traceForbiddenText,
      ¬utf8 marker <:+: bytes) (text.map lowerByte) := by
    apply h.map hself
    intro s hs marker hmarker hwithin
    have hnone := List.any_eq_false.mp hs.2 marker hmarker
    rw [lowerBytes_ascii fun b hb => (plainByte_range (List.all_eq_true.mp hs.1 b hb)).2.1] at hnone
    exact hnone (containsText_iff.mpr hwithin)
  unfold marked
  rw [lowerBytes_ascii h.ascii, List.any_eq_false]
  intro marker hmarker hcontains
  have hshape := hmarkers marker hmarker
  exact hlower.not_within hshape.1 hshape.2 (fun s hs => hs marker hmarker)
    (containsText_iff.mp hcontains)

theorem quoting_fields {ok : List Nat → Prop} {fields : List (String × Json)}
    (hkeys : ∀ f ∈ fields, plainText f.1 = true) (hplain : ∀ f ∈ fields, f.2.isPlain = true)
    (hok : ∀ f ∈ fields, ∀ s ∈ f.1 :: f.2.texts, ok (utf8 s)) :
    Quoting (Screened ok) (canonicalBytes (.obj fields)) := by
  have hjoin : Quoting (Screened ok)
      (commaJoin ((sortFields (canonicalFields fields)).map (·.2))) := by
    apply Quoting.commaJoin
    intro bytes hbytes
    obtain ⟨entry, hentry, rfl⟩ := List.mem_map.mp hbytes
    rw [sortFields, List.mem_insertionSort] at hentry
    obtain ⟨f, hf, hbytes⟩ := mem_canonicalFields hentry
    rw [hbytes]
    have hkey := quoting_quoted (hkeys f hf) (hok f hf f.1 List.mem_cons_self)
    have hvalue := quoting_value (hplain f hf) fun s hs => hok f hf s (List.mem_cons_of_mem f.1 hs)
    exact hkey.append (.between (by decide) hvalue)
  exact Quoting.between (by decide) (hjoin.append (.between (by decide) .nil))

theorem infix_commaJoin {items : List (List Nat)} {item : List Nat} (h : item ∈ items) :
    item <:+: commaJoin items := by
  induction items with
  | nil => cases h
  | cons first rest ih =>
    cases rest with
    | nil =>
      rw [List.mem_singleton.mp h]
      exact List.infix_rfl
    | cons second rest =>
      rcases List.mem_cons.mp h with hfirst | hrest
      · rw [hfirst]
        exact List.infix_append_left
      · exact List.infix_append_of_infix_right (List.infix_cons (ih hrest))

theorem infix_quoted {s : String} (hplain : plainText s = true) : utf8 s <:+: quoted s := by
  unfold quoted
  rw [escape_plain hplain]
  exact List.infix_cons List.infix_append_left

theorem infix_value {value : Json} (hplain : value.isPlain = true) {s : String}
    (hs : s ∈ value.texts) : plainText s = true ∧ utf8 s <:+: canonicalBytes value := by
  cases value with
  | str text =>
    rw [List.mem_singleton.mp hs]
    exact ⟨hplain, infix_quoted hplain⟩
  | arr items =>
    obtain ⟨item, hitem, htext⟩ := List.mem_filterMap.mp hs
    have hitemPlain := List.all_eq_true.mp hplain item hitem
    cases item with
    | str text =>
      cases htext
      have hmem : quoted s ∈ canonicalItems items := by
        clear hs hplain
        induction items with
        | nil => cases hitem
        | cons item rest ih =>
          rcases List.mem_cons.mp hitem with hfirst | hrest
          · rw [← hfirst]
            exact List.mem_cons_self
          · exact List.mem_cons_of_mem _ (ih hrest)
      have hjoin : quoted s <:+: commaJoin (canonicalItems items) ++ [93] :=
        List.infix_append_of_infix_left (infix_commaJoin hmem)
      exact ⟨hitemPlain, (infix_quoted hitemPlain).trans (List.infix_cons hjoin)⟩
    | null | bool | num | arr | obj => cases htext
  | null | bool | num | obj => cases hs

theorem canonicalFields_of_mem {fields : List (String × Json)} {f : String × Json}
    (h : f ∈ fields) :
    (utf8 f.1, quoted f.1 ++ 58 :: canonicalBytes f.2) ∈ canonicalFields fields := by
  induction fields with
  | nil => cases h
  | cons first rest ih =>
    rcases List.mem_cons.mp h with hfirst | hrest
    · rw [hfirst]
      exact List.mem_cons_self
    · exact List.mem_cons_of_mem _ (ih hrest)

theorem infix_field {fields : List (String × Json)} {f : String × Json} (hf : f ∈ fields)
    (hkey : plainText f.1 = true) (hplain : f.2.isPlain = true) {s : String}
    (hs : s ∈ f.1 :: f.2.texts) : utf8 s <:+: canonicalBytes (.obj fields) := by
  have hentry : utf8 s <:+: quoted f.1 ++ 58 :: canonicalBytes f.2 := by
    rcases List.mem_cons.mp hs with hname | hvalue
    · rw [hname]
      exact List.infix_append_of_infix_left (infix_quoted hkey)
    · have hinner := (infix_value hplain hvalue).2
      exact List.infix_append_of_infix_right (List.infix_cons hinner)
  have hmem : quoted f.1 ++ 58 :: canonicalBytes f.2 ∈
      (sortFields (canonicalFields fields)).map (·.2) := by
    have hsorted := canonicalFields_of_mem hf
    rw [← List.mem_insertionSort fun f g : List Nat × List Nat => textLe f.1 g.1] at hsorted
    exact List.mem_map_of_mem hsorted
  exact hentry.trans (List.infix_cons (List.infix_append_of_infix_left (infix_commaJoin hmem)))

/-- The encoding of plain fields has a marker only if one of their texts has it. -/
theorem unmarked_encoded {fields : List (String × Json)}
    (hkeys : ∀ f ∈ fields, plainText f.1 = true)
    (hplain : ∀ f ∈ fields, f.2.isPlain = true) :
    marked (canonicalBytes (.obj fields)) = false ↔ Unmarked fields := by
  constructor
  · intro hclear f hf s hs
    have hquoting : Quoting (Screened fun _ => True) (canonicalBytes (.obj fields)) :=
      quoting_fields hkeys hplain fun _ _ _ _ => trivial
    have hascii := hquoting.ascii
    have hwithin := infix_field hf (hkeys f hf) (hplain f hf) hs
    unfold marked at hclear ⊢
    rw [lowerBytes_ascii hascii, List.any_eq_false] at hclear
    rw [lowerBytes_ascii fun b hb => hascii b (hwithin.subset hb), List.any_eq_false]
    intro marker hmarker hcontains
    have hlower := (containsText_iff.mp hcontains).trans (hwithin.map lowerByte)
    exact hclear marker hmarker (containsText_iff.mpr hlower)
  · intro hunmarked
    have hquoting : Quoting (Screened fun bytes => marked bytes = false)
        (canonicalBytes (.obj fields)) := quoting_fields hkeys hplain hunmarked
    exact hquoting.unmarked

/-! ## The two writers -/

/-- Every attribute fits its field, no list item has a marker, and with the schema's defaults
the attributes keep the byte bound. -/
def FitsTrace (attributes : List (String × Json)) : Prop :=
  (∀ f ∈ attributes, Control.validTraceField f = true) ∧
    (∀ f ∈ attributes, ∀ s ∈ f.2.listTexts, marked (utf8 s) = false) ∧
    canonicalLength (.obj (Control.dumpedAttributes attributes)) ≤ 2048

theorem validTraceField_field {f : String × Json} (h : Control.validTraceField f = true) :
    ∃ g ∈ Control.traceFields, g.1 = f.1 ∧ g.2 f.2 = true := by
  unfold Control.validTraceField at h
  cases hfind : Control.traceFields.find? fun g => g.1 = f.1 with
  | none =>
    rw [hfind] at h
    cases h
  | some g =>
    rw [hfind] at h
    have hname := List.find?_some (p := fun g : String × (Json → Bool) => decide (g.1 = f.1)) hfind
    exact ⟨g, List.mem_of_find?_eq_some hfind, of_decide_eq_true hname, h⟩

/-- What the schema's own names are like. -/
theorem traceFields_names : ∀ g ∈ Control.traceFields, plainText g.1 = true ∧
    marked (utf8 g.1) = false ∧ Control.forbiddenAttributeKeys.contains g.1 = false := by
  have hnames : ∀ name ∈ Control.traceFields.map (·.1), plainText name = true ∧
      marked (utf8 name) = false ∧ Control.forbiddenAttributeKeys.contains name = false := by
    decide
  exact fun g hg => hnames g.1 (List.mem_map_of_mem hg)

theorem mem_dumped {attributes : List (String × Json)} {f : String × Json}
    (h : f ∈ Control.dumpedAttributes attributes) :
    (∃ g ∈ attributes, (g.1, Control.literalValue g.1 g.2) = f) ∨ f ∈ traceDefaults := by
  unfold Control.dumpedAttributes at h
  rw [List.mem_append] at h
  exact h.imp (fun h => List.mem_map.mp (List.mem_filter.mp h).1) fun h => (List.mem_filter.mp h).1

theorem valid_traceDefaults : ∀ f ∈ traceDefaults, Control.validTraceField f = true := by
  have hall : traceDefaults.all Control.validTraceField = true := by decide
  exact List.all_eq_true.mp hall

theorem valid_dumped {attributes : List (String × Json)}
    (hvalid : ∀ f ∈ attributes, Control.validTraceField f = true) :
    ∀ f ∈ Control.dumpedAttributes attributes, Control.validTraceField f = true := by
  intro f hf
  rcases mem_dumped hf with ⟨g, hg, rfl⟩ | hdefault
  · exact valid_literalValue (hvalid g hg)
  · exact valid_traceDefaults f hdefault

/-- A text of an attribute is either a list item or a value that the worker has screened. -/
theorem unmarked_of_checked {key : String} {value : Json} {checked : Option Json}
    (h : Worker.safeTraceValue key value = .ok checked)
    (hitems : ∀ s ∈ value.listTexts, marked (utf8 s) = false) :
    ∀ s ∈ key :: value.texts, marked (utf8 s) = false := by
  have hkeys : ∀ name ∈ Worker.traceAllowedAttributeKeys, marked (utf8 name) = false := by decide
  unfold Worker.safeTraceValue at h
  split at h
  · cases h
  · rename_i hkey
    refine List.forall_mem_cons.mpr ⟨hkeys key (not_not.mp hkey), ?_⟩
    cases value with
    | str text =>
      dsimp only at h
      split at h
      · split at h
        · cases h
        · rename_i hclear
          intro s hs
          rw [List.mem_singleton.mp hs]
          exact Bool.not_eq_true _ ▸ hclear
      · cases h
    | arr items => exact hitems
    | null | bool | num | obj => exact fun s hs => absurd hs List.not_mem_nil

theorem fields_of_valid {attributes : List (String × Json)}
    (hvalid : ∀ f ∈ attributes, Control.validTraceField f = true) :
    ∀ f ∈ Control.dumpedAttributes attributes,
      ∃ g ∈ Control.traceFields, g.1 = f.1 ∧ g.2 f.2 = true :=
  fun f hf => validTraceField_field (valid_dumped hvalid f hf)

theorem unmarked_dumped {attributes : List (String × Json)}
    (hvalid : ∀ f ∈ attributes, Control.validTraceField f = true) :
    Unmarked (Control.dumpedAttributes attributes) ↔ Unmarked attributes := by
  constructor
  · intro hdumped f hf
    by_cases hnull : Control.notNull f.2 = true
    · have hkept : (f.1, Control.literalValue f.1 f.2) ∈ Control.dumpedAttributes attributes := by
        refine List.mem_append_left _ (List.mem_filter.mpr ⟨List.mem_map.mpr ⟨f, hf, rfl⟩, ?_⟩)
        rw [literalValue_notNull, hnull]
      have hclear := hdumped _ hkept
      rw [literalValue_texts] at hclear
      exact hclear
    · obtain ⟨g, hg, hname, _⟩ := validTraceField_field (hvalid f hf)
      refine List.forall_mem_cons.mpr ⟨hname ▸ (traceFields_names g hg).2.1, ?_⟩
      cases hvalue : f.2 with
      | null => exact fun s hs => absurd hs List.not_mem_nil
      | bool | num | str | arr | obj =>
        rw [hvalue] at hnull
        exact absurd rfl hnull
  · intro hunmarked f hf
    rcases mem_dumped hf with ⟨g, hg, rfl⟩ | hdefault
    · rw [literalValue_texts]
      exact hunmarked g hg
    · have hdefaults : Unmarked traceDefaults := by
        unfold Unmarked
        decide
      exact hdefaults f hdefault

/-- What the Control API accepts of valid fields. -/
theorem safeAttributes_iff {attributes fields : List (String × Json)} :
    Control.safeAttributes attributes = .ok (.obj fields) ↔
      ((∀ f ∈ attributes, Control.validTraceField f = true) ∧ Unmarked attributes ∧
        canonicalLength (.obj (Control.dumpedAttributes attributes)) ≤ 2048) ∧
      fields = Control.dumpedAttributes attributes := by
  by_cases hvalid : ∀ f ∈ attributes, Control.validTraceField f = true
  · have hfields := fields_of_valid hvalid
    have hencoded := unmarked_encoded
      (fun f hf => (hfields f hf).elim fun g hg => hg.2.1 ▸ (traceFields_names g hg.1).1)
      (fun f hf => (hfields f hf).elim fun g hg => plain_traceFields g hg.1 f.2 hg.2.2)
    have hnames : (Control.dumpedAttributes attributes).any
        (fun f => Control.forbiddenAttributeKeys.contains f.1) = false := by
      rw [List.any_eq_false]
      intro f hf
      obtain ⟨g, hg, hname, _⟩ := hfields f hf
      rw [← hname, (traceFields_names g hg).2.2]
      exact Bool.false_ne_true
    -- the two modules list the same markers
    have hmarkers : ∀ text, (Control.forbiddenText.any fun marker =>
        containsText (utf8 marker) (lowerBytes text)) = marked text := fun _ => rfl
    unfold Control.safeAttributes
    rw [if_pos (List.all_eq_true.mpr hvalid)]
    dsimp only
    rw [hnames, if_neg Bool.false_ne_true, hmarkers]
    by_cases hunmarked : Unmarked attributes
    · have hclear := hencoded.mpr ((unmarked_dumped hvalid).mpr hunmarked)
      rw [if_neg (Bool.not_eq_true _ ▸ hclear)]
      split
      · rename_i hlong
        exact iff_of_false nofun fun h => absurd h.1.2.2 (Nat.not_le.mpr hlong)
      · rename_i hshort
        constructor
        · intro h
          cases h
          exact ⟨⟨hvalid, hunmarked, Nat.le_of_not_lt hshort⟩, rfl⟩
        · rintro ⟨_, rfl⟩
          rfl
    · have hmarked : ¬marked (canonicalBytes (.obj (Control.dumpedAttributes attributes))) =
          false := fun h => hunmarked ((unmarked_dumped hvalid).mp (hencoded.mp h))
      rw [if_pos ((Bool.not_eq_false _).mp hmarked)]
      exact iff_of_false nofun fun h => hunmarked h.1.2.1
  · unfold Control.safeAttributes
    rw [if_neg fun h => hvalid (List.all_eq_true.mp h)]
    exact iff_of_false nofun fun h => hvalid h.1.1

/-- **The two screens agree on what fits**: for attributes that the worker lets pass, no text
has a marker and the Control API accepts them, with the same `TraceAttributes`, if and only if
they fit.  The stored fields are then the same if the completed steps are given and no `0` stands
for `False`.  What the Control API accepts has no marker in any case. -/
theorem attributes_agree_iff {attributes safe : List (String × Json)}
    (hdistinct : (attributes.map (·.1)).Nodup)
    (h : Worker.safeTraceAttributes attributes = .ok (.obj safe)) :
    ((Unmarked attributes ∧ ∃ fields, Control.safeAttributes attributes = .ok (.obj fields) ∧
        ∀ key, valueOf fields key = valueOf (Control.dumpedAttributes safe) key) ↔
      FitsTrace attributes) ∧
    ((Unmarked attributes ∧ ∃ fields, Control.safeAttributes attributes = .ok (.obj fields) ∧
        ∀ key, valueOf fields key = valueOf safe key) ↔
      FitsTrace attributes ∧ valueOf (given attributes) "completed_step_ids" ≠ none ∧
        valueOf (given attributes) "sensitive_fields_present" ≠ some (.num 0)) ∧
    (∀ fields, Control.safeAttributes attributes = .ok (.obj fields) → Unmarked attributes) := by
  have hclear : FitsTrace attributes → Unmarked attributes := by
    intro hfits f hf
    obtain ⟨checked, hchecked⟩ := checked_of_collected (collected_of_safe h) f hf
    exact unmarked_of_checked hchecked (hfits.2.1 f hf)
  have haccepts : FitsTrace attributes → Control.safeAttributes attributes =
      .ok (.obj (Control.dumpedAttributes attributes)) := fun hfits =>
    safeAttributes_iff.mpr ⟨⟨hfits.1, hclear hfits, hfits.2.2⟩, rfl⟩
  have hfitting : ∀ {fields}, Control.safeAttributes attributes = .ok (.obj fields) →
      FitsTrace attributes ∧ fields = Control.dumpedAttributes attributes := by
    intro fields haccepted
    have hinfo := safeAttributes_iff.mp haccepted
    refine ⟨⟨hinfo.1.1, fun f hf s hs => ?_, hinfo.1.2.2⟩, hinfo.2⟩
    exact hinfo.1.2.1 f hf s (List.mem_cons_of_mem f.1 (Json.mem_texts hs))
  refine ⟨⟨?_, ?_⟩, ⟨?_, ?_⟩, fun fields haccepted => (safeAttributes_iff.mp haccepted).1.2.1⟩
  · rintro ⟨_, fields, haccepted, _⟩
    exact (hfitting haccepted).1
  · intro hfits
    exact ⟨hclear hfits, _, haccepts hfits, fun key => (dumped_safe hdistinct h key).symm⟩
  · rintro ⟨_, fields, haccepted, hsame⟩
    have hfits := hfitting haccepted
    rw [hfits.2] at hsame
    exact ⟨hfits.1, (dumped_eq_safe_iff hdistinct h).mp hsame⟩
  · rintro ⟨hfits, hsteps⟩
    exact ⟨hclear hfits, _, haccepts hfits, (dumped_eq_safe_iff hdistinct h).mpr hsteps⟩

/-- A count fits. -/
theorem attributes_agree_iff_count :
    ((Unmarked [("count", .num 3)] ∧ ∃ fields,
        Control.safeAttributes [("count", .num 3)] = .ok (.obj fields) ∧ ∀ key,
        valueOf fields key = valueOf (Control.dumpedAttributes
          [("schema_version", .str "w13-trace-attributes/1.0"),
            ("sensitive_fields_present", .bool false), ("count", .num 3)]) key) ↔
      FitsTrace [("count", .num 3)]) ∧
    ((Unmarked [("count", .num 3)] ∧ ∃ fields,
        Control.safeAttributes [("count", .num 3)] = .ok (.obj fields) ∧ ∀ key,
        valueOf fields key = valueOf
          [("schema_version", .str "w13-trace-attributes/1.0"),
            ("sensitive_fields_present", .bool false), ("count", .num 3)] key) ↔
      FitsTrace [("count", .num 3)] ∧
        valueOf (given [("count", .num 3)]) "completed_step_ids" ≠ none ∧
        valueOf (given [("count", .num 3)]) "sensitive_fields_present" ≠ some (.num 0)) ∧
    (∀ fields, Control.safeAttributes [("count", .num 3)] = .ok (.obj fields) →
      Unmarked [("count", .num 3)]) :=
  attributes_agree_iff (by decide) rfl

/-- A step called `reset_password` passes the worker's screen, and only there. -/
theorem reset_password_stored :
    (∃ safe, Worker.safeTraceAttributes
      [("completed_step_ids", .arr [.str "reset_password"])] = .ok (.obj safe)) ∧
    ¬Unmarked [("completed_step_ids", .arr [.str "reset_password"])] ∧
    Control.safeAttributes [("completed_step_ids", .arr [.str "reset_password"])] =
      .error (.observabilityPayloadRejected "trace attributes contain forbidden material") := by
  refine ⟨⟨_, rfl⟩, ?_, rfl⟩
  unfold Unmarked
  decide

end FlowPilot

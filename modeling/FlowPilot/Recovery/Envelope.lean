import FlowPilot.Recovery.Crypto
import FlowPilot.Recovery.Dumped
import Mathlib.Data.List.TakeWhile

/-!
# Envelopes open to what was sealed

Both encoders write the canonical JSON of the plain input and bind it to the identifiers of the
start.  The decoder reads both back, unless the ciphertext is longer than the schema of the
envelope admits: 12 272 bytes of plain text fill it.
-/

open FlowPilot.Lib

namespace FlowPilot.Recovery

/-! ## Bytes -/

theorem ofBytes_toBytes {text : List Nat} (h : ∀ b ∈ text, b < 256) :
    ofBytes (toBytes text) = text := by
  induction text with
  | nil => rfl
  | cons b text ih =>
      have hb := h b List.mem_cons_self
      have hrest := ih fun c hc => h c (.tail _ hc)
      unfold ofBytes toBytes at hrest ⊢
      rw [List.map_cons, List.map_cons, hrest, UInt8.toNat_ofNat', Nat.mod_eq_of_lt hb]

theorem toBytes_inj {a b : List Nat} (ha : ∀ x ∈ a, x < 256) (hb : ∀ x ∈ b, x < 256)
    (h : toBytes a = toBytes b) : a = b := by
  rw [← ofBytes_toBytes ha, ← ofBytes_toBytes hb, h]

theorem canonicalJsonBytes_lt (v : Value) : ∀ b ∈ canonicalJsonBytes v, b < 256 :=
  v.sorted.write_lt

/-! ## Texts of the envelope -/

/-- The schema admits the text of sixteen characters to 16 384. -/
theorem ofText?_b64encode {bytes : List UInt8} (hlow : 12 ≤ bytes.length)
    (hhigh : bytes.length ≤ 12288) :
    ∃ t, Base64Text.ofText? (b64encode bytes) = some t ∧ t.text = Base64.encode bytes := by
  have hne : bytes ≠ [] := by
    intro h
    rw [h] at hlow
    cases hlow
  have hlength := Base64.length_encode bytes
  have hvalid : matchesBase64Text (b64encode bytes) = true := by
    unfold matchesBase64Text b64encode
    rw [Base64.matchesPattern_encode hne, hlength, Bool.true_and, decide_eq_true_eq]
    omega
  exact ⟨⟨b64encode bytes, hvalid⟩, by rw [Base64Text.ofText?, dif_pos hvalid], rfl⟩

theorem ofText?_too_long {bytes : List UInt8} (h : 12288 < bytes.length) :
    Base64Text.ofText? (b64encode bytes) = none := by
  have hlength := Base64.length_encode bytes
  rw [Base64Text.ofText?, dif_neg]
  unfold matchesBase64Text b64encode
  rw [Bool.and_eq_true, decide_eq_true_eq, hlength]
  omega

theorem ofText?_some {text : List Char} {t : Base64Text} (h : Base64Text.ofText? text = some t) :
    t.text = text := by
  unfold Base64Text.ofText? at h
  split at h
  · cases h
    rfl
  · cases h

theorem b64decode_encoded {t : Base64Text} {bytes : List UInt8}
    (h : t.text = Base64.encode bytes) : b64decode t = .ok bytes := by
  unfold b64decode
  rw [h, Base64.decode_encode]

theorem matchesPattern_alphabet {text : List Char} (h : Base64.matchesPattern text = true) :
    ∀ c ∈ text, Base64.isDigit c = true ∨ c = '=' := by
  unfold Base64.matchesPattern at h
  simp only [Bool.and_eq_true, List.all_eq_true, decide_eq_true_eq] at h
  intro c hc
  rw [← List.takeWhile_append_dropWhile (p := Base64.isDigit) (l := text)] at hc
  rcases List.mem_append.mp hc with hc | hc
  · exact .inl (List.mem_takeWhile_imp hc)
  · exact .inr (h.1.2 c hc)

/-- Twelve bytes have one text. -/
theorem text_of_nonce {t : Base64Text} {nonce : List UInt8} (hlength : nonce.length = 12)
    (h : b64decode t = .ok nonce) : t.text = Base64.encode nonce := by
  have hvalid := t.valid
  unfold matchesBase64Text at hvalid
  rw [Bool.and_eq_true] at hvalid
  unfold b64decode at h
  split at h
  · cases h
  · next bytes hdecode =>
    cases h
    exact (Base64.encode_of_decode (matchesPattern_alphabet hvalid.1) hdecode
      (by rw [hlength])).symm

/-! ## The plain input -/

namespace PlainRunInput

theorem dump_distinct (plain : PlainRunInput) : plain.dump.Distinct := by
  have hnames : (["schema_version", "workflow_id", "run_id", "task_id", "process", "category",
      "human_brief", "supplied_values"] : List String).Nodup := by decide
  exact ⟨hnames, trivial, trivial, trivial, trivial, trivial, trivial, trivial, plain.distinct,
    trivial⟩

/-- The values of the input with their fields in order. -/
def sorted (plain : PlainRunInput) : PlainRunInput :=
  { plain with
    suppliedValues := sortByName (Value.sortedFields plain.suppliedValues)
    distinct := Value.sorted_distinct plain.distinct }

theorem sorted_equal (plain : PlainRunInput) : plain.sorted.Equal plain :=
  ⟨rfl, rfl, rfl, rfl, rfl, rfl, Value.sorted_equal (.obj plain.suppliedValues)⟩

theorem dump_sorted (plain : PlainRunInput) :
    plain.dump.sorted = .obj
      [("category", .str plain.category.value),
        ("human_brief", .str plain.humanBrief),
        ("process", .str plain.process.value),
        ("run_id", .str plain.runId.text),
        ("schema_version", .str schemaVersion),
        ("supplied_values", (Value.obj plain.suppliedValues).sorted),
        ("task_id", .str plain.taskId.text),
        ("workflow_id", .str plain.workflowId.text)] := rfl

end PlainRunInput

theorem OpaqueId.ofText?_text (i : OpaqueId) : OpaqueId.ofText? i.text = some i := by
  rw [OpaqueId.ofText?, dif_pos i.valid]

theorem TaskId.ofText?_text (i : TaskId) : TaskId.ofText? i.text = some i := by
  rw [TaskId.ofText?, dif_pos i.valid]

theorem Process.ofValue?_value (p : Process) : Process.ofValue? p.value = some p := by
  cases p <;> rfl

theorem Category.ofValue?_value (c : Category) : Category.ofValue? c.value = some c := by
  cases c <;> rfl

/-- The sorted dump passes the schema. -/
theorem PlainRunInput.validate_dump (plain : PlainRunInput) :
    validate plain.dump.sorted = some plain.sorted := by
  have hcheck : plain.category.value = "standard_" ++ plain.process.value ∧
      (1 ≤ textLength plain.humanBrief ∧ textLength plain.humanBrief ≤ 4000) ∧
      (Value.obj (sortByName (Value.sortedFields plain.suppliedValues))).Distinct :=
    ⟨plain.category_matches, plain.brief_length, Value.sorted_distinct plain.distinct⟩
  rw [dump_sorted]
  unfold validate
  dsimp only
  rw [if_neg (by simp [plainRunInputFields])]
  simp only [textOf, dictOf, fieldOf, List.find?, Option.map, schemaVersion, Option.bind_eq_bind,
    Option.bind_some, OpaqueId.ofText?_text, TaskId.ofText?_text, Process.ofValue?_value,
    Category.ofValue?_value, decide_true, decide_false, String.reduceEq, Value.sorted]
  rw [if_neg (by simp), dif_pos hcheck]
  rfl

/-- The bytes that are sealed open to the input. -/
theorem PlainRunInput.loads_dump (plain : PlainRunInput) :
    loads (ofBytes (toBytes (canonicalJsonBytes plain.dump))) = some plain.dump.sorted := by
  rw [ofBytes_toBytes (canonicalJsonBytes_lt _)]
  exact loads_canonicalJsonBytes plain.dump_distinct

/-! ## Associated data -/

/-- The associated data tells the identifiers. -/
theorem associatedData_inj {w r t w' r' t' : String}
    (h : associatedData w r t = associatedData w' r' t') : w = w' ∧ r = r' ∧ t = t' := by
  have hnames : (["schema_version", "key_id", "workflow_id", "run_id", "task_id"] :
      List String).Nodup := by decide
  have hload : ∀ w r t, loads (associatedData w r t) = some (.obj
      [("key_id", .str "w8-local-runtime-key/1"), ("run_id", .str r),
        ("schema_version", .str "w8-opaque-envelope/1.0"), ("task_id", .str t),
        ("workflow_id", .str w)]) := fun w r t =>
    loads_canonicalJsonBytes ⟨hnames, trivial, trivial, trivial, trivial, trivial, trivial⟩
  have hsame := hload w r t
  rw [h, hload] at hsame
  simp only [Option.some.injEq, Value.obj.injEq, List.cons.injEq, Prod.mk.injEq, Value.str.injEq,
    true_and, and_true] at hsame
  exact ⟨hsame.2.2.symm, hsame.1.symm, hsame.2.1.symm⟩

theorem associatedData_bytes_inj {w r t w' r' t' : String}
    (h : toBytes (associatedData w r t) = toBytes (associatedData w' r' t')) :
    w = w' ∧ r = r' ∧ t = t' :=
  associatedData_inj (toBytes_inj (canonicalJsonBytes_lt _) (canonicalJsonBytes_lt _) h)

/-! ## Opening -/

section

variable [Sha256] [AesGcm]

/-- The envelope of the start holds the plain input, bound to the identifiers of the start. -/
structure Sealed (key nonce : List UInt8) (plain : PlainRunInput) (start : WorkflowStart) :
    Prop where
  keyLength : key.length = 32
  nonceLength : nonce.length = 12
  workflowId : plain.workflowId = start.workflowId
  runId : plain.runId = start.runId
  taskId : plain.taskId = start.taskId
  nonceText : start.envelope.nonce.text = Base64.encode nonce
  ciphertext : start.envelope.ciphertext.text = Base64.encode
    (AesGcm.encrypt key nonce (toBytes (canonicalJsonBytes plain.dump))
      (toBytes (associatedData start.workflowId.text start.runId.text start.taskId.text)))
  hash : start.envelope.associatedDataHash =
    Sha256.sha256 (associatedData start.workflowId.text start.runId.text start.taskId.text)

variable {key nonce : List UInt8} {plain : PlainRunInput} {start other : WorkflowStart}

theorem Sealed.opens (h : Sealed key nonce plain start) :
    decryptPlainInput start key = .ok plain.sorted := by
  have hdecrypt := AesGcm.decrypt_encrypt key nonce (toBytes (canonicalJsonBytes plain.dump))
    (toBytes (associatedData start.workflowId.text start.runId.text start.taskId.text))
    h.keyLength h.nonceLength
  unfold decryptPlainInput
  rw [if_neg (not_not.mpr h.keyLength)]
  dsimp only
  rw [if_neg (not_not.mpr h.hash.symm), b64decode_encoded h.nonceText,
    b64decode_encoded h.ciphertext]
  simp only [bind, Except.bind, hdecrypt, plain.loads_dump, plain.validate_dump]
  show (if plain.workflowId ≠ start.workflowId ∨ plain.runId ≠ start.runId ∨
    plain.taskId ≠ start.taskId then _ else _) = _
  rw [if_neg]
  simp [h.workflowId, h.runId, h.taskId]

/-- The ciphertext of a start opens in no start that differs in an identifier or in the nonce. -/
theorem Sealed.rejected (h : Sealed key nonce plain other)
    (hbinds : AesGcm.Binds key nonce (toBytes (canonicalJsonBytes plain.dump))
      (toBytes (associatedData other.workflowId.text other.runId.text other.taskId.text)))
    (hciphertext : start.envelope.ciphertext = other.envelope.ciphertext)
    (hexchanged : start.workflowId ≠ other.workflowId ∨ start.runId ≠ other.runId ∨
      start.taskId ≠ other.taskId ∨ start.envelope.nonce ≠ other.envelope.nonce) :
    ∃ failure, decryptPlainInput start key = .error failure := by
  have hdecoded : b64decode start.envelope.ciphertext = .ok (AesGcm.encrypt key nonce
      (toBytes (canonicalJsonBytes plain.dump))
      (toBytes (associatedData other.workflowId.text other.runId.text other.taskId.text))) := by
    rw [hciphertext]
    exact b64decode_encoded h.ciphertext
  unfold decryptPlainInput
  rw [if_neg (not_not.mpr h.keyLength)]
  dsimp only
  by_cases hhash : Sha256.sha256 (associatedData start.workflowId.text start.runId.text
      start.taskId.text) = start.envelope.associatedDataHash
  · rw [if_neg (not_not.mpr hhash), hdecoded]
    cases hnonce : b64decode start.envelope.nonce with
    | error failure => exact ⟨failure, rfl⟩
    | ok nonce' =>
      cases hopened : AesGcm.decrypt key nonce' (AesGcm.encrypt key nonce
          (toBytes (canonicalJsonBytes plain.dump)) (toBytes (associatedData
            other.workflowId.text other.runId.text other.taskId.text)))
          (toBytes (associatedData start.workflowId.text start.runId.text
            start.taskId.text)) with
      | none =>
        exact ⟨.invalidTag, by simp only [bind, Except.bind, hopened]⟩
      | some opened =>
        -- only the other's own nonce and identifiers open its ciphertext
        obtain ⟨rfl, hdata⟩ := hbinds _ _ _ hopened
        obtain ⟨hworkflow, hrun, htask⟩ := associatedData_bytes_inj hdata
        have htext := (text_of_nonce h.nonceLength hnonce).trans h.nonceText.symm
        rcases hexchanged with hne | hne | hne | hne
        · exact absurd (OpaqueId.ext_text hworkflow) hne
        · exact absurd (OpaqueId.ext_text hrun) hne
        · exact absurd (TaskId.ext_text htask) hne
        · exact absurd (Base64Text.ext_text htext) hne
  · rw [if_pos hhash]
    exact ⟨_, rfl⟩

end

end FlowPilot.Recovery

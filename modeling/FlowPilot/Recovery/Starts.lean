import FlowPilot.Recovery.Envelope

/-!
# Starts of both packages

What `encrypt_plain_input` and `build_workflow_start` return is sealed.  The first refuses an
input whose canonical JSON is longer than 12 272 bytes; no trusted task comes near that.
-/

open FlowPilot.Lib

namespace FlowPilot.Recovery

/-! ## The recovery worker's encoder -/

theorem OpaqueEnvelope.create_ok {nonce ciphertext : List UInt8} {hash : Digest}
    {envelope : OpaqueEnvelope} (h : create nonce ciphertext hash = .ok envelope) :
    envelope.nonce.text = Base64.encode nonce ∧
      envelope.ciphertext.text = Base64.encode ciphertext ∧ envelope.associatedDataHash = hash := by
  unfold create at h
  split at h
  · next n c hn hc =>
    cases h
    exact ⟨ofText?_some hn, ofText?_some hc, rfl⟩
  · cases h

theorem OpaqueEnvelope.create_of_length {nonce ciphertext : List UInt8}
    (hnonce : nonce.length = 12) (hlow : 12 ≤ ciphertext.length)
    (hhigh : ciphertext.length ≤ 12288) (hash : Digest) :
    ∃ envelope, create nonce ciphertext hash = .ok envelope := by
  obtain ⟨n, hn, _⟩ := @ofText?_b64encode nonce (by omega) (by omega)
  obtain ⟨c, hc, _⟩ := ofText?_b64encode hlow hhigh
  unfold create
  rw [hn, hc]
  exact ⟨_, rfl⟩

theorem OpaqueEnvelope.create_too_long {ciphertext : List UInt8}
    (h : 12288 < ciphertext.length) (nonce : List UInt8) (hash : Digest) :
    create nonce ciphertext hash = .error .validationError := by
  unfold create
  rw [ofText?_too_long h]
  cases Base64Text.ofText? (b64encode nonce) <;> rfl

theorem length_toBytes (text : List Nat) : (toBytes text).length = text.length :=
  List.length_map _

section

variable [Sha256] [AesGcm] {key nonce : List UInt8} {plain : PlainRunInput}
  {start : WorkflowStart}

omit [Sha256] in
theorem length_sealed (hkey : key.length = 32) (hnonce : nonce.length = 12) (text : List Nat)
    (data : List UInt8) :
    (AesGcm.encrypt key nonce (toBytes text) data).length = text.length + 16 := by
  rw [AesGcm.length_encrypt key nonce _ _ hkey hnonce, length_toBytes]

/-- The schema of the envelope admits 12 272 bytes of plain text. -/
theorem encryptPlainInput_ok (hkey : key.length = 32) (hnonce : nonce.length = 12)
    (hlength : (canonicalJsonBytes plain.dump).length ≤ 12272) :
    ∃ envelope, encryptPlainInput plain key nonce = .ok envelope := by
  have hsealed := length_sealed hkey hnonce (canonicalJsonBytes plain.dump)
    (toBytes (associatedData plain.workflowId.text plain.runId.text plain.taskId.text))
  unfold encryptPlainInput
  rw [if_neg (by simp [hkey, hnonce])]
  exact OpaqueEnvelope.create_of_length hnonce (by omega) (by omega) _

theorem encryptPlainInput_too_long (hkey : key.length = 32) (hnonce : nonce.length = 12)
    (hlength : 12272 < (canonicalJsonBytes plain.dump).length) :
    encryptPlainInput plain key nonce = .error .validationError := by
  have hsealed := length_sealed hkey hnonce (canonicalJsonBytes plain.dump)
    (toBytes (associatedData plain.workflowId.text plain.runId.text plain.taskId.text))
  unfold encryptPlainInput
  rw [if_neg (by simp [hkey, hnonce])]
  exact OpaqueEnvelope.create_too_long (by omega) _ _

theorem sealed_of_encrypt (h : encryptPlainInput plain key nonce = .ok start.envelope)
    (hworkflow : plain.workflowId = start.workflowId) (hrun : plain.runId = start.runId)
    (htask : plain.taskId = start.taskId) : Sealed key nonce plain start := by
  unfold encryptPlainInput at h
  split at h
  · cases h
  · next hlengths =>
    rw [not_or, not_not, not_not] at hlengths
    obtain ⟨hn, hc, hhash⟩ := OpaqueEnvelope.create_ok h
    rw [hworkflow, hrun, htask] at hc hhash
    exact ⟨hlengths.1, hlengths.2, hworkflow, hrun, htask, hn, hc, hhash⟩

end

/-! ## The workflow worker's encoder -/

/-- The plain input of a trusted task. -/
def taskInput (workflowId runId : OpaqueId) (taskId : TaskId) (task : FlowPilot.TaskId) :
    PlainRunInput where
  workflowId := workflowId
  runId := runId
  taskId := taskId
  process := (trustedTask task).1
  category := (trustedTask task).2.1
  humanBrief := "Synthetic bounded production task"
  suppliedValues := (trustedTask task).2.2
  category_matches := by cases task <;> rfl
  brief_length := by decide
  distinct := by cases task <;> decide

theorem matchesTaskId_value (task : FlowPilot.TaskId) : matchesTaskId task.value = true := by
  cases task <;> decide

/-- A byte is written as one to six. -/
theorem length_escapeByte {b : Nat} (hb : b < 256) :
    1 ≤ (escapeByte b).length ∧ (escapeByte b).length ≤ 6 := by
  have hall : ∀ b < 256, 1 ≤ (escapeByte b).length ∧ (escapeByte b).length ≤ 6 := by
    decide +kernel
  exact hall b hb

theorem length_quoted (s : String) :
    (utf8 s).length + 2 ≤ (quoted s).length ∧ (quoted s).length ≤ 6 * (utf8 s).length + 2 := by
  have hall : ∀ bytes : List Nat, (∀ b ∈ bytes, b < 256) →
      bytes.length ≤ (bytes.flatMap escapeByte).length ∧
        (bytes.flatMap escapeByte).length ≤ 6 * bytes.length := by
    intro bytes h
    induction bytes with
    | nil => simp
    | cons b bytes ih =>
        have hb := length_escapeByte (h b List.mem_cons_self)
        have hrest := ih fun c hc => h c (.tail _ hc)
        rw [List.flatMap_cons, List.length_append, List.length_cons]
        omega
  have hbytes := hall (utf8 s) (utf8_lt s)
  unfold quoted
  rw [List.length_append, List.length_cons, List.length_singleton]
  omega

theorem OpaqueId.length_le (i : OpaqueId) : (utf8 i.text).length ≤ 80 := by
  have hvalid := i.valid
  unfold matchesOpaqueId matchesPattern at hvalid
  cases htext : utf8 i.text with
  | nil => simp
  | cons b bytes =>
      rw [htext] at hvalid
      simp only [Bool.and_eq_true, decide_eq_true_eq] at hvalid
      rw [List.length_cons]
      omega

theorem length_canonicalJsonBytes_str (s : String) :
    (canonicalJsonBytes (.str s)).length = (quoted s).length := rfl

/-- A trusted task leaves most of the envelope empty. -/
theorem taskInput_length (workflowId runId : OpaqueId) {taskId : TaskId} {task : FlowPilot.TaskId}
    (htask : taskId.text = task.value) :
    (canonicalJsonBytes (taskInput workflowId runId taskId task).dump).length ≤ 12272 := by
  have hworkflow := length_quoted workflowId.text
  have hworkflowId := workflowId.length_le
  have hrun := length_quoted runId.text
  have hrunId := runId.length_le
  have hfixed : (quoted taskId.text).length ≤ 30 ∧
      (quoted (trustedTask task).1.value).length ≤ 30 ∧
      (quoted (trustedTask task).2.1.value).length ≤ 30 ∧
      (canonicalJsonBytes (.obj (trustedTask task).2.2)).length ≤ 1000 := by
    rw [htask]
    cases task <;> decide +kernel
  obtain ⟨htaskText, hprocess, hcategory, hvalues⟩ := hfixed
  have hnames : (quoted "schema_version").length = 16 ∧ (quoted "workflow_id").length = 13 ∧
      (quoted "run_id").length = 8 ∧ (quoted "task_id").length = 9 ∧
      (quoted "process").length = 9 ∧ (quoted "category").length = 10 ∧
      (quoted "human_brief").length = 13 ∧ (quoted "supplied_values").length = 17 ∧
      (quoted PlainRunInput.schemaVersion).length = 24 ∧
      (quoted "Synthetic bounded production task").length = 35 := by decide +kernel
  unfold PlainRunInput.dump
  rw [length_canonicalJsonBytes_obj]
  simp only [List.map_cons, List.map_nil, List.sum_cons, List.sum_nil,
    length_canonicalJsonBytes_str, taskInput]
  omega

section

variable [Sha256] [AesGcm] {key nonce : List UInt8} {item : Worker.WorkItem}
  {start : WorkflowStart}

/-- What `build_workflow_start` checks of a work item, and the patterns of its schema. -/
structure Authorized (item : Worker.WorkItem) : Prop where
  process : (trustedTask item.taskId).1 = item.process
  category : (trustedTask item.taskId).2.1 = item.category
  actionType : item.actionType = (effectBinding item.taskId).1
  parameterHash : item.parameterHash = stableHash
    (Control.actionBinding (effectBinding item.taskId).1 (effectBinding item.taskId).2)
  payloadHash : Control.trustedTaskHash item.taskId (trustedTask item.taskId).1
    (trustedTask item.taskId).2.1 = item.payloadHash
  workflowId : matchesOpaqueId item.workflowId = true
  runId : matchesOpaqueId item.runId.text = true

omit [Sha256] [AesGcm] in
theorem workflowSchemaTexts_some {workflowId runId : OpaqueId} {taskId : TaskId}
    (h : workflowSchemaTexts item = some (workflowId, runId, taskId)) :
    workflowId.text = item.workflowId ∧ runId.text = item.runId.text ∧
      taskId.text = item.taskId.value := by
  unfold workflowSchemaTexts OpaqueId.ofText? TaskId.ofText? at h
  simp only [Option.bind_eq_bind, Option.bind_eq_some_iff, Option.dite_none_right_eq_some,
    Option.some.injEq, Prod.mk.injEq] at h
  obtain ⟨_, ⟨_, rfl⟩, _, ⟨_, rfl⟩, _, ⟨_, rfl⟩, rfl, rfl, rfl⟩ := h
  exact ⟨rfl, rfl, rfl⟩

theorem sealed_of_build (hnonce : nonce.length = 12)
    (h : buildWorkflowStart item key nonce = .ok start) :
    start.workflowId.text = item.workflowId ∧ start.runId.text = item.runId.text ∧
      start.taskId.text = item.taskId.value ∧
      Sealed key nonce (taskInput start.workflowId start.runId start.taskId item.taskId) start := by
  unfold buildWorkflowStart at h
  dsimp only at h
  split at h
  · cases h
  · next hkey =>
    rw [not_not] at hkey
    split at h
    · cases h
    · split at h
      · cases h
      · split at h
        · cases h
        · obtain ⟨envelope, henvelope, h⟩ := ok_of_bind h
          split at h
          · cases h
          · split at h
            · cases h
            · next workflowId runId taskId htexts =>
              cases h
              obtain ⟨hworkflow, hrun, htask⟩ := workflowSchemaTexts_some htexts
              obtain ⟨hn, hc, hhash⟩ := OpaqueEnvelope.create_ok henvelope
              rw [← hworkflow, ← hrun, ← htask] at hc hhash
              exact ⟨hworkflow, hrun, htask, hkey, hnonce, rfl, rfl, rfl, hn, hc, hhash⟩

/-- No trusted task is refused for its length. -/
theorem buildWorkflowStart_ok (hkey : key.length = 32) (hnonce : nonce.length = 12)
    (h : Authorized item) : ∃ start, buildWorkflowStart item key nonce = .ok start := by
  let workflowId : OpaqueId := ⟨item.workflowId, h.workflowId⟩
  let runId : OpaqueId := ⟨item.runId.text, h.runId⟩
  let taskId : TaskId := ⟨item.taskId.value, matchesTaskId_value item.taskId⟩
  have hlength := taskInput_length workflowId runId (show taskId.text = item.taskId.value from rfl)
  have hsealed := length_sealed hkey hnonce
    (canonicalJsonBytes (taskInput workflowId runId taskId item.taskId).dump)
    (toBytes (associatedData item.workflowId item.runId.text item.taskId.value))
  obtain ⟨envelope, henvelope⟩ := @OpaqueEnvelope.create_of_length nonce
    (AesGcm.encrypt key nonce
      (toBytes (canonicalJsonBytes (taskInput workflowId runId taskId item.taskId).dump))
      (toBytes (associatedData item.workflowId item.runId.text item.taskId.value)))
    hnonce (by omega) (by omega)
    (Sha256.sha256 (associatedData item.workflowId item.runId.text item.taskId.value))
  have hnonceText : envelope.nonce.text.length = 16 := by
    rw [(OpaqueEnvelope.create_ok henvelope).1, Base64.length_encode, hnonce]
  have htexts : workflowSchemaTexts item = some (workflowId, runId, taskId) := by
    unfold workflowSchemaTexts OpaqueId.ofText? TaskId.ofText?
    rw [dif_pos h.workflowId, dif_pos h.runId, dif_pos (matchesTaskId_value item.taskId)]
    rfl
  refine ⟨{ workflowId := workflowId, runId := runId, taskId := taskId, envelope := envelope }, ?_⟩
  unfold buildWorkflowStart
  dsimp only
  rw [if_neg (not_not.mpr hkey), if_neg (by simp [h.process, h.category]),
    if_neg (by rw [not_or, not_not, not_not]; exact ⟨h.actionType, h.parameterHash⟩),
    if_neg (not_not.mpr h.payloadHash)]
  refine (congrArg (fun made => made >>= _) henvelope).trans ?_
  show (if maxNonceText < envelope.nonce.text.length then _ else _) = _
  rw [if_neg (by rw [hnonceText]; decide), htexts]

/-- A start of one of the two encoders, with the nonce and the plain input that it was made of. -/
inductive Encoded (key nonce : List UInt8) : PlainRunInput → WorkflowStart → Prop where
  | recovery {plain : PlainRunInput} {envelope : OpaqueEnvelope} (faultScenario : FaultScenario)
      (budget : WorkflowBudget) (h : encryptPlainInput plain key nonce = .ok envelope) :
      Encoded key nonce plain
        ⟨plain.workflowId, plain.runId, plain.taskId, envelope, faultScenario, budget⟩
  | worker {item : Worker.WorkItem} {start : WorkflowStart} (hnonce : nonce.length = 12)
      (h : buildWorkflowStart item key nonce = .ok start) :
      Encoded key nonce (taskInput start.workflowId start.runId start.taskId item.taskId) start

theorem Encoded.sealed {plain : PlainRunInput} (h : Encoded key nonce plain start) :
    Sealed key nonce plain start := by
  cases h with
  | recovery faultScenario budget h => exact sealed_of_encrypt h rfl rfl rfl
  | worker hnonce h => exact (sealed_of_build hnonce h).2.2.2

/-- An input is sealed exactly when its canonical JSON leaves room for the tag in the envelope,
and no trusted task is too long for it.  What either encoder sealed opens to an equal input.  A
start that carries the ciphertext of another one is rejected when a workflow, run or task
identifier or the nonce is not that of the other one. -/
theorem envelope_round_trip (hkey : key.length = 32) :
    (∀ plain nonce, nonce.length = 12 →
      ((canonicalJsonBytes plain.dump).length ≤ 12272 →
        ∃ envelope, encryptPlainInput plain key nonce = .ok envelope) ∧
      (12272 < (canonicalJsonBytes plain.dump).length →
        encryptPlainInput plain key nonce = .error .validationError)) ∧
    (∀ item nonce, nonce.length = 12 →
      (Authorized item → ∃ start, buildWorkflowStart item key nonce = .ok start) ∧
      ∀ start, buildWorkflowStart item key nonce = .ok start →
        start.workflowId.text = item.workflowId ∧ start.runId.text = item.runId.text ∧
          start.taskId.text = item.taskId.value) ∧
    (∀ nonce plain start, Encoded key nonce plain start →
      ∃ opened, decryptPlainInput start key = .ok opened ∧ opened.Equal plain) ∧
    ∀ nonce plain other, Encoded key nonce plain other →
      AesGcm.Binds key nonce (toBytes (canonicalJsonBytes plain.dump))
        (toBytes (associatedData other.workflowId.text other.runId.text other.taskId.text)) →
      ∀ start : WorkflowStart, start.envelope.ciphertext = other.envelope.ciphertext →
        (start.workflowId ≠ other.workflowId ∨ start.runId ≠ other.runId ∨
          start.taskId ≠ other.taskId ∨ start.envelope.nonce ≠ other.envelope.nonce) →
        ∃ failure, decryptPlainInput start key = .error failure := by
  refine ⟨fun plain nonce hnonce => ⟨?_, ?_⟩, fun item nonce hnonce => ⟨?_, ?_⟩, ?_, ?_⟩
  · exact fun hlength => encryptPlainInput_ok hkey hnonce hlength
  · exact fun hlength => encryptPlainInput_too_long hkey hnonce hlength
  · exact fun h => buildWorkflowStart_ok hkey hnonce h
  · intro start h
    obtain ⟨hworkflow, hrun, htask, _⟩ := sealed_of_build hnonce h
    exact ⟨hworkflow, hrun, htask⟩
  · intro nonce plain start h
    exact ⟨plain.sorted, h.sealed.opens, plain.sorted_equal⟩
  · intro nonce plain other h hbinds start hciphertext hexchanged
    exact h.sealed.rejected hbinds hciphertext hexchanged

end

/-! ## A cipher for concrete runs -/

namespace Sample

/-- The tag is the nonce and whether the associated data are the expected ones. -/
def tag (expected nonce associatedData : List UInt8) : List UInt8 :=
  nonce ++ [if associatedData = expected then 1 else 0, 0, 0, 0]

/-- Appends the tag and opens nothing under another one. -/
abbrev taggingAesGcm (expected : List UInt8) : AesGcm where
  encrypt _ nonce data associatedData := data ++ tag expected nonce associatedData
  decrypt _ nonce data associatedData :=
    if nonce.length = 12 ∧ data.drop (data.length - 16) = tag expected nonce associatedData then
      some (data.take (data.length - 16))
    else none
  decrypt_encrypt _ nonce data associatedData _ hnonce := by
    have hlength : (data ++ tag expected nonce associatedData).length - 16 = data.length := by
      simp [tag, hnonce]
    rw [hlength, List.drop_left, List.take_left, if_pos ⟨hnonce, rfl⟩]
  length_encrypt _ nonce data associatedData _ hnonce := by simp [tag, hnonce]

theorem taggingAesGcm_binds {nonce : List UInt8} (hnonce : nonce.length = 12)
    (key data expected : List UInt8) :
    @AesGcm.Binds (taggingAesGcm expected) key nonce data expected := by
  intro nonce' associatedData' opened h
  have hlength : (data ++ tag expected nonce expected).length - 16 = data.length := by
    simp [tag, hnonce]
  change (if nonce'.length = 12 ∧ (data ++ tag expected nonce expected).drop
    ((data ++ tag expected nonce expected).length - 16) =
      tag expected nonce' associatedData' then some _ else none) = _ at h
  split at h
  · next hcheck =>
    rw [hlength, List.drop_left] at hcheck
    obtain ⟨hlength', htag⟩ := hcheck
    unfold tag at htag
    have hparts := List.append_inj htag (hnonce.trans hlength'.symm)
    refine ⟨hparts.1.symm, ?_⟩
    by_contra hne
    rw [if_pos rfl, if_neg hne] at hparts
    cases (List.cons.inj hparts.2).1
  · cases h

def workflowId : OpaqueId := ⟨"workflow-01", by decide⟩

def runId : OpaqueId := ⟨"run-00000001", by decide⟩

def otherRunId : OpaqueId := ⟨"run-00000002", by decide⟩

def taskId : TaskId := ⟨"w7-jml-leaver-001-v1", by decide⟩

def plain : PlainRunInput where
  workflowId := workflowId
  runId := runId
  taskId := taskId
  process := .leaver
  category := .leaver
  humanBrief := "Leaver"
  suppliedValues := [("process", .str "leaver"), ("employee_id", .int 41211)]
  category_matches := rfl
  brief_length := by decide
  distinct := by decide

def key : List UInt8 := List.replicate 32 7

def nonce : List UInt8 := List.replicate 12 1

theorem length_key : key.length = 32 := List.length_replicate

theorem length_nonce : nonce.length = 12 := List.length_replicate

attribute [local instance] polynomialSha256

local instance : AesGcm :=
  taggingAesGcm (toBytes (associatedData workflowId.text runId.text taskId.text))

theorem envelope_round_trip_leaver :
    ∃ envelope, encryptPlainInput plain key nonce = .ok envelope ∧
      (∃ opened, decryptPlainInput ⟨workflowId, runId, taskId, envelope, .none, {}⟩ key =
        .ok opened ∧ opened.Equal plain) ∧
      ∃ failure, decryptPlainInput ⟨workflowId, otherRunId, taskId, envelope, .none, {}⟩ key =
        .error failure := by
  have hlength : (canonicalJsonBytes plain.dump).length ≤ 12272 := by decide +kernel
  obtain ⟨hencrypt, _, hopens, hrejects⟩ := envelope_round_trip length_key
  obtain ⟨envelope, henvelope⟩ := (hencrypt plain nonce length_nonce).1 hlength
  have hencoded := Encoded.recovery .none {} henvelope
  have hother : otherRunId ≠ runId := by decide
  refine ⟨envelope, henvelope, hopens _ _ _ hencoded, ?_⟩
  exact hrejects _ _ _ hencoded (taggingAesGcm_binds length_nonce _ _ _) _ rfl
    (.inr (.inl hother))

/-! ## An input that the schema of the envelope refuses -/

def noteInput (note : String) : PlainRunInput :=
  { plain with
    suppliedValues := [("note", .str note)]
    distinct := ⟨List.nodup_singleton _, trivial, trivial⟩ }

/-- The text of the note is a part of what is sealed. -/
theorem length_noteInput (note : String) :
    (utf8 note).length < (canonicalJsonBytes (noteInput note).dump).length := by
  have hquoted := (length_quoted note).1
  unfold PlainRunInput.dump
  rw [length_canonicalJsonBytes_obj]
  simp only [List.map_cons, List.map_nil, List.sum_cons, List.sum_nil, noteInput,
    length_canonicalJsonBytes_obj, length_canonicalJsonBytes_str]
  omega

theorem noteInput_refused {note : String} (h : 12272 ≤ (utf8 note).length) :
    encryptPlainInput (noteInput note) key nonce = .error .validationError :=
  encryptPlainInput_too_long length_key length_nonce (Nat.lt_of_le_of_lt h (length_noteInput note))

def longNote : String := String.ofList (List.replicate 12272 'a')

theorem long_note_refused :
    key.length = 32 ∧ nonce.length = 12 ∧
      encryptPlainInput (noteInput longNote) key nonce = .error .validationError := by
  have hlength : (utf8 longNote).length = 12272 := by
    unfold longNote
    rw [utf8_ofList_ascii, List.length_map, List.length_replicate]
    intro c hc
    rw [List.eq_of_mem_replicate hc]
    decide
  exact ⟨length_key, length_nonce, noteInput_refused (Nat.le_of_eq hlength.symm)⟩

end Sample

end FlowPilot.Recovery

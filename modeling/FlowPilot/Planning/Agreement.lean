import FlowPilot.Planning.Receipts
import FlowPilot.Sandbox.Idempotency
import Mathlib.Data.List.TakeWhile

/-!
# The planner and the sandbox hash the same request

A form filled in with the supplied values is accepted, and what the endpoint makes of it dumps to
the payload that the planner hashed.
-/

open FlowPilot.Lib

namespace FlowPilot

namespace Planning

open Sandbox

/-! ## Mailbox addresses -/

/-- The parts of an address that matches the pattern. -/
theorem mailboxPattern_parts {s : String} (h : mailboxPattern s = true) :
    ∃ name domain : List Char, s.toList = name ++ '@' :: (domain ++ ".invalid".toList) ∧
      (∀ c ∈ name, mailboxLocal c = true) ∧ ∀ c ∈ domain, mailboxDomain c = true := by
  unfold mailboxPattern at h
  dsimp only at h
  split at h
  · next host hrest =>
      simp only [Bool.and_eq_true, decide_eq_true_eq, List.all_eq_true] at h
      refine ⟨s.toList.takeWhile mailboxLocal, host.take (host.length - ".invalid".length), ?_,
        fun c hc => List.mem_takeWhile_imp hc, h.1.2⟩
      rw [← h.2, ← hrest]
      exact List.takeWhile_append_dropWhile.symm
  · cases h

/-- The character is ASCII and its own lower case. -/
def PlainLower (c : Char) : Prop := c.toNat < 128 ∧ c.toLower = c

theorem plainLower_of_range {c : Char} (h : c.toNat < 65 ∨ 90 < c.toNat ∧ c.toNat < 128) :
    PlainLower c := by
  refine ⟨by omega, ?_⟩
  unfold Char.toLower
  rw [dif_neg]
  rintro ⟨hlow, hhigh⟩
  have hlow : 65 ≤ c.toNat := UInt32.le_iff_toNat_le.mp hlow
  have hhigh : c.toNat ≤ 90 := UInt32.le_iff_toNat_le.mp hhigh
  omega

theorem plainLower_of_isLower {c : Char} (h : c.isLower = true) : PlainLower c := by
  unfold Char.isLower at h
  rw [Bool.and_eq_true, decide_eq_true_eq, decide_eq_true_eq] at h
  have hlow : 97 ≤ c.toNat := UInt32.le_iff_toNat_le.mp h.1
  have hhigh : c.toNat ≤ 122 := UInt32.le_iff_toNat_le.mp h.2
  exact plainLower_of_range (by omega)

theorem plainLower_of_isDigit {c : Char} (h : c.isDigit = true) : PlainLower c := by
  unfold Char.isDigit at h
  rw [Bool.and_eq_true, decide_eq_true_eq, decide_eq_true_eq] at h
  have hhigh : c.toNat ≤ 57 := UInt32.le_iff_toNat_le.mp h.2
  exact plainLower_of_range (by omega)

theorem plainLower_of_mailboxDomain {c : Char} (h : mailboxDomain c = true) : PlainLower c := by
  unfold mailboxDomain at h
  simp only [Bool.or_eq_true, beq_iff_eq] at h
  rcases h with ((hlower | hdigit) | rfl) | rfl
  · exact plainLower_of_isLower hlower
  · exact plainLower_of_isDigit hdigit
  · exact plainLower_of_range (by decide)
  · exact plainLower_of_range (by decide)

theorem plainLower_of_mailboxLocal {c : Char} (h : mailboxLocal c = true) : PlainLower c := by
  unfold mailboxLocal at h
  simp only [Bool.or_eq_true, beq_iff_eq] at h
  rcases h with ((((hlower | hdigit) | rfl) | rfl) | rfl) | rfl
  · exact plainLower_of_isLower hlower
  · exact plainLower_of_isDigit hdigit
  · exact plainLower_of_range (by decide)
  · exact plainLower_of_range (by decide)
  · exact plainLower_of_range (by decide)
  · exact plainLower_of_range (by decide)

theorem plainLower_of_mailboxPattern {s : String} (h : mailboxPattern s = true) :
    ∀ c ∈ s.toList, PlainLower c := by
  obtain ⟨name, domain, hs, hname, hdomain⟩ := mailboxPattern_parts h
  intro c hc
  rw [hs] at hc
  rcases List.mem_append.mp hc with hc | hc
  · exact plainLower_of_mailboxLocal (hname c hc)
  · rcases List.mem_cons.mp hc with rfl | hc
    · exact plainLower_of_range (by decide)
    · rcases List.mem_append.mp hc with hc | hc
      · exact plainLower_of_mailboxDomain (hdomain c hc)
      · have hfixed : (".invalid".toList.all fun c =>
            decide (c.toNat < 65 ∨ 90 < c.toNat ∧ c.toNat < 128)) = true := by decide +kernel
        exact plainLower_of_range (of_decide_eq_true (List.all_eq_true.mp hfixed c hc))

/-- The address that the planner hashes is already in lower case. -/
theorem lower_of_mailboxPattern [TextCase]
    (hlower : LowersAscii)
    {s : String} (h : mailboxPattern s = true) : TextCase.lower s = s := by
  have hplain := plainLower_of_mailboxPattern h
  rw [hlower s fun c hc => (hplain c hc).1]
  apply String.toList_inj.mp
  unfold String.toLower
  rw [String.toList_map]
  exact (List.map_congr_left fun c hc => (hplain c hc).2).trans (List.map_id _)

theorem textBetween_of_mailboxPattern {s : String} (h : mailboxPattern s = true)
    (hlength : textBetween 0 255 s = true) : textBetween 6 255 s = true := by
  obtain ⟨name, domain, hs, -, -⟩ := mailboxPattern_parts h
  have hsplit : s = String.ofList (name ++ '@' :: domain) ++ ".invalid" := by
    apply String.toList_inj.mp
    rw [String.toList_append, String.toList_ofList, hs]
    simp
  have hsuffix : 8 ≤ textLength s := by
    have hfixed : textLength ".invalid" = 8 := by decide
    rw [hsplit, textLength_append, hfixed]
    omega
  unfold textBetween at hlength ⊢
  have hmax := (of_decide_eq_true hlength).2
  exact decide_eq_true ⟨by omega, hmax⟩

theorem requireSyntheticEmail_of_mailboxPattern [TextCase]
    (hlower : LowersAscii)
    {s : String} (h : mailboxPattern s = true) : requireSyntheticEmail s = some s := by
  obtain ⟨name, domain, hs, -, -⟩ := mailboxPattern_parts h
  unfold requireSyntheticEmail
  rw [lower_of_mailboxPattern hlower h, if_neg]
  rintro (hsuffix | hat)
  · refine hsuffix ⟨name ++ '@' :: domain, ?_⟩
    rw [hs, List.append_assoc, List.cons_append]
  · refine hat ?_
    rw [hs]
    exact List.mem_append_right _ List.mem_cons_self

/-! ## Forms -/

/-- What is submitted for an operation with a payload is accepted as a mutation with that
operation and that payload. -/
def Accepted [TextCase] (operation : W8Operation) (values : SuppliedValues) (payload : Json) : Prop :=
  ∃ form m, submission operation values = some form ∧ form.accept = some m ∧
    m.operation = operation ∧ m.payload = payload

theorem positiveEmployeeId_of_range {n : Int} {rest : Body} (h : employeeIdRange n) :
    positiveEmployeeId (("employee_id", .num n) :: rest) = some n := by
  have hfield : field (("employee_id", .num n) :: rest) "employee_id" = some (.num n) := by
    simp [field]
  unfold positiveEmployeeId
  rw [hfield]
  exact if_pos h.1

theorem text_of_field (body : Body) (name : String) {s : String} {ok : String → Bool}
    (hfield : field body name = some (.str s)) (hok : ok s = true) :
    text body name ok = some s := by
  unfold text
  rw [hfield]
  exact if_pos hok

theorem literal_of_missing {body : Body} {name value : String} (h : field body name = none) :
    literal body name value = some () := by
  unfold literal
  rw [h]

section

variable [TextCase]

theorem createTicket_accepted (v : JoinerSuppliedValues) :
    Accepted .createTicket (.joiner v) (.obj [("employee_id", .num v.employeeId),
      ("title", .str v.ticketTitle), ("status", .str "open")]) := by
  refine ⟨_, .createTicket ⟨v.employeeId, v.ticketTitle⟩, rfl, ?_, rfl, rfl⟩
  show (TicketCreate.validate [("employee_id", .num v.employeeId),
    ("title", .str v.ticketTitle)]).map _ = _
  have htitle := text_of_field [("employee_id", .num v.employeeId),
    ("title", .str v.ticketTitle)] "title" (by simp [field]) v.ticket_title
  unfold TicketCreate.validate
  rw [positiveEmployeeId_of_range v.employee_id, htitle, literal_of_missing (by simp [field])]
  rfl

theorem createAccount_accepted (v : JoinerSuppliedValues) :
    Accepted .createAccount (.joiner v) (.obj [("employee_id", .num v.employeeId),
      ("username", .str v.username), ("role", .str "employee"), ("status", .str "active")]) := by
  refine ⟨_, .createAccount ⟨v.employeeId, v.username⟩, rfl, ?_, rfl, rfl⟩
  show (AccountCreate.validate [("employee_id", .num v.employeeId),
    ("username", .str v.username)]).map _ = _
  have husername := text_of_field [("employee_id", .num v.employeeId),
    ("username", .str v.username)] "username" (by simp [field]) v.username_pattern
  unfold AccountCreate.validate
  rw [positiveEmployeeId_of_range v.employee_id, husername, literal_of_missing (by simp [field]),
    literal_of_missing (by simp [field])]
  rfl

theorem assignAsset_accepted (v : JoinerSuppliedValues) :
    Accepted .assignAsset (.joiner v) (.obj [("employee_id", .num v.employeeId),
      ("asset_tag", .str v.assetTag), ("device_type", .str "laptop"),
      ("model", .str v.laptopModel), ("status", .str "assigned")]) := by
  refine ⟨_, .createAsset ⟨v.employeeId, v.assetTag, v.laptopModel⟩, rfl, ?_, rfl, rfl⟩
  show (AssetCreate.validate [("employee_id", .num v.employeeId), ("asset_tag", .str v.assetTag),
    ("model", .str v.laptopModel)]).map _ = _
  have htag := text_of_field [("employee_id", .num v.employeeId),
    ("asset_tag", .str v.assetTag), ("model", .str v.laptopModel)] "asset_tag"
    (by simp [field]) v.asset_tag
  have hmodel := text_of_field [("employee_id", .num v.employeeId),
    ("asset_tag", .str v.assetTag), ("model", .str v.laptopModel)] "model"
    (by simp [field]) v.laptop_model
  unfold AssetCreate.validate
  rw [positiveEmployeeId_of_range v.employee_id, htag, hmodel, literal_of_missing (by simp [field]),
    literal_of_missing (by simp [field])]
  rfl

theorem createMailbox_accepted
    (hlower : LowersAscii)
    (v : JoinerSuppliedValues) :
    Accepted .createMailbox (.joiner v) (.obj [("employee_id", .num v.employeeId),
      ("address", .str v.mailbox), ("status", .str "active")]) := by
  refine ⟨_, .createMailbox ⟨v.employeeId, v.mailbox⟩, rfl, ?_, rfl, rfl⟩
  show (MailboxCreate.validate [("employee_id", .num v.employeeId),
    ("address", .str v.mailbox)]).map _ = _
  have haddress := text_of_field [("employee_id", .num v.employeeId),
    ("address", .str v.mailbox)] "address" (by simp [field])
    (textBetween_of_mailboxPattern v.mailbox_pattern.1 v.mailbox_pattern.2)
  have hemail := requireSyntheticEmail_of_mailboxPattern hlower v.mailbox_pattern.1
  unfold MailboxCreate.validate
  simp only [positiveEmployeeId_of_range v.employee_id, haddress, hemail, Option.bind_eq_bind,
    Option.bind_some]
  rw [literal_of_missing (by simp [field])]
  rfl

theorem transferEmployee_accepted (v : MoverSuppliedValues) :
    Accepted .transferEmployee (.mover v) (.obj [("employee_id", .num v.employeeId),
      ("department", .str v.newDepartment), ("job_title", .str v.newJobTitle),
      ("location", .str v.newLocation)]) := by
  refine ⟨_, .transferEmployee v.employeeId ⟨v.newDepartment, v.newJobTitle, v.newLocation⟩, rfl,
    ?_, rfl, rfl⟩
  show (EmployeeTransfer.validate [("department", .str v.newDepartment),
    ("job_title", .str v.newJobTitle), ("location", .str v.newLocation)]).map _ = _
  have hdepartment := text_of_field [("department", .str v.newDepartment),
    ("job_title", .str v.newJobTitle), ("location", .str v.newLocation)] "department"
    (by simp [field]) v.new_department
  have htitle := text_of_field [("department", .str v.newDepartment),
    ("job_title", .str v.newJobTitle), ("location", .str v.newLocation)] "job_title"
    (by simp [field]) v.new_job_title
  have hlocation := text_of_field [("department", .str v.newDepartment),
    ("job_title", .str v.newJobTitle), ("location", .str v.newLocation)] "location"
    (by simp [field]) v.new_location
  unfold EmployeeTransfer.validate
  rw [hdepartment, htitle, hlocation]
  rfl

/-- Whatever payload the planner hashes, the endpoint dumps its form to the same one. -/
theorem accepted_of_mutationPayload
    (hlower : LowersAscii)
    {operation : W8Operation} {values : SuppliedValues} {payload : Json}
    (h : mutationPayload (.mutation operation) values = .ok payload) :
    Accepted operation values payload := by
  cases values with
  | joiner v =>
      cases operation with
      | createTicket => cases h; exact createTicket_accepted v
      | createAccount => cases h; exact createAccount_accepted v
      | assignAsset => cases h; exact assignAsset_accepted v
      | createMailbox => cases h; exact createMailbox_accepted hlower v
      | transferEmployee | disableEmployee | closeTicket | revokeAccount | releaseAsset
      | disableMailbox => cases h
  | mover v =>
      cases operation with
      | transferEmployee => cases h; exact transferEmployee_accepted v
      | disableEmployee => cases h; exact ⟨_, .disableEmployee v.employeeId, rfl, rfl, rfl, rfl⟩
      | closeTicket => cases h; exact ⟨_, .closeTicket v.employeeId, rfl, rfl, rfl, rfl⟩
      | revokeAccount => cases h; exact ⟨_, .revokeAccount v.employeeId, rfl, rfl, rfl, rfl⟩
      | releaseAsset => cases h; exact ⟨_, .releaseAsset v.employeeId, rfl, rfl, rfl, rfl⟩
      | disableMailbox => cases h; exact ⟨_, .disableMailbox v.employeeId, rfl, rfl, rfl, rfl⟩
      | createTicket | createAccount | assignAsset | createMailbox => cases h
  | leaver v =>
      cases operation with
      | disableEmployee => cases h; exact ⟨_, .disableEmployee v.employeeId, rfl, rfl, rfl, rfl⟩
      | closeTicket => cases h; exact ⟨_, .closeTicket v.employeeId, rfl, rfl, rfl, rfl⟩
      | revokeAccount => cases h; exact ⟨_, .revokeAccount v.employeeId, rfl, rfl, rfl, rfl⟩
      | releaseAsset => cases h; exact ⟨_, .releaseAsset v.employeeId, rfl, rfl, rfl, rfl⟩
      | disableMailbox => cases h; exact ⟨_, .disableMailbox v.employeeId, rfl, rfl, rfl, rfl⟩
      | createTicket | createAccount | assignAsset | createMailbox | transferEmployee => cases h

/-! ## Hashes -/

variable [Sha256]

omit [TextCase] [Sha256] in
theorem replayed_avoids {bad : ExecutionError} (hbad : ∀ e, ExecutionError.http e ≠ bad)
    (m : Mutation) (first : Record) (receipt : W8OperationReceipt) (db : SandboxDb) :
    Avoids bad ((replayed m first receipt db).map (·, db)) := by
  unfold replayed
  split
  · exact Avoids.ok _ _
  · exact Avoids.error (hbad _)

omit [TextCase] in
/-- A matching hash is not reported as a mismatch. -/
theorem executeIdempotent_avoids_mismatch {metadata : W8IdempotencyMetadata} {m : Mutation} {first : Record}
    {reads : Reads} {db : SandboxDb}
    (h : canonicalRequestHash metadata m.payload = metadata.requestHash) :
    Avoids (.idempotencyMismatch "request hash does not match validated mutation")
      (executeIdempotent metadata m first reads db) := by
  have hhttp : ∀ e, ExecutionError.http e ≠
      .idempotencyMismatch "request hash does not match validated mutation" :=
    fun e he => by cases he
  unfold executeIdempotent
  rw [if_neg (not_not.mpr h)]
  split
  · split
    · exact Avoids.error (by decide)
    · exact replayed_avoids hhttp m first _ db
  · split
    · exact Avoids.error (by decide)
    · split
      · exact Avoids.error (hhttp _)
      · split
        · exact Avoids.ok _ _
        · split
          · split
            · exact Avoids.error (by decide)
            · split
              · exact Avoids.error (hhttp _)
              · exact replayed_avoids hhttp m _ _ db
          · exact Avoids.error (by decide)

omit [TextCase] in
/-- A binding carries the hash that its metadata gives to the payload of its operation. -/
theorem buildBinding_ok {request : BindingRequest} {operation : Operation}
    {binding : RecoveryIdempotencyBinding} (h : buildBinding request operation = .ok binding) :
    operation = .mutation binding.operation ∧
      ∃ payload, mutationPayload operation request.suppliedValues = .ok payload ∧
        canonicalRequestHash binding.metadata payload = binding.requestHash := by
  unfold buildBinding at h
  split at h
  · cases h
  · next stepId _ =>
      dsimp only at h
      obtain ⟨payload, hpayload, hrest⟩ := ok_of_bind h
      cases operation with
      | inspectEmployee => cases hrest
      | finalize => cases hrest
      | mutation w8 =>
          cases hrest
          exact ⟨rfl, payload, hpayload, rfl⟩

/-- For every binding that is built, the form filled in with the supplied values is accepted by
the endpoint of the operation, which computes the bound hash and never finds a mismatch. -/
theorem request_hash_agrees
    (hlower : LowersAscii)
    {request : BindingRequest} {operation : Operation} {binding : RecoveryIdempotencyBinding}
    (h : buildBinding request operation = .ok binding) :
    ∃ form m, submission binding.operation request.suppliedValues = some form ∧
      form.accept = some m ∧ m.operation = binding.metadata.operation ∧
      canonicalRequestHash binding.metadata m.payload = binding.requestHash ∧
      ∀ first reads db, executeIdempotent binding.metadata m first reads db ≠
        .error (.idempotencyMismatch "request hash does not match validated mutation") := by
  obtain ⟨rfl, payload, hpayload, hhash⟩ := buildBinding_ok h
  obtain ⟨form, m, hform, haccept, hoperation, hm⟩ := accepted_of_mutationPayload hlower hpayload
  have hagree : canonicalRequestHash binding.metadata m.payload = binding.metadata.requestHash := by
    rw [hm]
    exact hhash
  exact ⟨form, m, hform, haccept, hoperation, hagree, fun _ _ _ => executeIdempotent_avoids_mismatch hagree⟩

end

section

abbrev asciiCase : TextCase := ⟨String.toLower⟩

attribute [local instance] asciiCase polynomialSha256

def joinerSample : JoinerSuppliedValues where
  employeeId := 7
  ticketTitle := "Onboard Ada"
  username := "ada.l"
  assetTag := "SYN-LT-7"
  laptopModel := "Model 7"
  mailbox := "ada.l@arena.invalid"
  employee_id := by unfold employeeIdRange; decide
  ticket_title := by decide
  username_pattern := by decide
  asset_tag := by decide
  laptop_model := by decide
  mailbox_pattern := by decide

def mailboxRequest : BindingRequest where
  runId := "run_00000001"
  taskId := "w7-jml-joiner-001-v1"
  stepId := some "s40_mailbox"
  revision := 1
  suppliedValues := .joiner joinerSample

theorem request_hash_agrees_createMailbox :
    ∃ binding, buildBinding mailboxRequest (.mutation .createMailbox) = .ok binding ∧
      ∃ form m, submission binding.operation (.joiner joinerSample) = some form ∧
        form.accept = some m ∧ m.operation = binding.metadata.operation ∧
        canonicalRequestHash binding.metadata m.payload = binding.requestHash ∧
        ∀ first reads db, executeIdempotent binding.metadata m first reads db ≠
          .error (.idempotencyMismatch "request hash does not match validated mutation") := by
  have hbuilt : ∃ binding, buildBinding mailboxRequest (.mutation .createMailbox) = .ok binding :=
    ⟨_, rfl⟩
  obtain ⟨binding, hbinding⟩ := hbuilt
  exact ⟨binding, hbinding, request_hash_agrees (fun _ _ => rfl) hbinding⟩

end

end Planning

end FlowPilot

import FlowPilot.Lib.Sessions
import FlowPilot.Sandbox.Idempotency

/-!
# The receipt limit under concurrency

`execute_idempotent` counts the receipts of the task before it writes one, and nothing between the
count and the commit keeps other mutations of the task out.
-/

open FlowPilot.Lib Relation

namespace FlowPilot.Sandbox

/-- A W8 request under way.  The receipts that were committed when it counted are kept for the
proof only: the code has their number. -/
structure OpenMutation where
  metadata : W8IdempotencyMetadata
  mutation : Mutation
  reads : Reads
  counted : List W8OperationReceipt

namespace OpenMutation

def read (metadata : W8IdempotencyMetadata) (m : Mutation) (db : SandboxDb) : OpenMutation :=
  ⟨metadata, m, m.readAll metadata db, db.receipts.rows⟩

/-- Any of the reads is made at `db` instead. -/
inductive Rereads (db : SandboxDb) (t : OpenMutation) : OpenMutation → Prop where
  | owner : Rereads db t { t with reads := { t.reads with owner := t.mutation.owner db } }
  | existing : Rereads db t { t with reads := { t.reads with existing := existing db t.metadata } }
  | count :
    Rereads db t { t with reads := { t.reads with count := db.receiptCount t.metadata.taskId }
                          counted := db.receipts.rows }

end OpenMutation

section

variable [Sha256]

/-- Concurrent mutations with W8 metadata, among requests without. -/
def mutations : Sessions.Protocol SandboxDb OpenMutation where
  opens db t := ∃ metadata m, t = .read metadata m db
  rereads db t u := t.Rereads db u
  commits db t after := ∃ reply, w8Mutation t.metadata t.mutation t.reads db = .ok (reply, after)
  other db after := ∃ m reply, plainMutation m (m.owner db) db = .ok (reply, after)

/-! ## What a request does to the receipts -/

omit [Sha256] in
theorem flush_receipts {db after : SandboxDb} {write : Write} {record : Record}
    (h : db.flush write = some (record, after)) : after.receipts = db.receipts := by
  cases write with
  | employee loaded changed =>
      obtain ⟨row, _, hrow⟩ := Option.map_eq_some_iff.mp h
      cases hrow
      rfl
  | ticket changed | account changed | asset changed | mailbox changed =>
      obtain ⟨row, _, hrow⟩ := Option.map_eq_some_iff.mp h
      cases hrow
      rfl
  | newTicket form arenaTaskId | newAccount form arenaTaskId | newAsset form arenaTaskId
  | newMailbox form arenaTaskId =>
      unfold SandboxDb.flush at h
      dsimp only at h
      split at h
      · cases h
      · obtain ⟨rows, _, hrow⟩ := Option.map_eq_some_iff.mp h
        cases hrow
        rfl

/-- A committed mutation adds its receipt, which no receipt with its key precedes. -/
theorem commitMutation_some {db after : SandboxDb} {metadata : W8IdempotencyMetadata}
    {write : Write} {record : Record} (h : commitMutation db metadata write = some (record, after)) :
    ∃ hfresh, after.receipts = db.receipts.insert (newReceipt metadata) hfresh := by
  unfold commitMutation at h
  obtain ⟨⟨row, mid⟩, hflush, hrest⟩ := Option.bind_eq_some_iff.mp h
  obtain ⟨receipts, hinsert, hlast⟩ := Option.bind_eq_some_iff.mp hrest
  cases hlast
  rw [flush_receipts hflush] at hinsert
  obtain ⟨hfresh, hreceipts⟩ := Table.insert?_eq_some hinsert
  exact ⟨hfresh, hreceipts⟩

/-- A mutation that succeeds leaves the database alone, or adds its receipt after it has counted
fewer than the limit. -/
theorem executeIdempotent_ok {metadata : W8IdempotencyMetadata} {m : Mutation} {first : Record}
    {reads : Reads} {db after : SandboxDb} {reply : Record × W8ReceiptResult}
    (h : executeIdempotent metadata m first reads db = .ok (reply, after)) :
    after = db ∨ reads.count < maxReceiptsPerTask ∧
      ∃ hfresh, after.receipts = db.receipts.insert (newReceipt metadata) hfresh := by
  have hreplay : ∀ {first receipt},
      (replayed m first receipt db).map (·, db) = .ok (reply, after) → after = db := by
    intro first receipt hr
    cases hcase : replayed m first receipt db with
    | error e =>
        rw [hcase] at hr
        cases hr
    | ok answer =>
        rw [hcase] at hr
        cases hr
        rfl
  unfold executeIdempotent at h
  split at h
  · cases h
  · split at h
    · split at h
      · cases h
      · exact .inl (hreplay h)
    · split at h
      · cases h
      · next hroom =>
          split at h
          · cases h
          · split at h
            · next hcommit =>
                cases h
                exact .inr ⟨by omega, commitMutation_some hcommit⟩
            · split at h
              · split at h
                · cases h
                · split at h
                  · cases h
                  · exact .inl (hreplay h)
              · cases h

theorem w8Mutation_ok {metadata : W8IdempotencyMetadata} {m : Mutation} {reads : Reads}
    {db after : SandboxDb} {reply : Record × W8ReceiptResult}
    (h : w8Mutation metadata m reads db = .ok (reply, after)) :
    after = db ∨ reads.count < maxReceiptsPerTask ∧
      ∃ hfresh, after.receipts = db.receipts.insert (newReceipt metadata) hfresh := by
  unfold w8Mutation at h
  obtain ⟨first, _, hrest⟩ := ok_of_bind h
  split at hrest
  · cases hrest
  · split at hrest
    · next hexec =>
        cases hrest
        exact executeIdempotent_ok hexec
    · cases hrest
    · cases hrest

theorem w8Mutation_of_owner {metadata : W8IdempotencyMetadata} {m : Mutation} {reads : Reads}
    {first : Record} {db after : SandboxDb} {reply : Record × W8ReceiptResult}
    (howner : reads.owner = .ok first)
    (howns : ¬ (metadata.operation ≠ m.operation ∨ first.arenaTaskId ≠ some metadata.taskId))
    (hexecuted : executeIdempotent metadata m first reads db = .ok (reply, after)) :
    w8Mutation metadata m reads db = .ok (reply, after) := by
  unfold w8Mutation
  rw [howner]
  dsimp only [bind, Except.bind]
  rw [if_neg howns, hexecuted]

omit [Sha256] in
theorem plainMutation_receipts {m : Mutation} {owner : Except HttpError Record}
    {db after : SandboxDb} {record : Record}
    (h : plainMutation m owner db = .ok (record, after)) : after.receipts = db.receipts := by
  unfold plainMutation at h
  obtain ⟨first, _, hrest⟩ := ok_of_bind h
  obtain ⟨write, _, hflush⟩ := ok_of_bind hrest
  split at hflush
  · next hsome =>
      cases hflush
      exact flush_receipts hsome
  · cases hflush

/-! ## The limit -/

/-- No task has more receipts than the limit. -/
def WithinLimit (db : SandboxDb) : Prop := ∀ taskId, db.receiptCount taskId ≤ maxReceiptsPerTask

/-- The mutations of the task that have committed since this one counted the task's receipts. -/
def committedSince (db : SandboxDb) (t : OpenMutation) : Nat :=
  db.receipts.count fun r => decide (r.taskId = t.metadata.taskId ∧ r ∉ t.counted)

/-- A request that found room commits before other mutations of its task have used it up. -/
def Unoverlapped (db : SandboxDb) (t : OpenMutation) : Prop :=
  t.reads.count < maxReceiptsPerTask → t.reads.count + committedSince db t < maxReceiptsPerTask

/-- The task has room for one more receipt, if the request has found any. -/
def RoomLeft (db : SandboxDb) (t : OpenMutation) : Prop :=
  t.reads.count < maxReceiptsPerTask → db.receiptCount t.metadata.taskId < maxReceiptsPerTask

/-- The count is that of receipts which are still there. -/
structure Counted (db : SandboxDb) (t : OpenMutation) : Prop where
  count : t.reads.count = t.counted.countP fun r => decide (r.taskId = t.metadata.taskId)
  kept : t.counted <+: db.receipts.rows

omit [Sha256] in
/-- What the task has now is what was counted and what has been committed since. -/
theorem Counted.receiptCount {db : SandboxDb} {t : OpenMutation} (h : Counted db t) :
    db.receiptCount t.metadata.taskId = t.reads.count + committedSince db t := by
  obtain ⟨later, hrows⟩ := h.kept
  have hdisjoint : ∀ r ∈ later, r ∉ t.counted := by
    have hnodup : (t.counted ++ later).Nodup := hrows ▸ List.Nodup.of_map _ db.receipts.nodup
    intro r hr hcounted
    exact (List.nodup_append.mp hnodup).2.2 r hcounted r hr rfl
  have hbefore : (t.counted.countP fun r =>
      decide (r.taskId = t.metadata.taskId ∧ r ∉ t.counted)) = 0 := by
    rw [List.countP_eq_zero]
    intro r hr hnew
    exact (of_decide_eq_true hnew).2 hr
  have hsince : (later.countP fun r => decide (r.taskId = t.metadata.taskId ∧ r ∉ t.counted)) =
      later.countP fun r => decide (r.taskId = t.metadata.taskId) := by
    apply List.countP_congr
    intro r hr
    rw [decide_eq_true_eq, decide_eq_true_eq, and_iff_left (hdisjoint r hr)]
  unfold SandboxDb.receiptCount committedSince Table.count
  rw [← hrows, List.countP_append, List.countP_append, hbefore, hsince, Nat.zero_add, h.count]

omit [Sha256] in
theorem Counted.roomLeft_iff {db : SandboxDb} {t : OpenMutation} (h : Counted db t) :
    RoomLeft db t ↔ Unoverlapped db t := by
  unfold RoomLeft Unoverlapped
  rw [h.receiptCount]

omit [Sha256] in
/-- Receipts are only added. -/
theorem Counted.mono {db after : SandboxDb} {t : OpenMutation} (h : Counted db t)
    (hgrows : db.receipts.rows <+: after.receipts.rows) : Counted after t :=
  ⟨h.count, h.kept.trans hgrows⟩

omit [Sha256] in
theorem receiptCount_insert {db after : SandboxDb} {receipt : W8OperationReceipt}
    {hfresh : db.receipts.get? (Keyed.key receipt) = none}
    (h : after.receipts = db.receipts.insert receipt hfresh) (taskId : String) :
    after.receiptCount taskId =
      db.receiptCount taskId + if receipt.taskId = taskId then 1 else 0 := by
  unfold SandboxDb.receiptCount
  rw [h, Table.count_insert]
  simp only [decide_eq_true_eq]

theorem WithinLimit.commit {db after : SandboxDb} {t : OpenMutation} {reply : Record × W8ReceiptResult}
    (hdb : WithinLimit db) (hroom : RoomLeft db t)
    (h : w8Mutation t.metadata t.mutation t.reads db = .ok (reply, after)) : WithinLimit after := by
  rcases w8Mutation_ok h with rfl | ⟨hcounted, hfresh, hreceipts⟩
  · exact hdb
  · intro taskId
    have hbefore := hdb taskId
    rw [receiptCount_insert hreceipts]
    by_cases htask : (newReceipt t.metadata).taskId = taskId
    · have hleft : db.receiptCount taskId < maxReceiptsPerTask := htask ▸ hroom hcounted
      rw [if_pos htask]
      omega
    · rw [if_neg htask]
      omega

theorem withinLimit : Sessions.Invariant mutations Unoverlapped WithinLimit Counted where
  opens db t _ h := by
    obtain ⟨metadata, m, rfl⟩ := h
    exact ⟨rfl, List.prefix_refl _⟩
  rereads db t u _ hcounted h := by
    cases h with
    | owner => exact ⟨hcounted.count, hcounted.kept⟩
    | existing => exact ⟨hcounted.count, hcounted.kept⟩
    | count => exact ⟨rfl, List.prefix_refl _⟩
  commits db t after hdb hcounted hroom h := by
    obtain ⟨reply, hcommit⟩ := h
    refine ⟨hdb.commit (hcounted.roomLeft_iff.mpr hroom) hcommit, ?_⟩
    have hgrows : db.receipts.rows <+: after.receipts.rows := by
      rcases w8Mutation_ok hcommit with rfl | ⟨_, hfresh, hreceipts⟩
      · exact List.prefix_refl _
      · rw [hreceipts]
        exact List.prefix_append _ _
    exact fun u hu => hu.mono hgrows
  other db after hdb h := by
    obtain ⟨m, reply, hplain⟩ := h
    have hsame := plainMutation_receipts hplain
    constructor
    · intro taskId
      unfold SandboxDb.receiptCount
      rw [hsame]
      exact hdb taskId
    · exact fun u hu => hu.mono (hsame ▸ List.prefix_refl _)

/-- In every interleaving in which each mutation that found room commits before the others of its
task have used it up, no task ever has more than twenty-four receipts. -/
theorem receipt_cap {db : SandboxDb} {c : Sessions.Config SandboxDb OpenMutation}
    (hdb : WithinLimit db)
    (hrun : ReflTransGen (Sessions.Step mutations Unoverlapped) (.start db) c) :
    WithinLimit c.store :=
  (withinLimit.run (Sessions.holds_start hdb) hrun).1

end

section

attribute [local instance] polynomialSha256

namespace Sample

def employee : Employee :=
  ⟨7, "ada@arena.invalid", "Research", "Engineer", "Remote", .confirmed, some "task-7"⟩

/-- One employee and no receipts. -/
def company : SandboxDb where
  employees := ⟨[employee], List.nodup_singleton 7⟩
  tickets := .empty
  accounts := .empty
  assets := .empty
  mailboxes := .empty
  receipts := .empty

/-- The plan's step `n` opens a ticket for the employee. -/
def ticket (n : Nat) (db : SandboxDb) : OpenMutation :=
  let m : Mutation := .createTicket ⟨7, "Onboard Ada"⟩
  let unbound : W8IdempotencyMetadata :=
    ⟨"task-7", ⟨⟨n⟩⟩, ⟨0⟩, 1, "s10_ticket", .createTicket⟩
  .read { unbound with requestHash := canonicalRequestHash unbound m.payload } m db

theorem ticket_opens (n : Nat) (db : SandboxDb) : mutations.opens db (ticket n db) := ⟨_, _, rfl⟩

/-- The store after the request has committed or failed. -/
def served (t : OpenMutation) (db : SandboxDb) : SandboxDb :=
  match w8Mutation t.metadata t.mutation t.reads db with
  | .ok (_, after) => after
  | .error _ => db

theorem step_served {allowed : SandboxDb → OpenMutation → Prop}
    {c : Sessions.Config SandboxDb OpenMutation} {i : Nat} {t : OpenMutation}
    (hopen : c.opened i = some t) (hallowed : allowed c.store t) :
    Sessions.Step mutations allowed c ⟨served t c.store, Function.update c.opened i none⟩ := by
  unfold served
  split
  · next reply after hcommit => exact .commit hopen hallowed ⟨reply, hcommit⟩
  · exact .abort hopen

/-- A request that reads and commits with nothing in between. -/
theorem run_served {allowed : SandboxDb → OpenMutation → Prop} {db : SandboxDb} {t : OpenMutation}
    (ht : mutations.opens db t) (hallowed : allowed db t) :
    ReflTransGen (Sessions.Step mutations allowed) (.start db) (.start (served t db)) := by
  let opened : Sessions.Config SandboxDb OpenMutation :=
    ⟨db, Function.update (fun _ => none) 0 (some t)⟩
  have hopen : Sessions.Step mutations allowed (.start db) opened := .start rfl ht
  have hserved := step_served (c := opened) (i := 0) (t := t) rfl hallowed
  have hclosed : Function.update opened.opened 0 none = fun _ => none := by
    rw [Function.update_idem, Function.update_eq_self_iff]
  rw [hclosed] at hserved
  exact (ReflTransGen.single hopen).tail hserved

/-- Two requests that read before either of them commits. -/
theorem run_bothServed {db : SandboxDb} {t u : OpenMutation} (ht : mutations.opens db t)
    (hu : mutations.opens db u) :
    ∃ c, ReflTransGen (Sessions.Step mutations Sessions.Anything) (.start db) c ∧
      c.store = served u (served t db) := by
  let first : Sessions.Config SandboxDb OpenMutation :=
    ⟨db, Function.update (fun _ => none) 0 (some t)⟩
  let second : Sessions.Config SandboxDb OpenMutation :=
    ⟨db, Function.update first.opened 1 (some u)⟩
  have hfirst : Sessions.Step mutations Sessions.Anything (.start db) first := .start rfl ht
  have hsecond : Sessions.Step mutations Sessions.Anything first second := .start rfl hu
  have hone : Sessions.Step mutations Sessions.Anything second _ :=
    step_served (i := 0) (t := t) rfl trivial
  have htwo : Sessions.Step mutations Sessions.Anything
      ⟨served t db, Function.update second.opened 0 none⟩ _ :=
    step_served (i := 1) (t := u) rfl trivial
  exact ⟨_, (((ReflTransGen.single hfirst).tail hsecond).tail hone).tail htwo, rfl⟩

/-- The first `n` tickets, one request at a time. -/
def afterTickets : Nat → SandboxDb
  | 0 => company
  | n + 1 => served (ticket n (afterTickets n)) (afterTickets n)

theorem run_afterTickets (n : Nat) :
    ReflTransGen (Sessions.Step mutations Sessions.Anything)
      (.start company) (.start (afterTickets n)) := by
  induction n with
  | zero => exact .refl
  | succ n ih => exact ih.trans (run_served (ticket_opens _ _) trivial)

/-- The first `n` tickets, and then two requests that both count `n` receipts. -/
def twoMore (n : Nat) : SandboxDb :=
  let db := afterTickets n
  served (ticket (n + 1) db) (served (ticket n db) db)

theorem run_twoMore (n : Nat) :
    ∃ c, ReflTransGen (Sessions.Step mutations Sessions.Anything) (.start company) c ∧
      c.store = twoMore n := by
  let db := afterTickets n
  obtain ⟨c, hboth, hstore⟩ := run_bothServed (ticket_opens n db) (ticket_opens (n + 1) db)
  exact ⟨c, (run_afterTickets n).trans hboth, hstore⟩

theorem nextId_fresh {ids : List Int} : nextId ids ∉ ids := by
  have hle : ∀ i ∈ ids, i ≤ ids.foldr max 0 := by
    induction ids with
    | nil =>
        intro i hi
        cases hi
    | cons j rest ih =>
        intro i hi
        rw [List.foldr_cons]
        rcases List.mem_cons.mp hi with rfl | hi
        · exact Int.le_max_left _ _
        · exact Int.le_trans (ih i hi) (Int.le_max_right _ _)
  intro hmem
  have hnext := hle _ hmem
  unfold nextId at hnext
  omega

/-- Every receipt is that of one of the first `n` tickets. -/
structure Issued (n : Nat) (db : SandboxDb) : Prop where
  employees : db.employees = company.employees
  receipts : ∀ r ∈ db.receipts.rows, ∃ k < n, Keyed.key r = ("task-7", ⟨⟨BitVec.ofNat 256 k⟩⟩)

theorem Issued.unused {n m : Nat} {db : SandboxDb} (h : Issued n db) (hnm : n ≤ m)
    (hm : m < 2 ^ 256) : db.receipts.get? ("task-7", ⟨⟨BitVec.ofNat 256 m⟩⟩) = none := by
  rw [Table.get?_eq_none]
  intro r hr hkey
  obtain ⟨k, hk, hold⟩ := h.receipts r hr
  have hbits : BitVec.ofNat 256 k = BitVec.ofNat 256 m := by
    have hkeys := hold.symm.trans hkey
    simpa using hkeys
  have hmod := congrArg BitVec.toNat hbits
  rw [BitVec.toNat_ofNat, BitVec.toNat_ofNat, Nat.mod_eq_of_lt (by omega),
    Nat.mod_eq_of_lt hm] at hmod
  omega

/-- The ticket of the employee and its receipt are written. -/
theorem commitMutation_ticket {db : SandboxDb} {metadata : W8IdempotencyMetadata}
    (hemployee : db.employees.get? 7 = some employee)
    (hfresh : db.receipts.get? (Keyed.key (newReceipt metadata)) = none) :
    ∃ record after, commitMutation db metadata (.newTicket ⟨7, "Onboard Ada"⟩ (some "task-7")) =
        some (record, after) ∧ after.employees = db.employees ∧
      after.receipts = db.receipts.insert (newReceipt metadata) hfresh := by
  let row : OnboardingTicket :=
    ⟨nextId (db.tickets.rows.map (·.id)), 7, "Onboard Ada", .opened, some "task-7"⟩
  have hrow : db.tickets.get? (Keyed.key row) = none := by
    rw [Table.get?_eq_none]
    intro t ht hkey
    exact nextId_fresh (List.mem_map.mpr ⟨t, ht, hkey⟩)
  refine ⟨.ticket row, ⟨db.employees, db.tickets.insert row hrow, db.accounts, db.assets,
    db.mailboxes, db.receipts.insert (newReceipt metadata) hfresh⟩, ?_, rfl, rfl⟩
  have hflush : db.flush (.newTicket ⟨7, "Onboard Ada"⟩ (some "task-7")) =
      some (.ticket row, { db with tickets := db.tickets.insert row hrow }) := by
    unfold SandboxDb.flush
    dsimp only
    rw [hemployee, if_neg (by simp), Table.insert?_of_fresh hrow]
    rfl
  have hreceipt : db.receipts.insert? (newReceipt metadata) =
      some (db.receipts.insert (newReceipt metadata) hfresh) := Table.insert?_of_fresh hfresh
  unfold commitMutation
  rw [hflush]
  dsimp only [Option.bind_eq_bind, Option.bind_some]
  rw [hreceipt]
  rfl

/-- A ticket that found room commits, with one more receipt. -/
theorem Issued.served {n m : Nat} {seen db : SandboxDb} (hseen : seen.employees = company.employees)
    (hunseen : seen.receipts.get? ("task-7", ⟨⟨BitVec.ofNat 256 m⟩⟩) = none)
    (hroom : seen.receiptCount "task-7" < maxReceiptsPerTask) (h : Issued n db) (hnm : n ≤ m)
    (hm : m < 2 ^ 256) :
    Issued (m + 1) (served (ticket m seen) db) ∧
      (served (ticket m seen) db).receiptCount "task-7" = db.receiptCount "task-7" + 1 := by
  have hcommit : ∃ record after,
      w8Mutation (ticket m seen).metadata (ticket m seen).mutation (ticket m seen).reads db =
        .ok (record, after) ∧ after.employees = db.employees ∧
      ∃ hfresh, after.receipts = db.receipts.insert (newReceipt (ticket m seen).metadata) hfresh := by
    have howner : requireEmployee seen 7 = .ok employee := by
      unfold requireEmployee
      rw [hseen]
      rfl
    have hemployee : db.employees.get? 7 = some employee := by
      rw [h.employees]
      rfl
    have hfresh : db.receipts.get? (Keyed.key (newReceipt (ticket m seen).metadata)) = none :=
      h.unused hnm hm
    obtain ⟨record, after, hcommitted, hsame, hreceipts⟩ := commitMutation_ticket hemployee hfresh
    have howned : (ticket m seen).reads.owner = .ok (.employee employee) := by
      show (requireEmployee seen 7).map Record.employee = _
      rw [howner]
      rfl
    have hexecuted : executeIdempotent (ticket m seen).metadata (ticket m seen).mutation
        (.employee employee) (ticket m seen).reads db =
          .ok ((record, ⟨.created, safeResultHash (ticket m seen).metadata⟩), after) := by
      have hexisting : (ticket m seen).reads.existing = none := hunseen
      have hcounted : ¬ (ticket m seen).reads.count ≥ maxReceiptsPerTask := Nat.not_le.mpr hroom
      have hperform : (ticket m seen).mutation.perform (.employee employee) =
          .ok (.newTicket ⟨7, "Onboard Ada"⟩ (some "task-7")) := rfl
      have hhash : ¬ canonicalRequestHash (ticket m seen).metadata (ticket m seen).mutation.payload ≠
          (ticket m seen).metadata.requestHash := not_not.mpr rfl
      unfold executeIdempotent
      rw [if_neg hhash, hexisting]
      dsimp only
      rw [if_neg hcounted, hperform]
      dsimp only
      rw [hcommitted]
    have hmutated : w8Mutation (ticket m seen).metadata (ticket m seen).mutation
        (ticket m seen).reads db =
          .ok ((record, ⟨.created, safeResultHash (ticket m seen).metadata⟩), after) := by
      have howns : ¬ ((ticket m seen).metadata.operation ≠ (ticket m seen).mutation.operation ∨
          (Record.employee employee).arenaTaskId ≠ some (ticket m seen).metadata.taskId) := by
        simp [ticket, OpenMutation.read, Mutation.operation, Record.arenaTaskId, employee]
      exact w8Mutation_of_owner howned howns hexecuted
    exact ⟨_, after, hmutated, hsame, _, hreceipts⟩
  obtain ⟨record, after, hok, hemployees, hfresh, hreceipts⟩ := hcommit
  have hserved : Sample.served (ticket m seen) db = after := by
    unfold Sample.served
    rw [hok]
  rw [hserved]
  refine ⟨⟨hemployees.trans h.employees, ?_⟩, ?_⟩
  · intro r hr
    rw [hreceipts] at hr
    rcases (Table.mem_insert hfresh).mp hr with hold | rfl
    · obtain ⟨k, hk, hkey⟩ := h.receipts r hold
      exact ⟨k, by omega, hkey⟩
    · exact ⟨m, by omega, rfl⟩
  · have htask : (newReceipt (ticket m seen).metadata).taskId = "task-7" := rfl
    rw [receiptCount_insert hreceipts, if_pos htask]

theorem afterTickets_issued {n : Nat} (hn : n ≤ maxReceiptsPerTask) :
    Issued n (afterTickets n) ∧ (afterTickets n).receiptCount "task-7" = n := by
  unfold maxReceiptsPerTask at hn
  induction n with
  | zero => exact ⟨⟨rfl, fun r hr => by cases hr⟩, rfl⟩
  | succ n ih =>
      obtain ⟨hissued, hcount⟩ := ih (by omega)
      have hroom : (afterTickets n).receiptCount "task-7" < maxReceiptsPerTask := by
        unfold maxReceiptsPerTask
        omega
      have hnext := Issued.served hissued.employees (hissued.unused (Nat.le_refl n) (by omega))
        hroom hissued (Nat.le_refl n) (by omega)
      rw [hcount] at hnext
      exact hnext

theorem twoMore_count : (twoMore 23).receiptCount "task-7" = 25 := by
  obtain ⟨hissued, hcount⟩ := afterTickets_issued (n := 23) (by decide)
  have hroom : (afterTickets 23).receiptCount "task-7" < maxReceiptsPerTask := by
    rw [hcount]
    decide
  have hfirst := Issued.served hissued.employees (hissued.unused (Nat.le_refl 23) (by decide))
    hroom hissued (Nat.le_refl 23) (by decide)
  have hsecond := Issued.served hissued.employees
    (hissued.unused (Nat.le_succ 23) (by decide)) hroom hfirst.1 (Nat.le_refl 24) (by decide)
  unfold twoMore
  dsimp only
  rw [hsecond.2, hfirst.2, hcount]

end Sample

open Sample

/-- A request that finds room and commits before anything else does. -/
theorem receipt_cap_oneTicket : WithinLimit (served (ticket 0 company) company) := by
  have hroom : Unoverlapped company (ticket 0 company) := fun _ => by decide +kernel
  have hempty : WithinLimit company := fun _ => Nat.zero_le maxReceiptsPerTask
  have hwithin := receipt_cap hempty (run_served (ticket_opens 0 company) hroom)
  rw [Sessions.Config.start_store] at hwithin
  exact hwithin

/-- Two requests that both count twenty-three receipts. -/
theorem twoRequests_exceed :
    ∃ c, ReflTransGen (Sessions.Step mutations Sessions.Anything) (.start company) c ∧
      ¬ WithinLimit c.store := by
  obtain ⟨c, hrun, hstore⟩ := run_twoMore 23
  refine ⟨c, hrun, ?_⟩
  intro hwithin
  have hcount := hwithin "task-7"
  rw [hstore, twoMore_count] at hcount
  unfold maxReceiptsPerTask at hcount
  omega

end

end FlowPilot.Sandbox

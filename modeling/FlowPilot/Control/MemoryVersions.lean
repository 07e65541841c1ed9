import FlowPilot.Control.Memories

/-!
# Versions of organization memories

What a committed call makes of the store, and what follows for every interleaving of the calls:
one memory version for each commit, no commit with a version that is no longer current, and
tombstones that stay.
-/

open FlowPilot.Lib FlowPilot.Lib.RowLock Relation

namespace FlowPilot.Control

/-- What the calls on one organization read. -/
structure SameCollection (organizationId : OrganizationId) (s s' : MemoryStore) : Prop where
  collection : s.collections.get? organizationId = s'.collections.get? organizationId
  memories : s.memories.rows.filter (fun m => m.organizationId = organizationId) =
    s'.memories.rows.filter (fun m => m.organizationId = organizationId)

section

variable [Sha256] {s s' : MemoryStore} {r : MemoryRequest} {t : OpenMemory}

/-! ## The statements of one call -/

/-- The rows that the second statement writes. -/
def MemoryWrites (s : MemoryStore) (r : MemoryRequest) (writes : List OrganizationMemory) : Prop :=
  let organizationId := r.actor.organizationId
  match r.operation with
  | .create .. => False
  | .update memoryId expectedVersion payload =>
    ∃ m ∈ s.memories.rows, current organizationId memoryId expectedVersion m = true ∧
      writes = [m.updated payload]
  | .tombstone memoryId expectedVersion =>
    ∃ m ∈ s.memories.rows, current organizationId memoryId expectedVersion m = true ∧
      writes = [m.tombstoned organizationId]
  | .reset _ =>
    writes = (s.memories.select (activeIn organizationId)).map fun m =>
      m.tombstoned organizationId

/-- What a call that holds its lock has read. -/
structure Charged (s : MemoryStore) (r : MemoryRequest) (t : OpenMemory) : Prop where
  request : t.request = r
  actor : r.actor.organizationId = r.organizationId
  collection : ∃ c, s.collections.get? r.actor.organizationId = some c ∧
    t.memoryVersion = c.memoryVersion + 1 ∧
    ∀ expected, r.operation = .reset expected → c.memoryVersion = expected
  writes : ∀ writes, t.writes = some writes → MemoryWrites s r writes

omit [Sha256] in
theorem charge_ok (h : charge s r = some t) :
    t.request = r ∧ r.actor.organizationId = r.organizationId ∧ t.writes = none ∧
      ∃ c, s.collections.get? r.actor.organizationId = some c ∧
        t.memoryVersion = c.memoryVersion + 1 ∧
        ∀ expected, r.operation = .reset expected → c.memoryVersion = expected := by
  unfold charge at h
  split at h
  · cases h
  · next hactor =>
    have hactor : r.actor.organizationId = r.organizationId := not_not.mp hactor
    split at h
    · cases h
    · next c hc =>
      split at h
      · next expected hoperation =>
        split at h
        · next hversion =>
          cases h
          refine ⟨rfl, hactor, rfl, c, hc, rfl, ?_⟩
          intro other hother
          rw [hoperation] at hother
          cases hother
          exact hversion
        · cases h
      all_goals
        next hoperation =>
          cases h
          refine ⟨rfl, hactor, rfl, c, hc, rfl, ?_⟩
          intro other hother
          rw [hoperation] at hother
          cases hother

theorem secondStatement_ok {u : OpenMemory} (h : secondStatement s t = some u) :
    u.request = t.request ∧ u.memoryVersion = t.memoryVersion ∧
      ∃ writes, u.writes = some writes ∧ MemoryWrites s t.request writes := by
  unfold secondStatement at h
  dsimp only at h
  split at h
  · cases h
  · split at h
    · cases h
    · next memoryId expectedVersion payload hoperation =>
      obtain ⟨m, hm, rfl⟩ := Option.map_eq_some_iff.mp h
      obtain ⟨hmem, hcurrent⟩ := Table.one?_mem hm
      refine ⟨rfl, rfl, _, rfl, ?_⟩
      unfold MemoryWrites
      rw [hoperation]
      exact ⟨m, hmem, hcurrent, rfl⟩
    · next memoryId expectedVersion hoperation =>
      obtain ⟨m, hm, rfl⟩ := Option.map_eq_some_iff.mp h
      obtain ⟨hmem, hcurrent⟩ := Table.one?_mem hm
      refine ⟨rfl, rfl, _, rfl, ?_⟩
      unfold MemoryWrites
      rw [hoperation]
      exact ⟨m, hmem, hcurrent, rfl⟩
    · next expected hoperation =>
      cases h
      refine ⟨rfl, rfl, _, rfl, ?_⟩
      unfold MemoryWrites
      rw [hoperation]

theorem charged_of_derived (h : Derived memoryCalls s r t) : Charged s r t := by
  induction h with
  | start h =>
    obtain ⟨hrequest, hactor, hnone, hcollection⟩ := charge_ok h
    refine ⟨hrequest, hactor, hcollection, ?_⟩
    intro writes hwrites
    rw [hnone] at hwrites
    cases hwrites
  | next _ h ih =>
    obtain ⟨hrequest, hversion, writes, hwrites, hwritten⟩ := secondStatement_ok h
    rw [ih.request] at hwritten
    refine ⟨hrequest.trans ih.request, ih.actor, ?_, ?_⟩
    · rw [hversion]
      exact ih.collection
    · intro others hothers
      rw [hwrites] at hothers
      cases hothers
      exact hwritten

/-! ## The rows of a commit -/

/-- What a committed call makes of a memory that there was. -/
def rowAfter (r : MemoryRequest) (m : OrganizationMemory) : OrganizationMemory :=
  let organizationId := r.actor.organizationId
  match r.operation with
  | .create .. => m
  | .update memoryId expectedVersion payload =>
    if current organizationId memoryId expectedVersion m then m.updated payload else m
  | .tombstone memoryId expectedVersion =>
    if current organizationId memoryId expectedVersion m then m.tombstoned organizationId else m
  | .reset _ => if activeIn organizationId m then m.tombstoned organizationId else m

/-- The memories that the second statement of `r` selects. -/
def selects (r : MemoryRequest) (m : OrganizationMemory) : Bool :=
  let organizationId := r.actor.organizationId
  match r.operation with
  | .create .. => false
  | .update memoryId expectedVersion _ | .tombstone memoryId expectedVersion =>
    current organizationId memoryId expectedVersion m
  | .reset _ => activeIn organizationId m

/-- The status of what an operation writes. -/
def MemoryOperation.statusAfter : MemoryOperation → MemoryStatus
  | .create .. | .update .. => .active
  | .tombstone .. | .reset _ => .tombstone

omit [Sha256] in
theorem current_organization {organizationId : OrganizationId} {memoryId : MemoryId} {n : Nat}
    {m : OrganizationMemory} (h : current organizationId memoryId n m = true) :
    m.organizationId = organizationId ∧ m.memoryId = memoryId ∧ m.version = n ∧
      m.status = .active := of_decide_eq_true h

/-- A selected memory is active, and it is written with the next version. -/
theorem rowAfter_selected {m : OrganizationMemory} (h : selects r m = true) :
    m.status = .active ∧ (rowAfter r m).version = m.version + 1 ∧
      (rowAfter r m).status = r.operation.statusAfter := by
  unfold selects at h
  unfold rowAfter MemoryOperation.statusAfter
  dsimp only at h ⊢
  split at h
  · cases h
  · have hactive : m.status = .active := (current_organization h).2.2.2
    rw [if_pos h]
    exact ⟨hactive, rfl, hactive⟩
  · rw [if_pos h]
    exact ⟨(current_organization h).2.2.2, rfl, rfl⟩
  · have hactive : m.organizationId = r.actor.organizationId ∧ m.status = .active :=
      of_decide_eq_true h
    rw [if_pos h]
    exact ⟨hactive.2, rfl, rfl⟩

omit [Sha256] in
/-- One written row is found by the memory that it replaces, and by no other. -/
theorem find_written {f : OrganizationMemory → OrganizationMemory}
    {p : OrganizationMemory → Bool} {k m : OrganizationMemory} (hk : k ∈ s.memories.rows)
    (hm : m ∈ s.memories.rows) (hpk : p k = true) (hkey : p m = true → m.memoryId = k.memoryId)
    (hf : (f k).memoryId = k.memoryId) :
    ([f k].find? fun w => w.memoryId = m.memoryId).getD m = if p m then f m else m := by
  rw [List.find?_cons, hf]
  by_cases hsame : k.memoryId = m.memoryId
  · have hkm : k = m := Table.eq_of_key hk hm hsame
    rw [← hkm, if_pos hpk, decide_eq_true rfl]
    rfl
  · rw [decide_eq_false hsame, if_neg fun hpm => hsame (hkey hpm).symm]
    rfl

omit [Sha256] in
/-- Of the rows that a selection makes, a memory finds its own. -/
theorem find_selected {f : OrganizationMemory → OrganizationMemory}
    {p : OrganizationMemory → Bool} {m : OrganizationMemory} (hm : m ∈ s.memories.rows)
    (hf : ∀ w, (f w).memoryId = w.memoryId) :
    (((s.memories.select p).map f).find? fun w => w.memoryId = m.memoryId).getD m =
      if p m then f m else m := by
  have hget : s.memories.get? m.memoryId = some m := Table.get?_of_mem hm
  have hselected : (s.memories.select p).find? (fun w => w.memoryId = m.memoryId) =
      (some m).filter p := by
    have hone := s.memories.one?_of_key (p := fun w => p w && decide (w.memoryId = m.memoryId))
      (k := m.memoryId) (by
        intro w hw
        exact of_decide_eq_true (Bool.and_eq_true _ _ ▸ hw).2)
    rw [hget] at hone
    unfold Table.select
    unfold Table.one? at hone
    rw [List.find?_filter]
    simpa only [Bool.decide_and, Bool.decide_eq_true, Option.filter_some, decide_true,
      Bool.and_true] using hone
  rw [List.find?_map]
  have hsame : ((fun w : OrganizationMemory => decide (w.memoryId = m.memoryId)) ∘ f) =
      fun w => decide (w.memoryId = m.memoryId) := by
    funext w
    rw [Function.comp_apply, hf]
  rw [hsame, hselected]
  rw [Option.filter_some]
  cases hp : p m <;> rfl

/-- The writes of a call find the memories that they are about. -/
theorem find_writes {writes : List OrganizationMemory} (h : MemoryWrites s r writes)
    {m : OrganizationMemory} (hm : m ∈ s.memories.rows) :
    (writes.find? fun w => w.memoryId = m.memoryId).getD m = rowAfter r m := by
  unfold MemoryWrites at h
  unfold rowAfter
  dsimp only at h ⊢
  split at h
  · cases h
  · obtain ⟨k, hk, hcurrent, rfl⟩ := h
    refine find_written (f := fun m => m.updated _) hk hm hcurrent ?_ rfl
    intro hm'
    rw [(current_organization hm').2.1, (current_organization hcurrent).2.1]
  · obtain ⟨k, hk, hcurrent, rfl⟩ := h
    refine find_written (f := fun m => m.tombstoned _) hk hm hcurrent ?_ rfl
    intro hm'
    rw [(current_organization hm').2.1, (current_organization hcurrent).2.1]
  · rw [h]
    exact find_selected hm fun _ => rfl

theorem get?_replaceMemories {writes : List OrganizationMemory} (h : MemoryWrites s r writes)
    (memoryId : MemoryId) :
    (replaceMemories s.memories writes).get? memoryId =
      (s.memories.get? memoryId).map (rowAfter r) := by
  unfold replaceMemories
  rw [Table.get?_update]
  cases hget : s.memories.get? memoryId with
  | none => rfl
  | some m =>
    rw [Option.map_some, Option.map_some, ← find_writes h (Table.mem_of_get? hget)]
    cases hfind : writes.find? fun w => w.memoryId = m.memoryId <;> rfl

/-- What a commit of `r` makes of the store. -/
structure Effect (s : MemoryStore) (r : MemoryRequest) (s' : MemoryStore) : Prop where
  actor : r.actor.organizationId = r.organizationId
  collection : ∃ c, s.collections.get? r.actor.organizationId = some c ∧
    s'.collections.get? r.actor.organizationId =
      some { c with memoryVersion := c.memoryVersion + 1 } ∧
    ∀ expected, r.operation = .reset expected → c.memoryVersion = expected
  others : ∀ o, o ≠ r.actor.organizationId → s'.collections.get? o = s.collections.get? o
  rows : ∀ memoryId m, s.memories.get? memoryId = some m →
    s'.memories.get? memoryId = some (rowAfter r m)
  selected : ∀ memoryId m, s.memories.get? memoryId = some m → selects r m = true →
    m.status = .active ∧ ∃ m', s'.memories.get? memoryId = some m' ∧
      m'.version = m.version + 1 ∧ m'.status = r.operation.statusAfter
  fresh : ∀ memoryId, s.memories.get? memoryId = none → s'.memories.get? memoryId = none ∨
    ∃ payload, r.operation = .create memoryId payload ∧
      s'.memories.get? memoryId = some (newMemory r.actor memoryId payload)
  created : ∀ memoryId payload, r.operation = .create memoryId payload →
    s.memories.get? memoryId = none
  target : ∀ memoryId expectedVersion,
    (∃ payload, r.operation = .update memoryId expectedVersion payload) ∨
      r.operation = .tombstone memoryId expectedVersion →
    ∃ m, s.memories.get? memoryId = some m ∧
      current r.actor.organizationId memoryId expectedVersion m = true

omit [Sha256] in
theorem get?_chargedTo (o : OrganizationId) :
    (chargedTo s t).get? o = (s.collections.get? o).map fun c =>
      if o = t.request.actor.organizationId then { c with memoryVersion := t.memoryVersion }
      else c := by
  unfold chargedTo
  rw [Table.get?_update]
  cases hget : s.collections.get? o with
  | none => rfl
  | some c =>
    have hkey : c.organizationId = o := Table.key_of_get? hget
    rw [Option.map_some, Option.map_some, hkey]
    by_cases ho : o = t.request.actor.organizationId
    · rw [if_pos ho, decide_eq_true ho, if_pos rfl]
    · rw [if_neg ho, decide_eq_false ho, if_neg Bool.false_ne_true]

/-- The memories after a commit: a new one, or the old ones with the writes. -/
theorem commitMemory_ok (hcharged : Charged s r t) (h : commitMemory s t = some s') :
    s'.collections = chargedTo s t ∧
      ((∃ memoryId payload hfresh, r.operation = .create memoryId payload ∧
          s'.memories = s.memories.insert (newMemory r.actor memoryId payload) hfresh) ∨
        ∃ writes, MemoryWrites s r writes ∧ s'.memories = replaceMemories s.memories writes) := by
  unfold commitMemory at h
  rw [hcharged.request] at h
  split at h
  · next memoryId payload hoperation =>
    obtain ⟨memories, hinsert, rfl⟩ := Option.map_eq_some_iff.mp h
    obtain ⟨hfresh, hmemories⟩ := Table.insert?_eq_some hinsert
    exact ⟨rfl, .inl ⟨memoryId, payload, hfresh, hoperation, hmemories⟩⟩
  all_goals
    obtain ⟨writes, hwrites, rfl⟩ := Option.map_eq_some_iff.mp h
    exact ⟨rfl, .inr ⟨writes, hcharged.writes writes hwrites, rfl⟩⟩

theorem effect_of_commit (hderived : Derived memoryCalls s r t)
    (h : commitMemory s t = some s') : Effect s r s' := by
  have hcharged := charged_of_derived hderived
  obtain ⟨hcollections, hmemories⟩ := commitMemory_ok hcharged h
  obtain ⟨c, hc, hversion, hreset⟩ := hcharged.collection
  have hcollection : s'.collections.get? r.actor.organizationId =
      some { c with memoryVersion := c.memoryVersion + 1 } := by
    rw [hcollections, get?_chargedTo, hcharged.request, hc, Option.map_some, if_pos rfl, hversion]
  have hothers : ∀ o, o ≠ r.actor.organizationId →
      s'.collections.get? o = s.collections.get? o := by
    intro o ho
    rw [hcollections, get?_chargedTo, hcharged.request]
    simp only [if_neg ho, Option.map_id']
  rcases hmemories with ⟨memoryId, payload, hfresh, hoperation, hinsert⟩ | ⟨writes, hwrites, hrows⟩
  · have hget : ∀ k, s'.memories.get? k = if memoryId = k then
        some (newMemory r.actor memoryId payload) else s.memories.get? k := by
      intro k
      rw [hinsert, Table.get?_insert]
      rfl
    have hnew : s.memories.get? memoryId = none := hfresh
    have hkept : ∀ k m, s.memories.get? k = some m →
        s'.memories.get? k = some (rowAfter r m) := by
      intro k m hm
      have hne : memoryId ≠ k := by
        intro hk
        rw [hk, hm] at hnew
        cases hnew
      rw [hget, if_neg hne, hm]
      unfold rowAfter
      rw [hoperation]
    constructor
    · exact hcharged.actor
    · exact ⟨c, hc, hcollection, hreset⟩
    · exact hothers
    · exact hkept
    · intro k m hm hselected
      obtain ⟨hactive, hversion, hstatus⟩ := rowAfter_selected hselected
      exact ⟨hactive, _, hkept k m hm, hversion, hstatus⟩
    · intro k hk
      by_cases hid : memoryId = k
      · refine .inr ⟨payload, ?_, ?_⟩
        · rw [hoperation, hid]
        · rw [hget, if_pos hid, hid]
      · refine .inl ?_
        rw [hget, if_neg hid, hk]
    · intro k other hother
      rw [hoperation] at hother
      cases hother
      exact hnew
    · intro k n htarget
      rw [hoperation] at htarget
      rcases htarget with ⟨_, hother⟩ | hother <;> cases hother
  · have hget := fun k => get?_replaceMemories hwrites k
    have hkept : ∀ k m, s.memories.get? k = some m →
        s'.memories.get? k = some (rowAfter r m) := by
      intro k m hm
      rw [hrows, hget, hm]
      rfl
    constructor
    · exact hcharged.actor
    · exact ⟨c, hc, hcollection, hreset⟩
    · exact hothers
    · exact hkept
    · intro k m hm hselected
      obtain ⟨hactive, hversion, hstatus⟩ := rowAfter_selected hselected
      exact ⟨hactive, _, hkept k m hm, hversion, hstatus⟩
    · intro k hk
      refine .inl ?_
      rw [hrows, hget, hk]
      rfl
    · intro k payload hoperation
      unfold MemoryWrites at hwrites
      rw [hoperation] at hwrites
      exact hwrites.elim
    · intro k n htarget
      unfold MemoryWrites at hwrites
      rcases htarget with ⟨payload, hoperation⟩ | hoperation
      all_goals
        rw [hoperation] at hwrites
        obtain ⟨m, hm, hcurrent, _⟩ := hwrites
        have hid := (current_organization hcurrent).2.1
        exact ⟨m, hid ▸ Table.get?_of_mem hm, hcurrent⟩

/-! ## Calls on other organizations -/

theorem rowAfter_other {m : OrganizationMemory} (h : m.organizationId ≠ r.actor.organizationId) :
    rowAfter r m = m := by
  have hcurrent : ∀ id n, current r.actor.organizationId id n m = false :=
    fun _ _ => decide_eq_false fun hall => h hall.1
  have hactive : activeIn r.actor.organizationId m = false :=
    decide_eq_false fun hall => h hall.1
  unfold rowAfter
  dsimp only
  split
  · rfl
  · rw [hcurrent, if_neg Bool.false_ne_true]
  · rw [hcurrent, if_neg Bool.false_ne_true]
  · rw [hactive, if_neg Bool.false_ne_true]

theorem rowAfter_organization (m : OrganizationMemory) :
    (rowAfter r m).organizationId = m.organizationId := by
  unfold rowAfter
  dsimp only
  split
  · rfl
  all_goals split <;> rfl

theorem rows_replaceMemories {writes : List OrganizationMemory} (h : MemoryWrites s r writes) :
    (replaceMemories s.memories writes).rows = s.memories.rows.map (rowAfter r) := by
  apply List.map_congr_left
  intro m hm
  rw [← find_writes h hm]
  dsimp only
  split
  · rfl
  · next hnone => rw [Option.not_isSome_iff_eq_none.mp hnone, Option.getD_none]

theorem memories_of_other {k : OrganizationId} (hderived : Derived memoryCalls s r t)
    (h : commitMemory s t = some s') (hk : k ≠ r.actor.organizationId) :
    s.memories.rows.filter (fun m => m.organizationId = k) =
      s'.memories.rows.filter (fun m => m.organizationId = k) := by
  obtain ⟨_, hmemories⟩ := commitMemory_ok (charged_of_derived hderived) h
  rcases hmemories with ⟨memoryId, payload, hfresh, _, hinsert⟩ | ⟨writes, hwrites, hrows⟩
  · rw [hinsert]
    show _ = (s.memories.rows ++ [newMemory r.actor memoryId payload]).filter _
    have hother : ¬ (newMemory r.actor memoryId payload).organizationId = k := fun h => hk h.symm
    rw [List.filter_append, List.filter_cons, decide_eq_false hother]
    exact (List.append_nil _).symm
  · rw [hrows, rows_replaceMemories hwrites, List.filter_map]
    have hsame : ((fun m : OrganizationMemory => decide (m.organizationId = k)) ∘ rowAfter r) =
        fun m => decide (m.organizationId = k) := by
      funext m
      rw [Function.comp_apply, rowAfter_organization]
    rw [hsame]
    have hid : ∀ m ∈ s.memories.rows.filter (fun m => m.organizationId = k), rowAfter r m = m := by
      intro m hm
      have horganization : m.organizationId = k := of_decide_eq_true (List.mem_filter.mp hm).2
      exact rowAfter_other fun h => hk (horganization.symm.trans h)
    exact ((List.map_congr_left hid).trans (List.map_id _)).symm

omit [Sha256] in
theorem charge_local (h : SameCollection r.actor.organizationId s s') :
    charge s r = charge s' r := by
  unfold charge
  rw [h.collection]

omit [Sha256] in
/-- A selection within one organization looks at no other. -/
theorem filter_local {k : OrganizationId} (h : SameCollection k s s')
    {p : OrganizationMemory → Bool} (hp : ∀ m, p m = true → m.organizationId = k) :
    s.memories.rows.filter p = s'.memories.rows.filter p := by
  have hwithin : ∀ l : List OrganizationMemory,
      l.filter p = (l.filter fun m => m.organizationId = k).filter p := by
    intro l
    rw [List.filter_filter]
    apply List.filter_congr
    intro m _
    cases hm : p m with
    | false => rfl
    | true => rw [decide_eq_true (hp m hm)]; rfl
  rw [hwithin, hwithin s'.memories.rows, h.memories]

theorem secondStatement_local (h : SameCollection t.request.actor.organizationId s s') :
    secondStatement s t = secondStatement s' t := by
  have hone : ∀ id n, s.memories.one? (current t.request.actor.organizationId id n) =
      s'.memories.one? (current t.request.actor.organizationId id n) := by
    intro id n
    have hfilter := filter_local h fun m hm => (@current_organization _ id n m hm).1
    unfold Table.one?
    rw [← List.head?_filter, ← List.head?_filter, hfilter]
  have hselect : s.memories.select (activeIn t.request.actor.organizationId) =
      s'.memories.select (activeIn t.request.actor.organizationId) :=
    filter_local h fun m hm => (of_decide_eq_true hm : _ ∧ _).1
  unfold secondStatement
  dsimp only
  rw [hselect]
  simp only [hone]

theorem memoryCalls_local : Local memoryCalls SameCollection where
  owner_start h := by
    show (OpenMemory.request _).actor.organizationId = _
    rw [(charge_ok h).1]
    rfl
  owner_next h := by
    show (OpenMemory.request _).actor.organizationId = (OpenMemory.request _).actor.organizationId
    rw [(secondStatement_ok h).1]
  start h := charge_local h
  next h := secondStatement_local h
  finish hderived h hk := by
    constructor
    · exact ((effect_of_commit hderived h).others _ hk).symm
    · exact memories_of_other hderived h hk

/-! ## Runs -/

theorem rowAfter_version (r : MemoryRequest) (m : OrganizationMemory) :
    m.version ≤ (rowAfter r m).version := by
  unfold rowAfter
  dsimp only
  split
  · exact Nat.le_refl _
  all_goals
    split
    · exact Nat.le_succ _
    · exact Nat.le_refl _

theorem rowAfter_tombstone (r : MemoryRequest) {m : OrganizationMemory}
    (h : m.status = .tombstone) : rowAfter r m = m := by
  have hcurrent : ∀ o id n, current o id n m = false := by
    intro o id n
    refine decide_eq_false fun hall => ?_
    rw [h] at hall
    cases hall.2.2.2
  have hactive : ∀ o, activeIn o m = false := by
    intro o
    refine decide_eq_false fun hall => ?_
    rw [h] at hall
    cases hall.2
  unfold rowAfter
  dsimp only
  split
  · rfl
  · rw [hcurrent, if_neg Bool.false_ne_true]
  · rw [hcurrent, if_neg Bool.false_ne_true]
  · rw [hactive, if_neg Bool.false_ne_true]

/-- What a later store keeps of an earlier one. -/
structure Later (s s' : MemoryStore) : Prop where
  collection : ∀ o c, s.collections.get? o = some c →
    ∃ c', s'.collections.get? o = some c' ∧ c.memoryVersion ≤ c'.memoryVersion
  memory : ∀ memoryId m, s.memories.get? memoryId = some m →
    ∃ m', s'.memories.get? memoryId = some m' ∧ m.version ≤ m'.version ∧
      (m.status = .tombstone → m' = m)

omit [Sha256] in
theorem Later.refl (s : MemoryStore) : Later s s where
  collection _ c h := ⟨c, h, Nat.le_refl _⟩
  memory _ m h := ⟨m, h, Nat.le_refl _, fun _ => rfl⟩

omit [Sha256] in
theorem Later.trans {s'' : MemoryStore} (h : Later s s') (h' : Later s' s'') : Later s s'' where
  collection o c hc := by
    obtain ⟨c', hc', hle⟩ := h.collection o c hc
    obtain ⟨c'', hc'', hle'⟩ := h'.collection o c' hc'
    exact ⟨c'', hc'', Nat.le_trans hle hle'⟩
  memory id m hm := by
    obtain ⟨m', hm', hle, hkept⟩ := h.memory id m hm
    obtain ⟨m'', hm'', hle', hkept'⟩ := h'.memory id m' hm'
    refine ⟨m'', hm'', Nat.le_trans hle hle', ?_⟩
    intro htombstone
    have hsame := hkept htombstone
    subst hsame
    exact hkept' htombstone

theorem Effect.later (h : Effect s r s') : Later s s' where
  collection o c hc := by
    by_cases ho : o = r.actor.organizationId
    · obtain ⟨c', hc', hafter, _⟩ := h.collection
      rw [ho, hc'] at hc
      cases hc
      rw [ho]
      exact ⟨_, hafter, Nat.le_succ _⟩
    · exact ⟨c, (h.others o ho).trans hc, Nat.le_refl _⟩
  memory id m hm :=
    ⟨rowAfter r m, h.rows id m hm, rowAfter_version r m, rowAfter_tombstone r⟩

/-- The version that `f` presented is not older than what `e` had committed before it. -/
def Saw (e f : Commit MemoryStore MemoryRequest) : Prop :=
  match f.request.operation with
  | .create .. => True
  | .update memoryId expectedVersion _ | .tombstone memoryId expectedVersion =>
    ∀ m, e.after.memories.get? memoryId = some m → m.version ≤ expectedVersion
  | .reset expectedCollectionVersion =>
    ∀ c, e.after.collections.get? f.request.actor.organizationId = some c →
      c.memoryVersion ≤ expectedCollectionVersion

/-- A commit has seen every commit whose store its own is later than. -/
theorem Effect.saw {e : Commit MemoryStore MemoryRequest} (h : Effect s r s')
    (hlater : Later e.after s) : Saw e ⟨r, s, s'⟩ := by
  have hversion : ∀ memoryId n, (∃ payload, r.operation = .update memoryId n payload) ∨
      r.operation = .tombstone memoryId n →
      ∀ m, e.after.memories.get? memoryId = some m → m.version ≤ n := by
    intro memoryId n htarget m hm
    obtain ⟨m', hm', hcurrent⟩ := h.target memoryId n htarget
    obtain ⟨k, hk, hle, _⟩ := hlater.memory memoryId m hm
    rw [hm'] at hk
    cases hk
    rw [← (current_organization hcurrent).2.2.1]
    exact hle
  unfold Saw
  dsimp only
  split
  · trivial
  · next memoryId n payload hoperation => exact hversion memoryId n (.inl ⟨payload, hoperation⟩)
  · next memoryId n hoperation => exact hversion memoryId n (.inr hoperation)
  · next n hoperation =>
    intro c hc
    obtain ⟨c', hc', _, hreset⟩ := h.collection
    obtain ⟨k, hk, hle⟩ := hlater.collection _ c hc
    rw [hc'] at hk
    cases hk
    rw [← hreset n hoperation]
    exact hle

/-- What the log says once its commits are known to be serial. -/
structure Versioned (s : MemoryStore) (log : List (Commit MemoryStore MemoryRequest))
    (s' : MemoryStore) : Prop where
  effect : ∀ e ∈ log, Effect e.before e.request e.after
  later : ∀ e ∈ log, Later e.after s'
  since : Later s s'
  saw : log.Pairwise Saw
  version : ∀ o c, s.collections.get? o = some c → ∃ c', s'.collections.get? o = some c' ∧
    c'.memoryVersion =
      c.memoryVersion + log.countP fun e => e.request.actor.organizationId = o

theorem Versioned.commit {s'' : MemoryStore} {log : List (Commit MemoryStore MemoryRequest)}
    (h : Versioned s log s') (heffect : Effect s' r s'') :
    Versioned s (log ++ [⟨r, s', s''⟩]) s'' := by
  constructor
  · intro e he
    rcases List.mem_append.mp he with hold | hnew
    · exact h.effect e hold
    · rw [List.mem_singleton.mp hnew]
      exact heffect
  · intro e he
    rcases List.mem_append.mp he with hold | hnew
    · exact (h.later e hold).trans heffect.later
    · rw [List.mem_singleton.mp hnew]
      exact .refl s''
  · exact h.since.trans heffect.later
  · refine List.pairwise_append.mpr ⟨h.saw, List.pairwise_singleton _ _, ?_⟩
    intro e he f hf
    rw [List.mem_singleton.mp hf]
    exact heffect.saw (h.later e he)
  · intro o c hc
    obtain ⟨c', hc', hversion⟩ := h.version o c hc
    rw [List.countP_append, List.countP_singleton]
    by_cases ho : r.actor.organizationId = o
    · obtain ⟨k, hk, hafter, _⟩ := heffect.collection
      rw [ho, hc'] at hk
      cases hk
      rw [ho] at hafter
      refine ⟨_, hafter, ?_⟩
      rw [decide_eq_true ho, if_pos rfl, hversion]
      show _ + 1 = _ + (_ + 1)
      omega
    · refine ⟨c', (heffect.others o fun h => ho h.symm).trans hc', ?_⟩
      rw [decide_eq_false ho, if_neg Bool.false_ne_true, hversion]
      omega

theorem versioned_of_serial {log : List (Commit MemoryStore MemoryRequest)}
    (h : Serial memoryCalls s log s') : Versioned s log s' := by
  induction h with
  | start =>
    refine ⟨?_, ?_, .refl s, .nil, fun o c hc => ⟨c, hc, rfl⟩⟩
    · intro e he
      cases he
    · intro e he
      cases he
  | commit _ hderived hfinish ih => exact ih.commit (effect_of_commit hderived hfinish)

/-- In every interleaving of calls on organization memories: the store changes by the logged
commits only, each with the effect of its call at once; the memory version counts the commits of
the organization; a commit presented versions that were current and not older than any earlier
commit left them; and a tombstone stays as it is. -/
theorem memory_versioning {c : Config MemoryStore MemoryRequest OpenMemory}
    (hrun : ReflTransGen (Step memoryCalls) (Config.start s) c) :
    Chain s c.log c.store ∧
      (∀ e ∈ c.log, Effect e.before e.request e.after) ∧
      (∀ o collection, s.collections.get? o = some collection →
        ∃ later, c.store.collections.get? o = some later ∧ later.memoryVersion =
          collection.memoryVersion +
            c.log.countP fun e => e.request.actor.organizationId = o) ∧
      c.log.Pairwise Saw ∧
      (∀ e ∈ c.log, ∀ memoryId m, e.after.memories.get? memoryId = some m →
        m.status = .tombstone → c.store.memories.get? memoryId = some m) ∧
      ∀ memoryId m, s.memories.get? memoryId = some m → m.status = .tombstone →
        c.store.memories.get? memoryId = some m := by
  have hserial := serial_of_run memoryCalls_local hrun
  have hversioned := versioned_of_serial hserial
  refine ⟨hserial.chain, hversioned.effect, hversioned.version, hversioned.saw, ?_, ?_⟩
  · intro e he id m hm htombstone
    obtain ⟨m', hm', _, hkept⟩ := (hversioned.later e he).memory id m hm
    rw [hm', hkept htombstone]
  · intro id m hm htombstone
    obtain ⟨m', hm', _, hkept⟩ := hversioned.since.memory id m hm
    rw [hm', hkept htombstone]

end

section

attribute [local instance] polynomialSha256

/-- One organization without memories. -/
def noMemories : MemoryStore := ⟨Table.insert .empty ⟨⟨1⟩, 1⟩ rfl, .empty⟩

def location : MemoryCreate := ⟨.location, "office-2", 0, none⟩

def createLocation : MemoryRequest := ⟨⟨⟨1⟩, ⟨7⟩⟩, ⟨1⟩, .create ⟨5⟩ location⟩

/-- A reset that was asked for before the memory was created. -/
def resetBefore : MemoryRequest := ⟨⟨⟨1⟩, ⟨7⟩⟩, ⟨1⟩, .reset 1⟩

def locationCreated : MemoryStore :=
  ⟨Table.insert .empty ⟨⟨1⟩, 2⟩ rfl, Table.insert .empty (newMemory ⟨⟨1⟩, ⟨7⟩⟩ ⟨5⟩ location) rfl⟩

/-- Both calls are open when the creation commits; the reset then presents an old version. -/
theorem location_created : ReflTransGen (Step memoryCalls) (Config.start noMemories)
    ⟨locationCreated, Function.update (Function.update (Function.update (Function.update
      (fun _ => none) 0 (some (createLocation, none))) 1 (some (resetBefore, none))) 0
        (some (createLocation, some ⟨createLocation, 2, none⟩))) 0 none,
      [⟨createLocation, noMemories, locationCreated⟩]⟩ := by
  refine .tail (.tail (.tail (.single (.open (i := 0) (r := createLocation) rfl))
    (.open (i := 1) (r := resetBefore) rfl)) (.lock (i := 0) (r := createLocation)
      (t := ⟨createLocation, 2, none⟩) rfl ?_ rfl))
    (.commit (i := 0) (r := createLocation) (t := ⟨createLocation, 2, none⟩) rfl rfl)
  intro i r t hi
  rcases update_cases hi with ⟨_, hnew⟩ | ⟨_, hold⟩
  · cases hnew
  · rcases update_cases hold with ⟨_, hnew⟩ | ⟨_, hnone⟩
    · cases hnew
    · cases hnone

theorem memory_versioning_locationCreated :
    ∃ later, locationCreated.collections.get? ⟨1⟩ = some later ∧ later.memoryVersion = 2 ∧
      Effect noMemories createLocation locationCreated ∧
      charge locationCreated resetBefore = none := by
  obtain ⟨_, heffect, hversion, _⟩ := memory_versioning location_created
  obtain ⟨later, hlater, hcount⟩ := hversion ⟨1⟩ ⟨⟨1⟩, 1⟩ rfl
  refine ⟨later, hlater, ?_, heffect _ List.mem_cons_self, by decide⟩
  rw [hcount]
  rfl

end

end FlowPilot.Control

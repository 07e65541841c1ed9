import Mathlib.Data.Fintype.Basic
import FlowPilot.Lib.System
import FlowPilot.Planning.Assembled

/-!
# Concurrent assemblies

`POST /api/context/assemble` runs in the threads of the server: each call has its own ledger, the
memory is shared.  A call clones the memory, prepares its context, applies its mutations one by one
and concludes, and the steps of different calls come in any order.
-/

open FlowPilot.Lib Relation

namespace FlowPilot.Planning.Context

section

variable [Sha256]

/-! ## Calls -/

/-- How far a call is. -/
inductive Phase where
  | waiting
  | cloned (clone : OrganizationMemoryStore)
  | replaying (clone : OrganizationMemoryStore) (gathered : Gathered)
      (selected : List ContextItem) (rest : List MemoryMutation)
  | returned (clone : OrganizationMemoryStore) (result : ContextAssembleResult)
  | raised (e : ContextError)

/-- A mutation that took effect on the shared store. -/
structure Commit where
  mutation : MemoryMutation
  before : OrganizationMemoryStore
  after : OrganizationMemoryStore
  deriving DecidableEq

/-- A call of `assemble`; `commits` only records what it has changed. -/
structure Call where
  request : ContextAssembleRequest
  ledger : TotalBudgetLedger
  phase : Phase
  commits : List Commit

namespace Call

/-- The next step of a call on the shared memory: `assemble`, cut where another call can come in
between. -/
def advance (call : Call) (memory : OrganizationMemoryStore) : Call × OrganizationMemoryStore :=
  match call.phase with
  | .waiting => ({ call with phase := .cloned memory }, memory)
  | .cloned clone =>
    match prepare call.request clone call.ledger with
    | .ok (gathered, selected) ledger =>
      ({ call with
          ledger := ledger
          phase := .replaying clone gathered selected gathered.pending }, memory)
    | .error e ledger => ({ call with ledger := ledger, phase := .raised e }, memory)
  | .replaying clone gathered selected (mutation :: rest) =>
    match mutateFor call.request mutation memory with
    | .ok after =>
      ({ call with
          phase := .replaying clone gathered selected rest
          commits := call.commits ++ [⟨mutation, memory, after⟩] }, after)
    | .error e => ({ call with phase := .raised e.raised }, memory)
  | .replaying clone gathered selected [] =>
    match conclude call.request gathered selected call.ledger with
    | .ok result ledger => ({ call with ledger := ledger, phase := .returned clone result }, memory)
    | .error e ledger => ({ call with ledger := ledger, phase := .raised e }, memory)
  | .returned _ _ => (call, memory)
  | .raised _ => (call, memory)

end Call

/-- The mutations that a request asks to be made. -/
def ContextAssembleRequest.pending (request : ContextAssembleRequest) : List MemoryMutation :=
  if .orgMemory ∈ profileLayers request.ablation then request.memoryMutations else []

/-- Commits of a request in a row, from a store to a store. -/
def Chain (request : ContextAssembleRequest) :
    OrganizationMemoryStore → List Commit → OrganizationMemoryStore → Prop
  | first, [], last => first = last
  | first, commit :: rest, last =>
    commit.before = first ∧ mutateFor request commit.mutation first = .ok commit.after ∧
      Chain request commit.after rest last

namespace Call

/-- All of its mutations, in order and from the store that it previewed, or none. -/
def Atomic (call : Call) : Prop :=
  match call.phase with
  | .raised _ => call.commits = []
  | .returned clone _ =>
    call.commits.map Commit.mutation = call.request.pending ∧
      ∃ last, Chain call.request clone call.commits last
  | _ => True

/-- The mutations that a call has previewed and not made yet. -/
def remaining (call : Call) : List MemoryMutation :=
  match call.phase with
  | .cloned _ => call.request.pending
  | .replaying _ _ _ rest => rest
  | _ => []

/-- Between its clone and its last mutation. -/
def Pending (call : Call) : Prop := call.remaining ≠ []

instance (call : Call) : Decidable call.Pending := inferInstanceAs (Decidable (_ ≠ _))

/-- Nothing has happened yet. -/
def Fresh (call : Call) : Prop := call.phase = .waiting ∧ call.commits = []

end Call

/-! ## The endpoint -/

/-- The shared memory and the calls. -/
structure Endpoint (ι : Type) where
  memory : OrganizationMemoryStore
  calls : ι → Call

namespace Endpoint

variable {ι : Type} [DecidableEq ι]

/-- The call `i` makes its next step. -/
def act (s : Endpoint ι) (i : ι) : Endpoint ι :=
  let (call, memory) := (s.calls i).advance s.memory
  { memory := memory, calls := Function.update s.calls i call }

def Step (s t : Endpoint ι) : Prop := ∃ i, t = s.act i

omit [DecidableEq ι] in
/-- A mutation takes effect while no other call is between its clone and its last mutation. -/
def Undisturbed (s t : Endpoint ι) : Prop :=
  ∀ i, (t.calls i).commits ≠ (s.calls i).commits → ∀ j, j ≠ i → ¬ (s.calls j).Pending

end Endpoint

/-! ## The preview -/

variable {request : ContextAssembleRequest}

/-- What is gathered can be applied to the clone. -/
theorem gather_previews (clone : OrganizationMemoryStore) :
    Returns (gather request clone) fun gathered =>
      gathered.pending = request.pending ∧
        ∃ last, applied request request.pending clone = .ok last := by
  refine Returns.after fun _ => Returns.after fun _ => Returns.after fun _ => Returns.after fun _ =>
    ?_
  have hmemory : Returns (whenEnabled request .orgMemory (memoryLayer request clone) []) fun _ =>
      ∃ last, applied request request.pending clone = .ok last := by
    unfold whenEnabled ContextAssembleRequest.pending
    split
    · intro l
      refine (memoryLayer_returns clone l).mono ?_ fun _ _ h => h
      exact fun _ _ ⟨preview, _, hpreview, _⟩ => ⟨preview, hpreview⟩
    · exact Returns.of_pure ⟨clone, rfl⟩
  exact hmemory.bind fun _ h => Returns.after fun _ => Returns.of_pure ⟨rfl, h⟩

/-! ## The conclusion -/

/-- Nothing is raised behind the last mutation. -/
theorem conclude_ok {clone : OrganizationMemoryStore} {gathered : Gathered}
    {selected : List ContextItem} (h : Prepared request clone gathered selected) (l : TotalBudgetLedger) :
    ∃ result l', conclude request gathered selected l = .ok result l' := by
  have hvalid : ¬ (contextOf request gathered selected).valid = false := by
    rw [h.valid]
    decide
  show ∃ result l', (if (contextOf request gathered selected).valid = false then _ else _ :
    PrepareM ContextAssembleResult) l = .ok result l'
  rw [if_neg hvalid]
  exact ⟨_, _, rfl⟩

/-! ## One step -/

theorem Chain.snoc {commits : List Commit} {first last : OrganizationMemoryStore} {commit : Commit}
    (h : Chain request first commits last) (hbefore : commit.before = last)
    (hmutate : mutateFor request commit.mutation last = .ok commit.after) :
    Chain request first (commits ++ [commit]) commit.after := by
  induction commits generalizing first with
  | nil =>
    have hfirst : first = last := h
    rw [hfirst]
    exact ⟨hbefore, hmutate, rfl⟩
  | cons c rest ih => exact ⟨h.1, h.2.1, ih h.2.2⟩

namespace Call

/-- What holds of a call while the shared memory is `memory`: the mutations that are left can be
made, and where there are some, nobody else has changed the memory. -/
def Sound (call : Call) (memory : OrganizationMemoryStore) : Prop :=
  match call.phase with
  | .waiting => call.commits = []
  | .cloned clone => call.commits = [] ∧ (call.request.pending ≠ [] → clone = memory)
  | .replaying clone gathered selected rest =>
    Prepared call.request clone gathered selected ∧
      call.commits.map Commit.mutation ++ rest = call.request.pending ∧
      ∃ last, Chain call.request clone call.commits last ∧
        (∃ final, applied call.request rest last = .ok final) ∧ (rest ≠ [] → last = memory)
  | .returned _ _ => call.Atomic
  | .raised _ => call.Atomic

variable {call : Call} {memory : OrganizationMemoryStore}

theorem Fresh.sound (h : call.Fresh) (memory : OrganizationMemoryStore) : call.Sound memory := by
  unfold Sound
  rw [h.1]
  exact h.2

theorem Sound.atomic (h : call.Sound memory) : call.Atomic := by
  unfold Sound at h
  unfold Atomic
  cases hphase : call.phase with
  | waiting => trivial
  | cloned clone => trivial
  | replaying clone gathered selected rest => trivial
  | returned clone result =>
    rw [hphase] at h
    unfold Atomic at h
    rw [hphase] at h
    exact h
  | raised e =>
    rw [hphase] at h
    unfold Atomic at h
    rw [hphase] at h
    exact h

/-- A call that is not pending does not depend on the shared memory. -/
theorem Sound.of_not_pending (h : call.Sound memory) (hpending : ¬ call.Pending)
    (memory' : OrganizationMemoryStore) : call.Sound memory' := by
  unfold Sound at h ⊢
  unfold Pending remaining at hpending
  cases hphase : call.phase with
  | waiting =>
    rw [hphase] at h
    exact h
  | cloned clone =>
    rw [hphase] at h hpending
    exact ⟨h.1, fun hne => absurd hne hpending⟩
  | replaying clone gathered selected rest =>
    rw [hphase] at h hpending
    have ⟨hprepared, hdone, last, hchain, hrest, _⟩ := h
    exact ⟨hprepared, hdone, last, hchain, hrest, fun hne => absurd hne hpending⟩
  | returned clone result =>
    rw [hphase] at h
    exact h
  | raised e =>
    rw [hphase] at h
    exact h

/-- A call changes the memory by its commits only. -/
theorem advance_memory (call : Call) (memory : OrganizationMemoryStore)
    (h : (call.advance memory).1.commits = call.commits) : (call.advance memory).2 = memory := by
  have ⟨request, ledger, phase, commits⟩ := call
  unfold advance at h ⊢
  cases phase with
  | waiting => rfl
  | cloned clone =>
    dsimp only
    split <;> rfl
  | replaying clone gathered selected rest =>
    cases rest with
    | nil =>
      dsimp only
      split <;> rfl
    | cons mutation rest =>
      dsimp only at h ⊢
      cases hmutate : mutateFor request mutation memory with
      | ok after =>
        rw [hmutate] at h
        have hlength := congrArg List.length h
        rw [List.length_append] at hlength
        exact absurd hlength (Nat.succ_ne_self _)
      | error e => rfl
  | returned clone result => rfl
  | raised e => rfl

/-- A step of the call itself keeps what holds of it. -/
theorem Sound.advance (h : call.Sound memory) :
    (call.advance memory).1.Sound (call.advance memory).2 := by
  have ⟨request, ledger, phase, commits⟩ := call
  unfold Call.advance
  cases phase with
  | waiting => exact ⟨h, fun _ => rfl⟩
  | cloned clone =>
    have ⟨hcommits, hclone⟩ := h
    dsimp only at hcommits hclone ⊢
    have hprepare := prepare_returns request clone ledger
    cases hrun : prepare request clone ledger with
    | error e l => exact hcommits
    | ok p l =>
      have ⟨hprepared, l', hgather⟩ := hprepare.ok hrun
      have ⟨hpending, hlast⟩ := (gather_previews clone ledger).ok hgather
      refine ⟨hprepared, ?_, clone, ?_, ?_, ?_⟩
      · rw [hcommits]
        exact hpending
      · rw [hcommits]
        exact rfl
      · rw [hpending]
        exact hlast
      · intro hne
        rw [hpending] at hne
        exact hclone hne
  | replaying clone gathered selected rest =>
    have ⟨hprepared, hdone, last, hchain, hrest, hmemory⟩ := h
    cases rest with
    | nil =>
      -- the conclusion does not raise
      have ⟨result, l', hrun⟩ := conclude_ok hprepared ledger
      dsimp only at hrun hdone hchain ⊢
      rw [hrun]
      rw [List.append_nil] at hdone
      exact ⟨hdone, last, hchain⟩
    | cons mutation rest =>
      -- the memory is where the commits so far have led, so the mutation can be made as previewed
      have hlast : last = memory := hmemory (List.cons_ne_nil _ _)
      have ⟨final, hfinal⟩ := hrest
      rw [hlast] at hchain hfinal
      rw [applied_cons] at hfinal
      dsimp only at hdone hchain hfinal ⊢
      cases hmutate : mutateFor request mutation memory with
      | error e =>
        rw [hmutate] at hfinal
        cases hfinal
      | ok after =>
        rw [hmutate] at hfinal
        refine ⟨hprepared, ?_, after, hchain.snoc rfl hmutate, ⟨final, hfinal⟩, fun _ => rfl⟩
        rw [List.map_append, List.append_assoc]
        exact hdone
  | returned clone result => exact h
  | raised e => exact h

end Call

/-! ## Runs -/

namespace Endpoint

variable {ι : Type} [DecidableEq ι] {s t : Endpoint ι}

omit [DecidableEq ι] in
def Sound (s : Endpoint ι) : Prop := ∀ i, (s.calls i).Sound s.memory

theorem sound_step (hs : s.Sound) (h : Guarded Undisturbed Step s t) : t.Sound := by
  have ⟨hquiet, i, ht⟩ := h
  have hquiet := hquiet i
  rw [ht] at hquiet ⊢
  intro j
  have hcall : (s.act i).calls i = ((s.calls i).advance s.memory).1 :=
    Function.update_self ..
  by_cases hj : j = i
  · rw [hj, hcall]
    exact (hs i).advance
  · have hother : (s.act i).calls j = s.calls j := Function.update_of_ne hj ..
    rw [hother]
    -- the others see the memory change only when they are not pending
    by_cases hcommits : ((s.act i).calls i).commits = (s.calls i).commits
    · rw [hcall] at hcommits
      have hmemory : (s.act i).memory = s.memory := (s.calls i).advance_memory s.memory hcommits
      rw [hmemory]
      exact hs j
    · exact (hs j).of_not_pending (hquiet hcommits j hj) _

/-- Every call that is over has made all of its mutations on the memory that it previewed, or none,
in every run in which no mutation of another call comes between its clone and its last one. -/
theorem assembly_atomic (hfresh : ∀ i, (s.calls i).Fresh)
    (hrun : ReflTransGen (Guarded Undisturbed Step) s t) (i : ι) : (t.calls i).Atomic := by
  have hstart : s.Sound := fun j => (hfresh j).sound s.memory
  have hsound : t.Sound := invariant_of_run (I := Sound) (fun _ _ => sound_step) hstart hrun
  exact (hsound i).atomic

/-! ## Schedules -/

/-- The calls of a list make one step each. -/
def runAll (s : Endpoint ι) (schedule : List ι) : Endpoint ι := schedule.foldl act s

instance [Fintype ι] (s t : Endpoint ι) : Decidable (Undisturbed s t) :=
  inferInstanceAs (Decidable (∀ i, (t.calls i).commits ≠ (s.calls i).commits →
    ∀ j, j ≠ i → ¬ (s.calls j).Pending))

/-- Every step of a schedule is undisturbed. -/
def quiet [Fintype ι] : Endpoint ι → List ι → Bool
  | _, [] => true
  | s, i :: rest => decide (Undisturbed s (s.act i)) && quiet (s.act i) rest

theorem run_of_schedule (s : Endpoint ι) (schedule : List ι) :
    ReflTransGen Step s (s.runAll schedule) := by
  induction schedule generalizing s with
  | nil => exact ReflTransGen.refl
  | cons i rest ih => exact ReflTransGen.head ⟨i, rfl⟩ (ih (s.act i))

theorem run_of_quiet [Fintype ι] {s : Endpoint ι} {schedule : List ι}
    (h : quiet s schedule = true) :
    ReflTransGen (Guarded Undisturbed Step) s (s.runAll schedule) := by
  induction schedule generalizing s with
  | nil => exact ReflTransGen.refl
  | cons i rest ih =>
    unfold quiet at h
    have ⟨hfirst, hrest⟩ := Bool.and_eq_true_iff.mp h
    exact ReflTransGen.head ⟨of_decide_eq_true hfirst, i, rfl⟩ (ih hrest)

/-! ## A call that runs alone -/

end Endpoint

/-- Some steps of one call. -/
def Leads : Call × OrganizationMemoryStore → Call × OrganizationMemoryStore → Prop :=
  ReflTransGen fun p q => q = p.1.advance p.2

theorem Leads.one {p q r : Call × OrganizationMemoryStore} (hfirst : p.1.advance p.2 = q)
    (hrest : Leads q r) : Leads p r :=
  ReflTransGen.head hfirst.symm hrest

variable (request) (clone : OrganizationMemoryStore) (gathered : Gathered)
  (selected : List ContextItem) in
/-- The steps of a call make the mutations as `replay` does. -/
theorem replay_leads (rest : List MemoryMutation) (commits : List Commit) (s : AssemblerState) :
    Ensures (replay request rest) s
      (fun _ t => ∃ commits',
        Leads (⟨request, s.ledger, .replaying clone gathered selected rest, commits⟩, s.memory)
          (⟨request, t.ledger, .replaying clone gathered selected [], commits'⟩, t.memory))
      fun e t => ∃ commits',
        Leads (⟨request, s.ledger, .replaying clone gathered selected rest, commits⟩, s.memory)
          (⟨request, t.ledger, .raised e, commits'⟩, t.memory) := by
  induction rest generalizing commits s with
  | nil => exact ⟨commits, ReflTransGen.refl⟩
  | cons mutation rest ih =>
    unfold replay
    refine Ensures.bind (Ensures.of_get ?_)
    cases hmutate : mutateFor request mutation s.memory with
    | error e =>
      refine ⟨commits, Leads.one ?_ ReflTransGen.refl⟩
      unfold Call.advance
      dsimp only
      rw [hmutate]
    | ok after =>
      refine Ensures.bind (Ensures.of_set ?_)
      have hstep : Call.advance
          ⟨request, s.ledger, .replaying clone gathered selected (mutation :: rest), commits⟩
          s.memory =
          (⟨request, s.ledger, .replaying clone gathered selected rest,
            commits ++ [⟨mutation, s.memory, after⟩]⟩, after) := by
        unfold Call.advance
        dsimp only
        rw [hmutate]
      refine (ih (commits ++ [⟨mutation, s.memory, after⟩]) { s with memory := after }).mono ?_ ?_
      · intro _ t ⟨commits', hleads⟩
        exact ⟨commits', hleads.one hstep⟩
      · intro e t ⟨commits', hleads⟩
        exact ⟨commits', hleads.one hstep⟩

/-- A call that runs alone leaves the ledger, the memory and the outcome of `assemble`. -/
theorem assemble_leads (s : AssemblerState) :
    Ensures (assemble request) s
      (fun result t => ∃ commits, Leads (⟨request, s.ledger, .waiting, []⟩, s.memory)
        (⟨request, t.ledger, .returned s.memory result, commits⟩, t.memory))
      fun e t => ∃ commits, Leads (⟨request, s.ledger, .waiting, []⟩, s.memory)
        (⟨request, t.ledger, .raised e, commits⟩, t.memory) := by
  have hclone : Call.advance ⟨request, s.ledger, .waiting, []⟩ s.memory =
      (⟨request, s.ledger, .cloned s.memory, []⟩, s.memory) := rfl
  unfold assemble
  refine Ensures.bind (Ensures.of_get (Ensures.bind (Ensures.of_zoom ?_)))
  refine (Ensures.self (prepare request s.memory) s.ledger).mono ?_ ?_
  · intro ⟨gathered, selected⟩ l hprepare
    have hprepared : Call.advance ⟨request, s.ledger, .cloned s.memory, []⟩ s.memory =
        (⟨request, l, .replaying s.memory gathered selected gathered.pending, []⟩, s.memory) := by
      unfold Call.advance
      dsimp only
      rw [hprepare]
    have hreplays := replay_leads request s.memory gathered selected gathered.pending []
      { s with ledger := l }
    refine Ensures.bind (hreplays.mono ?_ ?_)
    · intro _ t ⟨commits, hreplay⟩
      refine Ensures.of_zoom ?_
      refine (Ensures.self (conclude request gathered selected) t.ledger).mono ?_ ?_
      · intro result l' hconclude
        refine ⟨commits, Leads.one hclone (Leads.one hprepared (ReflTransGen.tail hreplay ?_))⟩
        unfold Call.advance
        dsimp only
        rw [hconclude]
      · intro e l' hconclude
        refine ⟨commits, Leads.one hclone (Leads.one hprepared (ReflTransGen.tail hreplay ?_))⟩
        unfold Call.advance
        dsimp only
        rw [hconclude]
        rfl
    · intro e t ⟨commits, hreplay⟩
      exact ⟨commits, (hreplay.one hprepared).one hclone⟩
  · intro e l hprepare
    refine ⟨[], Leads.one hclone (Leads.one ?_ ReflTransGen.refl)⟩
    unfold Call.advance
    dsimp only
    rw [hprepare]
    rfl

end

/-! ## Two tasks and one key -/

section

attribute [local instance] polynomialSha256

def rememberRole (memoryId : String) : MemoryMutation :=
  .upsert memoryId .role "engineer" year2026 none

def remembering (taskId : String) (mutations : List MemoryMutation)
    (hlength : mutations.length ≤ 12) : ContextAssembleRequest where
  runId := "run_context01"
  taskId := taskId
  scopeId := "syn_scope_alpha"
  actorScopeId := "syn_scope_alpha"
  process := .joiner
  phase := .planning
  asOf := year2026
  databaseSnapshotHash := ⟨0⟩
  taskFacts := [⟨"fact.ticket", taskId, "syn_scope_alpha", .ticketState, "pending", 7⟩]
  browserWorking := []
  shortTermEvents := []
  memoryMutations := mutations
  ablation := .noEnterpriseRetrieval
  budget := {}
  taskFacts_length := ⟨Nat.le_refl 1, Nat.le_add_left 1 7⟩
  browserWorking_length := Nat.zero_le _
  shortTermEvents_length := Nat.zero_le _
  memoryMutations_length := hlength
  scope := rfl
  owned := by
    refine ⟨?_, fun _ h => absurd h List.not_mem_nil, fun _ h => absurd h List.not_mem_nil⟩
    intro fact hfact
    rw [List.mem_singleton.mp hfact]
    exact ⟨rfl, rfl⟩

def waitingCall (request : ContextAssembleRequest) : Call :=
  ⟨request, .init {} fun _ => 0, .waiting, []⟩

/-- The second mutation of one task and the only one of the other have the same key. -/
def contending : Endpoint Bool where
  memory := []
  calls := fun second =>
    bif second then
      waitingCall (remembering "w7-jml-joiner-002-v1" [rememberRole "memory.role"] (by decide))
    else
      waitingCall (remembering "w7-jml-joiner-001-v1"
        [rememberRole "memory.title", rememberRole "memory.role"] (by decide))

theorem contending_fresh (i : Bool) : (contending.calls i).Fresh := by
  cases i <;> exact ⟨rfl, rfl⟩

/-- One call after the other. -/
def oneByOne : List Bool := [true, true, true, true, false, false, false]

theorem oneByOne_quiet : Endpoint.quiet contending oneByOne = true := by decide +kernel

theorem assembly_atomic_oneByOne :
    ((contending.runAll oneByOne).calls true).Atomic ∧
      ((contending.runAll oneByOne).calls false).Atomic := by
  have hrun := Endpoint.run_of_quiet oneByOne_quiet
  generalize contending.runAll oneByOne = t at hrun ⊢
  exact ⟨Endpoint.assembly_atomic contending_fresh hrun true,
    Endpoint.assembly_atomic contending_fresh hrun false⟩

/-- The second call runs between the clone and the mutations of the first. -/
def inBetween : List Bool := [false, true, true, true, true, false, false, false]

/-- The call has raised. -/
def Call.failed (call : Call) : Bool :=
  match call.phase with
  | .raised _ => true
  | _ => false

theorem Call.not_atomic {call : Call} (hfailed : call.failed = true)
    (hcommits : call.commits ≠ []) : ¬ call.Atomic := by
  intro hatomic
  unfold Atomic at hatomic
  unfold failed at hfailed
  split at hfailed
  · rename_i hphase
    rw [hphase] at hatomic
    exact hcommits hatomic
  · cases hfailed

/-- The first call raises, and the first of its two mutations is in the memory. -/
theorem prefix_left_behind :
    (∀ i, (contending.calls i).Fresh) ∧
    ReflTransGen Endpoint.Step contending (contending.runAll inBetween) ∧
    ¬ ((contending.runAll inBetween).calls false).Atomic ∧
    (contending.runAll inBetween).memory.map OrganizationMemoryRecord.memoryId =
      ["memory.role", "memory.title"] :=
  ⟨contending_fresh, Endpoint.run_of_schedule _ _,
    Call.not_atomic (by decide +kernel) (by decide +kernel), by decide +kernel⟩

end

end FlowPilot.Planning.Context

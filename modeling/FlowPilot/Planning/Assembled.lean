import FlowPilot.Planning.ContextBudget

/-!
# The assembled context

What `assemble` returns: the greedy selection from the layers that it has gathered, in a context
that its own schema accepts.
-/

open FlowPilot.Lib

namespace FlowPilot.Planning.Context

open AssembledContext

section

variable [Sha256]

variable {request : ContextAssembleRequest} {layer : ContextLayer}

/-! ## The layers -/

/-- Items from these drafts. -/
def From (drafts : List Draft) (items : List ContextItem) : Prop :=
  items.map ContextItem.toDraft = drafts

theorem measuredAll_returns (drafts : List Draft) :
    Returns (measuredAll drafts) (From drafts) := by
  induction drafts with
  | nil => exact Returns.of_pure rfl
  | cons d rest ih =>
    have hmeasured : Returns (measured d) fun item => item.toDraft = d := by
      unfold measured
      split
      · exact Returns.of_pure rfl
      · exact Returns.of_throw _
    refine hmeasured.bind fun item hitem => ?_
    refine ih.bind fun items hitems => ?_
    refine Returns.of_pure ?_
    unfold From at hitems ⊢
    rw [List.map_cons, hitem, hitems]

/-- All items are of the layer. -/
def Within (layer : ContextLayer) (items : List ContextItem) : Prop :=
  ∀ item ∈ items, item.layer = layer

theorem From.within {α : Type} {draft : α → Draft} {xs : List α} {items : List ContextItem}
    (h : From (xs.map draft) items) (hdraft : ∀ x, (draft x).layer = layer) :
    Within layer items := by
  intro item hitem
  have hmem : item.toDraft ∈ xs.map draft := by
    rw [← h]
    exact List.mem_map_of_mem hitem
  have ⟨x, _, hx⟩ := List.mem_map.mp hmem
  show item.toDraft.layer = layer
  rw [← hx]
  exact hdraft x

/-- What `Q` says of an enabled layer; another one is empty. -/
def IfEnabled (request : ContextAssembleRequest) (layer : ContextLayer)
    (Q : List ContextItem → Prop) (items : List ContextItem) : Prop :=
  (layer ∈ profileLayers request.ablation → Q items) ∧
    (layer ∉ profileLayers request.ablation → items = [])

theorem IfEnabled.within {Q : List ContextItem → Prop} {items : List ContextItem}
    (h : IfEnabled request layer Q items) (hQ : Q items → Within layer items) :
    Within layer items := by
  by_cases henabled : layer ∈ profileLayers request.ablation
  · exact hQ (h.1 henabled)
  · rw [h.2 henabled]
    exact fun _ hnone => absurd hnone List.not_mem_nil

theorem whenEnabled_returns {α : Type} {x : PrepareM α} {otherwise : α}
    (items : α → List ContextItem) {Q : List ContextItem → Prop}
    (hx : Returns x fun a => Q (items a)) (hotherwise : items otherwise = []) :
    Returns (whenEnabled request layer x otherwise) fun a =>
      IfEnabled request layer Q (items a) := by
  unfold whenEnabled
  split
  · next henabled =>
    intro l
    refine (hx l).mono ?_ fun _ _ h => h
    exact fun a _ ha => ⟨fun _ => ha, fun hnot => absurd henabled hnot⟩
  · next hdisabled =>
    exact Returns.of_pure ⟨fun henabled => absurd henabled hdisabled, fun _ => hotherwise⟩

/-- Mutations on a store, the first error ends them. -/
def applied (request : ContextAssembleRequest) (mutations : List MemoryMutation)
    (store : OrganizationMemoryStore) : Except MemoryError OrganizationMemoryStore :=
  mutations.foldlM (fun store mutation => mutateFor request mutation store) store

theorem applied_cons (mutation : MemoryMutation) (rest : List MemoryMutation)
    (store : OrganizationMemoryStore) :
    applied request (mutation :: rest) store =
      (mutateFor request mutation store).bind (applied request rest) := by
  unfold applied
  rw [List.foldlM_cons]
  rfl

/-- The preview returns where the mutations can be made on the clone. -/
theorem previewed_returns (mutations : List MemoryMutation) (store : OrganizationMemoryStore) :
    Returns (previewed request mutations store) fun preview =>
      applied request mutations store = .ok preview := by
  induction mutations generalizing store with
  | nil => exact Returns.of_pure rfl
  | cons mutation rest ih =>
    unfold previewed
    rw [applied_cons]
    cases hmutate : mutateFor request mutation store with
    | ok preview => exact ih preview
    | error e =>
      cases e with
      | scopeViolation => exact Returns.after fun _ => Returns.of_throw _
      | valueError => exact Returns.of_throw _

/-- The drafts of the summary. -/
def summaryDrafts (request : ContextAssembleRequest) : List Draft :=
  (summarize request.taskId request.scopeId request.shortTermEvents).entries.map
    (summaryDraft request)

/-- The drafts of the retrieved records. -/
def knowledgeDrafts (request : ContextAssembleRequest) : List Draft :=
  (retrieve (retrievalCategory request) request.scopeId request.asOf).selected.map knowledgeDraft

/-- The items are what the organization can read once the mutations are made on the clone. -/
def Remembered (request : ContextAssembleRequest) (clone : OrganizationMemoryStore)
    (items : List ContextItem) : Prop :=
  ∃ preview records, applied request request.memoryMutations clone = .ok preview ∧
    preview.read request.actorScopeId request.scopeId request.asOf = .ok records ∧
    From (records.map memoryDraft) items

theorem shortTermLayer_returns :
    Returns (shortTermLayer request) fun p => From (summaryDrafts request) p.2 :=
  Returns.after fun _ => (measuredAll_returns _).bind fun _ h => Returns.of_pure h

theorem memoryLayer_returns (clone : OrganizationMemoryStore) :
    Returns (memoryLayer request clone) (Remembered request clone) := by
  unfold memoryLayer
  split
  · exact Returns.of_throw _
  · refine (previewed_returns _ clone).bind fun preview hpreview => ?_
    cases hread : preview.read request.actorScopeId request.scopeId request.asOf with
    | error e => exact Returns.of_throw _
    | ok records =>
      refine Returns.after fun _ => ?_
      intro l
      refine (measuredAll_returns _ l).mono ?_ fun _ _ h => h
      exact fun items _ hitems => ⟨preview, records, hpreview, hread, hitems⟩

theorem knowledgeLayer_returns :
    Returns (knowledgeLayer request) fun p => From (knowledgeDrafts request) p.2 :=
  Returns.after fun _ => (measuredAll_returns _).bind fun _ h => Returns.of_pure h

/-- What there is to select from: the layers of the request and of the clone of the memory. -/
structure Collected (request : ContextAssembleRequest) (clone : OrganizationMemoryStore)
    (g : Gathered) : Prop where
  facts : From ((sortedFacts request).map (factDraft request)) (g.layers .taskFacts)
  browser : IfEnabled request .browserWorking
    (From ((currentBrowser request).map browserDraft)) (g.layers .browserWorking)
  shortTerm : IfEnabled request .shortTerm (From (summaryDrafts request)) (g.layers .shortTerm)
  memory : IfEnabled request .orgMemory (Remembered request clone) (g.layers .orgMemory)
  knowledge : IfEnabled request .enterpriseKnowledge (From (knowledgeDrafts request))
    (g.layers .enterpriseKnowledge)
  pending : g.pending =
    if .orgMemory ∈ profileLayers request.ablation then request.memoryMutations else []

variable {clone : OrganizationMemoryStore}

theorem Collected.layered {g : Gathered} (h : Collected request clone g) : Layered g.layers := by
  intro layer
  cases layer with
  | taskFacts => exact h.facts.within fun _ => rfl
  | browserWorking => exact h.browser.within fun hfrom => hfrom.within fun _ => rfl
  | shortTerm => exact h.shortTerm.within fun hfrom => hfrom.within fun _ => rfl
  | orgMemory =>
    exact h.memory.within fun ⟨_, _, _, _, hfrom⟩ => hfrom.within fun _ => rfl
  | enterpriseKnowledge => exact h.knowledge.within fun hfrom => hfrom.within fun _ => rfl

variable (clone) in
theorem gather_returns : Returns (gather request clone) (Collected request clone) := by
  refine Returns.after fun _ => ?_
  refine (measuredAll_returns _).bind fun taskFacts hfacts => ?_
  refine (whenEnabled_returns id (measuredAll_returns _) rfl).bind
    fun browserWorking hbrowser => ?_
  refine (whenEnabled_returns Prod.snd shortTermLayer_returns rfl).bind
    fun shortTerm hterm => ?_
  refine (whenEnabled_returns id (memoryLayer_returns clone) rfl).bind
    fun memory hmemory => ?_
  refine (whenEnabled_returns Prod.snd knowledgeLayer_returns rfl).bind
    fun knowledge hknown => ?_
  exact Returns.of_pure ⟨hfacts, hbrowser, hterm, hmemory, hknown, rfl⟩

/-! ## The selection -/

/-- What is kept of the layers. -/
def selection (request : ContextAssembleRequest) (g : Gathered) : List ContextItem :=
  greedy admits (offers g.layers (profileLayers request.ablation))

/-- The selection is made unless an item is too large for its layer. -/
theorem selection_cases {g : Gathered} (h : Collected request clone g) :
    (budgetAndDeduplicate g.layers (profileLayers request.ablation) = .error .valueError ∧
      ∃ item ∈ offers g.layers (profileLayers request.ablation), ¬ FitsAlone item) ∨
    budgetAndDeduplicate g.layers (profileLayers request.ablation) = .ok (selection request g) :=
  budgetAndDeduplicate_cases h.layered

/-- What is there in front of the first mutation. -/
structure Prepared (request : ContextAssembleRequest) (clone : OrganizationMemoryStore)
    (g : Gathered) (selected : List ContextItem) : Prop where
  collected : Collected request clone g
  selected_eq : selected = selection request g
  starts : startsWithFact selected = true

variable (request clone) in
theorem prepare_returns (l : TotalBudgetLedger) :
    Ensures (prepare request clone) l
      (fun p _ => Prepared request clone p.1 p.2 ∧ ∃ l', gather request clone l = .ok p.1 l')
      fun _ _ => True := by
  have hgather := (gather_returns clone l).and (Ensures.self (gather request clone) l)
  refine Ensures.bind (hgather.mono ?_ fun _ _ _ => trivial)
  intro g l' ⟨hcollected, hrun⟩
  refine Ensures.bind ?_
  have hcases := selection_cases hcollected
  rcases hcases with ⟨herror, _⟩ | hselected
  · rw [herror]
    trivial
  · rw [hselected]
    show Ensures (if startsWithFact (selection request g) = false then _ else _) l' _ _
    by_cases hstarts : startsWithFact (selection request g) = false
    · rw [if_pos hstarts]
      trivial
    · rw [if_neg hstarts]
      rw [Bool.not_eq_false] at hstarts
      have hprepared : Prepared request clone g (selection request g) := ⟨hcollected, rfl, hstarts⟩
      refine Ensures.bind ((Returns.of_any _ l').mono ?_ fun _ _ _ => trivial)
      intro _ t _
      split
      · exact Ensures.bind ((Returns.of_any _ t).mono
          (fun _ _ _ => ⟨hprepared, l', hrun⟩) fun _ _ _ => trivial)
      · exact ⟨hprepared, l', hrun⟩

theorem countOf_ofLayer (items : List ContextItem) (layer : ContextLayer) :
    countOf items layer = (ofLayer items layer).length :=
  List.countP_eq_length_filter ..

/-- The schema accepts the context of every selection. -/
theorem Prepared.valid {g : Gathered} {selected : List ContextItem}
    (h : Prepared request clone g selected) : (contextOf request g selected).valid = true := by
  have hcapped := capped_greedy (offers g.layers (profileLayers request.ablation))
  have hordered : (selection request g).Pairwise fun a b =>
      layerIndex a.layer ≤ layerIndex b.layer := ordered_greedy h.collected.layered
  have hselected := h.selected_eq
  rw [← hselected] at hordered
  unfold selection at hselected
  rw [← hselected] at hcapped
  -- there is an item, and it has bytes
  have hfilled : 1 ≤ selected.length ∧ 1 ≤ bytesOf selected ∧ 1 ≤ tokensOf selected := by
    have hstarts := h.starts
    cases selected with
    | nil => cases hstarts
    | cons item rest =>
      have hok := item.ok
      unfold Draft.fits at hok
      simp only [Bool.and_eq_true, decide_eq_true_eq] at hok
      have hbytes : 1 ≤ item.canonicalBytes := hok.2.2.2.1
      have htokens : 1 ≤ item.estimatedTokens := hok.2.2.2.2.2.1
      refine ⟨Nat.succ_le_succ (Nat.zero_le _), ?_, ?_⟩
      · unfold bytesOf
        rw [List.map_cons, List.sum_cons]
        omega
      · unfold tokensOf
        rw [List.map_cons, List.sum_cons]
        omega
  have hcount : ∀ layer, countOf selected layer ≤ (layerCaps layer).items := by
    intro layer
    rw [countOf_ofLayer]
    exact hcapped.layerItems layer
  unfold AssembledContext.valid
  simp only [Bool.and_eq_true, decide_eq_true_eq]
  refine ⟨⟨⟨⟨⟨?_, ?_⟩, hfilled.1, hcapped.length⟩, ?_⟩, rfl⟩, rfl⟩
  · exact decide_eq_true ⟨hcount .taskFacts, hcount .browserWorking, hcount .shortTerm,
      hcount .orgMemory, hcount .enterpriseKnowledge⟩
  · exact decide_eq_true ⟨hfilled.1, hcapped.length, hfilled.2.1, hcapped.bytes, hfilled.2.2,
      hcapped.tokens⟩
  · exact List.pairwise_map.mpr hordered

theorem conclude_returns (g : Gathered) (selected : List ContextItem) :
    Returns (conclude request g selected) fun result =>
      result.context = contextOf request g selected := by
  show Returns (if (contextOf request g selected).valid = false then _ else _) _
  split
  · exact Returns.of_throw _
  · exact Returns.after fun _ => Returns.of_pure rfl

/-- The context of a result is that of a selection. -/
theorem assemble_returns (s : AssemblerState) :
    Ensures (assemble request) s
      (fun result _ => ∃ g l, gather request s.memory s.ledger = .ok g l ∧
        Prepared request s.memory g (selection request g) ∧
        result.context = contextOf request g (selection request g))
      fun _ _ => True := by
  refine Ensures.bind (Ensures.of_get ?_)
  refine Ensures.bind (Ensures.of_zoom ((prepare_returns request s.memory s.ledger).mono ?_ ?_))
  · intro ⟨g, selected⟩ l ⟨hprepared, l', hrun⟩
    refine Ensures.bind ((Returns.of_any _ _).mono ?_ fun _ _ _ => trivial)
    intro _ t _
    refine Ensures.of_zoom ((conclude_returns g selected t.ledger).mono ?_ fun _ _ _ => trivial)
    intro result _ hresult
    have hselected : selected = selection request g := hprepared.selected_eq
    rw [hselected] at hresult hprepared
    exact ⟨g, l', hrun, hprepared, hresult⟩
  · exact fun _ _ _ => trivial

/-- An item of an enabled layer is offered, or has the id and the content of an earlier one. -/
theorem offered_or_repeated {layers : ContextLayer → List ContextItem}
    {enabled : List ContextLayer} (henabled : layer ∈ enabled) {before after : List ContextItem}
    {x : ContextItem} (hsplit : layers layer = before ++ x :: after) :
    x ∈ offers layers enabled ∨
      ∃ y ∈ before, y.itemId = x.itemId ∧ y.contentHash = x.contentHash := by
  have hlayer : layer ∈ layerOrder := by cases layer <;> decide
  rcases mem_firstByKey (fun item : ContextItem => (item.itemId, item.contentHash)) after x before
    [] with hmem | hnone | ⟨y, hy, hsame⟩
  · refine .inl (List.mem_flatMap.mpr ⟨layer, hlayer, ?_⟩)
    unfold offersOf unique
    rw [if_pos henabled, hsplit]
    exact hmem
  · exact absurd hnone List.not_mem_nil
  · exact .inr ⟨y, hy, (Prod.mk.inj hsame).1, (Prod.mk.inj hsame).2⟩

/-- The items of a context respect the caps and the priority of the layers, each is kept or dropped
for the reason given, the counts and totals are theirs, and the schema of the context accepts every
selection: no exception follows the mutations from there. -/
theorem context_budget_holds (request : ContextAssembleRequest) :
    (∀ s : AssemblerState, Ensures (assemble request) s
      (fun result _ =>
        let items := result.context.items
        Capped items ∧
        (items.Pairwise fun a b => layerIndex a.layer ≤ layerIndex b.layer) ∧
        (items.map ContextItem.contentHash).Nodup ∧
        result.context.layerCounts = countsOf items ∧
        result.context.budget = ⟨items.length, bytesOf items, tokensOf items⟩ ∧
        ∃ g l, gather request s.memory s.ledger = .ok g l ∧ Collected request s.memory g ∧
          Decided (offers g.layers (profileLayers request.ablation)) items ∧
          ∀ layer ∈ profileLayers request.ablation, ∀ before x after,
            g.layers layer = before ++ x :: after →
              x ∈ offers g.layers (profileLayers request.ablation) ∨
              ∃ y ∈ before, y.itemId = x.itemId ∧ y.contentHash = x.contentHash)
      fun _ _ => True) ∧
    (∀ clone l, Ensures (prepare request clone) l
      (fun p _ => (contextOf request p.1 p.2).valid = true) fun _ _ => True) ∧
    ∀ clone l, Ensures (gather request clone) l
      (fun g _ => (∀ item ∈ offers g.layers (profileLayers request.ablation), FitsAlone item) →
        budgetAndDeduplicate g.layers (profileLayers request.ablation) =
          .ok (selection request g))
      fun _ _ => True := by
  refine ⟨?_, ?_, ?_⟩
  · intro s
    refine (assemble_returns s).mono ?_ fun _ _ h => h
    intro result _ ⟨g, l, hrun, hprepared, hcontext⟩
    rw [hcontext]
    refine ⟨capped_greedy _, ordered_greedy hprepared.collected.layered, distinct_greedy _, rfl,
      rfl, g, l, hrun, hprepared.collected, decided_greedy _, ?_⟩
    exact fun layer henabled before x after hsplit => offered_or_repeated henabled hsplit
  · intro clone l
    refine (prepare_returns request clone l).mono ?_ fun _ _ h => h
    exact fun p _ hp => hp.1.valid
  · intro clone l
    refine (gather_returns clone l).mono ?_ fun _ _ h => h
    intro g _ hcollected hfits
    rcases selection_cases hcollected with ⟨_, item, hitem, hlarge⟩ | hselected
    · exact absurd (hfits item hitem) hlarge
    · exact hselected

end

/-! ## Two facts with one value -/

section

attribute [local instance] polynomialSha256

def pendingFact (itemId : String) (category : FactCategory) : TaskFactInput :=
  ⟨itemId, "w7-jml-joiner-001-v1", "syn_scope_alpha", category, "pending", 7⟩

/-- The ticket and the account are both pending. -/
def twoPending : ContextAssembleRequest where
  runId := "run_context01"
  taskId := "w7-jml-joiner-001-v1"
  scopeId := "syn_scope_alpha"
  actorScopeId := "syn_scope_alpha"
  process := .joiner
  phase := .planning
  asOf := year2026
  databaseSnapshotHash := ⟨0⟩
  taskFacts := [pendingFact "fact.ticket" .ticketState, pendingFact "fact.account" .accountState]
  browserWorking := []
  shortTermEvents := []
  memoryMutations := []
  ablation := .taskFactsOnly
  budget := {}
  taskFacts_length := by decide
  browserWorking_length := by decide
  shortTermEvents_length := by decide
  memoryMutations_length := by decide
  scope := rfl
  owned := by decide

/-- An unused ledger and an empty store. -/
def freshState : AssemblerState := ⟨.init {} fun _ => 0, []⟩

theorem twoPending_returns : ∃ result t, assemble twoPending freshState = .ok result t ∧
    result.context.items.map (·.itemId) = ["fact.account"] := by
  have hreturned : (match assemble twoPending freshState with
    | .ok result _ => decide (result.context.items.map (·.itemId) = ["fact.account"])
    | .error _ _ => false) = true := by decide +kernel
  cases hrun : assemble twoPending freshState with
  | ok result t =>
    rw [hrun] at hreturned
    exact ⟨result, t, rfl, of_decide_eq_true hreturned⟩
  | error e t =>
    rw [hrun] at hreturned
    cases hreturned

/-- The second fact is a duplicate; the totals are those of the first. -/
theorem context_budget_holds_twoPending :
    ∃ result t, assemble twoPending freshState = .ok result t ∧
      Capped result.context.items ∧
      (result.context.items.map ContextItem.contentHash).Nodup ∧
      result.context.budget = ⟨1, bytesOf result.context.items, tokensOf result.context.items⟩ := by
  obtain ⟨result, t, hrun, hitems⟩ := twoPending_returns
  have hholds : ∀ s, assemble twoPending s = .ok result t → Capped result.context.items ∧
      (result.context.items.map ContextItem.contentHash).Nodup ∧
      result.context.budget = ⟨result.context.items.length, bytesOf result.context.items,
        tokensOf result.context.items⟩ := by
    intro s hs
    obtain ⟨hcapped, _, hdistinct, _, hbudget, _⟩ :=
      ((context_budget_holds twoPending).1 s).ok hs
    exact ⟨hcapped, hdistinct, hbudget⟩
  obtain ⟨hcapped, hdistinct, hbudget⟩ := hholds freshState hrun
  have hone : result.context.items.length = 1 := by
    have hlength := congrArg List.length hitems
    rw [List.length_map] at hlength
    exact hlength
  refine ⟨result, t, hrun, hcapped, hdistinct, ?_⟩
  rw [hbudget, hone]

end

end FlowPilot.Planning.Context

import FlowPilot.Planning.Assembled
import Mathlib.Algebra.Order.BigOperators.Group.List
import Mathlib.Algebra.Order.Ring.Nat

/-!
# Task facts in the assembled context

The task facts are offered first.  If they all fit, they are dropped only for an equal content, also
where their ids differ.
-/

open FlowPilot.Lib

namespace FlowPilot.Planning.Context

open AssembledContext

/-! ## The first with a key -/

section

variable {α β κ : Type} [DecidableEq κ] {key : α → κ}

/-- An element with a new key. -/
def newKey (key : α → κ) (taken : List α) (x : α) : Bool := decide (key x ∉ taken.map key)

theorem firstByKey_snoc (l : List α) (x : α) : ∀ seen,
    firstByKey key seen (l ++ [x]) =
      if key x ∈ seen ∨ key x ∈ (firstByKey key seen l).map key then firstByKey key seen l
      else firstByKey key seen l ++ [x] := by
  induction l with
  | nil =>
    intro seen
    show (if key x ∈ seen then _ else _) = _
    by_cases hseen : key x ∈ seen
    · rw [if_pos hseen, if_pos (.inl hseen)]
    · rw [if_neg hseen, if_neg]
      · rfl
      · exact fun h => h.elim hseen List.not_mem_nil
  | cons y rest ih =>
    intro seen
    rw [List.cons_append]
    unfold firstByKey
    by_cases hseen : key y ∈ seen
    · rw [if_pos hseen, if_pos hseen]
      exact ih seen
    · rw [if_neg hseen, if_neg hseen, ih (key y :: seen), List.map_cons]
      by_cases hknown : key x ∈ key y :: seen ∨
          key x ∈ (firstByKey key (key y :: seen) rest).map key
      · rw [if_pos hknown, if_pos]
        simp only [List.mem_cons] at hknown ⊢
        tauto
      · rw [if_neg hknown, if_neg]
        · rfl
        · simp only [List.mem_cons] at hknown ⊢
          tauto

theorem firstByKey_eq_greedy (l : List α) : firstByKey key [] l = greedy (newKey key) l := by
  induction l using List.reverseRecOn with
  | nil => rfl
  | append_singleton l x ih =>
    rw [firstByKey_snoc, greedy_snoc, ← ih]
    unfold newKey
    by_cases hknown : key x ∈ (firstByKey key [] l).map key
    · rw [if_pos (.inr hknown), if_neg]
      rw [decide_eq_true_eq]
      exact not_not.mpr hknown
    · rw [if_neg, if_pos (decide_eq_true hknown)]
      exact fun h => h.elim List.not_mem_nil hknown

theorem firstByKey_map (f : β → α) (l : List β) : ∀ seen,
    firstByKey key seen (l.map f) = (firstByKey (fun y => key (f y)) seen l).map f := by
  induction l with
  | nil => exact fun seen => rfl
  | cons y rest ih =>
    intro seen
    rw [List.map_cons]
    unfold firstByKey
    split
    · exact ih seen
    · rw [List.map_cons, ih]

/-- A finer key in front changes nothing. -/
theorem firstByKey_finer {γ : Type} [DecidableEq γ] {fine : α → γ}
    (hfine : ∀ x y, fine x = fine y → key x = key y) (l : List α) : ∀ seen known,
    (∀ x, fine x ∈ known → key x ∈ seen) →
      firstByKey key seen (firstByKey fine known l) = firstByKey key seen l := by
  induction l with
  | nil => exact fun _ _ _ => rfl
  | cons x rest ih =>
    intro seen known h
    have hmore : ∀ seen : List κ, key x ∈ seen → (∀ y, fine y ∈ known → key y ∈ seen) →
        ∀ y, fine y ∈ fine x :: known → key y ∈ seen := by
      intro seen hx hknown y hy
      rw [List.mem_cons] at hy
      rcases hy with hsame | hold
      · rw [hfine y x hsame]
        exact hx
      · exact hknown y hold
    by_cases hknown : fine x ∈ known
    · have hseen := h x hknown
      show firstByKey key seen (if fine x ∈ known then _ else _) = if key x ∈ seen then _ else _
      rw [if_pos hknown, if_pos hseen]
      exact ih seen known h
    · show firstByKey key seen (if fine x ∈ known then _ else _) = if key x ∈ seen then _ else _
      rw [if_neg hknown]
      show (if key x ∈ seen then _ else _) = _
      by_cases hseen : key x ∈ seen
      · rw [if_pos hseen, if_pos hseen]
        exact ih seen _ (hmore seen hseen h)
      · rw [if_neg hseen, if_neg hseen]
        refine congrArg (x :: ·) (ih _ _ (hmore _ List.mem_cons_self ?_))
        exact fun y hy => List.mem_cons_of_mem _ (h y hy)

/-- No key is lost. -/
theorem keys_firstByKey (k : κ) (l : List α) : ∀ seen, k ∉ seen →
    (k ∈ (firstByKey key seen l).map key ↔ ∃ y ∈ l, key y = k) := by
  induction l with
  | nil =>
    intro seen _
    exact iff_of_false List.not_mem_nil fun ⟨y, hy, _⟩ => List.not_mem_nil hy
  | cons x rest ih =>
    intro seen hk
    rw [List.exists_mem_cons_iff]
    show k ∈ (if key x ∈ seen then _ else _ : List α).map key ↔ _
    by_cases hseen : key x ∈ seen
    · have hother : key x ≠ k := by
        intro hsame
        rw [hsame] at hseen
        exact hk hseen
      rw [if_pos hseen, ih seen hk, or_iff_right hother]
    · rw [if_neg hseen, List.map_cons, List.mem_cons]
      by_cases hsame : key x = k
      · exact iff_of_true (.inl hsame.symm) (.inl hsame)
      · have hnew : k ∉ key x :: seen := by
          rw [List.mem_cons, not_or]
          exact ⟨Ne.symm hsame, hk⟩
        rw [ih _ hnew, or_iff_right (Ne.symm hsame), or_iff_right hsame]

/-- What is kept of a list is what has a new key at its place. -/
theorem mem_firstByKey_iff {l : List α} {x : α} : x ∈ firstByKey key [] l ↔
    ∃ before after, l = before ++ x :: after ∧ ∀ y ∈ before, key y ≠ key x := by
  rw [firstByKey_eq_greedy, mem_greedy]
  have hnew : ∀ before : List α, newKey key (greedy (newKey key) before) x = true ↔
      ∀ y ∈ before, key y ≠ key x := by
    intro before
    unfold newKey
    rw [decide_eq_true_eq]
    have hkeys : key x ∈ (firstByKey key [] before).map key ↔ ∃ y ∈ before, key y = key x :=
      keys_firstByKey _ before [] List.not_mem_nil
    rw [firstByKey_eq_greedy] at hkeys
    unfold newKey at hkeys
    rw [hkeys]
    simp only [not_exists, not_and, ne_eq]
  simp only [hnew]

end

/-! ## Facts that fit -/

section

variable [Sha256]

variable {request : ContextAssembleRequest} {clone : OrganizationMemoryStore}
  {layer : ContextLayer}

/-- All task facts together are within the caps of their layer, and so of the whole. -/
def FactsFit (request : ContextAssembleRequest) : Prop :=
  (request.taskFacts.map fun fact => (factDraft request fact).bytes).sum ≤ 4096 ∧
    (request.taskFacts.map fun fact => ((factDraft request fact).bytes + 3) / 4).sum ≤ 1024

/-- The layer of the task facts, as it is offered. -/
def factOffers (g : Gathered) : List ContextItem := unique (g.layers .taskFacts)

theorem offers_facts (request : ContextAssembleRequest) (g : Gathered) :
    ∃ rest, offers g.layers (profileLayers request.ablation) = factOffers g ++ rest ∧
      (Layered g.layers → ∀ item ∈ rest, item.layer ≠ .taskFacts) := by
  have henabled : .taskFacts ∈ profileLayers request.ablation := by
    cases request.ablation <;> decide
  refine ⟨[.browserWorking, .shortTerm, .orgMemory, .enterpriseKnowledge].flatMap
    (offersOf g.layers (profileLayers request.ablation)), ?_, ?_⟩
  · unfold offers layerOrder
    rw [List.flatMap_cons]
    have hown : offersOf g.layers (profileLayers request.ablation) .taskFacts = factOffers g :=
      if_pos henabled
    rw [hown]
  · intro hlayered item hitem
    have ⟨layer, hlayer, hoffered⟩ := List.mem_flatMap.mp hitem
    rw [offersOf_layer hlayered hoffered]
    intro hsame
    rw [hsame] at hlayer
    exact absurd hlayer (by decide)

/-- The bytes and tokens of the layer are those of the facts. -/
theorem facts_total {g : Gathered} (h : Collected request clone g) :
    bytesOf (g.layers .taskFacts) =
      (request.taskFacts.map fun fact => (factDraft request fact).bytes).sum ∧
    tokensOf (g.layers .taskFacts) =
      (request.taskFacts.map fun fact => ((factDraft request fact).bytes + 3) / 4).sum := by
  have hperm : (sortedFacts request).Perm request.taskFacts := List.perm_insertionSort _ _
  have hbytes : (g.layers .taskFacts).map ContextItem.canonicalBytes =
      (sortedFacts request).map fun fact => (factDraft request fact).bytes := by
    have hdrafts := congrArg (List.map Draft.bytes) h.facts
    rw [List.map_map, List.map_map] at hdrafts
    exact hdrafts
  have htokens : (g.layers .taskFacts).map ContextItem.estimatedTokens =
      (sortedFacts request).map fun fact => ((factDraft request fact).bytes + 3) / 4 := by
    have hdrafts := congrArg (List.map fun d : Draft => (d.bytes + 3) / 4) h.facts
    rw [List.map_map, List.map_map] at hdrafts
    exact hdrafts
  unfold bytesOf tokensOf
  rw [hbytes, htokens]
  exact ⟨(hperm.map _).sum_nat, (hperm.map _).sum_nat⟩

theorem facts_length {g : Gathered} (h : Collected request clone g) :
    (g.layers .taskFacts).length ≤ 8 := by
  have hlength := congrArg List.length h.facts
  rw [List.length_map, List.length_map] at hlength
  have hperm : (sortedFacts request).Perm request.taskFacts := List.perm_insertionSort _ _
  rw [hlength, hperm.length_eq]
  exact request.taskFacts_length.2

/-- Facts that fit are admitted unless their content is there. -/
theorem factOffers_greedy {g : Gathered} (h : Collected request clone g) (hfit : FactsFit request) :
    greedy admits (factOffers g) = firstByKey ContextItem.contentHash [] (factOffers g) := by
  rw [firstByKey_eq_greedy]
  refine greedy_congr _ fun earlier x later hsplit => ?_
  -- what is taken, and the item, are some of the facts
  have hsub : (greedy (newKey ContextItem.contentHash) earlier ++ [x]).Sublist
      (g.layers .taskFacts) := by
    have hfront : (earlier ++ [x]).Sublist (factOffers g) := by
      have hassoc : earlier ++ x :: later = earlier ++ [x] ++ later := by
        rw [List.append_assoc, List.singleton_append]
      rw [hsplit, hassoc]
      exact List.sublist_append_left _ _
    exact (((greedy_sublist earlier).append (List.Sublist.refl [x])).trans hfront).trans
      (firstByKey_sublist _ _ [])
  generalize greedy (newKey ContextItem.contentHash) earlier = taken at hsub ⊢
  have hlayer : ∀ y ∈ taken ++ [x], y.layer = .taskFacts := fun y hy =>
    h.layered .taskFacts y (hsub.subset hy)
  have hx := hlayer x (List.mem_append_right _ List.mem_cons_self)
  have hown : ofLayer taken x.layer = taken := by
    rw [hx]
    refine List.filter_eq_self.mpr fun y hy => ?_
    exact decide_eq_true (hlayer y (List.mem_append_left _ hy))
  have hcap : layerCaps x.layer = ⟨8, 4096, 1024⟩ := by
    rw [hx]
    rfl
  have hlength := hsub.length_le
  rw [List.length_append, List.length_singleton] at hlength
  have hmost := facts_length h
  have ⟨hbytes, htokens⟩ := facts_total h
  have hfewer : bytesOf taken + x.canonicalBytes ≤ 4096 := by
    rw [← bytesOf_snoc]
    have hpart : bytesOf (taken ++ [x]) ≤ bytesOf (g.layers .taskFacts) :=
      (hsub.map _).sum_le_sum fun _ _ => Nat.zero_le _
    exact Nat.le_trans hpart (Nat.le_trans (Nat.le_of_eq hbytes) hfit.1)
  have hless : tokensOf taken + x.estimatedTokens ≤ 1024 := by
    rw [← tokensOf_snoc]
    have hpart : tokensOf (taken ++ [x]) ≤ tokensOf (g.layers .taskFacts) :=
      (hsub.map _).sum_le_sum fun _ _ => Nat.zero_le _
    exact Nat.le_trans hpart (Nat.le_trans (Nat.le_of_eq htokens) hfit.2)
  have hlayerFits : exceedsLayer taken x = false := by
    unfold exceedsLayer
    rw [hown, hcap]
    refine decide_eq_false ?_
    show ¬ (taken.length ≥ 8 ∨ bytesOf taken + x.canonicalBytes > 4096 ∨
      tokensOf taken + x.estimatedTokens > 1024)
    omega
  have htotalFits : exceedsTotal taken x = false := by
    refine decide_eq_false ?_
    omega
  unfold admits newKey duplicates
  rw [hlayerFits, htotalFits, Bool.not_false, Bool.and_true, Bool.and_true, decide_not]

/-- Items of the other layers add no task facts. -/
theorem ofLayer_greedy_append (first rest : List ContextItem)
    (hfirst : ∀ item ∈ first, item.layer = layer) (hrest : ∀ item ∈ rest, item.layer ≠ layer) :
    ofLayer (greedy admits (first ++ rest)) layer = greedy admits first := by
  induction rest using List.reverseRecOn with
  | nil =>
    rw [List.append_nil]
    refine List.filter_eq_self.mpr fun item hitem => ?_
    exact decide_eq_true (hfirst item ((greedy_sublist first).subset hitem))
  | append_singleton rest x ih =>
    have hbefore := ih fun item hitem => hrest item (List.mem_append_left _ hitem)
    have hother := hrest x (List.mem_append_right _ List.mem_cons_self)
    rw [← List.append_assoc, greedy_snoc]
    split
    · rw [ofLayer_other _ hother]
      exact hbefore
    · exact hbefore

/-- The task facts in the context, if they all fit: those whose content is new. -/
theorem facts_selected {g : Gathered} (h : Collected request clone g) (hfit : FactsFit request) :
    From ((firstByKey (fun fact => contentHash fact.safeValue) [] (sortedFacts request)).map
      (factDraft request)) (ofLayer (selection request g) .taskFacts) := by
  have ⟨rest, hoffers, hrest⟩ := offers_facts request g
  have hfirst : ∀ item ∈ factOffers g, item.layer = .taskFacts := fun item hitem =>
    h.layered .taskFacts item (mem_unique hitem)
  unfold From selection
  rw [hoffers, ofLayer_greedy_append _ _ hfirst (hrest h.layered), factOffers_greedy h hfit]
  -- the pairs of id and content are finer than the contents
  have hfiner : firstByKey ContextItem.contentHash [] (factOffers g) =
      firstByKey ContextItem.contentHash [] (g.layers .taskFacts) :=
    firstByKey_finer (fun x y hsame => (Prod.mk.inj hsame).2) _ [] []
      fun x hx => absurd hx List.not_mem_nil
  rw [hfiner]
  have hdrafts : firstByKey (fun d : Draft => contentHash d.safeValue) []
        ((g.layers .taskFacts).map ContextItem.toDraft) =
      (firstByKey (fun item : ContextItem => contentHash item.toDraft.safeValue) []
        (g.layers .taskFacts)).map ContextItem.toDraft := firstByKey_map _ _ []
  rw [h.facts] at hdrafts
  refine hdrafts.symm.trans ?_
  exact firstByKey_map _ _ []

/-- If the task facts all fit, a fact is in the context exactly if no fact in front of it, in their
order, has the same content; the content of every fact is there. -/
theorem task_facts_kept (request : ContextAssembleRequest) (s : AssemblerState) :
    Ensures (assemble request) s
      (fun result _ => FactsFit request →
        (∀ earlier fact later, sortedFacts request = earlier ++ fact :: later →
          (∀ f ∈ earlier, contentHash f.safeValue ≠ contentHash fact.safeValue) →
            ∃ item ∈ result.context.items, item.toDraft = factDraft request fact) ∧
        (∀ item ∈ result.context.items, item.layer = .taskFacts →
          ∃ earlier fact later, sortedFacts request = earlier ++ fact :: later ∧
            item.toDraft = factDraft request fact ∧
            ∀ f ∈ earlier, contentHash f.safeValue ≠ contentHash fact.safeValue) ∧
        ∀ fact ∈ request.taskFacts, ∃ item ∈ result.context.items,
          item.layer = .taskFacts ∧ item.contentHash = contentHash fact.safeValue)
      fun _ _ => True := by
  refine (assemble_returns s).mono ?_ fun _ _ h => h
  intro result _ ⟨g, l, _, hprepared, hcontext⟩ hfit
  rw [hcontext]
  have hselected := facts_selected hprepared.collected hfit
  have hfrom : ∀ fact, fact ∈ firstByKey (fun fact => contentHash fact.safeValue) []
      (sortedFacts request) → ∃ item ∈ selection request g, item.layer = .taskFacts ∧
        item.toDraft = factDraft request fact := by
    intro fact hfact
    have hmem := List.mem_map_of_mem (f := factDraft request) hfact
    rw [← hselected] at hmem
    have ⟨item, hitem, hdraft⟩ := List.mem_map.mp hmem
    have ⟨hkept, hlayer⟩ := List.mem_filter.mp hitem
    exact ⟨item, hkept, of_decide_eq_true hlayer, hdraft⟩
  refine ⟨?_, ?_, ?_⟩
  · intro earlier fact later hsplit hnew
    have ⟨item, hitem, _, hdraft⟩ := hfrom fact (mem_firstByKey_iff.mpr
      ⟨earlier, later, hsplit, hnew⟩)
    exact ⟨item, hitem, hdraft⟩
  · intro item hitem hlayer
    have hown : item ∈ ofLayer (selection request g) .taskFacts :=
      List.mem_filter.mpr ⟨hitem, decide_eq_true hlayer⟩
    have hmem := List.mem_map_of_mem (f := ContextItem.toDraft) hown
    rw [hselected] at hmem
    have ⟨fact, hfact, hdraft⟩ := List.mem_map.mp hmem
    have ⟨earlier, later, hsplit, hnew⟩ := mem_firstByKey_iff.mp hfact
    exact ⟨earlier, fact, later, hsplit, hdraft.symm, hnew⟩
  · intro fact hfact
    have hsorted : fact ∈ sortedFacts request :=
      (List.perm_insertionSort _ request.taskFacts).mem_iff.mpr hfact
    have hkey : contentHash fact.safeValue ∈
        (firstByKey (fun f : TaskFactInput => contentHash f.safeValue) []
          (sortedFacts request)).map fun f => contentHash f.safeValue :=
      (keys_firstByKey _ _ [] List.not_mem_nil).mpr ⟨fact, hsorted, rfl⟩
    have ⟨f, hf, hsame⟩ := List.mem_map.mp hkey
    have ⟨item, hitem, hlayer, hdraft⟩ := hfrom f hf
    refine ⟨item, hitem, hlayer, ?_⟩
    show contentHash item.toDraft.safeValue = _
    rw [hdraft]
    exact hsame

end

/-! ## Two facts with one value -/

section

attribute [local instance] polynomialSha256

theorem twoPending_fit : FactsFit twoPending := by
  unfold FactsFit
  decide +kernel

/-- The content of both facts is in the context, in one item. -/
theorem task_facts_kept_twoPending :
    ∃ result t, assemble twoPending freshState = .ok result t ∧
      result.context.items.map (·.itemId) = ["fact.account"] ∧
      ∀ fact ∈ twoPending.taskFacts, ∃ item ∈ result.context.items,
        item.layer = .taskFacts ∧ item.contentHash = contentHash fact.safeValue := by
  obtain ⟨result, t, hrun, hitems⟩ := twoPending_returns
  have hkept : ∀ s, assemble twoPending s = .ok result t → ∀ fact ∈ twoPending.taskFacts,
      ∃ item ∈ result.context.items,
        item.layer = .taskFacts ∧ item.contentHash = contentHash fact.safeValue :=
    fun s hs => ((task_facts_kept twoPending s).ok hs twoPending_fit).2.2
  exact ⟨result, t, hrun, hitems, hkept freshState hrun⟩

/-- Both facts fit, and the fact of the ticket is not in the context. -/
theorem ticket_fact_lost :
    FactsFit twoPending ∧ pendingFact "fact.ticket" .ticketState ∈ twoPending.taskFacts ∧
    ∃ result t, assemble twoPending freshState = .ok result t ∧
      ∀ item ∈ result.context.items, item.itemId ≠ "fact.ticket" := by
  obtain ⟨result, t, hrun, hitems⟩ := twoPending_returns
  refine ⟨twoPending_fit, List.mem_cons_self, result, t, hrun, fun item hitem hticket => ?_⟩
  have hmem := List.mem_map_of_mem (f := fun item : ContextItem => item.itemId) hitem
  rw [hitems, hticket] at hmem
  exact absurd hmem (by decide)

end

end FlowPilot.Planning.Context

import FlowPilot.Lib.Greedy
import FlowPilot.Planning.Context

/-!
# What the assembler keeps

The loops of `_budget_and_deduplicate` are a greedy selection: an item is taken unless its content
is there already or a cap would be exceeded.
-/

open FlowPilot.Lib

namespace FlowPilot.Planning.Context

open AssembledContext

variable [Sha256]

/-! ## Admission -/

/-- The items of a layer. -/
def ofLayer (items : List ContextItem) (layer : ContextLayer) : List ContextItem :=
  items.filter fun item => item.layer = layer

/-- The content is there already. -/
def duplicates (taken : List ContextItem) (item : ContextItem) : Bool :=
  decide (item.contentHash ∈ taken.map ContextItem.contentHash)

/-- With the item, a cap of its layer would be exceeded. -/
def exceedsLayer (taken : List ContextItem) (item : ContextItem) : Bool :=
  decide ((ofLayer taken item.layer).length ≥ (layerCaps item.layer).items ∨
    bytesOf (ofLayer taken item.layer) + item.canonicalBytes > (layerCaps item.layer).bytes ∨
    tokensOf (ofLayer taken item.layer) + item.estimatedTokens > (layerCaps item.layer).tokens)

/-- With the item, a cap of the whole would be exceeded. -/
def exceedsTotal (taken : List ContextItem) (item : ContextItem) : Bool :=
  decide (taken.length ≥ 32 ∨ bytesOf taken + item.canonicalBytes > 16384 ∨
    tokensOf taken + item.estimatedTokens > 4096)

def admits (taken : List ContextItem) (item : ContextItem) : Bool :=
  !duplicates taken item && !exceedsLayer taken item && !exceedsTotal taken item

/-- The item fits the caps of its layer on its own. -/
def FitsAlone (item : ContextItem) : Prop :=
  item.canonicalBytes ≤ (layerCaps item.layer).bytes ∧
    item.estimatedTokens ≤ (layerCaps item.layer).tokens

/-- A layer that is not enabled is not offered. -/
def offersOf (layers : ContextLayer → List ContextItem) (enabled : List ContextLayer)
    (layer : ContextLayer) : List ContextItem :=
  if layer ∈ enabled then unique (layers layer) else []

/-- The items in the order in which they are offered. -/
def offers (layers : ContextLayer → List ContextItem) (enabled : List ContextLayer) :
    List ContextItem :=
  layerOrder.flatMap (offersOf layers enabled)

/-- Every item is in its own layer. -/
def Layered (layers : ContextLayer → List ContextItem) : Prop :=
  ∀ layer, ∀ item ∈ layers layer, item.layer = layer

/-! ## Refinement -/

variable {done : List ContextItem} {s t : Selection} {item : ContextItem} {layer : ContextLayer}

/-- The variables of the loops after the items `done`. -/
structure Tracks (done : List ContextItem) (s : Selection) : Prop where
  selected : s.selected = greedy admits done
  seen : ∀ d, d ∈ s.seenHashes ↔ d ∈ s.selected.map ContextItem.contentHash
  bytes : s.totalBytes = bytesOf s.selected
  tokens : s.totalTokens = tokensOf s.selected

/-- The variables of the inner loop. -/
structure InLayer (layer : ContextLayer) (s : Selection) : Prop where
  items : s.layerItems = (ofLayer s.selected layer).length
  bytes : s.layerBytes = bytesOf (ofLayer s.selected layer)
  tokens : s.layerTokens = tokensOf (ofLayer s.selected layer)

theorem bytesOf_snoc (xs : List ContextItem) (item : ContextItem) :
    bytesOf (xs ++ [item]) = bytesOf xs + item.canonicalBytes := by
  unfold bytesOf
  rw [List.map_append, List.sum_append, List.map_singleton, List.sum_singleton]

theorem tokensOf_snoc (xs : List ContextItem) (item : ContextItem) :
    tokensOf (xs ++ [item]) = tokensOf xs + item.estimatedTokens := by
  unfold tokensOf
  rw [List.map_append, List.sum_append, List.map_singleton, List.sum_singleton]

theorem ofLayer_own (xs : List ContextItem) (h : item.layer = layer) :
    ofLayer (xs ++ [item]) layer = ofLayer xs layer ++ [item] := by
  simp [ofLayer, h]

theorem ofLayer_other (xs : List ContextItem) (h : item.layer ≠ layer) :
    ofLayer (xs ++ [item]) layer = ofLayer xs layer := by
  simp [ofLayer, h]

theorem Tracks.drop (h : Tracks done s) (hdropped : admits s.selected item = false) :
    Tracks (done ++ [item]) s := by
  rw [h.selected] at hdropped
  refine { h with selected := ?_ }
  rw [greedy_dropped hdropped]
  exact h.selected

/-- An offer changes the variables as the greedy choice does, or raises on an item that is too large
for its layer. -/
theorem offer_cases (h : Tracks done s) (hlayer : InLayer item.layer s) :
    (offer (layerCaps item.layer) s item = .error .valueError ∧ ¬ FitsAlone item) ∨
    ∃ t, offer (layerCaps item.layer) s item = .ok t ∧ Tracks (done ++ [item]) t ∧
      InLayer item.layer t := by
  unfold offer
  by_cases hduplicate : item.contentHash ∈ s.seenHashes
  · rw [if_pos hduplicate]
    rw [h.seen] at hduplicate
    refine .inr ⟨s, rfl, h.drop ?_, hlayer⟩
    simp [admits, duplicates, hduplicate]
  rw [if_neg hduplicate]
  by_cases hsingle : item.canonicalBytes > (layerCaps item.layer).bytes ∨
      item.estimatedTokens > (layerCaps item.layer).tokens
  · rw [if_pos hsingle]
    refine .inl ⟨rfl, fun hfits => ?_⟩
    have hbytes := hfits.1
    have htokens := hfits.2
    omega
  rw [if_neg hsingle]
  by_cases hexceeds : s.layerItems ≥ (layerCaps item.layer).items ∨
      s.layerBytes + item.canonicalBytes > (layerCaps item.layer).bytes ∨
      s.layerTokens + item.estimatedTokens > (layerCaps item.layer).tokens
  · rw [if_pos hexceeds]
    rw [hlayer.items, hlayer.bytes, hlayer.tokens] at hexceeds
    refine .inr ⟨s, rfl, h.drop ?_, hlayer⟩
    simp [admits, exceedsLayer, hexceeds]
  rw [if_neg hexceeds]
  by_cases htotal : s.selected.length ≥ 32 ∨ s.totalBytes + item.canonicalBytes > 16384 ∨
      s.totalTokens + item.estimatedTokens > 4096
  · rw [if_pos htotal]
    rw [h.bytes, h.tokens] at htotal
    refine .inr ⟨s, rfl, h.drop ?_, hlayer⟩
    simp [admits, exceedsTotal, htotal]
  rw [if_neg htotal]
  have hadmits : admits s.selected item = true := by
    rw [hlayer.items, hlayer.bytes, hlayer.tokens] at hexceeds
    rw [h.bytes, h.tokens] at htotal
    rw [h.seen] at hduplicate
    simp [admits, duplicates, exceedsLayer, exceedsTotal, hduplicate, hexceeds, htotal]
  refine .inr ⟨_, rfl, ?_, ?_⟩
  · refine ⟨?_, ?_, ?_, ?_⟩
    · rw [h.selected] at hadmits
      rw [greedy_taken hadmits, ← h.selected]
    · intro d
      rw [List.map_append, List.mem_append, List.mem_cons, h.seen, or_comm]
      exact or_congr_right List.mem_singleton.symm
    · show s.totalBytes + item.canonicalBytes = bytesOf (s.selected ++ [item])
      rw [bytesOf_snoc, h.bytes]
    · show s.totalTokens + item.estimatedTokens = tokensOf (s.selected ++ [item])
      rw [tokensOf_snoc, h.tokens]
  · refine ⟨?_, ?_, ?_⟩
    · show s.layerItems + 1 = (ofLayer (s.selected ++ [item]) item.layer).length
      rw [ofLayer_own _ rfl, List.length_append, hlayer.items]
      rfl
    · show s.layerBytes + item.canonicalBytes = bytesOf (ofLayer (s.selected ++ [item]) item.layer)
      rw [ofLayer_own _ rfl, bytesOf_snoc, hlayer.bytes]
    · show s.layerTokens + item.estimatedTokens =
        tokensOf (ofLayer (s.selected ++ [item]) item.layer)
      rw [ofLayer_own _ rfl, tokensOf_snoc, hlayer.tokens]

theorem offerAll_cases (items : List ContextItem) : ∀ (done : List ContextItem) (s : Selection),
    Tracks done s → InLayer layer s → (∀ item ∈ items, item.layer = layer) →
      (items.foldlM (offer (layerCaps layer)) s = .error .valueError ∧
        ∃ item ∈ items, ¬ FitsAlone item) ∨
      ∃ t, items.foldlM (offer (layerCaps layer)) s = .ok t ∧ Tracks (done ++ items) t := by
  induction items with
  | nil =>
    intro done s h _ _
    refine .inr ⟨s, rfl, ?_⟩
    rw [List.append_nil]
    exact h
  | cons item rest ih =>
    intro done s h hlayer hitems
    have hown := hitems item List.mem_cons_self
    rw [← hown] at hlayer
    rw [List.foldlM_cons]
    rcases offer_cases h hlayer with ⟨hrun, hlarge⟩ | ⟨t, hrun, ht, htlayer⟩
    · rw [← hown, hrun]
      exact .inl ⟨rfl, item, List.mem_cons_self, hlarge⟩
    · rw [hown] at hrun htlayer
      rw [hrun]
      have hrest := ih (done ++ [item]) t ht htlayer fun other hother =>
        hitems other (List.mem_cons_of_mem _ hother)
      rw [List.append_assoc, List.singleton_append] at hrest
      refine hrest.imp_left fun ⟨herror, other, hother, hlarge⟩ => ?_
      exact ⟨herror, other, List.mem_cons_of_mem _ hother, hlarge⟩

omit [Sha256] in
theorem firstByKey_sublist {α κ : Type} [DecidableEq κ] (key : α → κ) (l : List α) :
    ∀ seen, (firstByKey key seen l).Sublist l := by
  induction l with
  | nil => exact fun seen => List.Sublist.refl _
  | cons x rest ih =>
    intro seen
    unfold firstByKey
    split
    · exact (ih seen).cons x
    · exact (ih _).cons_cons x

omit [Sha256] in
/-- An element is left out for an earlier one with its key. -/
theorem mem_firstByKey {α κ : Type} [DecidableEq κ] (key : α → κ) (after : List α) (x : α)
    (before : List α) : ∀ seen, x ∈ firstByKey key seen (before ++ x :: after) ∨ key x ∈ seen ∨
      ∃ y ∈ before, key y = key x := by
  induction before with
  | nil =>
    intro seen
    show x ∈ (if key x ∈ seen then _ else _) ∨ _
    by_cases hseen : key x ∈ seen
    · exact .inr (.inl hseen)
    · rw [if_neg hseen]
      exact .inl List.mem_cons_self
  | cons z before ih =>
    intro seen
    have hearlier : (∃ y ∈ before, key y = key x) → ∃ y ∈ z :: before, key y = key x :=
      fun ⟨y, hy, hsame⟩ => ⟨y, List.mem_cons_of_mem _ hy, hsame⟩
    show x ∈ (if key z ∈ seen then _ else _) ∨ _
    by_cases hseen : key z ∈ seen
    · rw [if_pos hseen]
      exact (ih seen).imp id (Or.imp id hearlier)
    · rw [if_neg hseen]
      rcases ih (key z :: seen) with hmem | hsame | hthere
      · exact .inl (List.mem_cons_of_mem _ hmem)
      · rw [List.mem_cons] at hsame
        rcases hsame with hz | hold
        · exact .inr (.inr ⟨z, List.mem_cons_self, hz.symm⟩)
        · exact .inr (.inl hold)
      · exact .inr (.inr (hearlier hthere))

theorem mem_unique {items : List ContextItem} (h : item ∈ unique items) : item ∈ items :=
  (firstByKey_sublist _ items []).subset h

theorem offersOf_layer {layers : ContextLayer → List ContextItem} {enabled : List ContextLayer}
    (h : Layered layers) (hitem : item ∈ offersOf layers enabled layer) : item.layer = layer := by
  unfold offersOf at hitem
  split at hitem
  · exact h layer item (mem_unique hitem)
  · exact absurd hitem List.not_mem_nil

/-- At a new layer the variables of the inner loop start again. -/
theorem Tracks.enter (h : Tracks done s) (hnew : ∀ item ∈ done, item.layer ≠ layer) :
    Tracks done { s with layerItems := 0, layerBytes := 0, layerTokens := 0 } ∧
      InLayer layer { s with layerItems := 0, layerBytes := 0, layerTokens := 0 } := by
  have hnone : ofLayer s.selected layer = [] := by
    refine List.filter_eq_nil_iff.mpr fun item hitem => ?_
    rw [h.selected] at hitem
    have hother := hnew item ((greedy_sublist done).subset hitem)
    rw [decide_eq_true_eq]
    exact hother
  refine ⟨{ h with }, ?_, ?_, ?_⟩
  · show 0 = (ofLayer s.selected layer).length
    rw [hnone]
    rfl
  · show 0 = bytesOf (ofLayer s.selected layer)
    rw [hnone]
    rfl
  · show 0 = tokensOf (ofLayer s.selected layer)
    rw [hnone]
    rfl

theorem offerLayers_cases {layers : ContextLayer → List ContextItem}
    {enabled : List ContextLayer} (hlayered : Layered layers) (order : List ContextLayer) :
    ∀ (done : List ContextItem) (s : Selection), order.Nodup →
      (∀ item ∈ done, item.layer ∉ order) → Tracks done s →
      (order.foldlM (offerLayer layers enabled) s = .error .valueError ∧
        ∃ layer ∈ order, ∃ item ∈ offersOf layers enabled layer, ¬ FitsAlone item) ∨
      ∃ t, order.foldlM (offerLayer layers enabled) s = .ok t ∧
        Tracks (done ++ order.flatMap (offersOf layers enabled)) t := by
  induction order with
  | nil =>
    intro done s _ _ h
    refine .inr ⟨s, rfl, ?_⟩
    rw [List.flatMap_nil, List.append_nil]
    exact h
  | cons layer rest ih =>
    intro done s hnodup hnew h
    rw [List.nodup_cons] at hnodup
    rw [List.foldlM_cons, List.flatMap_cons]
    have hdone : ∀ item ∈ done, item.layer ≠ layer := fun item hitem hsame =>
      hnew item hitem (by rw [hsame]; exact List.mem_cons_self)
    -- what the layer itself does
    have hown : (offerLayer layers enabled s layer = .error .valueError ∧
        ∃ item ∈ offersOf layers enabled layer, ¬ FitsAlone item) ∨
        ∃ t, offerLayer layers enabled s layer = .ok t ∧
          Tracks (done ++ offersOf layers enabled layer) t := by
      unfold offerLayer offersOf
      by_cases henabled : layer ∈ enabled
      · rw [if_neg (not_not.mpr henabled), if_pos henabled]
        have ⟨htracks, hlayer⟩ := h.enter hdone
        exact offerAll_cases _ done _ htracks hlayer fun item hitem =>
          hlayered layer item (mem_unique hitem)
      · rw [if_pos henabled, if_neg henabled, List.append_nil]
        exact .inr ⟨s, rfl, h⟩
    rcases hown with ⟨hrun, hlarge⟩ | ⟨t, hrun, ht⟩
    · rw [hrun]
      exact .inl ⟨rfl, layer, List.mem_cons_self, hlarge⟩
    · rw [hrun, ← List.append_assoc]
      have hnext : ∀ item ∈ done ++ offersOf layers enabled layer, item.layer ∉ rest := by
        intro item hitem
        rw [List.mem_append] at hitem
        rcases hitem with hold | hoffered
        · exact fun hmem => hnew item hold (List.mem_cons_of_mem _ hmem)
        · rw [offersOf_layer hlayered hoffered]
          exact hnodup.1
      refine (ih _ t hnodup.2 hnext ht).imp_left fun ⟨herror, other, hother, hlarge⟩ => ?_
      exact ⟨herror, other, List.mem_cons_of_mem _ hother, hlarge⟩

/-- The loops make the greedy selection, unless an item is too large for its layer. -/
theorem budgetAndDeduplicate_cases {layers : ContextLayer → List ContextItem}
    {enabled : List ContextLayer} (hlayered : Layered layers) :
    (budgetAndDeduplicate layers enabled = .error .valueError ∧
      ∃ item ∈ offers layers enabled, ¬ FitsAlone item) ∨
    budgetAndDeduplicate layers enabled = .ok (greedy admits (offers layers enabled)) := by
  have hstart : Tracks [] {} := ⟨rfl, fun d => Iff.rfl, rfl, rfl⟩
  unfold budgetAndDeduplicate
  rcases offerLayers_cases hlayered layerOrder [] {} (by decide)
    (fun item hitem => absurd hitem List.not_mem_nil) hstart with
    ⟨hrun, layer, hlayer, item, hitem, hlarge⟩ | ⟨t, hrun, ht⟩
  · rw [hrun]
    exact .inl ⟨rfl, item, List.mem_flatMap.mpr ⟨layer, hlayer, hitem⟩, hlarge⟩
  · rw [hrun]
    exact .inr (congrArg Except.ok ht.selected)

/-! ## What is kept -/

/-- Every cap holds. -/
structure Capped (items : List ContextItem) : Prop where
  layerItems : ∀ layer, (ofLayer items layer).length ≤ (layerCaps layer).items
  layerBytes : ∀ layer, bytesOf (ofLayer items layer) ≤ (layerCaps layer).bytes
  layerTokens : ∀ layer, tokensOf (ofLayer items layer) ≤ (layerCaps layer).tokens
  length : items.length ≤ 32
  bytes : bytesOf items ≤ 16384
  tokens : tokensOf items ≤ 4096

theorem admits_iff {taken : List ContextItem} : admits taken item = true ↔
    duplicates taken item = false ∧ exceedsLayer taken item = false ∧
      exceedsTotal taken item = false := by
  unfold admits
  simp [and_assoc]

theorem capped_greedy (offered : List ContextItem) : Capped (greedy admits offered) := by
  refine greedy_invariant (P := Capped) ?_ ?_ offered
  · refine ⟨fun layer => ?_, fun layer => ?_, fun layer => ?_, ?_, ?_, ?_⟩ <;> exact Nat.zero_le _
  · intro taken item h hadmits
    have ⟨_, hlayer, htotal⟩ := admits_iff.mp hadmits
    have hown := of_decide_eq_false hlayer
    have hall := of_decide_eq_false htotal
    -- the item only adds to its own layer
    refine ⟨fun layer => ?_, fun layer => ?_, fun layer => ?_, ?_, ?_, ?_⟩
    · by_cases hsame : item.layer = layer
      · rw [ofLayer_own _ hsame, List.length_append, List.length_singleton, ← hsame]
        omega
      · rw [ofLayer_other _ hsame]
        exact h.layerItems layer
    · by_cases hsame : item.layer = layer
      · rw [ofLayer_own _ hsame, bytesOf_snoc, ← hsame]
        omega
      · rw [ofLayer_other _ hsame]
        exact h.layerBytes layer
    · by_cases hsame : item.layer = layer
      · rw [ofLayer_own _ hsame, tokensOf_snoc, ← hsame]
        omega
      · rw [ofLayer_other _ hsame]
        exact h.layerTokens layer
    · rw [List.length_append, List.length_singleton]
      omega
    · rw [bytesOf_snoc]
      omega
    · rw [tokensOf_snoc]
      omega

theorem distinct_greedy (offered : List ContextItem) :
    ((greedy admits offered).map ContextItem.contentHash).Nodup := by
  refine greedy_invariant (P := fun items => (items.map ContextItem.contentHash).Nodup)
    List.nodup_nil ?_ offered
  intro taken item h hadmits
  have hnew := of_decide_eq_false (admits_iff.mp hadmits).1
  rw [List.map_append, List.nodup_append]
  refine ⟨h, List.nodup_singleton _, ?_⟩
  intro d hd e he hsame
  rw [List.map_singleton, List.mem_singleton] at he
  rw [hsame, he] at hd
  exact hnew hd

/-- The layers are offered in order. -/
theorem ordered_offers {layers : ContextLayer → List ContextItem} {enabled : List ContextLayer}
    (h : Layered layers) : (offers layers enabled).Pairwise fun a b =>
      layerIndex a.layer ≤ layerIndex b.layer := by
  unfold offers
  rw [List.pairwise_flatMap]
  constructor
  · intro layer _
    refine List.pairwise_of_forall_mem_list fun a ha b hb => ?_
    rw [offersOf_layer h ha, offersOf_layer h hb]
  · have horder : layerOrder.Pairwise fun a b => layerIndex a ≤ layerIndex b := by decide
    refine horder.imp fun hle a ha b hb => ?_
    rw [offersOf_layer h ha, offersOf_layer h hb]
    exact hle

theorem ordered_greedy {layers : ContextLayer → List ContextItem} {enabled : List ContextLayer}
    (h : Layered layers) : (greedy admits (offers layers enabled)).Pairwise fun a b =>
      layerIndex a.layer ≤ layerIndex b.layer :=
  (ordered_offers h).sublist (greedy_sublist _)

/-- A cap would be exceeded. -/
def Exceeds (taken : List ContextItem) (item : ContextItem) : Prop :=
  exceedsLayer taken item = true ∨ exceedsTotal taken item = true

/-- Why each item is kept or dropped; `greedy admits earlier` is what is kept of the items in front
of it when it is offered. -/
structure Decided (offered items : List ContextItem) : Prop where
  soFar : ∀ earlier later, offered = earlier ++ later → greedy admits earlier <+: items
  dropped : ∀ earlier x later, offered = earlier ++ x :: later →
    greedy admits earlier ++ [x] <+: items ∨
      (∃ y ∈ greedy admits earlier, y.contentHash = x.contentHash) ∨
      Exceeds (greedy admits earlier) x
  kept : ∀ x ∈ items, ∃ earlier later, offered = earlier ++ x :: later ∧
    ∀ before y between, earlier = before ++ y :: between → y.contentHash = x.contentHash →
      Exceeds (greedy admits before) y

theorem not_admits {taken : List ContextItem} (h : admits taken item = false) :
    (∃ y ∈ taken, y.contentHash = item.contentHash) ∨ Exceeds taken item := by
  by_cases hduplicate : duplicates taken item = true
  · have ⟨y, hy, hsame⟩ := List.mem_map.mp (of_decide_eq_true hduplicate)
    exact .inl ⟨y, hy, hsame⟩
  · refine .inr ?_
    unfold Exceeds
    unfold admits at h
    rw [Bool.not_eq_true] at hduplicate
    rw [hduplicate] at h
    by_cases hlayer : exceedsLayer taken item = true
    · exact .inl hlayer
    · rw [Bool.not_eq_true] at hlayer
      rw [hlayer] at h
      exact .inr (by simpa using h)

theorem decided_greedy (offered : List ContextItem) :
    Decided offered (greedy admits offered) := by
  have hinitial : ∀ earlier later, offered = earlier ++ later →
      greedy admits earlier <+: greedy admits offered := by
    intro earlier later hsplit
    rw [hsplit]
    exact greedy_prefix earlier later
  refine ⟨hinitial, ?_, ?_⟩
  · intro earlier x later hsplit
    cases hadmits : admits (greedy admits earlier) x with
    | false => exact .inr (not_admits hadmits)
    | true =>
      refine .inl ?_
      rw [← greedy_taken hadmits]
      refine hinitial _ later ?_
      rw [hsplit, List.append_assoc, List.singleton_append]
  · intro x hx
    have ⟨earlier, later, hsplit, hadmits⟩ := mem_greedy.mp hx
    refine ⟨earlier, later, hsplit, ?_⟩
    intro before y between hearlier hsame
    have hnew : x.contentHash ∉ (greedy admits earlier).map ContextItem.contentHash :=
      of_decide_eq_false (admits_iff.mp hadmits).1
    have hstays : ∀ z ∈ greedy admits (before ++ [y]), z.contentHash ≠ x.contentHash := by
      intro z hz hhash
      have hlonger : greedy admits (before ++ [y]) <+: greedy admits earlier := by
        have hassoc : before ++ y :: between = before ++ [y] ++ between := by
          rw [List.append_assoc, List.singleton_append]
        rw [hearlier, hassoc]
        exact greedy_prefix _ _
      rw [← hhash] at hnew
      exact hnew (List.mem_map_of_mem (hlonger.subset hz))
    -- a copy that had been kept would still be there
    cases hcopy : admits (greedy admits before) y with
    | true =>
      rw [greedy_taken hcopy] at hstays
      exact absurd hsame (hstays y (List.mem_append_right _ List.mem_cons_self))
    | false =>
      rcases not_admits hcopy with ⟨z, hz, hhash⟩ | hexceeds
      · rw [greedy_dropped hcopy] at hstays
        exact absurd (hhash.trans hsame) (hstays z hz)
      · exact hexceeds

end FlowPilot.Planning.Context

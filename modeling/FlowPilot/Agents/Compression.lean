import FlowPilot.Agents.Glm
import FlowPilot.Lib.Fitting
import FlowPilot.Browser.Grounding

/-!
# Observations cut to a size

`DeterministicDomCompressor` measures an observation that states its own size, and
`_fit_serialized_limit` one that does not.  Both drop semantic nodes from the end, then interactive
elements, until the rest fits.
-/

open FlowPilot.Lib

namespace FlowPilot.Agents.Hybrid

/-! ## A size that counts itself -/

/-- The digits of a number. -/
def digits (n : Nat) : Nat := (Nat.toDigits 10 n).length

theorem lt_pow_digits (n : Nat) : n < 10 ^ digits n :=
  (Nat.length_toDigits_le_iff (by decide) Nat.length_toDigits_pos).mp (Nat.le_refl _)

theorem digits_le {n k : Nat} (hk : 0 < k) (h : n < 10 ^ k) : digits n ≤ k :=
  (Nat.length_toDigits_le_iff (by decide) hk).mpr h

theorem digits_mono {m n : Nat} (h : m ≤ n) : digits m ≤ digits n :=
  digits_le Nat.length_toDigits_pos (Nat.lt_of_le_of_lt h (lt_pow_digits n))

/-- The third measurement is final: the first finds the digits of nearly the right number, the
second may find one digit more, and then the number grows by one. -/
theorem measured_three_times (body : Nat) :
    body + digits (body + digits (body + digits (body + 1))) =
      body + digits (body + digits (body + 1)) := by
  let first := digits (body + 1)
  let second := digits (body + first)
  have hpositive : 0 < first := Nat.length_toDigits_pos
  have hbody : body + 1 < 10 ^ first := lt_pow_digits (body + 1)
  have hfirst : first < 10 ^ first := Nat.lt_pow_self (by decide)
  have hgrows : first ≤ second := digits_mono (by omega)
  have hpow : 10 ^ (first + 1) = 10 * 10 ^ first := by rw [pow_succ, Nat.mul_comm]
  have hsecond : second ≤ first + 1 := digits_le (Nat.succ_pos _) (by omega)
  have hthird : digits (body + second) ≤ first + 1 := digits_le (Nat.succ_pos _) (by omega)
  have hlast : second ≤ digits (body + second) := digits_mono (by omega)
  have hsame : digits (body + second) = second := by
    by_cases hmore : second = first
    · rw [hmore]
      exact hmore
    · omega
  show body + digits (body + second) = body + second
  rw [hsame]

theorem length_toString_nat (n : Nat) : (toString (n : Int)).length = digits n := by
  show (toString n).length = digits n
  rw [Nat.toString_eq_ofList_toDigits, String.length_ofList]
  rfl

namespace CompressedDomObservation

/-- The width without the digits of the stated size. -/
def bodyWidth (c : CompressedDomObservation) : Nat :=
  textWidth c.sessionId + digits c.generation + textWidth c.observationId +
    itemsWidth (c.semanticNodes.map nodeJson) +
    itemsWidth (c.interactiveElements.map elementJson) + (if c.truncated then 4 else 5) + 192

theorem width_eq (c : CompressedDomObservation) :
    c.width = c.bodyWidth + digits c.serializedBytes := by
  have htexts : textWidth "schema_version" + textWidth "w6-compressed-observation/1.0" +
      textWidth "modality" + textWidth "dom" + textWidth "session_id" + textWidth "generation" +
      textWidth "observation_id" + textWidth "semantic_nodes" + textWidth "interactive_elements" +
      textWidth "truncated" + textWidth "serialized_bytes" = 169 := by decide
  unfold bodyWidth width
  simp only [jsonWidth, fieldsWidth, length_toString_nat]
  generalize (if c.truncated = true then 4 else 5) = flag
  omega

/-- Each measurement adds the digits of the last to the body. -/
theorem serializedBytes_measured (c : CompressedDomObservation) :
    c.measured.serializedBytes = c.bodyWidth + digits c.serializedBytes := by
  unfold measured
  exact c.width_eq

theorem bodyWidth_measured (c : CompressedDomObservation) :
    c.measured.bodyWidth = c.bodyWidth := by
  unfold measured bodyWidth
  rfl

end CompressedDomObservation

section Candidate

variable (sessionId : String) (generation : Nat) (source : DomObservation)
  (semantic : List Dom.SemanticNode) (interactive : List Dom.InteractiveElement)
  (truncated : Bool)

/-- A candidate before it is measured. -/
def unmeasured : CompressedDomObservation where
  sessionId := sessionId
  generation := generation
  observationId := source.observationId
  semanticNodes := semantic
  interactiveElements := interactive
  truncated := truncated
  serializedBytes := 1

theorem candidate_width :
    (candidate sessionId generation source semantic interactive truncated).width =
      (unmeasured sessionId generation source semantic interactive truncated).bodyWidth +
        digits ((unmeasured sessionId generation source semantic interactive truncated).bodyWidth +
          digits ((unmeasured sessionId generation source semantic interactive truncated).bodyWidth
            + 1)) := by
  let first := unmeasured sessionId generation source semantic interactive truncated
  have hone : digits 1 = 1 := by decide
  have hfixed := measured_three_times first.bodyWidth
  show first.measured.measured.measured.measured.width = _
  rw [CompressedDomObservation.width_eq]
  simp only [CompressedDomObservation.serializedBytes_measured,
    CompressedDomObservation.bodyWidth_measured]
  rw [show first.serializedBytes = 1 from rfl, hone, hfixed, hfixed]

/-- The stated size is the actual one. -/
theorem candidate_measured :
    (candidate sessionId generation source semantic interactive truncated).serializedBytes =
      (candidate sessionId generation source semantic interactive truncated).width := by
  let first := unmeasured sessionId generation source semantic interactive truncated
  have hone : digits 1 = 1 := by decide
  have hfixed := measured_three_times first.bodyWidth
  rw [candidate_width]
  show first.measured.measured.measured.measured.serializedBytes = _
  simp only [CompressedDomObservation.serializedBytes_measured,
    CompressedDomObservation.bodyWidth_measured]
  rw [show first.serializedBytes = 1 from rfl, hone, hfixed]

end Candidate

/-! ## What always fits -/

theorem length_le_utf8 (s : String) : s.toList.length ≤ (utf8 s).length := by
  have hlist : ∀ l : List Char, l.length ≤ (utf8 (String.ofList l)).length := by
    intro l
    induction l with
    | nil => exact Nat.zero_le _
    | cons c l ih =>
        have hcons : String.ofList (c :: l) = String.ofList [c] ++ String.ofList l := by
          rw [← String.ofList_append]
          rfl
        have hsize := c.utf8Size_pos
        rw [hcons, utf8_append, List.length_append, utf8_singleton, List.length_map,
          String.length_utf8EncodeChar, List.length_cons]
        omega
  have hs := hlist s.toList
  rwa [String.ofList_toList] at hs

theorem textWidth_le (s : String) : textWidth s ≤ 2 + 12 * (utf8 s).length := by
  have hchar : ∀ c, asciiWidth c ≤ 12 := by
    intro c
    unfold asciiWidth
    split_ifs <;> omega
  have hsum : ∀ l : List Char, (l.map asciiWidth).sum ≤ 12 * l.length := by
    intro l
    induction l with
    | nil => exact Nat.le_refl _
    | cons c l ih =>
        have hc := hchar c
        rw [List.map_cons, List.sum_cons, List.length_cons]
        omega
  have hlength := length_le_utf8 s
  have hs := hsum s.toList
  unfold textWidth
  omega

theorem length_of_matchesId {lead : String} {low high : Nat} {bytes : List Nat}
    (h : Glm.matchesId lead low high bytes = true) :
    bytes.length ≤ (utf8 lead).length + high := by
  unfold Glm.matchesId at h
  dsimp only at h
  rw [Bool.and_eq_true, decide_eq_true_eq, List.length_drop] at h
  omega

/-- What the schema asks of the ids of an observation. -/
structure ValidIds (sessionId observationId : String) (generation : Nat) : Prop where
  session : Glm.matchesId "bw_" 16 64 (utf8 sessionId) = true
  observation : Glm.matchesId "obs_" 8 64 (utf8 observationId) = true
  generation : 1 ≤ generation ∧ generation ≤ 24

theorem empty_fits {sessionId : String} {generation : Nat} {source : DomObservation}
    (h : ValidIds sessionId source.observationId generation) (truncated : Bool) :
    (candidate sessionId generation source [] [] truncated).width ≤ maxCompressedDomBytes := by
  let body := (unmeasured sessionId generation source [] [] truncated).bodyWidth
  have hsession := textWidth_le sessionId
  have hobservation := textWidth_le source.observationId
  have hsessionId := length_of_matchesId h.session
  have hobservationId := length_of_matchesId h.observation
  have hlead : (utf8 "bw_").length = 3 ∧ (utf8 "obs_").length = 4 := by decide
  have hgeneration : digits generation ≤ 2 := by
    refine digits_le (by decide) ?_
    have hbound := h.generation
    omega
  have hbody : body ≤ 2000 := by
    show textWidth sessionId + digits generation + textWidth source.observationId + 0 + 0 +
      (if truncated then 4 else 5) + 192 ≤ 2000
    split_ifs <;> omega
  have hfirst : digits (body + 1) ≤ 4 := digits_le (by decide) (by omega)
  have hsecond : digits (body + digits (body + 1)) ≤ 4 := digits_le (by decide) (by omega)
  rw [candidate_width]
  show body + digits (body + digits (body + 1)) ≤ 12288
  omega

/-! ## Compression -/

section Compression

variable (sessionId : String) (generation : Nat) (source : DomObservation)

/-- The size of a candidate. -/
def candidateSize (semantic : List Dom.SemanticNode) (interactive : List Dom.InteractiveElement)
    (truncated : Bool) : Nat :=
  (candidate sessionId generation source semantic interactive truncated).width

theorem shrink_eq (fuel : Nat) : ∀ semantic interactive truncated,
    shrink sessionId generation source fuel semantic interactive truncated =
      let kept := cutToFit (candidateSize sessionId generation source) maxCompressedDomBytes fuel
        semantic interactive truncated
      let c := candidate sessionId generation source kept.1 kept.2.1 kept.2.2
      if c.width ≤ maxCompressedDomBytes then some c else none := by
  induction fuel with
  | zero => exact fun _ _ _ => rfl
  | succ fuel ih =>
      intro semantic interactive truncated
      rw [shrink, cutToFit]
      by_cases hfits : (candidate sessionId generation source semantic interactive
          truncated).width ≤ maxCompressedDomBytes
      · have hsize : candidateSize sessionId generation source semantic interactive truncated ≤
          maxCompressedDomBytes := hfits
        rw [if_pos hsize]
        dsimp only
        rw [if_pos hfits, if_pos hfits]
      · have hsize : ¬ candidateSize sessionId generation source semantic interactive truncated ≤
          maxCompressedDomBytes := hfits
        rw [if_neg hsize]
        dsimp only
        rw [if_neg hfits]
        by_cases hsemantic : semantic ≠ []
        · rw [if_pos hsemantic, if_pos hsemantic]
          exact ih _ _ _
        · rw [if_neg hsemantic, if_neg hsemantic]
          exact ih _ _ _

/-- What the compressor may keep. -/
def cappedSemantic : List Dom.SemanticNode := source.semanticNodes.take maxSemanticNodes

def cappedInteractive : List Dom.InteractiveElement :=
  source.interactiveElements.take maxInteractiveElements

/-- The truncation that the caps cause. -/
def cappedMark : Bool :=
  source.truncated || decide ((cappedSemantic source).length < source.semanticNodes.length) ||
    decide ((cappedInteractive source).length < source.interactiveElements.length)

variable {sessionId generation source}

/-- The compressor succeeds with the actual size in its field, and cuts no more than it has to. -/
theorem compress_spec (h : ValidIds sessionId source.observationId generation) :
    ∃ c, compress sessionId generation source = some c ∧ c.serializedBytes = c.width ∧
      c.width ≤ maxCompressedDomBytes ∧
      Fitted (candidateSize sessionId generation source) maxCompressedDomBytes
        (cappedSemantic source) (cappedInteractive source) (cappedMark source)
        c.semanticNodes c.interactiveElements c.truncated ∧
      (c.truncated = true ↔ source.truncated = true ∨
        c.semanticNodes.length + c.interactiveElements.length <
          source.semanticNodes.length + source.interactiveElements.length) := by
  let kept := cutToFit (candidateSize sessionId generation source) maxCompressedDomBytes
    ((cappedSemantic source).length + (cappedInteractive source).length) (cappedSemantic source)
    (cappedInteractive source) (cappedMark source)
  let c := candidate sessionId generation source kept.1 kept.2.1 kept.2.2
  have hfits : c.width ≤ maxCompressedDomBytes :=
    cutToFit_fits (candidateSize sessionId generation source) maxCompressedDomBytes
      (cappedSemantic source) (cappedInteractive source) (cappedMark source) (empty_fits h _)
  have hfitted := fitted_cutToFit (candidateSize sessionId generation source)
    maxCompressedDomBytes (cappedSemantic source) (cappedInteractive source) (cappedMark source)
  have hcompress : compress sessionId generation source = some c := by
    show shrink _ _ _ _ _ _ _ = _
    rw [shrink_eq]
    exact if_pos hfits
  refine ⟨c, hcompress, candidate_measured _ _ _ _ _ _, hfits, hfitted, ?_⟩
  have hmark : c.truncated = cutMark (cappedSemantic source) (cappedInteractive source)
    (cappedMark source) c.semanticNodes c.interactiveElements := hfitted.mark
  have hsemantic : c.semanticNodes.length ≤ (cappedSemantic source).length :=
    hfitted.first.length_le
  have hinteractive : c.interactiveElements.length ≤ (cappedInteractive source).length :=
    hfitted.second.length_le
  have hsemanticCap : (cappedSemantic source).length ≤ source.semanticNodes.length :=
    List.length_take_le' _ _
  have hinteractiveCap : (cappedInteractive source).length ≤ source.interactiveElements.length :=
    List.length_take_le' _ _
  rw [hmark]
  unfold cutMark cappedMark
  rw [Bool.or_eq_true, Bool.or_eq_true, Bool.or_eq_true, decide_eq_true_eq, decide_eq_true_eq,
    decide_eq_true_eq]
  by_cases hsource : source.truncated = true
  · simp only [hsource, true_or]
  · have hfalse : source.truncated = false := Bool.eq_false_iff.mpr hsource
    rw [hfalse]
    simp only [Bool.false_eq_true, false_or]
    have hlengths : ∀ {s i a b x y : Nat}, s ≤ a → i ≤ b → a ≤ x → b ≤ y →
        ((a < x ∨ b < y) ∨ s + i < a + b ↔ s + i < x + y) := by
      intro s i a b x y
      omega
    exact hlengths hsemantic hinteractive hsemanticCap hinteractiveCap

end Compression

end FlowPilot.Agents.Hybrid

namespace FlowPilot.Browser

open FlowPilot.Agents

/-! ## The worker's limit -/

/-- An element as it is sent. -/
def InteractiveElement.sent (e : InteractiveElement) : Dom.InteractiveElement where
  elementRef := e.elementRef
  role := e.role
  name := e.name
  state := ⟨e.state.disabled, e.state.checked, e.state.selected, e.state.expanded,
    e.state.readonly, e.state.required⟩
  allowedActions := e.allowedActions
  options := e.options

abbrev References := List (String × ElementTarget)

/-- `len(observation.model_dump_json().encode("utf-8"))`. -/
def serializedSize (o : Glm.IssuedObservation) : Nat := canonicalLength o.modelDump

/-- `_fit_serialized_limit`; `fuel` is the number of nodes and elements. -/
def fitSerializedLimit (maxObservationBytes : Nat) :
    Nat → Glm.IssuedObservation → References → Glm.IssuedObservation × References
  | 0, o, references => (o, references)
  | fuel + 1, o, references =>
    if serializedSize o ≤ maxObservationBytes then (o, references)
    else if o.semanticNodes ≠ [] then
      fitSerializedLimit maxObservationBytes fuel
        { o with semanticNodes := o.semanticNodes.dropLast, truncated := true } references
    else
      match o.interactiveElements.getLast? with
      | none => (o, references)
      | some removed =>
        fitSerializedLimit maxObservationBytes fuel
          { o with interactiveElements := o.interactiveElements.dropLast, truncated := true }
          (references.filter fun r => r.1 ≠ removed.elementRef)

/-- The observation with these lists and this mark. -/
def withKept (o : Glm.IssuedObservation) (semantic : List Dom.SemanticNode)
    (interactive : List Dom.InteractiveElement) (truncated : Bool) : Glm.IssuedObservation :=
  { o with
    semanticNodes := semantic
    interactiveElements := interactive
    truncated := truncated }

/-- The size of the observation with other lists. -/
def keptSize (o : Glm.IssuedObservation) (semantic : List Dom.SemanticNode)
    (interactive : List Dom.InteractiveElement) (truncated : Bool) : Nat :=
  serializedSize (withKept o semantic interactive truncated)

section Fit

variable {maxObservationBytes : Nat}

variable {o : Glm.IssuedObservation} {semantic : List Dom.SemanticNode}
  {interactive : List Dom.InteractiveElement} {truncated : Bool} {references : References}
  {fuel : Nat}

theorem fitSerializedLimit_fits
    (h : keptSize o semantic interactive truncated ≤ maxObservationBytes) :
    fitSerializedLimit maxObservationBytes fuel (withKept o semantic interactive truncated)
      references = (withKept o semantic interactive truncated, references) := by
  cases fuel with
  | zero => rfl
  | succ fuel =>
      have hsize : serializedSize (withKept o semantic interactive truncated) ≤
        maxObservationBytes := h
      rw [fitSerializedLimit, if_pos hsize]

theorem fitSerializedLimit_semantic
    (h : ¬ keptSize o semantic interactive truncated ≤ maxObservationBytes)
    (hsemantic : semantic ≠ []) :
    fitSerializedLimit maxObservationBytes (fuel + 1)
        (withKept o semantic interactive truncated) references =
      fitSerializedLimit maxObservationBytes fuel
        (withKept o semantic.dropLast interactive true) references := by
  have hsize : ¬ serializedSize (withKept o semantic interactive truncated) ≤
    maxObservationBytes := h
  have hleft : (withKept o semantic interactive truncated).semanticNodes ≠ [] := hsemantic
  rw [fitSerializedLimit, if_neg hsize, if_pos hleft]
  rfl

theorem fitSerializedLimit_interactive {removed : Dom.InteractiveElement}
    (h : ¬ keptSize o [] (interactive ++ [removed]) truncated ≤ maxObservationBytes) :
    fitSerializedLimit maxObservationBytes (fuel + 1)
        (withKept o [] (interactive ++ [removed]) truncated) references =
      fitSerializedLimit maxObservationBytes fuel (withKept o [] interactive true)
        (references.filter fun r => r.1 ≠ removed.elementRef) := by
  have hsize : ¬ serializedSize (withKept o [] (interactive ++ [removed]) truncated) ≤
    maxObservationBytes := h
  have hgone : ¬ (withKept o [] (interactive ++ [removed]) truncated).semanticNodes ≠ [] :=
    not_not.mpr rfl
  have hlast : (withKept o [] (interactive ++ [removed]) truncated).interactiveElements.getLast? =
    some removed := List.getLast?_concat
  have hrest : (withKept o [] (interactive ++ [removed]) truncated).interactiveElements.dropLast =
    interactive := List.dropLast_concat
  rw [fitSerializedLimit, if_neg hsize, if_neg hgone, hlast]
  dsimp only
  rw [hrest]
  rfl

/-- Popping the reference of the last element leaves those of the others. -/
theorem keys_pop {removed : Dom.InteractiveElement}
    (hkeys : references.map Prod.fst = (interactive ++ [removed]).map (·.elementRef))
    (hdistinct : ((interactive ++ [removed]).map (·.elementRef)).Nodup) :
    (references.filter fun r => r.1 ≠ removed.elementRef).map Prod.fst =
      interactive.map (·.elementRef) := by
  have hfilter : (references.filter fun r => r.1 ≠ removed.elementRef).map Prod.fst =
      (references.map Prod.fst).filter fun key => key ≠ removed.elementRef := by
    rw [List.filter_map]
    rfl
  rw [List.map_append, List.nodup_append] at hdistinct
  have hothers : ∀ key ∈ interactive.map (·.elementRef), ¬ key = removed.elementRef := by
    intro key hkey
    exact hdistinct.2.2 key hkey _ List.mem_cons_self
  rw [hfilter, hkeys, List.map_append, List.filter_append, List.filter_eq_self.mpr ?_]
  · simp
  · intro key hkey
    exact decide_eq_true (hothers key hkey)

variable (maxObservationBytes) in
/-- The loop is the general one, and the references follow the elements. -/
theorem fitSerializedLimit_eq (o : Glm.IssuedObservation) (fuel : Nat) :
    ∀ semantic interactive truncated references,
      fuel = semantic.length + interactive.length →
      references.map Prod.fst = interactive.map (·.elementRef) →
      (interactive.map (·.elementRef)).Nodup →
      ∃ references',
        fitSerializedLimit maxObservationBytes fuel (withKept o semantic interactive truncated)
          references =
        (withKept o
          (cutToFit (keptSize o) maxObservationBytes fuel semantic interactive truncated).1
          (cutToFit (keptSize o) maxObservationBytes fuel semantic interactive truncated).2.1
          (cutToFit (keptSize o) maxObservationBytes fuel semantic interactive truncated).2.2,
          references') ∧
        references'.map Prod.fst =
          (cutToFit (keptSize o) maxObservationBytes fuel semantic interactive truncated).2.1.map
            (·.elementRef) := by
  induction fuel with
  | zero =>
      intro semantic interactive truncated references _ hkeys _
      exact ⟨references, rfl, hkeys⟩
  | succ fuel ih =>
      intro semantic interactive truncated references hfuel hkeys hdistinct
      rw [cutToFit]
      by_cases hfits : keptSize o semantic interactive truncated ≤ maxObservationBytes
      · rw [if_pos hfits]
        exact ⟨references, fitSerializedLimit_fits hfits, hkeys⟩
      · rw [if_neg hfits]
        by_cases hsemantic : semantic ≠ []
        · have hpositive := List.length_pos_iff.mpr hsemantic
          rw [if_pos hsemantic, fitSerializedLimit_semantic hfits hsemantic]
          refine ih semantic.dropLast interactive true references ?_ hkeys hdistinct
          rw [List.length_dropLast]
          omega
        · rw [if_neg hsemantic]
          have hnil := not_not.mp hsemantic
          subst hnil
          rcases List.eq_nil_or_concat interactive with hnone | ⟨rest, removed, hlast⟩
          · subst hnone
            cases hfuel
          · rw [List.concat_eq_append] at hlast
            subst hlast
            rw [List.length_append] at hfuel
            have hrest := hdistinct
            rw [List.map_append, List.nodup_append] at hrest
            rw [fitSerializedLimit_interactive hfits, List.dropLast_concat]
            refine ih [] rest true _ ?_ (keys_pop hkeys hdistinct) hrest.1
            simp only [List.length_nil, List.length_cons] at hfuel ⊢
            omega

/-- What the loop keeps of an observation whose elements have distinct references. -/
theorem fitSerializedLimit_spec (o : Glm.IssuedObservation)
    (hkeys : references.map Prod.fst = o.interactiveElements.map (·.elementRef))
    (hdistinct : (o.interactiveElements.map (·.elementRef)).Nodup) :
    ∃ kept references',
      fitSerializedLimit maxObservationBytes
          (o.semanticNodes.length + o.interactiveElements.length) o references =
        (kept, references') ∧
      kept = withKept o kept.semanticNodes kept.interactiveElements kept.truncated ∧
      Fitted (keptSize o) maxObservationBytes o.semanticNodes o.interactiveElements o.truncated
        kept.semanticNodes kept.interactiveElements kept.truncated ∧
      (keptSize o [] [] (cutMark o.semanticNodes o.interactiveElements o.truncated
          ([] : List Dom.SemanticNode) ([] : List Dom.InteractiveElement)) ≤
          maxObservationBytes → serializedSize kept ≤ maxObservationBytes) ∧
      references'.map Prod.fst = kept.interactiveElements.map (·.elementRef) := by
  let cut := cutToFit (keptSize o) maxObservationBytes
    (o.semanticNodes.length + o.interactiveElements.length) o.semanticNodes o.interactiveElements
    o.truncated
  have hwhole : withKept o o.semanticNodes o.interactiveElements o.truncated = o := rfl
  have ⟨references', hresult, hkept⟩ := fitSerializedLimit_eq maxObservationBytes o _
    o.semanticNodes o.interactiveElements o.truncated references rfl hkeys hdistinct
  rw [hwhole] at hresult
  refine ⟨withKept o cut.1 cut.2.1 cut.2.2, references', hresult, rfl, ?_, ?_, hkept⟩
  · exact fitted_cutToFit (keptSize o) maxObservationBytes o.semanticNodes o.interactiveElements
      o.truncated
  · exact cutToFit_fits (keptSize o) maxObservationBytes o.semanticNodes o.interactiveElements
      o.truncated

/-- The extraction gives every element a reference of its own. -/
theorem extracted_distinct {t : Texts} {limits : ElementLimits} {nonce : String} {p : Page}
    {entries : List Entry} (h : extractInteractiveElements t limits nonce p = some entries) :
    (entries.map fun entry => entry.shown.elementRef).Nodup := by
  have ⟨hentries, hpairwise⟩ := extractFrom_spec _ 0 entries h
  refine List.pairwise_map.mpr ?_
  refine hpairwise.imp_of_mem ?_
  intro a b ha hb hlt hsame
  rw [(hentries a ha).2.2, (hentries b hb).2.2] at hsame
  have hindex := elementRef_inj hsame
  omega

end Fit

open Agents.Hybrid in
/-- Both loops cut an observation no more than its limit asks, and state what they did. -/
theorem size_fitting_exact :
    (∀ (sessionId : String) (generation : Nat) (source : DomObservation),
      ValidIds sessionId source.observationId generation →
        ∃ c, compress sessionId generation source = some c ∧ c.serializedBytes = c.width ∧
          c.width ≤ maxCompressedDomBytes ∧
          Fitted (candidateSize sessionId generation source) maxCompressedDomBytes
            (cappedSemantic source) (cappedInteractive source) (cappedMark source)
            c.semanticNodes c.interactiveElements c.truncated ∧
          (c.truncated = true ↔ source.truncated = true ∨
            c.semanticNodes.length + c.interactiveElements.length <
              source.semanticNodes.length + source.interactiveElements.length)) ∧
    (∀ (maxObservationBytes : Nat) (t : Texts) (limits : ElementLimits) (nonce : String)
        (p : Page) (entries : List Entry) (o : Glm.IssuedObservation),
      extractInteractiveElements t limits nonce p = some entries →
      o.interactiveElements = entries.map (fun entry => entry.shown.sent) →
        ∃ kept references,
          fitSerializedLimit maxObservationBytes
              (o.semanticNodes.length + o.interactiveElements.length) o
              (entries.map fun entry => (entry.shown.elementRef, entry.target)) =
            (kept, references) ∧
          kept = withKept o kept.semanticNodes kept.interactiveElements kept.truncated ∧
          Fitted (keptSize o) maxObservationBytes o.semanticNodes o.interactiveElements
            o.truncated kept.semanticNodes kept.interactiveElements kept.truncated ∧
          (keptSize o [] [] (cutMark o.semanticNodes o.interactiveElements o.truncated
              ([] : List Dom.SemanticNode) ([] : List Dom.InteractiveElement)) ≤
              maxObservationBytes → serializedSize kept ≤ maxObservationBytes) ∧
          references.map Prod.fst = kept.interactiveElements.map (·.elementRef)) := by
  constructor
  · intro sessionId generation source h
    exact compress_spec h
  · intro maxObservationBytes t limits nonce p entries o hextract helements
    have hrefs : o.interactiveElements.map (·.elementRef) =
        entries.map fun entry => entry.shown.elementRef := by
      rw [helements, List.map_map]
      rfl
    refine fitSerializedLimit_spec o ?_ ?_
    · rw [hrefs, List.map_map]
      rfl
    · rw [hrefs]
      exact extracted_distinct hextract

namespace Sample

def confirmHeading : Dom.SemanticNode := ⟨"heading", "Confirm", "Confirm the deletion"⟩

def twoButtonsPage : Page where
  elements := [cancelButton, deleteButton]
  distinct := by decide

def deleteEntry : Entry := entryOf plainTexts {} "AAAABBBBCCCC" 1 deleteButton

theorem twoButtonsPage_entries :
    extractInteractiveElements plainTexts {} "AAAABBBBCCCC" twoButtonsPage =
      some [cancelEntry, deleteEntry] := rfl

def twoButtonsShown : Glm.IssuedObservation where
  currentUrl := "https://arena.example/confirm"
  pageTitle := "Confirm"
  semanticNodes := [confirmHeading]
  interactiveElements := [cancelEntry.shown.sent, deleteEntry.shown.sent]
  sessionId := "bw_AAAABBBBCCCCDDDD"
  observationId := "obs_AAAABBBBCCCC"

def twoButtonsSource : Agents.Hybrid.DomObservation where
  observationId := twoButtonsShown.observationId
  semanticNodes := twoButtonsShown.semanticNodes
  interactiveElements := twoButtonsShown.interactiveElements
  truncated := false

def twoButtonsReferences : References :=
  [(cancelEntry.shown.elementRef, cancelEntry.target),
    (deleteEntry.shown.elementRef, deleteEntry.target)]

theorem twoButtons_cut :
    fitSerializedLimit 600 3 twoButtonsShown twoButtonsReferences =
      (withKept twoButtonsShown [] [cancelEntry.shown.sent] true,
        [(cancelEntry.shown.elementRef, cancelEntry.target)]) := by
  -- 816 bytes with everything, 750 without the heading, 516 without the second button.
  have hwhole : ¬ keptSize twoButtonsShown [confirmHeading]
      twoButtonsShown.interactiveElements false ≤ 600 := by decide +kernel
  have hbuttons : ¬ keptSize twoButtonsShown []
      ([cancelEntry.shown.sent] ++ [deleteEntry.shown.sent]) true ≤ 600 := by decide +kernel
  have hone : keptSize twoButtonsShown [] [cancelEntry.shown.sent] true ≤ 600 := by
    decide +kernel
  have hpopped : (twoButtonsReferences.filter fun r =>
      r.1 ≠ deleteEntry.shown.sent.elementRef) =
        [(cancelEntry.shown.elementRef, cancelEntry.target)] := by decide +kernel
  have hheading : fitSerializedLimit 600 (2 + 1) (withKept twoButtonsShown [confirmHeading]
      twoButtonsShown.interactiveElements false) twoButtonsReferences = _ :=
    fitSerializedLimit_semantic hwhole (List.cons_ne_nil _ _)
  have hsecond : fitSerializedLimit 600 (1 + 1) (withKept twoButtonsShown []
      ([cancelEntry.shown.sent] ++ [deleteEntry.shown.sent]) true) twoButtonsReferences = _ :=
    fitSerializedLimit_interactive hbuttons
  rw [hpopped, fitSerializedLimit_fits hone] at hsecond
  exact hheading.trans hsecond

end Sample

/-- The compressor keeps a small page whole, and a limit of 600 bytes leaves its first button. -/
theorem size_fitting_exact_twoButtons :
    (∃ c, Agents.Hybrid.compress "bw_AAAABBBBCCCCDDDD" 1 Sample.twoButtonsSource = some c ∧
      c.serializedBytes = c.width) ∧
    Fitted (keptSize Sample.twoButtonsShown) 600 Sample.twoButtonsShown.semanticNodes
      Sample.twoButtonsShown.interactiveElements false [] [Sample.cancelEntry.shown.sent] true := by
  have ⟨hcompress, hfit⟩ := size_fitting_exact
  constructor
  · have ⟨c, hc, hmeasured, _⟩ := hcompress "bw_AAAABBBBCCCCDDDD" 1 Sample.twoButtonsSource
      { session := by decide, observation := by decide, generation := by decide }
    exact ⟨c, hc, hmeasured⟩
  · have ⟨kept, references, hresult, _, hfitted, _⟩ := hfit 600 Sample.plainTexts {}
      "AAAABBBBCCCC" Sample.twoButtonsPage _ Sample.twoButtonsShown Sample.twoButtonsPage_entries rfl
    have hcut := hresult.symm.trans Sample.twoButtons_cut
    rw [(Prod.mk.inj hcut).1] at hfitted
    exact hfitted

end FlowPilot.Browser

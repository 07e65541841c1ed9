import FlowPilot.Approvals.Permits

/-!
# Transitions of the approval tables

The elementary changes of requests, decisions, grants and vault.  Every approval operation is a
sequence of them; each keeps the tables valid, moves one permit or none, and rewrites rows only
into later rows.
-/

open FlowPilot.Lib Relation

namespace FlowPilot

open Control (Vault Credential)

namespace Approvals

/-- One request row is written. -/
structure Rewritten (s t : Approvals) (r r' : ApprovalRequest) : Prop where
  requests : Table.Replaces s.requests t.requests r r'
  terms : r'.fixed = r.fixed
  version : r'.version = r.version + 1

/-- A decision about the request is inserted. -/
structure Decided (s t : Approvals) (r : ApprovalRequest) (d : ApprovalDecision) : Prop where
  inserted : ∃ hfresh, t.decisions = s.decisions.insert d hfresh
  terms : DecidedFor r d
  distinct : ∀ d' ∈ s.decisions.rows, d'.requestId = d.requestId →
    d'.approverUserId ≠ d.approverUserId ∧ d'.approvalRole ≠ d.approvalRole

/-- The credential of the grant enters the vault. -/
structure Kept [Sha256] (s t : Approvals) (g : ApprovalGrant) (credential : Credential) :
    Prop where
  entries : t.vault.entries = s.vault.entries ++ [(g.grantId, credential)]
  fresh : ∀ e ∈ s.vault.entries, e.1 ≠ g.grantId
  room : s.vault.entries.length < Vault.capacity
  token : g.tokenHash = stableHashText credential.token
  nonce : g.nonceHash = stableHashText credential.nonce

/-- A request and its grant are written together, and their permit moves. -/
structure Moved (s t : Approvals) (r r' : ApprovalRequest) (g g' : ApprovalGrant)
    (p q : Permit ExecutionId) : Prop where
  request : s.Rewritten t r r'
  grant : Table.Replaces s.grants t.grants g g'
  terms : g'.fixed = g.fixed
  version : g'.version = g.version + 1
  pair : g.requestId = r.requestId
  before : permitOf r (some g) = some p
  now : permitOf r' (some g') = some q
  next : p.Next q
  fresh : ∀ e, p.execution = none → q.execution = some e →
    ∀ x ∈ s.grants.rows, x.executionId ≠ some e
  decisions : t.decisions = s.decisions
  vault : t.vault.entries.Sublist s.vault.entries ∧ ∀ e ∈ t.vault.entries, e.1 ≠ g.grantId

inductive Next [Sha256] (s t : Approvals) : Prop where
  | ask {r : ApprovalRequest} (hpending : r.status = .pending)
      (hrequests : ∃ hfresh, t.requests = s.requests.insert r hfresh)
      (hdecisions : t.decisions = s.decisions) (hgrants : t.grants = s.grants)
      (hvault : t.vault = s.vault)
  | decide {r r' : ApprovalRequest} {d : ApprovalDecision} (hr : s.Rewritten t r r')
      (hpending : r.status = .pending) (hstill : r'.status = .pending) (hd : s.Decided t r d)
      (hgrants : t.grants = s.grants) (hvault : t.vault = s.vault)
  | refuse {r r' : ApprovalRequest} (hr : s.Rewritten t r r') (hpending : r.status = .pending)
      (hrefused : permitOf r' none = some .refused)
      (hdecisions : t.decisions = s.decisions ∨ ∃ d, s.Decided t r d)
      (hgrants : t.grants = s.grants) (hvault : t.vault = s.vault)
  | grant {r r' : ApprovalRequest} {d : ApprovalDecision} {g : ApprovalGrant}
      {credential : Credential} (hr : s.Rewritten t r r') (hpending : r.status = .pending)
      (happroved : r'.status = .approved) (hd : s.Decided t r d)
      (hgrants : ∃ hfresh, t.grants = s.grants.insert g hfresh) (hfor : GrantedFor r g)
      (hissued : g.status = .issued) (hfree : g.executionId = none)
      (hquorum : ∀ role, role ∈ r.requiredRoles ↔ t.ApprovedBy r.requestId role)
      (hvault : s.Kept t g credential)
  | move {r r' : ApprovalRequest} {g g' : ApprovalGrant} {p q : Permit ExecutionId}
      (h : s.Moved t r r' g g' p q)
  | forget {vault : Vault} (hvault : vault.entries.Sublist s.vault.entries)
      (h : t = { s with vault := vault })

/-! ## Rows become later rows -/

section

variable {s t : Approvals} {r r' : ApprovalRequest} {d : ApprovalDecision}

theorem Rewritten.evolves (h : s.Rewritten t r r')
    (hstatus : r.status.rank < r'.status.rank ∨ r.status = .pending ∧ r'.status = .pending) :
    Table.Evolves ApprovalRequest.Later s.requests t.requests := by
  have hversion := h.version
  exact .replaces ApprovalRequest.Later.refl h.requests
    ⟨h.terms, .inr ⟨by omega, hstatus⟩⟩

theorem Rewritten.mem_iff (h : s.Rewritten t r r') {x : ApprovalRequest} :
    x ∈ t.requests.rows ↔ x = r' ∨ x ∈ s.requests.rows ∧ x.requestId ≠ r.requestId :=
  h.requests.mem_iff

theorem Rewritten.id (h : s.Rewritten t r r') : r'.requestId = r.requestId :=
  ApprovalRequest.id_of_fixed h.terms

/-- A row of the new table has the terms of a row of the old one. -/
theorem Rewritten.source (h : s.Rewritten t r r') {x : ApprovalRequest}
    (hx : x ∈ t.requests.rows) :
    ∃ y ∈ s.requests.rows, y.requestId = x.requestId ∧ x.fixed = y.fixed := by
  rcases h.mem_iff.mp hx with rfl | ⟨hold, _⟩
  · exact ⟨r, h.requests.mem, h.id.symm, h.terms⟩
  · exact ⟨x, hold, rfl, rfl⟩

theorem Decided.mem_iff (h : s.Decided t r d) {x : ApprovalDecision} :
    x ∈ t.decisions.rows ↔ x ∈ s.decisions.rows ∨ x = d := by
  obtain ⟨hfresh, hdecisions⟩ := h.inserted
  rw [hdecisions]
  exact Table.mem_insert hfresh

/-- Decisions about other requests are what they were. -/
theorem Decided.approvedBy_other (h : s.Decided t r d) {requestId : RequestId}
    (hother : requestId ≠ r.requestId) (role : ApprovalRole) :
    t.ApprovedBy requestId role ↔ s.ApprovedBy requestId role := by
  constructor
  · intro happroved
    obtain ⟨x, hx, hrequest, hvalue, hrole⟩ := happroved
    rcases h.mem_iff.mp hx with hold | rfl
    · exact ⟨x, hold, hrequest, hvalue, hrole⟩
    · exact absurd (hrequest.symm.trans h.terms.request) hother
  · intro happroved
    obtain ⟨x, hx, hrest⟩ := happroved
    exact ⟨x, h.mem_iff.mpr (.inl hx), hrest⟩

theorem approvedBy_congr (h : t.decisions = s.decisions) (requestId : RequestId)
    (role : ApprovalRole) : t.ApprovedBy requestId role ↔ s.ApprovedBy requestId role := by
  unfold ApprovedBy
  rw [h]

/-- Grants and decisions keep their requests. -/
theorem granted_later (h : Table.Evolves ApprovalRequest.Later s.requests t.requests)
    {g : ApprovalGrant} (hg : ∃ r ∈ s.requests.rows, GrantedFor r g) :
    ∃ r ∈ t.requests.rows, GrantedFor r g := by
  obtain ⟨r, hr, hfor⟩ := hg
  obtain ⟨r', hr', _, hlater⟩ := h r hr
  exact ⟨r', hr', hfor.of_fixed hlater.1 rfl⟩

theorem decided_later (h : Table.Evolves ApprovalRequest.Later s.requests t.requests)
    {d : ApprovalDecision} (hd : ∃ r ∈ s.requests.rows, DecidedFor r d) :
    ∃ r ∈ t.requests.rows, DecidedFor r d := by
  obtain ⟨r, hr, hfor⟩ := hd
  obtain ⟨r', hr', _, hlater⟩ := h r hr
  exact ⟨r', hr', hfor.of_fixed hlater.1⟩

theorem rank_refused {r : ApprovalRequest} (h : permitOf r none = some .refused) :
    r.status.rank = 3 := by
  rcases permitOf_none h with ⟨_, hp⟩ | ⟨hr | hr | hr | hr, _⟩
  · cases hp
  all_goals
    rw [hr]
    rfl

/-- The statuses of the request and of the grant move with the permit. -/
theorem rank_moved {r r' : ApprovalRequest} {g g' : ApprovalGrant} {p q : Permit ExecutionId}
    (hp : permitOf r (some g) = some p) (hq : permitOf r' (some g') = some q)
    (hnext : p.Next q) :
    r.status.rank < r'.status.rank ∧ g.status.rank < g'.status.rank := by
  rcases permitOf_some hp with ⟨hr, hg, _, rfl⟩ | ⟨_, _, _, rfl⟩ |
    ⟨e, _, ⟨hr, hg, rfl⟩ | ⟨_, _, rfl⟩ | ⟨_, _, rfl⟩⟩
  · rcases permitOf_some hq with ⟨_, _, _, rfl⟩ | ⟨hr' | hr', hg', _⟩ |
      ⟨e', _, ⟨hr', hg', _⟩ | ⟨hr', hg', _⟩ | ⟨hr' | hr', hg', _⟩⟩
    · cases hnext
    all_goals
      rw [hr, hr', hg, hg']
      decide
  · cases hnext
  · rcases permitOf_some hq with ⟨_, _, _, rfl⟩ | ⟨hr' | hr', hg', _⟩ |
      ⟨e', _, ⟨_, _, rfl⟩ | ⟨hr', hg', _⟩ | ⟨hr' | hr', hg', _⟩⟩
    · cases hnext
    case inr.inr.inl => cases hnext
    all_goals
      rw [hr, hr', hg, hg']
      decide
  · cases hnext
  · cases hnext

end

section

variable [Sha256] {s t : Approvals}

theorem Next.requests (h : s.Next t) :
    Table.Evolves ApprovalRequest.Later s.requests t.requests := by
  cases h with
  | ask _ hrequests _ _ _ =>
      obtain ⟨hfresh, hrequests⟩ := hrequests
      rw [hrequests]
      exact .insert ApprovalRequest.Later.refl hfresh
  | decide hr hpending hstill _ _ _ => exact hr.evolves (.inr ⟨hpending, hstill⟩)
  | refuse hr hpending hrefused _ _ _ =>
      refine hr.evolves (.inl ?_)
      rw [hpending, rank_refused hrefused]
      decide
  | grant hr hpending happroved _ _ _ _ _ _ _ =>
      refine hr.evolves (.inl ?_)
      rw [hpending, happroved]
      decide
  | move h => exact h.request.evolves (.inl (rank_moved h.before h.now h.next).1)
  | forget _ h =>
      rw [h]
      exact .refl ApprovalRequest.Later.refl _

theorem Next.grants (h : s.Next t) : Table.Evolves ApprovalGrant.Later s.grants t.grants := by
  cases h with
  | ask _ _ _ hgrants _ | decide _ _ _ _ hgrants _ | refuse _ _ _ _ hgrants _ =>
      rw [hgrants]
      exact .refl ApprovalGrant.Later.refl _
  | grant _ _ _ _ hgrants _ _ _ _ _ =>
      obtain ⟨hfresh, hgrants⟩ := hgrants
      rw [hgrants]
      exact .insert ApprovalGrant.Later.refl hfresh
  | move h =>
      have hversion := h.version
      exact .replaces ApprovalGrant.Later.refl h.grant
        ⟨h.terms, .inr ⟨by omega, (rank_moved h.before h.now h.next).2⟩⟩
  | forget _ h =>
      rw [h]
      exact .refl ApprovalGrant.Later.refl _

/-- No decision is taken back. -/
theorem Next.decisions (h : s.Next t) {d : ApprovalDecision} (hd : d ∈ s.decisions.rows) :
    d ∈ t.decisions.rows := by
  cases h with
  | ask _ _ hdecisions _ _ =>
      rw [hdecisions]
      exact hd
  | move h =>
      rw [h.decisions]
      exact hd
  | decide _ _ _ hdecided _ _ | grant _ _ _ hdecided _ _ _ _ _ _ =>
      exact hdecided.mem_iff.mpr (.inl hd)
  | refuse _ _ _ hdecisions _ _ =>
      rcases hdecisions with hsame | ⟨d', hdecided⟩
      · rw [hsame]
        exact hd
      · exact hdecided.mem_iff.mpr (.inl hd)
  | forget _ h =>
      rw [h]
      exact hd

/-! ## Validity -/

theorem Decided.valid (h : s.Valid)
    (hlater : Table.Evolves ApprovalRequest.Later s.requests t.requests) {r : ApprovalRequest}
    {d : ApprovalDecision} (hr : r ∈ s.requests.rows) (hd : s.Decided t r d) :
    (∀ x ∈ t.decisions.rows, ∃ r ∈ t.requests.rows, DecidedFor r x) ∧
    ∀ x ∈ t.decisions.rows, ∀ y ∈ t.decisions.rows, x.requestId = y.requestId →
      x.approverUserId = y.approverUserId ∨ x.approvalRole = y.approvalRole → x = y := by
  constructor
  · intro x hx
    rcases hd.mem_iff.mp hx with hold | rfl
    · exact decided_later hlater (h.decided x hold)
    · exact decided_later hlater ⟨r, hr, hd.terms⟩
  · intro x hx y hy hrequest hshared
    rcases hd.mem_iff.mp hx with hx | rfl
    · rcases hd.mem_iff.mp hy with hy | rfl
      · exact h.distinct x hx y hy hrequest hshared
      · obtain ⟨happrover, hrole⟩ := hd.distinct x hx hrequest
        rcases hshared with hsame | hsame
        · exact absurd hsame happrover
        · exact absurd hsame hrole
    · rcases hd.mem_iff.mp hy with hy | rfl
      · obtain ⟨happrover, hrole⟩ := hd.distinct y hy hrequest.symm
        rcases hshared with hsame | hsame
        · exact absurd hsame.symm happrover
        · exact absurd hsame.symm hrole
      · rfl

theorem same_decisions_valid (h : s.Valid)
    (hlater : Table.Evolves ApprovalRequest.Later s.requests t.requests)
    (hdecisions : t.decisions = s.decisions) :
    (∀ x ∈ t.decisions.rows, ∃ r ∈ t.requests.rows, DecidedFor r x) ∧
    ∀ x ∈ t.decisions.rows, ∀ y ∈ t.decisions.rows, x.requestId = y.requestId →
      x.approverUserId = y.approverUserId ∨ x.approvalRole = y.approvalRole → x = y := by
  rw [hdecisions]
  exact ⟨fun x hx => decided_later hlater (h.decided x hx), h.distinct⟩

/-- While the grants and the vault stay, requests and decisions have to be valid only. -/
theorem Valid.of_same_grants (h : s.Valid)
    (hlater : Table.Evolves ApprovalRequest.Later s.requests t.requests)
    (hgrants : t.grants = s.grants) (hvault : t.vault = s.vault)
    (hpermits : ∀ r ∈ t.requests.rows, ∃ p, permitOf r (s.grantOf r.requestId) = some p)
    (hsource : ∀ x ∈ t.requests.rows, ∀ g ∈ s.grants.rows, x.requestId = g.requestId →
      ∃ y ∈ s.requests.rows, y.requestId = x.requestId ∧ x.fixed = y.fixed)
    (hdecisions : (∀ x ∈ t.decisions.rows, ∃ r ∈ t.requests.rows, DecidedFor r x) ∧
      ∀ x ∈ t.decisions.rows, ∀ y ∈ t.decisions.rows, x.requestId = y.requestId →
        x.approverUserId = y.approverUserId ∨ x.approvalRole = y.approvalRole → x = y)
    (happroved : ∀ g ∈ s.grants.rows, ∀ role,
      t.ApprovedBy g.requestId role ↔ s.ApprovedBy g.requestId role) : t.Valid where
  permits := by
    intro r hr
    rw [grantOf_congr hgrants]
    exact hpermits r hr
  granted := by
    rw [hgrants]
    exact fun g hg => granted_later hlater (h.granted g hg)
  single := by
    rw [hgrants]
    exact h.single
  exclusive := by
    rw [hgrants]
    exact h.exclusive
  decided := hdecisions.1
  distinct := hdecisions.2
  quorum := by
    rw [hgrants]
    intro g hg x hx hrequest role
    obtain ⟨y, hy, hid, hterms⟩ := hsource x hx g hg hrequest
    rw [ApprovalRequest.roles_of_fixed hterms, hrequest, happroved g hg,
      h.quorum g hg y hy (hid.trans hrequest), hid.trans hrequest]
  vault := by
    obtain ⟨hkeys, hbounded, hissued⟩ := h.vault
    constructor
    · rw [hvault]
      exact hkeys
    · rw [hvault]
      exact hbounded
    · rw [hvault, hgrants]
      exact hissued

/-- The permits after one request without a grant is written. -/
theorem Rewritten.permits (h : s.Valid) {r r' : ApprovalRequest} (hr : s.Rewritten t r r')
    (hnone : ∀ g ∈ s.grants.rows, g.requestId ≠ r.requestId) {p : Permit ExecutionId}
    (hp : permitOf r' none = some p) :
    ∀ x ∈ t.requests.rows, ∃ p, permitOf x (s.grantOf x.requestId) = some p := by
  intro x hx
  rcases hr.mem_iff.mp hx with rfl | ⟨hold, _⟩
  · rw [hr.id, grantOf_eq_none.mpr hnone]
    exact ⟨p, hp⟩
  · exact h.permits x hold

theorem Next.valid_ask (h : s.Valid) {r : ApprovalRequest} (hpending : r.status = .pending)
    (hrequests : ∃ hfresh, t.requests = s.requests.insert r hfresh)
    (hdecisions : t.decisions = s.decisions) (hgrants : t.grants = s.grants)
    (hvault : t.vault = s.vault) : t.Valid := by
  have hlater := (Next.ask hpending hrequests hdecisions hgrants hvault).requests
  obtain ⟨hfresh, hrequests⟩ := hrequests
  -- A grant of the new request would have had a request before.
  have hnone : ∀ g ∈ s.grants.rows, g.requestId ≠ r.requestId := by
    intro g hg hrequest
    obtain ⟨x, hx, hfor⟩ := h.granted g hg
    exact Table.get?_eq_none.mp hfresh x hx (hfor.request.symm.trans hrequest)
  have hmem : ∀ x ∈ t.requests.rows, x ∈ s.requests.rows ∨ x = r := by
    intro x hx
    rw [hrequests] at hx
    exact (Table.mem_insert hfresh).mp hx
  refine h.of_same_grants hlater hgrants hvault ?_ ?_ (same_decisions_valid h hlater hdecisions)
    fun g _ role => approvedBy_congr hdecisions _ role
  · intro x hx
    rcases hmem x hx with hold | rfl
    · exact h.permits x hold
    · rw [grantOf_eq_none.mpr hnone]
      exact ⟨.asked, permitOf_asked hpending⟩
  · intro x hx g hg hrequest
    rcases hmem x hx with hold | rfl
    · exact ⟨x, hold, rfl, rfl⟩
    · exact absurd hrequest.symm (hnone g hg)

omit [Sha256] in
/-- An inserted grant is not that of any other request. -/
theorem grantOf_inserted {g : ApprovalGrant} {k : RequestId}
    (hmem : ∀ x, x ∈ t.grants.rows ↔ x ∈ s.grants.rows ∨ x = g)
    (hsingle : ∀ x ∈ t.grants.rows, ∀ y ∈ t.grants.rows, x.requestId = y.requestId → x = y)
    (hother : g.requestId ≠ k) : t.grantOf k = s.grantOf k := by
  cases hof : s.grantOf k with
  | some y =>
      obtain ⟨hy, hrequest⟩ := mem_of_grantOf hof
      exact grantOf_of_mem hsingle ((hmem y).mpr (.inl hy)) hrequest
  | none =>
      rw [grantOf_eq_none]
      intro y hy
      rcases (hmem y).mp hy with hy | rfl
      · exact grantOf_eq_none.mp hof y hy
      · exact hother

/-- The credential of an inserted grant joins the others. -/
theorem Kept.vaultValid {g : ApprovalGrant} {credential : Credential}
    (hkept : s.Kept t g credential) (h : s.VaultValid)
    (hmem : ∀ x, x ∈ t.grants.rows ↔ x ∈ s.grants.rows ∨ x = g)
    (hissued : g.status = .issued) : t.VaultValid := by
  obtain ⟨hkeys, hbounded, hissuedAll⟩ := h
  have hroom := hkept.room
  refine ⟨?_, ?_, ?_⟩
  · rw [hkept.entries, List.map_append]
    refine List.nodup_append.mpr ⟨hkeys, List.nodup_singleton _, ?_⟩
    intro a ha b hb
    obtain ⟨e, he, rfl⟩ := List.mem_map.mp ha
    rw [List.mem_singleton.mp hb]
    exact hkept.fresh e he
  · rw [hkept.entries, List.length_append, List.length_singleton]
    omega
  · intro e he
    rw [hkept.entries] at he
    rcases List.mem_append.mp he with hold | hnew
    · obtain ⟨x, hx, hrest⟩ := hissuedAll e hold
      exact ⟨x, (hmem x).mpr (.inl hx), hrest⟩
    · rw [List.mem_singleton.mp hnew]
      exact ⟨g, (hmem g).mpr (.inr rfl), rfl, hissued, hkept.token, hkept.nonce⟩

theorem Next.valid_decide (h : s.Valid) {r r' : ApprovalRequest} {p : Permit ExecutionId}
    (hr : s.Rewritten t r r') (hpending : r.status = .pending)
    (hp : permitOf r' none = some p)
    (hlater : Table.Evolves ApprovalRequest.Later s.requests t.requests)
    (hdecisions : t.decisions = s.decisions ∨ ∃ d, s.Decided t r d)
    (hgrants : t.grants = s.grants) (hvault : t.vault = s.vault) : t.Valid := by
  have hnone := h.pending_ungranted hr.requests.mem hpending
  refine h.of_same_grants hlater hgrants hvault (hr.permits h hnone hp)
    (fun x hx _ _ _ => hr.source hx) ?_ ?_
  · rcases hdecisions with hsame | ⟨d, hd⟩
    · exact same_decisions_valid h hlater hsame
    · exact hd.valid h hlater hr.requests.mem
  · intro g hg role
    rcases hdecisions with hsame | ⟨d, hd⟩
    · exact approvedBy_congr hsame _ role
    · exact hd.approvedBy_other (hnone g hg) role

theorem Next.valid_grant (h : s.Valid) {r r' : ApprovalRequest} {d : ApprovalDecision}
    {g : ApprovalGrant} {credential : Credential} (hr : s.Rewritten t r r')
    (hpending : r.status = .pending) (happroved : r'.status = .approved) (hd : s.Decided t r d)
    (hlater : Table.Evolves ApprovalRequest.Later s.requests t.requests)
    (hgrants : ∃ hfresh, t.grants = s.grants.insert g hfresh) (hfor : GrantedFor r g)
    (hissued : g.status = .issued) (hfree : g.executionId = none)
    (hquorum : ∀ role, role ∈ r.requiredRoles ↔ t.ApprovedBy r.requestId role)
    (hvault : s.Kept t g credential) : t.Valid := by
  have hnone := h.pending_ungranted hr.requests.mem hpending
  obtain ⟨hfresh, hgrants⟩ := hgrants
  have hmem : ∀ x, x ∈ t.grants.rows ↔ x ∈ s.grants.rows ∨ x = g := by
    intro x
    rw [hgrants]
    exact Table.mem_insert hfresh
  have hsingle : ∀ x ∈ t.grants.rows, ∀ y ∈ t.grants.rows, x.requestId = y.requestId → x = y := by
    intro x hx y hy hrequest
    rcases (hmem x).mp hx with hx | rfl
    · rcases (hmem y).mp hy with hy | rfl
      · exact h.single x hx y hy hrequest
      · exact absurd (hrequest.trans hfor.request) (hnone x hx)
    · rcases (hmem y).mp hy with hy | rfl
      · exact absurd (hrequest.symm.trans hfor.request) (hnone y hy)
      · rfl
  obtain ⟨hdecided, hdistinct⟩ := hd.valid h hlater hr.requests.mem
  refine ⟨?_, ?_, hsingle, ?_, hdecided, hdistinct, ?_, ?_⟩
  · intro x hx
    rcases hr.mem_iff.mp hx with rfl | ⟨hold, hother⟩
    · refine ⟨.granted, ?_⟩
      rw [grantOf_of_mem hsingle ((hmem g).mpr (.inr rfl)) (hfor.request.trans hr.id.symm)]
      exact permitOf_granted happroved hissued hfree
    · obtain ⟨p, hp⟩ := h.permits x hold
      refine ⟨p, ?_⟩
      rw [grantOf_inserted hmem hsingle (hfor.request ▸ Ne.symm hother)]
      exact hp
  · intro x hx
    rcases (hmem x).mp hx with hx | rfl
    · exact granted_later hlater (h.granted x hx)
    · exact granted_later hlater ⟨r, hr.requests.mem, hfor⟩
  · intro x hx y hy e hxe hye
    rcases (hmem x).mp hx with hx | rfl
    · rcases (hmem y).mp hy with hy | rfl
      · exact h.exclusive x hx y hy e hxe hye
      · rw [hfree] at hye
        cases hye
    · rw [hfree] at hxe
      cases hxe
  · intro x hx y hy hrequest role
    obtain ⟨z, hz, hid, hterms⟩ := hr.source hy
    rw [ApprovalRequest.roles_of_fixed hterms]
    rcases (hmem x).mp hx with hx | rfl
    · rw [hrequest, hd.approvedBy_other (hnone x hx),
        h.quorum x hx z hz (hid.trans hrequest), hid.trans hrequest]
    · have hsame : z = r := Table.eq_of_key hz hr.requests.mem
        (hid.trans (hrequest.trans hfor.request))
      rw [hsame, hrequest, hfor.request]
      exact hquorum role
  · exact hvault.vaultValid h.vault hmem hissued

omit [Sha256] in
/-- A grant that is rewritten under its request. -/
theorem grantOf_replaces {g g' : ApprovalGrant} (hg : Table.Replaces s.grants t.grants g g')
    (hrequest : g'.requestId = g.requestId)
    (hsingle : ∀ x ∈ t.grants.rows, ∀ y ∈ t.grants.rows, x.requestId = y.requestId → x = y)
    {requestId : RequestId} (hother : requestId ≠ g.requestId) :
    t.grantOf requestId = s.grantOf requestId := by
  cases hof : s.grantOf requestId with
  | some y =>
      obtain ⟨hy, hyid⟩ := mem_of_grantOf hof
      have hne : y.grantId ≠ g.grantId := by
        intro hid
        have hsame : y = g := Table.eq_of_key hy hg.mem hid
        rw [hsame] at hyid
        exact hother hyid.symm
      exact grantOf_of_mem hsingle (hg.mem_iff.mpr (.inr ⟨hy, hne⟩)) hyid
  | none =>
      rw [grantOf_eq_none]
      intro y hy
      rcases hg.mem_iff.mp hy with rfl | ⟨hold, _⟩
      · rw [hrequest]
        exact fun hsame => hother hsame.symm
      · exact grantOf_eq_none.mp hof y hold

theorem single_replaces (h : s.Valid) {g g' : ApprovalGrant}
    (hg : Table.Replaces s.grants t.grants g g') (hrequest : g'.requestId = g.requestId) :
    ∀ x ∈ t.grants.rows, ∀ y ∈ t.grants.rows, x.requestId = y.requestId → x = y := by
  have hothers : ∀ x ∈ s.grants.rows, x.grantId ≠ g.grantId → x.requestId ≠ g.requestId := by
    intro x hx hne hsame
    exact hne (by rw [h.single x hx g hg.mem hsame])
  intro x hx y hy hsame
  rcases hg.mem_iff.mp hx with rfl | ⟨hx, hxne⟩
  · rcases hg.mem_iff.mp hy with rfl | ⟨hy, hyne⟩
    · rfl
    · exact absurd (hsame.symm.trans hrequest) (hothers y hy hyne)
  · rcases hg.mem_iff.mp hy with rfl | ⟨hy, hyne⟩
    · exact absurd (hsame.trans hrequest) (hothers x hx hxne)
    · exact h.single x hx y hy hsame

theorem Moved.valid {r r' : ApprovalRequest} {g g' : ApprovalGrant} {p q : Permit ExecutionId}
    (hmoved : s.Moved t r r' g g' p q) (h : s.Valid)
    (hlater : Table.Evolves ApprovalRequest.Later s.requests t.requests) : t.Valid := by
  obtain ⟨hr, hg, hterms, _, hrequest, hp, hq, hnext, hfresh, hdecisions, hvault⟩ := hmoved
  obtain ⟨hid, hsame⟩ := ApprovalGrant.ids_of_fixed hterms
  have hsingle := single_replaces h hg hsame
  have hfor : GrantedFor r g := by
    obtain ⟨x, hx, hfor⟩ := h.granted g hg.mem
    have hxr : x = r := Table.eq_of_key hx hr.requests.mem (hfor.request.symm.trans hrequest)
    rwa [hxr] at hfor
  obtain ⟨hdecided, hdistinct⟩ := same_decisions_valid h hlater hdecisions
  -- The execution of the new row was the execution of the old one, or of no row.
  have hexecution : ∀ x ∈ s.grants.rows, x.grantId ≠ g.grantId → ∀ e, g'.executionId = some e →
      x.executionId ≠ some e := by
    intro x hx hne e he hxe
    rw [← permitOf_execution hq] at he
    cases hpe : p.execution with
    | none => exact hfresh e hpe he x hx hxe
    | some e' =>
        have hkept := hnext.execution_kept hpe
        rw [he] at hkept
        rw [permitOf_execution hp, ← Option.some.inj hkept] at hpe
        exact hne (by rw [h.exclusive x hx g hg.mem e hxe hpe])
  refine ⟨?_, ?_, hsingle, ?_, hdecided, hdistinct, ?_, ?_⟩
  · intro x hx
    rcases hr.mem_iff.mp hx with rfl | ⟨hold, hother⟩
    · refine ⟨q, ?_⟩
      rw [grantOf_of_mem hsingle hg.new_mem (hsame.trans (hrequest.trans hr.id.symm))]
      exact hq
    · rw [grantOf_replaces hg hsame hsingle (by rwa [hrequest])]
      exact h.permits x hold
  · intro x hx
    rcases hg.mem_iff.mp hx with rfl | ⟨hx, _⟩
    · exact ⟨r', hr.requests.new_mem, hfor.of_fixed hr.terms hterms⟩
    · exact granted_later hlater (h.granted x hx)
  · intro x hx y hy e hxe hye
    rcases hg.mem_iff.mp hx with rfl | ⟨hx, hxne⟩
    · rcases hg.mem_iff.mp hy with rfl | ⟨hy, hyne⟩
      · rfl
      · exact absurd hye (hexecution y hy hyne e hxe)
    · rcases hg.mem_iff.mp hy with rfl | ⟨hy, hyne⟩
      · exact absurd hxe (hexecution x hx hxne e hye)
      · exact h.exclusive x hx y hy e hxe hye
  · intro x hx y hy hxy role
    obtain ⟨z, hz, hzid, hzterms⟩ := hr.source hy
    have hx' : ∃ x' ∈ s.grants.rows, x'.requestId = x.requestId := by
      rcases hg.mem_iff.mp hx with rfl | ⟨hx, _⟩
      · exact ⟨g, hg.mem, hsame.symm⟩
      · exact ⟨x, hx, rfl⟩
    obtain ⟨x', hx', hx'id⟩ := hx'
    rw [ApprovalRequest.roles_of_fixed hzterms, approvedBy_congr hdecisions,
      h.quorum x' hx' z hz (hzid.trans (hxy.trans hx'id.symm)), hzid]
  · obtain ⟨hkeys, hbounded, hissued⟩ := h.vault
    obtain ⟨hsub, hgone⟩ := hvault
    refine ⟨hkeys.sublist (hsub.map _), Nat.le_trans hsub.length_le hbounded, ?_⟩
    intro e he
    obtain ⟨x, hx, hxid, hrest⟩ := hissued e (hsub.subset he)
    refine ⟨x, hg.mem_iff.mpr (.inr ⟨hx, ?_⟩), hxid, hrest⟩
    intro hsameKey
    exact hgone e he (hxid.symm.trans hsameKey)

/-- The step lemma: the tables stay valid. -/
theorem Next.valid (hnext : s.Next t) (h : s.Valid) : t.Valid := by
  have hlater := hnext.requests
  cases hnext with
  | ask hpending hrequests hdecisions hgrants hvault =>
      exact valid_ask h hpending hrequests hdecisions hgrants hvault
  | @decide r r' d hr hpending hstill hd hgrants hvault =>
      exact valid_decide h hr hpending (permitOf_asked hstill) hlater (.inr ⟨d, hd⟩) hgrants hvault
  | refuse hr hpending hrefused hdecisions hgrants hvault =>
      exact valid_decide h hr hpending hrefused hlater hdecisions hgrants hvault
  | grant hr hpending happroved hd hgrants hfor hissued hfree hquorum hvault =>
      exact valid_grant h hr hpending happroved hd hlater hgrants hfor hissued hfree hquorum hvault
  | move hmoved => exact hmoved.valid h hlater
  | forget hsub hforget =>
      subst hforget
      obtain ⟨hkeys, hbounded, hissued⟩ := h.vault
      exact
        { h with
          vault :=
            { keys := hkeys.sublist (hsub.map _)
              bounded := Nat.le_trans hsub.length_le hbounded
              issued := fun e he => hissued e (hsub.subset he) } }

/-! ## One permit moves -/

variable {r r' : ApprovalRequest} {g g' : ApprovalGrant} {p q : Permit ExecutionId}

omit [Sha256] in
theorem registry_eq_update {k : RequestId} {p : Permit ExecutionId}
    (hk : t.registry k = some p) (hother : ∀ k' ≠ k, t.registry k' = s.registry k') :
    t.registry = Function.update s.registry k (some p) := by
  funext k'
  by_cases hsame : k' = k
  · rw [hsame, Function.update_self, hk]
  · rw [Function.update_of_ne hsame, hother k' hsame]

omit [Sha256] in
theorem Rewritten.registry_other {r r' : ApprovalRequest} (hr : s.Rewritten t r r')
    {k : RequestId} (hk : k ≠ r.requestId) (hgrant : t.grantOf k = s.grantOf k) :
    t.registry k = s.registry k := by
  have hkey : ¬ Keyed.key r = k := fun hsame => hk hsame.symm
  unfold registry
  rw [hr.requests.get? k, if_neg hkey, hgrant]

theorem asked_registry (ht : t.Valid) {r : ApprovalRequest} (hpending : r.status = .pending)
    (hrequests : ∃ hfresh, t.requests = s.requests.insert r hfresh)
    (hgrants : t.grants = s.grants) :
    s.registry r.requestId = none ∧
      t.registry = Function.update s.registry r.requestId (some .asked) := by
  obtain ⟨hfresh, hrequests⟩ := hrequests
  have hmem : r ∈ t.requests.rows := by
    rw [hrequests]
    exact (Table.mem_insert hfresh).mpr (.inr rfl)
  have hasked : t.registry r.requestId = some .asked := by
    rw [registry_of_mem hmem, grantOf_eq_none.mpr (ht.pending_ungranted hmem hpending)]
    exact permitOf_asked hpending
  have hother : ∀ k ≠ r.requestId, t.registry k = s.registry k := by
    intro k hk
    have hkey : ¬ Keyed.key r = k := fun hsame => hk hsame.symm
    unfold registry
    rw [hrequests, Table.get?_insert, if_neg hkey, grantOf_congr hgrants]
  refine ⟨?_, registry_eq_update hasked hother⟩
  unfold registry
  rw [show s.requests.get? r.requestId = none from hfresh, Option.bind_none]

/-- A pending request that is written without a grant. -/
theorem Rewritten.registry (hr : s.Rewritten t r r') (h : s.Valid) (hpending : r.status = .pending)
    (hgrants : t.grants = s.grants) {p : Permit ExecutionId} (hp : permitOf r' none = some p) :
    s.registry r.requestId = some .asked ∧
      t.registry = Function.update s.registry r.requestId (some p) := by
  have hno := grantOf_eq_none.mpr (h.pending_ungranted hr.requests.mem hpending)
  have hasked : s.registry r.requestId = some .asked := by
    rw [registry_of_mem hr.requests.mem, hno]
    exact permitOf_asked hpending
  have hnow : t.registry r.requestId = some p := by
    rw [← hr.id, registry_of_mem hr.requests.new_mem, grantOf_congr hgrants, hr.id, hno]
    exact hp
  exact ⟨hasked,
    registry_eq_update hnow fun k hk => hr.registry_other hk (grantOf_congr hgrants k)⟩

theorem Moved.registry (hmoved : s.Moved t r r' g g' p q) (h : s.Valid) (ht : t.Valid) :
    s.registry r.requestId = some p ∧
      t.registry = Function.update s.registry r.requestId (some q) := by
  obtain ⟨hr, hg, hterms, _, hrequest, hp, hq, _⟩ := hmoved
  obtain ⟨hid, hsame⟩ := ApprovalGrant.ids_of_fixed hterms
  have hbefore : s.registry r.requestId = some p := by
    rw [registry_of_mem hr.requests.mem, grantOf_of_mem h.single hg.mem hrequest]
    exact hp
  have hnow : t.registry r.requestId = some q := by
    rw [← hr.id, registry_of_mem hr.requests.new_mem,
      grantOf_of_mem ht.single hg.new_mem (hsame.trans (hrequest.trans hr.id.symm))]
    exact hq
  exact ⟨hbefore, registry_eq_update hnow fun k hk =>
    hr.registry_other hk (grantOf_replaces hg hsame ht.single (by rwa [hrequest]))⟩

omit [Sha256] in
/-- Whoever has taken a permit is the execution of some grant. -/
theorem executionAt_grant {k : RequestId} {e : ExecutionId}
    (h : s.registry.executionAt k = some e) :
    ∃ x ∈ s.grants.rows, x.requestId = k ∧ x.executionId = some e := by
  unfold Permit.Registry.executionAt Approvals.registry at h
  obtain ⟨p, hp, hpe⟩ := Option.bind_eq_some_iff.mp h
  obtain ⟨y, _, hy⟩ := Option.bind_eq_some_iff.mp hp
  cases hof : s.grantOf k with
  | none =>
      rw [hof] at hy
      rcases permitOf_none hy with ⟨_, rfl⟩ | ⟨_, rfl⟩ <;> cases hpe
  | some z =>
      rw [hof] at hy
      rw [permitOf_execution hy] at hpe
      obtain ⟨hz, hid⟩ := mem_of_grantOf hof
      exact ⟨z, hz, hid, hpe⟩

/-- The step lemma: in the registry of permits nothing happens, or one permit moves. -/
theorem Next.registry_step (hnext : s.Next t) (h : s.Valid) :
    ReflGen Permit.Registry.Step s.registry t.registry := by
  have hvalid := hnext.valid h
  cases hnext with
  | ask hpending hrequests _ hgrants _ =>
      obtain ⟨hnew, hasked⟩ := asked_registry hvalid hpending hrequests hgrants
      rw [hasked]
      exact .single (.ask hnew)
  | decide hr hpending hstill _ hgrants _ =>
      obtain ⟨hasked, hsame⟩ := hr.registry h hpending hgrants (permitOf_asked hstill)
      rw [hsame, ← hasked, Function.update_eq_self]
  | refuse hr hpending hrefused _ hgrants _ =>
      obtain ⟨hasked, hnow⟩ := hr.registry h hpending hgrants hrefused
      rw [hnow]
      exact .single (.move hasked .refuse (Permit.fresh_of_free rfl))
  | @grant r r' d g credential hr hpending happroved hd hgrants hfor hissued hfree hquorum hvault =>
      obtain ⟨hfresh, hgrants⟩ := hgrants
      have hmem : g ∈ t.grants.rows := by
        rw [hgrants]
        exact (Table.mem_insert hfresh).mpr (.inr rfl)
      have hno := grantOf_eq_none.mpr (h.pending_ungranted hr.requests.mem hpending)
      have hasked : s.registry r.requestId = some .asked := by
        rw [registry_of_mem hr.requests.mem, hno]
        exact permitOf_asked hpending
      have hnow : t.registry r.requestId = some .granted := by
        rw [← hr.id, registry_of_mem hr.requests.new_mem,
          grantOf_of_mem hvalid.single hmem (hfor.request.trans hr.id.symm)]
        exact permitOf_granted happroved hissued hfree
      have hgrantOf : ∀ k ≠ r.requestId, t.grantOf k = s.grantOf k := by
        intro k hk
        unfold grantOf
        rw [hgrants]
        unfold Table.one? Table.insert
        rw [List.find?_append]
        have hmiss : ¬ g.requestId = k := fun hsame => hk (hsame.symm.trans hfor.request)
        simp [hmiss]
      rw [registry_eq_update hnow fun k hk => hr.registry_other hk (hgrantOf k hk)]
      exact .single (.move hasked .grant (Permit.fresh_of_free rfl))
  | move hmoved =>
      obtain ⟨hbefore, hnow⟩ := hmoved.registry h hvalid
      rw [hnow]
      refine .single (.move hbefore hmoved.next ?_)
      intro e hp hq k hk
      obtain ⟨x, hx, _, hexecution⟩ := executionAt_grant hk
      exact hmoved.fresh e hp hq x hx hexecution
  | forget _ hforget =>
      rw [hforget]
      exact .refl

/-! ## Runs of transitions -/

theorem Valid.of_run (h : s.Valid) (hrun : ReflTransGen Next s t) : t.Valid :=
  invariant_of_run (fun _ _ hs hnext => hnext.valid hs) h hrun

theorem requests_of_run (hrun : ReflTransGen Next s t) :
    Table.Evolves ApprovalRequest.Later s.requests t.requests := by
  induction hrun with
  | refl => exact .refl ApprovalRequest.Later.refl _
  | tail _ hlast ih => exact ih.trans ApprovalRequest.Later.trans hlast.requests

theorem grants_of_run (hrun : ReflTransGen Next s t) :
    Table.Evolves ApprovalGrant.Later s.grants t.grants := by
  induction hrun with
  | refl => exact .refl ApprovalGrant.Later.refl _
  | tail _ hlast ih => exact ih.trans ApprovalGrant.Later.trans hlast.grants

theorem decisions_of_run (hrun : ReflTransGen Next s t) {d : ApprovalDecision}
    (hd : d ∈ s.decisions.rows) : d ∈ t.decisions.rows :=
  invariant_of_run (I := fun u => d ∈ u.decisions.rows) (fun _ _ h hnext => hnext.decisions h) hd
    hrun

/-- The transitions refine the registry of permits. -/
theorem registry_of_run (h : s.Valid) (hrun : ReflTransGen Next s t) :
    ReflTransGen Permit.Registry.Step s.registry t.registry := by
  induction hrun with
  | refl => exact .refl
  | tail hbefore hlast ih =>
      exact ih.trans (hlast.registry_step (h.of_run hbefore)).to_reflTransGen

end

end Approvals

end FlowPilot

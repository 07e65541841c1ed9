import FlowPilot.Control.Production
import FlowPilot.Lib.TokenBucket

/-!
# The token buckets of the production API

What a sequence of `consume_rate_limit` calls grants on one bucket.  Each call brings the reading of
the clock that it took before it waited for the rows.
-/

open FlowPilot.Lib

namespace FlowPilot.Control

abbrev BucketKey := OrganizationId × Digest × RouteClass

def burstOf (routeClass : RouteClass) : ScopeKind → Nat
  | .actor => (bucketPolicy routeClass).actorBurst
  | .organization => (bucketPolicy routeClass).organizationBurst

/-- Tokens for each second. -/
def rateOf (routeClass : RouteClass) : ScopeKind → Nat
  | .actor => (bucketPolicy routeClass).actorRate
  | .organization => (bucketPolicy routeClass).organizationRate

/-- The row that `_ensure_bucket` inserts. -/
def fullBucket (k : BucketKey) (scopeKind : ScopeKind) (burst : Nat) (now : Time) :
    RateLimitBucket where
  organizationId := k.1
  bucketKeyHash := k.2.1
  scopeKind := scopeKind
  routeClass := k.2.2
  tokensMicro := burst * microtoken
  lastRefillAt := now
  status := .active
  version := 1
  createdAt := now
  updatedAt := now

/-- The row after a call. -/
def servedRow (b : RateLimitBucket) (rate burst : Nat) (now : Time) (granted : Bool) :
    RateLimitBucket :=
  { b with
    tokensMicro := refill b rate burst now - if granted then microtoken else 0
    lastRefillAt := now
    updatedAt := now
    version := b.version + 1 }

def tokenBucket (b : RateLimitBucket) : TokenBucket := ⟨b.tokensMicro, b.lastRefillAt⟩

section

variable [Sha256]

def bucketKey (actor : ActorContext) (routeClass : RouteClass) : ScopeKind → BucketKey
  | .actor => (actor.organizationId, stableHashText actor.userId.text, routeClass)
  | .organization => (actor.organizationId, stableHashText actor.organizationId.text, routeClass)

/-- The row that a call reads. -/
def openedBucket (db : Db) (actor : ActorContext) (routeClass : RouteClass) (scopeKind : ScopeKind)
    (now : Time) : RateLimitBucket :=
  (db.buckets.get? (bucketKey actor routeClass scopeKind)).getD
    (fullBucket (bucketKey actor routeClass scopeKind) scopeKind (burstOf routeClass scopeKind) now)

/-! ## One call -/

section

variable {db after : Db} {now : Time} {bucket : RateLimitBucket}

omit [Sha256] in
theorem ensureBucket_spec {organizationId : OrganizationId} {bucketKeyHash : Digest}
    {scopeKind : ScopeKind} {routeClass : RouteClass} {burst : Nat}
    (h : ensureBucket db organizationId bucketKeyHash scopeKind routeClass burst now =
      .ok (bucket, after)) :
    bucket = (db.buckets.get? (organizationId, bucketKeyHash, routeClass)).getD
      (fullBucket (organizationId, bucketKeyHash, routeClass) scopeKind burst now) ∧
    bucket.scopeKind = scopeKind ∧
    Keyed.key bucket = (organizationId, bucketKeyHash, routeClass) ∧
    ∃ buckets, after = { db with buckets := buckets } ∧
      ∀ k, buckets.get? k = if k = (organizationId, bucketKeyHash, routeClass) then some bucket
        else db.buckets.get? k := by
  let fresh := fullBucket (organizationId, bucketKeyHash, routeClass) scopeKind burst now
  let buckets := (db.buckets.insert? fresh).getD db.buckets
  have hkey : Keyed.key fresh = (organizationId, bucketKeyHash, routeClass) := rfl
  have hrows : ∀ k, buckets.get? k = if k = (organizationId, bucketKeyHash, routeClass) then
      some ((db.buckets.get? (organizationId, bucketKeyHash, routeClass)).getD fresh)
        else db.buckets.get? k := by
    intro k
    show ((db.buckets.insert? fresh).getD db.buckets).get? k = _
    unfold Table.insert?
    by_cases hfree : db.buckets.get? (Keyed.key fresh) = none
    · rw [dif_pos hfree, Option.getD_some, Table.get?_insert, hkey]
      rw [hkey] at hfree
      rw [hfree, Option.getD_none]
      by_cases hk : k = (organizationId, bucketKeyHash, routeClass)
      · rw [if_pos hk, if_pos hk.symm]
      · rw [if_neg hk, if_neg (Ne.symm hk)]
    · rw [dif_neg hfree, Option.getD_none]
      by_cases hk : k = (organizationId, bucketKeyHash, routeClass)
      · rw [if_pos hk, hk]
        rw [hkey] at hfree
        cases hget : db.buckets.get? (organizationId, bucketKeyHash, routeClass) with
        | none => exact absurd hget hfree
        | some row => rfl
      · rw [if_neg hk]
  have hnamed : ∀ v : RateLimitBucket, decide (v.organizationId = organizationId ∧
      v.bucketKeyHash = bucketKeyHash ∧ v.routeClass = routeClass ∧ v.scopeKind = scopeKind ∧
      v.status = .active) = true →
      Keyed.key v = (organizationId, bucketKeyHash, routeClass) := by
    intro v hv
    rw [decide_eq_true_eq] at hv
    show (v.organizationId, v.bucketKeyHash, v.routeClass) = _
    rw [hv.1, hv.2.1, hv.2.2.1]
  unfold ensureBucket at h
  dsimp only at h
  split at h
  · cases h
  · next found hfound =>
    cases h
    have hfound' : buckets.one? _ = some bucket := hfound
    rw [Table.one?_of_key hnamed] at hfound'
    have hget := hrows (organizationId, bucketKeyHash, routeClass)
    rw [if_pos rfl] at hget
    have hrow := (Option.filter_eq_some_iff.mp hfound').1
    have hmatches := (Option.filter_eq_some_iff.mp hfound').2
    rw [hget] at hrow
    have hbucket := Option.some.inj hrow
    rw [decide_eq_true_eq] at hmatches
    refine ⟨hbucket.symm, hmatches.2.2.2.1, ?_, buckets, rfl, ?_⟩
    · exact hnamed bucket (decide_eq_true hmatches)
    · intro k
      rw [hrows k, hbucket]

omit [Sha256] in
/-- A written bucket is found under its key, the others as before. -/
theorem writeBucket_get? {tokens : Nat} (hget : db.buckets.get? (Keyed.key bucket) = some bucket)
    (k : BucketKey) :
    (writeBucket db bucket tokens now).buckets.get? k =
      if k = Keyed.key bucket then
        some { bucket with
          tokensMicro := tokens
          lastRefillAt := now
          updatedAt := now
          version := bucket.version + 1 }
      else db.buckets.get? k := by
  unfold writeBucket
  dsimp only
  rw [Table.get?_update]
  by_cases hk : k = Keyed.key bucket
  · rw [if_pos hk, hk, hget, Option.map_some, if_pos]
    rw [decide_eq_true_eq]
    exact ⟨rfl, rfl, rfl⟩
  · rw [if_neg hk]
    cases hrow : db.buckets.get? k with
    | none => rfl
    | some row =>
        rw [Option.map_some, if_neg]
        rw [decide_eq_true_eq]
        intro hsame
        refine hk ?_
        rw [← Table.key_of_get? hrow]
        show (row.organizationId, row.bucketKeyHash, row.routeClass) = _
        rw [hsame.1, hsame.2.1, hsame.2.2]
        rfl

/-- The row that `writeBucket` leaves. -/
def writtenRow (b : RateLimitBucket) (tokens : Nat) (now : Time) : RateLimitBucket :=
  { b with tokensMicro := tokens, lastRefillAt := now, updatedAt := now, version := b.version + 1 }

omit [Sha256] in
variable (db now) in
theorem writeBoth_get? {other : RateLimitBucket} (tokens otherTokens : Nat)
    (hget : db.buckets.get? (Keyed.key bucket) = some bucket)
    (hother : db.buckets.get? (Keyed.key other) = some other)
    (hne : Keyed.key bucket ≠ Keyed.key other) (k : BucketKey) :
    (writeBucket (writeBucket db bucket tokens now) other otherTokens now).buckets.get? k =
      if k = Keyed.key other then some (writtenRow other otherTokens now)
      else if k = Keyed.key bucket then some (writtenRow bucket tokens now)
      else db.buckets.get? k := by
  have hkept : (writeBucket db bucket tokens now).buckets.get? (Keyed.key other) = some other := by
    rw [writeBucket_get? hget, if_neg hne.symm]
    exact hother
  rw [writeBucket_get? hkept]
  by_cases hk : k = Keyed.key other
  · rw [if_pos hk, if_pos hk]
    rfl
  · rw [if_neg hk, if_neg hk, writeBucket_get? hget]
    rfl

/-- What a call that does not fail reads and writes. -/
theorem consumeRateLimit_spec {actor : ActorContext} {routeClass : RouteClass}
    {limited : Option Nat} (h : consumeRateLimit db actor routeClass now = .ok (limited, after)) :
    bucketKey actor routeClass .actor ≠ bucketKey actor routeClass .organization ∧
    ∀ scopeKind,
      (openedBucket db actor routeClass scopeKind now).scopeKind = scopeKind ∧
      (limited = none → microtoken ≤ refill (openedBucket db actor routeClass scopeKind now)
        (rateOf routeClass scopeKind) (burstOf routeClass scopeKind) now) ∧
      after.buckets.get? (bucketKey actor routeClass scopeKind) =
        some (servedRow (openedBucket db actor routeClass scopeKind now)
          (rateOf routeClass scopeKind) (burstOf routeClass scopeKind) now limited.isNone) ∧
      ∀ k, (∀ s, k ≠ bucketKey actor routeClass s) →
        after.buckets.get? k = db.buckets.get? k := by
  unfold consumeRateLimit at h
  have ⟨⟨actorBucket, db₁⟩, hactor, h⟩ := ok_of_bind h
  have ⟨hopen, hscope, hkey, buckets, hdb, hrows⟩ := ensureBucket_spec hactor
  subst hdb
  have hkey : Keyed.key actorBucket = bucketKey actor routeClass .actor := hkey
  have hrows : ∀ k, buckets.get? k = if k = bucketKey actor routeClass .actor then some actorBucket
    else db.buckets.get? k := hrows
  dsimp only at h
  have ⟨⟨organizationBucket, db₂⟩, horganization, h⟩ := ok_of_bind h
  have ⟨hopen', hscope', hkey', buckets', hdb', hrows'⟩ := ensureBucket_spec horganization
  subst hdb'
  have hkey' : Keyed.key organizationBucket = bucketKey actor routeClass .organization := hkey'
  have hrows' : ∀ k, buckets'.get? k = if k = bucketKey actor routeClass .organization then
    some organizationBucket else buckets.get? k := hrows'
  dsimp only at h hopen'
  have hne : bucketKey actor routeClass .actor ≠ bucketKey actor routeClass .organization := by
    intro hsame
    have hget := hrows (bucketKey actor routeClass .organization)
    rw [if_pos hsame.symm] at hget
    have hsameRow : organizationBucket = actorBucket := by
      rw [hopen']
      show (buckets.get? (bucketKey actor routeClass .organization)).getD _ = _
      rw [hget]
      rfl
    rw [hsameRow, hscope] at hscope'
    cases hscope'
  have hfree := hrows (bucketKey actor routeClass .organization)
  rw [if_neg hne.symm] at hfree
  have horganizationRow : organizationBucket =
      openedBucket db actor routeClass .organization now := by
    rw [hopen']
    show (buckets.get? (bucketKey actor routeClass .organization)).getD _ = _
    rw [hfree]
    rfl
  have hactorRow : actorBucket = openedBucket db actor routeClass .actor now := hopen
  have hactorGet : buckets'.get? (Keyed.key actorBucket) = some actorBucket := by
    rw [hkey, hrows', if_neg hne, hrows, if_pos rfl]
  have horganizationGet : buckets'.get? (Keyed.key organizationBucket) =
      some organizationBucket := by
    rw [hkey', hrows', if_pos rfl]
  have hkeys : Keyed.key actorBucket ≠ Keyed.key organizationBucket := by
    rw [hkey, hkey']
    exact hne
  -- the two writes, whatever they write
  have hwritten : ∀ tokens otherTokens,
      let written := writeBucket (writeBucket { db with buckets := buckets' } actorBucket tokens now)
        organizationBucket otherTokens now
      written.buckets.get? (bucketKey actor routeClass .actor) =
          some (writtenRow actorBucket tokens now) ∧
        written.buckets.get? (bucketKey actor routeClass .organization) =
          some (writtenRow organizationBucket otherTokens now) ∧
        ∀ k, (∀ s, k ≠ bucketKey actor routeClass s) →
          written.buckets.get? k = db.buckets.get? k := by
    intro tokens otherTokens
    have hget := writeBoth_get? { db with buckets := buckets' } now tokens otherTokens
      hactorGet horganizationGet hkeys
    refine ⟨?_, ?_, ?_⟩
    · rw [hget, hkey, hkey', if_neg hne]
      exact if_pos rfl
    · rw [hget, hkey']
      exact if_pos rfl
    · intro k hk
      rw [hget, hkey, hkey', if_neg (hk .organization), if_neg (hk .actor)]
      show buckets'.get? k = _
      rw [hrows', if_neg (hk .organization), hrows, if_neg (hk .actor)]
  have hopened : ∀ scopeKind, (openedBucket db actor routeClass scopeKind now).scopeKind =
      scopeKind := by
    intro scopeKind
    cases scopeKind with
    | actor => rw [← hactorRow, hscope]
    | organization => rw [← horganizationRow, hscope']
  refine ⟨hne, ?_⟩
  rw [hactorRow, horganizationRow] at h hwritten
  by_cases hdeficit :
      microtoken - refill (openedBucket db actor routeClass .actor now)
          (bucketPolicy routeClass).actorRate (bucketPolicy routeClass).actorBurst now ≠ 0 ∨
        microtoken - refill (openedBucket db actor routeClass .organization now)
          (bucketPolicy routeClass).organizationRate
          (bucketPolicy routeClass).organizationBurst now ≠ 0
  · rw [if_pos hdeficit] at h
    cases h
    have ⟨hactorAfter, horganizationAfter, hothers⟩ := hwritten
      (refill (openedBucket db actor routeClass .actor now) (bucketPolicy routeClass).actorRate
        (bucketPolicy routeClass).actorBurst now)
      (refill (openedBucket db actor routeClass .organization now)
        (bucketPolicy routeClass).organizationRate (bucketPolicy routeClass).organizationBurst now)
    intro scopeKind
    refine ⟨hopened scopeKind, ?_, ?_, hothers⟩
    · intro hnone
      cases hnone
    · cases scopeKind with
      | actor => exact hactorAfter
      | organization => exact horganizationAfter
  · rw [if_neg hdeficit] at h
    cases h
    have ⟨hactorAfter, horganizationAfter, hothers⟩ := hwritten
      (refill (openedBucket db actor routeClass .actor now) (bucketPolicy routeClass).actorRate
        (bucketPolicy routeClass).actorBurst now - microtoken)
      (refill (openedBucket db actor routeClass .organization now)
        (bucketPolicy routeClass).organizationRate (bucketPolicy routeClass).organizationBurst now -
          microtoken)
    have hfull : ∀ tokens : Nat, ¬ microtoken - tokens ≠ 0 → microtoken ≤ tokens := by
      intro tokens hzero
      omega
    rw [not_or] at hdeficit
    intro scopeKind
    refine ⟨hopened scopeKind, ?_, ?_, hothers⟩
    · intro _
      cases scopeKind with
      | actor => exact hfull _ hdeficit.1
      | organization => exact hfull _ hdeficit.2
    · cases scopeKind with
      | actor => exact hactorAfter
      | organization => exact horganizationAfter

end

/-! ## Sequences of calls -/

structure RateCall where
  actor : ActorContext
  routeClass : RouteClass
  now : Time

/-- Whether a call was granted, if it did not fail, and what it committed. -/
def rateStep (db : Db) (c : RateCall) : Option Bool × Db :=
  match consumeRateLimit db c.actor c.routeClass c.now with
  | .ok (limited, after) => (some limited.isNone, after)
  | .error _ => (none, db)

def rateRun (db : Db) (calls : List RateCall) : Db :=
  calls.foldl (fun db c => (rateStep db c).2) db

def RateCall.uses (c : RateCall) (k : BucketKey) (scopeKind : ScopeKind) : Prop :=
  bucketKey c.actor c.routeClass scopeKind = k

instance (c : RateCall) (k : BucketKey) (scopeKind : ScopeKind) : Decidable (c.uses k scopeKind) := by
  unfold RateCall.uses
  infer_instance

/-- The readings and the answers of the calls that a bucket has served, in order. -/
def bucketRequests (k : BucketKey) (scopeKind : ScopeKind) : Db → List RateCall →
    List (Nat × Bool)
  | _, [] => []
  | db, c :: rest =>
    match (rateStep db c).1 with
    | some granted =>
      if c.uses k scopeKind then
        (c.now, granted) :: bucketRequests k scopeKind (rateStep db c).2 rest
      else bucketRequests k scopeKind (rateStep db c).2 rest
    | none => bucketRequests k scopeKind (rateStep db c).2 rest

section

variable {db : Db} {c : RateCall} {k : BucketKey} {scopeKind : ScopeKind}

theorem rateStep_failed (h : (rateStep db c).1 = none) : (rateStep db c).2 = db := by
  unfold rateStep at h ⊢
  cases hcall : consumeRateLimit db c.actor c.routeClass c.now with
  | error failure => rfl
  | ok result =>
      rw [hcall] at h
      cases h

theorem rateStep_spec {granted : Bool} (h : (rateStep db c).1 = some granted) :
    bucketKey c.actor c.routeClass .actor ≠ bucketKey c.actor c.routeClass .organization ∧
    ∀ s,
      (openedBucket db c.actor c.routeClass s c.now).scopeKind = s ∧
      (granted = true → microtoken ≤ refill (openedBucket db c.actor c.routeClass s c.now)
        (rateOf c.routeClass s) (burstOf c.routeClass s) c.now) ∧
      (rateStep db c).2.buckets.get? (bucketKey c.actor c.routeClass s) =
        some (servedRow (openedBucket db c.actor c.routeClass s c.now) (rateOf c.routeClass s)
          (burstOf c.routeClass s) c.now granted) ∧
      ∀ k, (∀ s, k ≠ bucketKey c.actor c.routeClass s) →
        (rateStep db c).2.buckets.get? k = db.buckets.get? k := by
  unfold rateStep at h ⊢
  cases hcall : consumeRateLimit db c.actor c.routeClass c.now with
  | error failure =>
      rw [hcall] at h
      cases h
  | ok result =>
      rw [hcall] at h
      have hgranted : result.1.isNone = granted := Option.some.inj h
      have ⟨hne, hspec⟩ := consumeRateLimit_spec hcall
      refine ⟨hne, ?_⟩
      intro s
      have ⟨hscope, hcost, hafter, hothers⟩ := hspec s
      rw [← hgranted]
      refine ⟨hscope, ?_, hafter, hothers⟩
      intro hnone
      exact hcost (Option.isNone_iff_eq_none.mp hnone)

/-- A served call that uses a bucket. -/
theorem rateStep_uses {granted : Bool} (h : (rateStep db c).1 = some granted)
    (huses : c.uses k scopeKind) :
    (openedBucket db c.actor c.routeClass scopeKind c.now).scopeKind = scopeKind ∧
      (granted = true → microtoken ≤ refill
        (openedBucket db c.actor c.routeClass scopeKind c.now)
        (rateOf k.2.2 scopeKind) (burstOf k.2.2 scopeKind) c.now) ∧
      (rateStep db c).2.buckets.get? k =
        some (servedRow (openedBucket db c.actor c.routeClass scopeKind c.now)
          (rateOf k.2.2 scopeKind) (burstOf k.2.2 scopeKind) c.now granted) := by
  have ⟨hscope, hcost, hafter, _⟩ := (rateStep_spec h).2 scopeKind
  have hroute : k.2.2 = c.routeClass := by
    rw [← huses]
    cases scopeKind <;> rfl
  rw [hroute]
  rw [huses] at hafter
  exact ⟨hscope, hcost, hafter⟩

/-- The row of a bucket that no served call uses stays. -/
theorem rateStep_unused (h : (rateStep db c).1 = none ∨ ∀ s, ¬ c.uses k s) :
    (rateStep db c).2.buckets.get? k = db.buckets.get? k := by
  cases hstep : (rateStep db c).1 with
  | none => rw [rateStep_failed hstep]
  | some granted =>
      rw [hstep] at h
      have hunused := h.resolve_left (fun hnone => by cases hnone)
      exact ((rateStep_spec hstep).2 .actor).2.2.2 k fun s hs => hunused s hs.symm

omit [Sha256] in
theorem tokenBucket_servedRow (row : RateLimitBucket) (rate burst : Nat) (now : Time)
    (granted : Bool) : tokenBucket (servedRow row rate burst now granted) =
      (tokenBucket row).serve (burst * microtoken) rate microtoken now granted := rfl

/-- A call that uses the bucket in another role than its row has fails. -/
theorem rateStep_foreign {row : RateLimitBucket} (hrow : db.buckets.get? k = some row)
    (huses : c.uses k scopeKind) (hscope : row.scopeKind ≠ scopeKind) :
    (rateStep db c).1 = none := by
  cases hstep : (rateStep db c).1 with
  | none => rfl
  | some granted =>
      have hopened := (rateStep_uses hstep huses).1
      unfold openedBucket at hopened
      rw [huses, hrow, Option.getD_some] at hopened
      exact absurd hopened hscope

/-- A call that a bucket in another role does not serve is no request of it. -/
theorem bucketRequests_skip {rest : List RateCall}
    (h : (rateStep db c).1 = none ∨ ¬ c.uses k scopeKind) :
    bucketRequests k scopeKind db (c :: rest) =
      bucketRequests k scopeKind (rateStep db c).2 rest := by
  rw [bucketRequests]
  cases hstep : (rateStep db c).1 with
  | none => rfl
  | some granted =>
      rw [hstep] at h
      exact if_neg (h.resolve_left fun hnone => by cases hnone)

theorem bucketRequests_serve {rest : List RateCall} {granted : Bool}
    (h : (rateStep db c).1 = some granted) (huses : c.uses k scopeKind) :
    bucketRequests k scopeKind db (c :: rest) =
      (c.now, granted) :: bucketRequests k scopeKind (rateStep db c).2 rest := by
  rw [bucketRequests, h]
  exact if_pos huses

/-- A call leaves the role of a row, and the whole row unless it is served by it. -/
theorem rateStep_row {row : RateLimitBucket} (hrow : db.buckets.get? k = some row) :
    (∃ granted, (rateStep db c).1 = some granted ∧ c.uses k row.scopeKind ∧
      (granted = true → microtoken ≤ refill row (rateOf k.2.2 row.scopeKind)
        (burstOf k.2.2 row.scopeKind) c.now) ∧
      (rateStep db c).2.buckets.get? k = some (servedRow row (rateOf k.2.2 row.scopeKind)
        (burstOf k.2.2 row.scopeKind) c.now granted)) ∨
    ((rateStep db c).1 = none ∨ ∀ s, ¬ c.uses k s) ∧
      (rateStep db c).2.buckets.get? k = some row := by
  by_cases hidle : (rateStep db c).1 = none ∨ ∀ s, ¬ c.uses k s
  · refine .inr ⟨hidle, ?_⟩
    rw [rateStep_unused hidle]
    exact hrow
  · rw [not_or, not_forall] at hidle
    have ⟨hserved, s, huses⟩ := hidle
    have huses := not_not.mp huses
    cases hstep : (rateStep db c).1 with
    | none => exact absurd hstep hserved
    | some granted =>
        have hspec := rateStep_uses hstep huses
        have hopened : openedBucket db c.actor c.routeClass s c.now = row := by
          unfold openedBucket
          rw [huses, hrow]
          rfl
        rw [hopened] at hspec
        have hscope := hspec.1
        subst hscope
        exact .inl ⟨granted, rfl, huses, hspec.2⟩

/-- The requests that a bucket serves once it exists find their costs. -/
theorem covered_of_row (calls : List RateCall) : ∀ (db : Db) (row : RateLimitBucket),
    db.buckets.get? k = some row →
      (row.scopeKind = scopeKind →
        TokenBucket.Covered (burstOf k.2.2 scopeKind * microtoken) (rateOf k.2.2 scopeKind)
          microtoken (tokenBucket row) (bucketRequests k scopeKind db calls)) ∧
      (row.scopeKind ≠ scopeKind → bucketRequests k scopeKind db calls = []) := by
  induction calls with
  | nil => exact fun _ _ _ => ⟨fun _ => trivial, fun _ => rfl⟩
  | cons c rest ih =>
      intro db row hrow
      rcases rateStep_row (c := c) hrow with ⟨granted, hstep, huses, hcost, hafter⟩ | ⟨hidle, hafter⟩
      · have hrest := ih _ _ hafter
        constructor
        · intro hscope
          rw [hscope] at huses hcost hrest
          rw [bucketRequests_serve hstep huses]
          refine ⟨hcost, ?_⟩
          exact hrest.1 hscope
        · intro hscope
          have hnone : ¬ c.uses k scopeKind := by
            intro huses'
            rw [rateStep_foreign hrow huses' hscope] at hstep
            cases hstep
          rw [bucketRequests_skip (.inr hnone)]
          exact hrest.2 hscope
      · have hrest := ih _ _ hafter
        rw [bucketRequests_skip (hidle.imp id fun h => h scopeKind)]
        exact hrest

/-- The requests that a bucket serves from its first on find their costs. -/
theorem covered_of_none (calls : List RateCall) : ∀ db : Db, db.buckets.get? k = none →
    ∀ first rest, bucketRequests k scopeKind db calls = first :: rest →
      TokenBucket.Covered (burstOf k.2.2 scopeKind * microtoken) (rateOf k.2.2 scopeKind)
        microtoken ⟨burstOf k.2.2 scopeKind * microtoken, first.1⟩ (first :: rest) := by
  induction calls with
  | nil =>
      intro db _ first rest h
      cases h
  | cons c later ih =>
      intro db hnone first rest h
      have hopened : ∀ s, c.uses k s → openedBucket db c.actor c.routeClass s c.now =
          fullBucket k s (burstOf k.2.2 s) c.now := by
        intro s huses
        have hroute : k.2.2 = c.routeClass := by
          rw [← huses]
          cases s <;> rfl
        unfold openedBucket
        rw [huses, hnone, hroute]
        rfl
      cases hstep : (rateStep db c).1 with
      | none =>
          rw [bucketRequests_skip (.inl hstep), rateStep_failed hstep] at h
          exact ih db hnone first rest h
      | some granted =>
          by_cases huses : c.uses k scopeKind
          · have ⟨_, hcost, hafter⟩ := rateStep_uses hstep huses
            rw [hopened scopeKind huses] at hcost hafter
            rw [bucketRequests_serve hstep huses] at h
            cases h
            exact ⟨hcost, (covered_of_row later _ _ hafter).1 rfl⟩
          · rw [bucketRequests_skip (.inr huses)] at h
            by_cases hother : ∃ s, c.uses k s
            · -- the row is created in the other role, and serves no request of this one
              have ⟨s, huses'⟩ := hother
              have ⟨_, _, hafter⟩ := rateStep_uses hstep huses'
              rw [hopened s huses'] at hafter
              have hrole : s ≠ scopeKind := by
                intro hsame
                rw [hsame] at huses'
                exact huses huses'
              rw [(covered_of_row later _ _ hafter).2 hrole] at h
              cases h
            · have hunused : ∀ s, ¬ c.uses k s := fun s hs => hother ⟨s, hs⟩
              have hafter : (rateStep db c).2.buckets.get? k = none := by
                rw [rateStep_unused (.inr hunused)]
                exact hnone
              exact ih _ hafter first rest h

/-- No bucket holds more than its burst. -/
def BucketsBounded (db : Db) : Prop :=
  ∀ k row, db.buckets.get? k = some row →
    row.tokensMicro ≤ burstOf k.2.2 row.scopeKind * microtoken

theorem openedBucket_bounded (h : BucketsBounded db) (actor : ActorContext)
    (routeClass : RouteClass) (s : ScopeKind) (now : Time) :
    (openedBucket db actor routeClass s now).tokensMicro ≤
      burstOf routeClass (openedBucket db actor routeClass s now).scopeKind * microtoken := by
  have hroute : (bucketKey actor routeClass s).2.2 = routeClass := by
    cases s <;> rfl
  unfold openedBucket
  cases hrow : db.buckets.get? (bucketKey actor routeClass s) with
  | none => exact Nat.le_refl _
  | some row =>
      have hbound := h _ row hrow
      rw [hroute] at hbound
      exact hbound

theorem BucketsBounded.rateStep (h : BucketsBounded db) (c : RateCall) :
    BucketsBounded (rateStep db c).2 := by
  intro k row hrow
  cases hstep : (Control.rateStep db c).1 with
  | none =>
      rw [rateStep_failed hstep] at hrow
      exact h k row hrow
  | some granted =>
      by_cases hused : ∃ s, c.uses k s
      · have ⟨s, huses⟩ := hused
        have ⟨hscope, _, hafter⟩ := rateStep_uses hstep huses
        rw [hafter] at hrow
        cases hrow
        have hfull := TokenBucket.serve_le_capacity (burstOf k.2.2 s * microtoken)
          (rateOf k.2.2 s) microtoken
          (tokenBucket (openedBucket db c.actor c.routeClass s c.now)) c.now granted
        show (tokenBucket (servedRow _ _ _ _ _)).tokens ≤ burstOf k.2.2
          (openedBucket db c.actor c.routeClass s c.now).scopeKind * microtoken
        rw [tokenBucket_servedRow, hscope]
        exact hfull
      · have hunused : ∀ s, ¬ c.uses k s := fun s hs => hused ⟨s, hs⟩
        rw [rateStep_unused (.inr hunused)] at hrow
        exact h k row hrow

theorem BucketsBounded.rateRun (h : BucketsBounded db) (calls : List RateCall) :
    BucketsBounded (rateRun db calls) := by
  induction calls generalizing db with
  | nil => exact h
  | cons c rest ih => exact ih (h.rateStep c)

/-- A rejected call leaves in both buckets at least what it found there. -/
theorem rejected_keeps (h : BucketsBounded db) (hstep : (rateStep db c).1 = some false)
    (s : ScopeKind) : ∃ row,
      (rateStep db c).2.buckets.get? (bucketKey c.actor c.routeClass s) = some row ∧
      (openedBucket db c.actor c.routeClass s c.now).tokensMicro ≤ row.tokensMicro := by
  have ⟨hscope, _, hafter⟩ := rateStep_uses hstep
    (rfl : c.uses (bucketKey c.actor c.routeClass s) s)
  have hbound := openedBucket_bounded h c.actor c.routeClass s c.now
  have hroute : (bucketKey c.actor c.routeClass s).2.2 = c.routeClass := by
    cases s <;> rfl
  rw [hscope] at hbound
  rw [hroute] at hafter
  refine ⟨_, hafter, ?_⟩
  exact TokenBucket.le_serve_rejected (b := tokenBucket _) hbound c.now

/-- A granted call finds a token in both buckets and takes it: Python's difference is no less than
zero, and it is what is stored. -/
theorem granted_takes (hstep : (rateStep db c).1 = some true) (s : ScopeKind) :
    let refilled : Int := refill (openedBucket db c.actor c.routeClass s c.now)
      (rateOf c.routeClass s) (burstOf c.routeClass s) c.now
    ∃ row, (rateStep db c).2.buckets.get? (bucketKey c.actor c.routeClass s) = some row ∧
      0 ≤ refilled - microtoken ∧ (row.tokensMicro : Int) = refilled - microtoken := by
  have ⟨_, hcost, hafter, _⟩ := (rateStep_spec hstep).2 s
  have hcovered := hcost rfl
  refine ⟨_, hafter, ?_, ?_⟩
  · omega
  · show ((refill _ _ _ _ - microtoken : Nat) : Int) = _
    omega

/-- The requests of a bucket stay within its limit: its burst, and its rate for the time from the
first reading to the largest. -/
def WithinLimit (k : BucketKey) (scopeKind : ScopeKind) (requests : List (Nat × Bool)) : Prop :=
  ∀ first ∈ requests.head?, ∀ top, (∀ r ∈ requests, r.1 ≤ top) →
    TokenBucket.granted requests * microtoken ≤
      burstOf k.2.2 scopeKind * microtoken + rateOf k.2.2 scopeKind * (top - first.1)

theorem within_of_ordered (calls : List RateCall) (hnone : db.buckets.get? k = none)
    (hordered : ((bucketRequests k scopeKind db calls).map Prod.fst).Pairwise (· ≤ ·)) :
    WithinLimit k scopeKind (bucketRequests k scopeKind db calls) := by
  intro first hfirst top htop
  cases hrequests : bucketRequests k scopeKind db calls with
  | nil =>
      rw [hrequests] at hfirst
      cases hfirst
  | cons r rest =>
      rw [hrequests] at hfirst hordered htop
      cases hfirst
      have hcovered := covered_of_none calls db hnone first rest hrequests
      have hspent := TokenBucket.spent_le_climb _ _ hcovered
      have hfirstTop : first.1 ≤ top := htop first List.mem_cons_self
      have hreadings : (first.1 :: (first :: rest).map Prod.fst).Pairwise (· ≤ ·) := by
        rw [List.pairwise_cons]
        refine ⟨?_, hordered⟩
        intro reading hreading
        rw [List.map_cons, List.mem_cons] at hreading
        rcases hreading with hsame | hlater
        · rw [hsame]
        · exact List.rel_of_pairwise_cons hordered hlater
      have hclimb := TokenBucket.climb_of_ordered _ _ hreadings hfirstTop htop
      have hrate := Nat.mul_le_mul_left (rateOf k.2.2 scopeKind) hclimb
      dsimp only at hspent
      rw [Nat.mul_comm]
      omega

end

/-- Every bucket keeps between nothing and its burst, granted calls take a token that is there and
rejected calls take nothing, and a bucket whose readings do not go back grants no more than its
limit. -/
theorem rate_limits_hold (db : Db) (calls : List RateCall) :
    let start : Db := { db with buckets := .empty }
    BucketsBounded (rateRun start calls) ∧
      (∀ earlier c later, calls = earlier ++ c :: later →
        (rateStep (rateRun start earlier) c).1 = some true → ∀ s,
          let refilled : Int := refill
            (openedBucket (rateRun start earlier) c.actor c.routeClass s c.now)
            (rateOf c.routeClass s) (burstOf c.routeClass s) c.now
          ∃ row, (rateStep (rateRun start earlier) c).2.buckets.get?
            (bucketKey c.actor c.routeClass s) = some row ∧
          0 ≤ refilled - microtoken ∧ (row.tokensMicro : Int) = refilled - microtoken) ∧
      (∀ earlier c later, calls = earlier ++ c :: later →
        (rateStep (rateRun start earlier) c).1 = some false → ∀ s, ∃ row,
          (rateStep (rateRun start earlier) c).2.buckets.get?
            (bucketKey c.actor c.routeClass s) = some row ∧
          (openedBucket (rateRun start earlier) c.actor c.routeClass s c.now).tokensMicro ≤
            row.tokensMicro) ∧
      ∀ k scopeKind,
        ((bucketRequests k scopeKind start calls).map Prod.fst).Pairwise (· ≤ ·) →
          WithinLimit k scopeKind (bucketRequests k scopeKind start calls) := by
  intro start
  have hstart : BucketsBounded start := by
    intro k row hrow
    cases hrow
  refine ⟨hstart.rateRun calls, ?_, ?_, ?_⟩
  · intro earlier c later _ hgranted s
    exact granted_takes hgranted s
  · intro earlier c later _ hrejected s
    exact rejected_keeps (hstart.rateRun earlier) hrejected s
  · intro k scopeKind hordered
    exact within_of_ordered calls rfl hordered

end

section

attribute [local instance] polynomialSha256

def submitter : ActorContext := ⟨⟨7⟩, ⟨1⟩, .operator, ⟨8⟩⟩

/-- A cancellation at a reading in seconds. -/
def mutateAt (seconds : Nat) : RateCall := ⟨submitter, .mutate, seconds * second⟩

/-- The burst, two seconds later the refill, one late call with the first reading, and one more. -/
def backwardCalls : List RateCall :=
  [0, 0, 0, 0, 2, 2, 2, 2, 0, 2].map mutateAt

def noBuckets : Db := .initial ⟨.empty, .empty, .empty, .empty⟩ .empty .empty

/-- One call more than the burst, and two seconds later one that finds a token again. -/
def forwardCalls : List RateCall := [0, 0, 0, 0, 0, 2].map mutateAt

/-- The actor's bucket grants five of the six calls, within its limit of eight. -/
theorem rate_limits_hold_forward :
    bucketRequests (bucketKey submitter .mutate .actor) .actor noBuckets forwardCalls =
      [(0, true), (0, true), (0, true), (0, true), (0, false), (2000000, true)] ∧
    WithinLimit (bucketKey submitter .mutate .actor) .actor
      (bucketRequests (bucketKey submitter .mutate .actor) .actor noBuckets forwardCalls) := by
  have hrequests : bucketRequests (bucketKey submitter .mutate .actor) .actor noBuckets
      forwardCalls =
        [(0, true), (0, true), (0, true), (0, true), (0, false), (2000000, true)] := by
    decide +kernel
  refine ⟨hrequests, (rate_limits_hold noBuckets forwardCalls).2.2.2 _ _ ?_⟩
  show ((bucketRequests _ _ noBuckets forwardCalls).map Prod.fst).Pairwise (· ≤ ·)
  rw [hrequests]
  decide

/-- The late call moves the last refill back, and the two seconds are refilled again. -/
theorem backward_reading_refills_again :
    ¬ WithinLimit (bucketKey submitter .mutate .actor) .actor
      (bucketRequests (bucketKey submitter .mutate .actor) .actor noBuckets backwardCalls) := by
  have hrequests : bucketRequests (bucketKey submitter .mutate .actor) .actor noBuckets
      backwardCalls = [(0, true), (0, true), (0, true), (0, true), (2000000, true),
        (2000000, true), (2000000, true), (2000000, true), (0, false), (2000000, true)] := by
    decide +kernel
  rw [hrequests]
  intro h
  have hlimit := h (0, true) rfl 2000000 (by decide)
  revert hlimit
  decide

end

end FlowPilot.Control

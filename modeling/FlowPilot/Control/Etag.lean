import FlowPilot.Texts

/-!
# Resource ETags

The two codecs of `etag.py` and `w11_etag.py`: what `strong_etag` writes, `expected_version` reads
back, and it reads nothing else.  The two differ in the words of their patterns only.
-/

namespace FlowPilot.Control

/-! ## The codec -/

inductive EtagError where
  | valueError (message : String)
  | preconditionRequired (reason : String)
  | preconditionFailed (reason : String)
  deriving DecidableEq

/-- `"(?P<generation>...)-(?P<kind>...)-`, with one word for each. -/
def etagLead (generation kind : String) : List Nat :=
  34 :: utf8 generation ++ 45 :: utf8 kind ++ [45]

/-- A text that starts with one lead and goes on as a fingerprint does not match with the other. -/
def leadsApart (lead other : List Nat) : Bool :=
  if startsWith lead other then
    ((lead.drop other.length).take 24).any fun b => !hexByte b
  else if startsWith other lead then
    ((other.drop lead.length).take 24).any fun b => !hexByte b
  else true

/-- The words of a pattern, and which of them a kind is written with. -/
structure EtagWords (Kind : Type) where
  generations : List String
  kinds : List String
  generation : Kind → String
  value : Kind → String
  plain : ∀ kind, ∀ b ∈ utf8 (generation kind) ++ utf8 (value kind), b ≠ 44
  apart : ∀ g ∈ generations, ∀ k ∈ kinds, ∀ g' ∈ generations, ∀ k' ∈ kinds,
    g' = g ∧ k' = k ∨ leadsApart (etagLead g k) (etagLead g' k') = true

structure EtagGroups where
  generation : String
  kind : String
  fingerprint : List Nat
  version : List Nat

/-- `(?P<fingerprint>[0-9a-f]{24})-v(?P<version>[1-9][0-9]*)"`, to the end. -/
def etagTail (text : List Nat) : Option (List Nat × List Nat) :=
  if (text.take 24).all hexByte && decide ((text.take 24).length = 24) then
    match text.drop 24 with
    | 45 :: 118 :: b :: rest =>
      if Nat.beq b 48 then none
      else
        match spanDigits (b :: rest) with
        | (c :: digits, [34]) => some (text.take 24, c :: digits)
        | _ => none
    | _ => none
  else none

namespace EtagWords

variable {Kind : Type} (words : EtagWords Kind)

/-- `_ETAG_PATTERN.fullmatch`: the alternatives are tried in order. -/
def fullmatch (text : List Nat) : Option EtagGroups :=
  words.generations.findSome? fun generation =>
    words.kinds.findSome? fun kind =>
      if startsWith text (etagLead generation kind) then
        (etagTail (text.drop (etagLead generation kind).length)).map fun groups =>
          ⟨generation, kind, groups.1, groups.2⟩
      else none

variable [Sha256]

/-- `_fingerprint`. -/
def fingerprint (kind : Kind) (organizationId resourceId : String) : String :=
  (Sha256.sha256 (utf8 (words.value kind ++ "|" ++ organizationId ++ "|" ++ resourceId))).take 24

def etagText (kind : Kind) (organizationId resourceId : String) (version : Int) : String :=
  "\"" ++ words.generation kind ++ "-" ++ words.value kind ++ "-"
    ++ words.fingerprint kind organizationId resourceId ++ "-v" ++ toString version ++ "\""

def encode (kind : Kind) (organizationId resourceId : String) (version : Int) :
    Except EtagError String :=
  if version < 1 then .error (.valueError "resource version must be positive")
  else .ok (words.etagText kind organizationId resourceId version)

/-- `sys.int_info.default_max_str_digits`. -/
def maxStrDigits : Nat := 4300

def decode (value : Option String) (kind : Kind) (organizationId resourceId : String) :
    Except EtagError Nat :=
  match value with
  | none => .error (.preconditionRequired "missing_if_match")
  | some value =>
    if startsWith (utf8 value) (utf8 "W/") || decide (value = "*") ||
        containsText (utf8 ",") (utf8 value) then
      .error (.preconditionFailed "invalid_if_match")
    else
      match words.fullmatch (utf8 value) with
      | none => .error (.preconditionFailed "invalid_if_match")
      | some groups =>
        if groups.generation ≠ words.generation kind ∨ groups.kind ≠ words.value kind then
          .error (.preconditionFailed "invalid_if_match")
        else if groups.fingerprint ≠ utf8 (words.fingerprint kind organizationId resourceId) then
          .error (.preconditionFailed "invalid_if_match")
        -- `int` refuses longer texts
        else if maxStrDigits < groups.version.length then
          .error (.valueError "Exceeds the limit (4300 digits) for integer string conversion")
        else if digitsValue groups.version > 2147483647 then
          .error (.preconditionFailed "invalid_if_match")
        else .ok (digitsValue groups.version)

end EtagWords

/-! ## The two codecs -/

inductive ResourceKind where
  | organization | user | membership | memory | memoryCollection | productionRun
  | observabilityTrace
  deriving DecidableEq, Repr

def ResourceKind.value : ResourceKind → String
  | .organization => "organization" | .user => "user" | .membership => "membership"
  | .memory => "memory" | .memoryCollection => "memory-collection"
  | .productionRun => "production-run" | .observabilityTrace => "observability-trace"

inductive W11ResourceKind where
  | authority | approvalRequest | grant
  deriving DecidableEq, Repr

def W11ResourceKind.value : W11ResourceKind → String
  | .authority => "authority" | .approvalRequest => "approval-request" | .grant => "grant"

/-- `_ETAG_PATTERN`. -/
def etagPattern : EtagWords ResourceKind where
  generations := ["w10", "w12"]
  kinds := ["organization", "user", "membership", "memory", "memory-collection", "production-run"]
  generation kind := if kind = .productionRun then "w12" else "w10"
  value := ResourceKind.value
  plain kind := by cases kind <;> decide
  apart := by decide +kernel

/-- `_PATTERN` of the W11 codec. -/
def w11Pattern : EtagWords W11ResourceKind where
  generations := ["w11"]
  kinds := ["authority", "approval-request", "grant"]
  generation _ := "w11"
  value := W11ResourceKind.value
  plain kind := by cases kind <;> decide
  apart := by decide +kernel

section

variable [Sha256]

def strongEtag (kind : ResourceKind) (organizationId resourceId : String) (version : Int) :
    Except EtagError String :=
  etagPattern.encode kind organizationId resourceId version

def expectedVersion (value : Option String) (kind : ResourceKind)
    (organizationId resourceId : String) : Except EtagError Nat :=
  etagPattern.decode value kind organizationId resourceId

def strongW11Etag (kind : W11ResourceKind) (organizationId resourceId : String) (version : Int) :
    Except EtagError String :=
  w11Pattern.encode kind organizationId resourceId version

def expectedW11Version (value : Option String) (kind : W11ResourceKind)
    (organizationId resourceId : String) : Except EtagError Nat :=
  w11Pattern.decode value kind organizationId resourceId

end

/-! ## Matches -/

/-- The version as the pattern asks for it. -/
structure VersionText (digits : List Nat) : Prop where
  all_digits : ∀ b ∈ digits, isDigit b = true
  nonempty : digits ≠ []
  head : digits.head? ≠ some 48

theorem etagTail_iff {text fingerprint digits : List Nat} :
    etagTail text = some (fingerprint, digits) ↔
      text = fingerprint ++ 45 :: 118 :: digits ++ [34] ∧ fingerprint.length = 24 ∧
        (∀ b ∈ fingerprint, hexByte b = true) ∧ VersionText digits := by
  unfold etagTail
  constructor
  · intro h
    split at h
    · rename_i hhex
      rw [Bool.and_eq_true, decide_eq_true_eq, List.all_eq_true] at hhex
      split at h
      · rename_i b rest hrest
        split at h
        · cases h
        · rename_i hzero
          split at h
          · rename_i c tail hspan
            cases h
            have hspanned := isDigit_of_spanDigits (b :: rest)
            rw [hspan] at hspanned
            have hsplit := List.take_append_drop 24 text
            have hc : c = b := by
              have hheads := congrArg List.head? hspanned.2
              exact Option.some.inj hheads
            refine ⟨?_, hhex.2, hhex.1, hspanned.1, List.cons_ne_nil _ _, fun h => ?_⟩
            · rw [hrest, ← hspanned.2] at hsplit
              exact hsplit.symm.trans (by simp)
            · apply hzero
              rw [← hc, Option.some.inj h]
              rfl
          · cases h
      · cases h
    · cases h
  · rintro ⟨rfl, hlength, hhex, hversion⟩
    have htake : (fingerprint ++ 45 :: 118 :: digits ++ [34]).take 24 = fingerprint := by
      rw [List.append_assoc, List.take_append, ← hlength]
      simp
    have hdrop : (fingerprint ++ 45 :: 118 :: digits ++ [34]).drop 24 =
        45 :: 118 :: (digits ++ [34]) := by
      rw [List.append_assoc, List.drop_append, ← hlength]
      simp
    rw [htake, hdrop, if_pos]
    · cases digits with
      | nil => exact absurd rfl hversion.nonempty
      | cons b rest =>
        have hspan : spanDigits (b :: rest.append [34]) = (b :: rest, [34]) := by
          apply spanDigits_append hversion.all_digits
          intro c more hc
          cases hc
          rfl
        have hzero : Nat.beq b 48 = false := by
          have hb : b ≠ 48 := fun h => hversion.head (by rw [h]; rfl)
          exact Bool.eq_false_iff.mpr fun h => hb (Nat.eq_of_beq_eq_true h)
        show (if Nat.beq b 48 = true then _ else _) = _
        rw [hzero, if_neg Bool.false_ne_true, hspan]
        rfl
    · rw [Bool.and_eq_true, decide_eq_true_eq, List.all_eq_true]
      exact ⟨hhex, hlength⟩

namespace EtagWords

variable {Kind : Type} {words : EtagWords Kind} {generation kind : String}
  {fingerprint digits text : List Nat} {groups : EtagGroups}

/-- One alternative of the pattern. -/
def alternative (text : List Nat) (generation kind : String) : Option EtagGroups :=
  if startsWith text (etagLead generation kind) then
    (etagTail (text.drop (etagLead generation kind).length)).map fun groups =>
      ⟨generation, kind, groups.1, groups.2⟩
  else none

theorem alternative_some (h : alternative text generation kind = some groups) :
    groups.generation = generation ∧ groups.kind = kind ∧
      text = etagLead generation kind ++
        (groups.fingerprint ++ 45 :: 118 :: groups.version ++ [34]) ∧
      groups.fingerprint.length = 24 ∧ (∀ b ∈ groups.fingerprint, hexByte b = true) ∧
      VersionText groups.version := by
  unfold alternative at h
  split at h
  · rename_i hlead
    rw [Option.map_eq_some_iff] at h
    obtain ⟨⟨fp, digits⟩, htail, rfl⟩ := h
    obtain ⟨hrest, hlength, hhex, hversion⟩ := etagTail_iff.mp htail
    obtain ⟨rest, hsplit⟩ := startsWith_iff.mp hlead
    rw [← hsplit, List.drop_left] at hrest
    refine ⟨rfl, rfl, ?_, hlength, hhex, hversion⟩
    rw [← hsplit, hrest]
  · cases h

theorem alternative_self {rest : List Nat} (hrest : etagTail rest = some (fingerprint, digits)) :
    alternative (etagLead generation kind ++ rest) generation kind =
      some ⟨generation, kind, fingerprint, digits⟩ := by
  unfold alternative
  rw [if_pos (startsWith_append _ _), List.drop_left, hrest]
  rfl

theorem fullmatch_eq (words : EtagWords Kind) (text : List Nat) : words.fullmatch text =
    words.generations.findSome? fun generation => words.kinds.findSome? fun kind =>
      alternative text generation kind := rfl

/-- A match is written with words of the pattern. -/
theorem fullmatch_some (h : words.fullmatch text = some groups) :
    groups.generation ∈ words.generations ∧ groups.kind ∈ words.kinds ∧
      alternative text groups.generation groups.kind = some groups := by
  rw [fullmatch_eq] at h
  obtain ⟨g, hg, hinner⟩ := List.exists_of_findSome?_eq_some h
  obtain ⟨k, hk, halternative⟩ := List.exists_of_findSome?_eq_some hinner
  have hgroups := alternative_some halternative
  rw [hgroups.1, hgroups.2.1]
  exact ⟨hg, hk, halternative⟩

/-- What stands in front of a match of the tail is hexadecimal. -/
theorem hexByte_of_prefix {word : List Nat} {b : Nat} (hword : word <+: text)
    (htail : etagTail text = some (fingerprint, digits)) (hb : b ∈ word.take 24) :
    hexByte b = true := by
  obtain ⟨hshape, hlength, hhex, -⟩ := etagTail_iff.mp htail
  have htake : text.take 24 = fingerprint := by
    rw [hshape, List.append_assoc, List.take_append, ← hlength]
    simp
  obtain ⟨rest, hrest⟩ := hword
  apply hhex
  rw [← htake, ← hrest, List.take_append, List.mem_append]
  exact .inl hb

/-- No alternative with other words comes in between. -/
theorem alternative_other {generation' kind' : String} {rest : List Nat}
    (hrest : etagTail rest = some (fingerprint, digits))
    (happart : leadsApart (etagLead generation kind) (etagLead generation' kind') = true) :
    alternative (etagLead generation kind ++ rest) generation' kind' = none := by
  generalize hlead : etagLead generation kind = lead at happart
  unfold alternative
  generalize etagLead generation' kind' = other at happart
  unfold leadsApart at happart
  by_cases hother : startsWith (lead ++ rest) other = true
  · rw [if_pos hother, Option.map_eq_none_iff]
    have hprefix := startsWith_iff.mp hother
    by_cases hshorter : startsWith lead other = true
    · rw [if_pos hshorter, List.any_eq_true] at happart
      obtain ⟨b, hb, hforeign⟩ := happart
      have hlength := (startsWith_iff.mp hshorter).length_le
      rw [List.drop_append_of_le_length hlength]
      cases htail : etagTail (lead.drop other.length ++ rest) with
      | none => rfl
      | some groups =>
        have hhex := hexByte_of_prefix (List.prefix_append _ _) htail hb
        rw [hhex] at hforeign
        cases hforeign
    · have hlonger : lead <+: other := by
        rcases Nat.le_total lead.length other.length with hle | hle
        · exact List.prefix_of_prefix_length_le (List.prefix_append _ _) hprefix hle
        · exact absurd (startsWith_iff.mpr
            (List.prefix_of_prefix_length_le hprefix (List.prefix_append _ _) hle)) hshorter
      rw [if_neg hshorter, if_pos (startsWith_iff.mpr hlonger), List.any_eq_true] at happart
      obtain ⟨b, hb, hforeign⟩ := happart
      obtain ⟨word, hword⟩ := hlonger
      rw [← hword, List.prefix_append_right_inj] at hprefix
      rw [← hword, List.drop_left] at hb
      have hhex := hexByte_of_prefix hprefix hrest hb
      rw [hhex] at hforeign
      cases hforeign
  · rw [if_neg hother]

theorem fullmatch_text {rest : List Nat} (hgeneration : generation ∈ words.generations)
    (hkind : kind ∈ words.kinds) (hrest : etagTail rest = some (fingerprint, digits)) :
    words.fullmatch (etagLead generation kind ++ rest) =
      some ⟨generation, kind, fingerprint, digits⟩ := by
  have hself : alternative (etagLead generation kind ++ rest) generation kind =
      some ⟨generation, kind, fingerprint, digits⟩ := alternative_self hrest
  cases hmatch : words.fullmatch (etagLead generation kind ++ rest) with
  | none =>
    rw [fullmatch_eq, List.findSome?_eq_none_iff] at hmatch
    have hinner := List.findSome?_eq_none_iff.mp (hmatch generation hgeneration) kind hkind
    rw [hself] at hinner
    cases hinner
  | some groups =>
    obtain ⟨hg, hk, hgroups⟩ := fullmatch_some hmatch
    rcases words.apart generation hgeneration kind hkind _ hg _ hk with ⟨hsame, hsame'⟩ | hother
    · rw [hsame, hsame', hself] at hgroups
      exact hgroups.symm
    · rw [alternative_other hrest hother] at hgroups
      cases hgroups


theorem versionText_decimal {version : Nat} (h : 1 ≤ version) : VersionText (decimal version) where
  all_digits _ hb := isDigit_of_mem_decimal hb
  nonempty := decimal_ne_nil version
  head := by
    obtain ⟨b, more, hdigits, hb⟩ := decimal_pos h
    rw [hdigits]
    exact fun h => hb (Option.some.inj h)

theorem containsText_comma {text : List Nat} (h : containsText [44] text = true) : 44 ∈ text := by
  induction text with
  | nil => cases h
  | cons b text ih =>
    rw [containsText, Bool.or_eq_true] at h
    rcases h with hhead | htail
    · have hsplit : b :: text = [44] ++ (b :: text).drop 1 := by
        obtain ⟨rest, hrest⟩ := startsWith_iff.mp hhead
        rw [← hrest]
        rfl
      rw [hsplit]
      exact List.mem_cons_self
    · exact List.mem_cons_of_mem b (ih htail)

variable [Sha256]

theorem etagText_utf8 (words : EtagWords Kind) (kind : Kind) (organizationId resourceId : String)
    (version : Nat) : utf8 (words.etagText kind organizationId resourceId version) =
      etagLead (words.generation kind) (words.value kind) ++
        (utf8 (words.fingerprint kind organizationId resourceId) ++ 45 :: 118 :: decimal version
          ++ [34]) := by
  have hquote : utf8 "\"" = [34] := by decide
  have hdash : utf8 "-" = [45] := by decide
  have hversion : utf8 "-v" = [45, 118] := by decide
  have hnumber : utf8 (toString (version : Int)) = decimal version := utf8_toString_nat version
  unfold etagText etagLead
  simp only [utf8_append, hquote, hdash, hversion, hnumber]
  simp

theorem fingerprint_hex (words : EtagWords Kind) (kind : Kind)
    (organizationId resourceId : String) :
    (utf8 (words.fingerprint kind organizationId resourceId)).length = 24 ∧
      ∀ b ∈ utf8 (words.fingerprint kind organizationId resourceId), hexByte b = true := by
  unfold fingerprint
  rw [utf8_take, List.length_take, length_hex]
  exact ⟨rfl, fun b hb => hexByte_of_hex _ b (List.mem_of_mem_take hb)⟩

theorem etagText_plain (words : EtagWords Kind) (kind : Kind) (organizationId resourceId : String)
    (version : Nat) : 44 ∉ utf8 (words.etagText kind organizationId resourceId version) := by
  have hgeneration : 44 ∉ utf8 (words.generation kind) :=
    fun h => words.plain kind 44 (List.mem_append_left _ h) rfl
  have hkind : 44 ∉ utf8 (words.value kind) :=
    fun h => words.plain kind 44 (List.mem_append_right _ h) rfl
  have hfingerprint : 44 ∉ utf8 (words.fingerprint kind organizationId resourceId) :=
    fun h => absurd ((words.fingerprint_hex kind organizationId resourceId).2 44 h) (by decide)
  have hdigits : 44 ∉ decimal version := fun h => absurd (isDigit_of_mem_decimal h) (by decide)
  rw [etagText_utf8]
  unfold etagLead
  simp [hgeneration, hkind, hfingerprint, hdigits]

/-- What is written is read, unless the version is too large. -/
theorem decode_etagText (words : EtagWords Kind) (kind : Kind) (organizationId resourceId : String)
    (hgeneration : words.generation kind ∈ words.generations)
    (hkind : words.value kind ∈ words.kinds) {version : Nat} (hversion : 1 ≤ version) :
    words.decode (some (words.etagText kind organizationId resourceId version)) kind organizationId
        resourceId =
      if maxStrDigits < (decimal version).length then
        .error (.valueError "Exceeds the limit (4300 digits) for integer string conversion")
      else if version > 2147483647 then .error (.preconditionFailed "invalid_if_match")
      else .ok version := by
  have htext := etagText_utf8 words kind organizationId resourceId version
  have hhex := words.fingerprint_hex kind organizationId resourceId
  have htail := etagTail_iff.mpr ⟨rfl, hhex.1, hhex.2, versionText_decimal hversion⟩
  have hmatch := words.fullmatch_text hgeneration hkind htail
  have hstar : words.etagText kind organizationId resourceId version ≠ "*" := by
    intro h
    rw [h] at htext
    have hhead : some 42 = some 34 := congrArg List.head? htext
    exact absurd hhead (by decide)
  have hweak : startsWith (utf8 (words.etagText kind organizationId resourceId version))
      (utf8 "W/") = false := by
    rw [htext]
    rfl
  have hlist : containsText (utf8 ",")
      (utf8 (words.etagText kind organizationId resourceId version)) = false :=
    Bool.eq_false_iff.mpr fun h =>
      etagText_plain words kind organizationId resourceId version (containsText_comma h)
  unfold decode
  dsimp only
  rw [hweak, hlist, decide_eq_false hstar, if_neg (by decide), htext, hmatch]
  dsimp only
  rw [if_neg, if_neg, digitsValue_decimal]
  · exact not_not.mpr rfl
  · rintro (h | h) <;> exact h rfl

/-- Whatever else stands in the header is refused. -/
theorem decode_other (words : EtagWords Kind) (kind : Kind) (organizationId resourceId : String)
    {value : String} (hother : ∀ version : Nat, 1 ≤ version →
      value ≠ words.etagText kind organizationId resourceId version) :
    words.decode (some value) kind organizationId resourceId =
      .error (.preconditionFailed "invalid_if_match") := by
  unfold decode
  dsimp only
  split
  · rfl
  · split
    · rfl
    · rename_i groups hmatch
      split
      · rfl
      · rename_i hwords
        split
        · rfl
        · rename_i hfingerprint
          exfalso
          obtain ⟨-, -, halternative⟩ := fullmatch_some hmatch
          obtain ⟨-, -, htext, -, -, hdigits⟩ := alternative_some halternative
          have hversion := decimal_digitsValue hdigits.all_digits hdigits.head hdigits.nonempty
          rw [not_or, not_not, not_not] at hwords
          rw [not_not] at hfingerprint
          apply hother _ hversion.1
          apply utf8_inj
          rw [etagText_utf8, hversion.2, htext, hwords.1, hwords.2, hfingerprint]

end EtagWords

/-! ## Round trips -/

/-- What a codec owes to a resource. -/
structure EtagExact {Kind : Type} (strong : Kind → String → String → Int → Except EtagError String)
    (expected : Option String → Kind → String → String → Except EtagError Nat)
    (fingerprint : Kind → String → String → String) (kind : Kind)
    (organizationId resourceId : String) : Prop where
  round_trip : ∀ version : Nat, 1 ≤ version → version ≤ 2147483647 →
    ∃ value, strong kind organizationId resourceId version = .ok value ∧
      expected (some value) kind organizationId resourceId = .ok version
  image : ∀ value version, expected (some value) kind organizationId resourceId = .ok version →
    1 ≤ version ∧ version ≤ 2147483647 ∧
      strong kind organizationId resourceId version = .ok value
  refused : ∀ value, (∀ version : Nat, version ≤ 2147483647 →
      strong kind organizationId resourceId version ≠ .ok value) →
    expected (some value) kind organizationId resourceId =
        .error (.preconditionFailed "invalid_if_match") ∨
      expected (some value) kind organizationId resourceId =
          .error (.valueError "Exceeds the limit (4300 digits) for integer string conversion") ∧
        ∃ version : Nat, 10 ^ EtagWords.maxStrDigits ≤ version ∧
          strong kind organizationId resourceId version = .ok value
  others : ∀ kind' organizationId' resourceId' version value,
    fingerprint kind' organizationId' resourceId' ≠ fingerprint kind organizationId resourceId →
    strong kind' organizationId' resourceId' version = .ok value →
    expected (some value) kind organizationId resourceId =
      .error (.preconditionFailed "invalid_if_match")

section

variable [Sha256] {Kind : Type} {words : EtagWords Kind} {kind : Kind}
  {organizationId resourceId : String}

theorem EtagWords.encode_ok {version : Int} {value : String}
    (h : words.encode kind organizationId resourceId version = .ok value) :
    ∃ n : Nat, 1 ≤ n ∧ version = n ∧
      value = words.etagText kind organizationId resourceId n := by
  unfold encode at h
  split at h
  · cases h
  · cases h
    refine ⟨version.toNat, by omega, by omega, ?_⟩
    rw [Int.toNat_of_nonneg (by omega)]

theorem EtagWords.encode_nat {version : Nat} (h : 1 ≤ version) :
    words.encode kind organizationId resourceId version =
      .ok (words.etagText kind organizationId resourceId version) := by
  unfold encode
  exact if_neg (by omega)

/-- The fingerprint stands in front of the version, wherever the words end. -/
theorem EtagWords.fingerprint_of_etagText {kind' : Kind} {organizationId' resourceId' : String}
    {version version' : Nat} (h : words.etagText kind' organizationId' resourceId' version' =
      words.etagText kind organizationId resourceId version) :
    words.fingerprint kind' organizationId' resourceId' =
      words.fingerprint kind organizationId resourceId := by
  have hspan : ∀ (v : Nat) (front : List Nat),
      spanDigits ((decimal v).reverse ++ 118 :: front) = ((decimal v).reverse, 118 :: front) := by
    intro v front
    apply spanDigits_append
    · exact fun b hb => isDigit_of_mem_decimal (List.mem_reverse.mp hb)
    · intro b more hb
      cases hb
      rfl
  have htext := congrArg (fun s => (utf8 s).reverse) h
  simp only [etagText_utf8, List.reverse_append, List.reverse_cons, List.reverse_nil,
    List.nil_append, List.append_assoc, List.cons_append] at htext
  have hbody := (List.cons.inj htext).2
  have hparts := congrArg spanDigits hbody
  rw [hspan, hspan] at hparts
  have hfront := (Prod.mk.inj hparts).2
  have hrest := (List.cons.inj (List.cons.inj hfront).2).2
  have hlength : (utf8 (words.fingerprint kind' organizationId' resourceId')).reverse.length =
      (utf8 (words.fingerprint kind organizationId resourceId)).reverse.length := by
    rw [List.length_reverse, List.length_reverse, (words.fingerprint_hex _ _ _).1,
      (words.fingerprint_hex _ _ _).1]
  exact utf8_inj (List.reverse_injective (List.append_inj_left hrest hlength))

theorem EtagWords.exact (hgeneration : words.generation kind ∈ words.generations)
    (hkind : words.value kind ∈ words.kinds) :
    EtagExact words.encode words.decode words.fingerprint kind organizationId resourceId where
  round_trip version hlow hhigh := by
    refine ⟨_, encode_nat hlow, ?_⟩
    rw [words.decode_etagText kind organizationId resourceId hgeneration hkind hlow, if_neg, if_neg]
    · omega
    · have hlength : (decimal version).length ≤ 10 := by
        unfold decimal
        rw [List.length_map]
        exact (Nat.length_toDigits_le_iff (by decide) (by decide)).mpr (by omega)
      unfold maxStrDigits
      omega
  image value version h := by
    by_cases hwritten : ∃ n : Nat, 1 ≤ n ∧
        value = words.etagText kind organizationId resourceId n
    · obtain ⟨n, hn, rfl⟩ := hwritten
      rw [words.decode_etagText kind organizationId resourceId hgeneration hkind hn] at h
      split_ifs at h with hlong hlarge
      cases h
      exact ⟨hn, by omega, encode_nat hn⟩
    · rw [words.decode_other kind organizationId resourceId
        fun n hn hvalue => hwritten ⟨n, hn, hvalue⟩] at h
      cases h
  refused value hvalue := by
    by_cases hwritten : ∃ n : Nat, 1 ≤ n ∧
        value = words.etagText kind organizationId resourceId n
    · obtain ⟨n, hn, rfl⟩ := hwritten
      rw [words.decode_etagText kind organizationId resourceId hgeneration hkind hn]
      by_cases hlong : maxStrDigits < (decimal n).length
      · rw [if_pos hlong]
        refine .inr ⟨rfl, n, ?_, encode_nat hn⟩
        unfold decimal at hlong
        rw [List.length_map] at hlong
        exact Nat.not_lt.mp fun h =>
          Nat.not_le.mpr hlong ((Nat.length_toDigits_le_iff (by decide) (by decide)).mpr h)
      · rw [if_neg hlong]
        by_cases hlarge : n > 2147483647
        · rw [if_pos hlarge]
          exact .inl rfl
        · exact absurd (encode_nat hn) (hvalue n (by omega))
    · exact .inl (words.decode_other kind organizationId resourceId
        fun n hn hsame => hwritten ⟨n, hn, hsame⟩)
  others kind' organizationId' resourceId' version value hcollision h := by
    obtain ⟨n, -, -, rfl⟩ := encode_ok h
    apply words.decode_other
    intro m _ hsame
    exact hcollision (fingerprint_of_etagText hsame)

/-- A kind that the pattern does not name has no header that is accepted. -/
theorem EtagWords.unnamed (hkind : words.value kind ∉ words.kinds) (value : String) :
    words.decode (some value) kind organizationId resourceId =
      .error (.preconditionFailed "invalid_if_match") := by
  unfold decode
  dsimp only
  split
  · rfl
  · split
    · rfl
    · rename_i groups hmatch
      rw [if_pos]
      refine .inr fun hsame => hkind ?_
      rw [← hsame]
      exact (fullmatch_some hmatch).2.1

/-- Both codecs read exactly what they write, for every kind that their patterns name; for the
kind of the traces, which no pattern names, every header is refused. -/
theorem etags_exact (organizationId resourceId : String) :
    (∀ kind ≠ .observabilityTrace,
      EtagExact strongEtag expectedVersion etagPattern.fingerprint kind organizationId resourceId) ∧
    (∀ kind, EtagExact strongW11Etag expectedW11Version w11Pattern.fingerprint kind organizationId
      resourceId) ∧
    ∀ value, expectedVersion (some value) .observabilityTrace organizationId resourceId =
      .error (.preconditionFailed "invalid_if_match") := by
  refine ⟨fun kind hkind => EtagWords.exact ?_ ?_, fun kind => EtagWords.exact ?_ ?_,
    fun value => ?_⟩
  · cases kind <;> decide
  · cases kind <;> first | decide | exact absurd rfl hkind
  · exact List.mem_singleton_self _
  · cases kind <;> decide
  · exact EtagWords.unnamed (by decide) value

end

/-! ## Traces -/

section

attribute [local instance] polynomialSha256

/-- The tag of a run is read back, and refused for the run of that name elsewhere. -/
theorem etags_exact_run :
    ∃ value, strongEtag .productionRun "org_syn_alpha_0001" "run_00000001" 3 = .ok value ∧
      expectedVersion (some value) .productionRun "org_syn_alpha_0001" "run_00000001" = .ok 3 ∧
      expectedVersion (some value) .productionRun "org_syn_beta_0001" "run_00000001" =
        .error (.preconditionFailed "invalid_if_match") := by
  have hown := (etags_exact "org_syn_alpha_0001" "run_00000001").1 .productionRun (by decide)
  have hother := (etags_exact "org_syn_beta_0001" "run_00000001").1 .productionRun (by decide)
  have ⟨value, hwritten, hread⟩ := hown.round_trip 3 (by decide) (by decide)
  have hcollision : etagPattern.fingerprint .productionRun "org_syn_alpha_0001" "run_00000001" ≠
      etagPattern.fingerprint .productionRun "org_syn_beta_0001" "run_00000001" := by
    decide +kernel
  exact ⟨value, hwritten, hread, hother.others _ _ _ _ value hcollision hwritten⟩

/-- What is written for a trace is not read back. -/
theorem trace_etag_refused : ∃ value,
    strongEtag .observabilityTrace "org_syn_alpha_0001" "run_00000001" 1 = .ok value ∧
    expectedVersion (some value) .observabilityTrace "org_syn_alpha_0001" "run_00000001" =
      .error (.preconditionFailed "invalid_if_match") :=
  ⟨_, rfl, EtagWords.unnamed (by decide) _⟩

end

end FlowPilot.Control

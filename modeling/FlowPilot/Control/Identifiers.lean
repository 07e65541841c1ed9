import FlowPilot.Control.Logs
import FlowPilot.Texts

/-!
# Identifiers and digests

What the services write matches the patterns that their schemas read it with: digests and their
leading digits always, an identifier if its token is one of `secrets.token_hex(16)`.
-/

namespace FlowPilot.Control

theorem matchesSha256_hex (d : Digest) : matchesSha256 d.hex = true := by
  unfold matchesSha256
  rw [Bool.and_eq_true, List.all_eq_true, length_hex]
  exact ⟨hexByte_of_hex d, rfl⟩

theorem mem_toDigits_hex {n : Nat} {c : Char} (h : c ∈ Nat.toDigits 16 n) :
    ∃ d, d < 16 ∧ c = Nat.digitChar d := by
  induction n using Nat.strongRecOn with
  | ind n ih =>
    rw [Nat.toDigits_eq_if (by decide)] at h
    by_cases hsmall : n < 16
    · rw [if_pos hsmall, List.mem_singleton] at h
      exact ⟨n, hsmall, h⟩
    · rw [if_neg hsmall] at h
      rcases List.mem_append.mp h with hlead | hlast
      · exact ih (n / 16) (by omega) hlead
      · exact ⟨n % 16, by omega, List.mem_singleton.mp hlast⟩

theorem mem_hexToken {n : Nat} {c : Char} (h : c ∈ (hexToken n).toList) :
    ∃ d, d < 16 ∧ c = Nat.digitChar d := by
  unfold hexToken at h
  dsimp only at h
  rw [String.toList_ofList] at h
  rcases List.mem_append.mp h with hzero | hdigit
  · exact ⟨0, by decide, List.eq_of_mem_replicate hzero⟩
  · exact mem_toDigits_hex hdigit

theorem utf8_hexToken (n : Nat) : utf8 (hexToken n) = (hexToken n).toList.map Char.toNat := by
  have hascii : ∀ c ∈ (hexToken n).toList, c.val ≤ 127 := by
    intro c hc
    obtain ⟨d, hd, rfl⟩ := mem_hexToken hc
    exact digitChar_ascii hd
  have htext := utf8_ofList_ascii hascii
  rw [String.ofList_toList] at htext
  exact htext

theorem idChar_hexToken {n b : Nat} (h : b ∈ utf8 (hexToken n)) : idChar b = true := by
  rw [utf8_hexToken] at h
  obtain ⟨c, hc, rfl⟩ := List.mem_map.mp h
  obtain ⟨d, hd, rfl⟩ := mem_hexToken hc
  have hall : (List.range 16).all (fun n => idChar (Nat.digitChar n).toNat) = true := by decide
  exact List.all_eq_true.mp hall d (List.mem_range.mpr hd)

theorem length_hexToken {n : Nat} (h : n < 2 ^ 128) : (utf8 (hexToken n)).length = 32 := by
  have hdigits : (Nat.toDigits 16 n).length ≤ 32 :=
    (Nat.length_toDigits_le_iff (by decide) (by decide)).mpr h
  rw [utf8_hexToken, List.length_map]
  unfold hexToken
  dsimp only
  rw [String.toList_ofList, List.length_append, List.length_replicate]
  omega

/-- An identifier with a 128-bit token has the pattern of its kind. -/
theorem matchesId_text {kind : IdKind} {i : Id kind} (h : i.token < 2 ^ 128) :
    matchesId kind i.text = true := by
  have htext : utf8 i.text = (utf8 kind.prefixText ++ [95]) ++ utf8 (hexToken i.token) := by
    have hjoin : utf8 "_" = [95] := by decide
    unfold Id.text
    rw [utf8_append, utf8_append, hjoin]
  have hlength := length_hexToken h
  unfold matchesId
  dsimp only
  rw [htext, startsWith_append, List.drop_left, hlength, Bool.true_and, Bool.and_eq_true]
  constructor
  · rw [List.all_eq_true]
    intro b hb
    exact idChar_hexToken hb
  · decide

/-- The leading digits of a digest. -/
theorem hexDigits_take (d : Digest) {n : Nat} (h : n ≤ 64) :
    (∀ b ∈ utf8 (d.take n), hexByte b = true) ∧ (utf8 (d.take n)).length = n := by
  rw [utf8_take]
  refine ⟨fun b hb => hexByte_of_hex d b (List.mem_of_mem_take hb), ?_⟩
  rw [List.length_take, length_hex]
  exact Nat.min_eq_left h

end FlowPilot.Control

import SearchGateway.Digest
import SearchGateway.Proofs.Json.Texts

/-!
# What digests tell apart

A digest is written as two hexadecimal digits for each of its bytes, so the written digest says as
much as the digest itself.  Two texts have the same one exactly if they are the same text or collide
(`Digest.ofText_eq_iff`).
-/

set_option autoImplicit false

namespace SearchGateway.Digest

/-- Two different texts whose bytes have the same digest. -/
def Collide (a b : String) : Prop :=
  a ≠ b ∧ md5 a.toUTF8.toList = md5 b.toUTF8.toList

/-- No two of the texts have the same digest. -/
def TellsApart (texts : List String) : Prop :=
  ∀ a ∈ texts, ∀ b ∈ texts, ofText a = ofText b → a = b

/-! ## Bytes in hexadecimal -/

theorem length_hex_byte (byte : UInt8) : (Text.hex 2 byte.toNat).length = 2 :=
  Text.length_hex (by norm_num) byte.toNat_lt

theorem hex_byte_ne_nil (byte : UInt8) : Text.hex 2 byte.toNat ≠ [] :=
  List.ne_nil_of_length_pos (by rw [length_hex_byte]; norm_num)

theorem hex_byte_inj {a b : UInt8} (h : Text.hex 2 a.toNat = Text.hex 2 b.toNat) : a = b := by
  have hnumber := congrArg Text.hexNumber? h
  rw [Text.hexNumber?_hex, Text.hexNumber?_hex] at hnumber
  exact UInt8.toNat_inj.mp (Option.some.inj hnumber)

/-- Every byte takes two digits, so the digits of one byte end where those of the next begin. -/
theorem flatMap_hex_injective :
    Function.Injective fun bytes : List UInt8 => bytes.flatMap fun byte => Text.hex 2 byte.toNat := by
  intro as bs h
  induction as generalizing bs with
  | nil =>
    cases bs with
    | nil => rfl
    | cons b bs => exact absurd (List.append_eq_nil_iff.mp h.symm).1 (hex_byte_ne_nil b)
  | cons a as ih =>
    cases bs with
    | nil => exact absurd (List.append_eq_nil_iff.mp h).1 (hex_byte_ne_nil a)
    | cons b bs =>
      obtain ⟨hbyte, hrest⟩ :=
        List.append_inj h ((length_hex_byte a).trans (length_hex_byte b).symm)
      rw [hex_byte_inj hbyte, ih hrest]

/-! ## Written digests -/

/-- **Two texts have the same digest if they are the same or collide.** -/
theorem ofText_eq_iff {a b : String} : ofText a = ofText b ↔ a = b ∨ Collide a b := by
  have hmd5 : ofText a = ofText b ↔ md5 a.toUTF8.toList = md5 b.toUTF8.toList := by
    rw [ofText, ofText, String.ofList_inj]
    exact flatMap_hex_injective.eq_iff
  rw [hmd5]
  constructor
  · intro h
    exact or_iff_not_imp_left.mpr fun hne => ⟨hne, h⟩
  · rintro (rfl | hcollide)
    · rfl
    · exact hcollide.2

theorem tellsApart_of_nodup {texts kept : List String} (hsub : texts ⊆ kept)
    (h : (kept.map ofText).Nodup) : TellsApart texts :=
  fun _ ha _ hb hab => List.inj_on_of_nodup_map h (hsub ha) (hsub hb) hab

/-- An identifier is never empty. -/
theorem ofText_ne_empty (s : String) : ofText s ≠ "" := by
  intro h
  have hchars : (ofText s).toList = [] := by simp [h]
  rw [ofText, String.toList_ofList, List.flatMap_eq_nil_iff] at hchars
  exact hex_byte_ne_nil _ (hchars _ (List.mem_append_left _ (List.mem_append_left _
    (List.mem_append_left _ (List.mem_cons_self ..)))))

end SearchGateway.Digest

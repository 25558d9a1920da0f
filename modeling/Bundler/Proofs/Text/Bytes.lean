import Mathlib.Data.List.Basic

set_option autoImplicit false

/-! # The bytes of a text

A character of the ASCII alphabet is one byte below 128, and all bytes of other characters are above
(`utf8EncodeChar_cases`). So the bytes of a text can be put in lower case one by one
(`map_lowerByte_bytesOf`), and a text that starts with an ASCII character stands in another text,
byte for byte, only where it stands there character for character (`prefix_drop_cons_iff`). -/

namespace Bundler.Text

/-- The bytes of some characters. -/
def bytesOfChars (text : List Char) : List UInt8 := text.flatMap String.utf8EncodeChar

/-- The bytes of a text. -/
def bytesOf (text : String) : List UInt8 := text.toUTF8.data.toList

variable {c : Char} {text before after : List Char}

theorem bytesOf_eq (text : String) : bytesOf text = bytesOfChars text.toList := by
  unfold bytesOf bytesOfChars
  rw [String.toUTF8_eq_toByteArray, ← String.utf8Encode_toList, List.utf8Encode,
    List.toList_data_toByteArray]

theorem bytesOf_append (text other : String) :
    bytesOf (text ++ other) = bytesOf text ++ bytesOf other := by
  rw [bytesOf_eq, bytesOf_eq, bytesOf_eq, String.toList_append]
  exact List.flatMap_append

theorem bytesOf_join (texts : List String) :
    bytesOf (String.join texts) = texts.flatMap bytesOf := by
  rw [bytesOf_eq, bytesOfChars, String.toList_join, List.flatMap_assoc, funext bytesOf_eq]
  rfl

theorem bytesOfChars_cons (c : Char) (text : List Char) :
    bytesOfChars (c :: text) = String.utf8EncodeChar c ++ bytesOfChars text :=
  List.flatMap_cons

/-- The bytes of a text tell its characters, as far as they go. -/
theorem bytesOfChars_prefix_iff : bytesOfChars before <+: bytesOfChars text ↔ before <+: text := by
  constructor
  · rintro ⟨others, hothers⟩
    refine List.isPrefix_of_utf8Encode_append_eq_utf8Encode others.toByteArray ?_
    rw [List.utf8Encode, List.utf8Encode, ← List.toByteArray_append]
    exact congrArg List.toByteArray hothers
  · rintro ⟨after, rfl⟩
    exact ⟨bytesOfChars after, List.flatMap_append.symm⟩

/-! ## Letter case -/

/-- A byte, in lower case if it is an ASCII letter. -/
def lowerByte (b : UInt8) : UInt8 := if 0x41 ≤ b ∧ b ≤ 0x5a then b + 0x20 else b

/-- A character of the ASCII alphabet is one byte, and others have no bytes of the alphabet. -/
theorem utf8EncodeChar_cases (c : Char) :
    c.toNat < 128 ∧ (∃ b : UInt8, String.utf8EncodeChar c = [b] ∧ b.toNat = c.toNat) ∨
      128 ≤ c.toNat ∧ ∀ b ∈ String.utf8EncodeChar c, 128 ≤ b.toNat := by
  have hbyte : ∀ n < 256, (UInt8.ofNat n).toNat = n := fun n hn => UInt8.toNat_ofNat_of_lt' hn
  have hhigh : ∀ n, 128 ≤ n → n < 256 → 128 ≤ (UInt8.ofNat n).toNat := by
    intro n hn hlt
    rwa [hbyte n hlt]
  have hval : c.toNat = c.val.toNat := rfl
  fun_cases String.utf8EncodeChar c
  · exact .inl ⟨by omega, _, rfl, hbyte _ (by omega)⟩
  all_goals
    refine .inr ⟨by omega, ?_⟩
    simp only [List.forall_mem_cons, List.not_mem_nil, false_implies, implies_true, and_true]
    and_intros
    all_goals exact hhigh _ (by omega) (by omega)

theorem toNat_toLower (h : 65 ≤ c.toNat ∧ c.toNat ≤ 90) : c.toLower.toNat = c.toNat + 32 := by
  have hlower : c.toLower.val = c.val + 32 := congrArg Char.val (dif_pos h)
  show c.toLower.val.toNat = _
  rw [hlower, UInt32.toNat_add]
  exact Nat.mod_eq_of_lt (by change c.toNat + 32 < _; omega)

theorem toLower_eq_self (h : ¬ (65 ≤ c.toNat ∧ c.toNat ≤ 90)) : c.toLower = c := dif_neg h

theorem toNat_lowerByte {b : UInt8} (h : 65 ≤ b.toNat ∧ b.toNat ≤ 90) :
    (lowerByte b).toNat = b.toNat + 32 := by
  have hlower : lowerByte b = b + 32 := if_pos h
  rw [hlower, UInt8.toNat_add]
  exact Nat.mod_eq_of_lt (by change b.toNat + 32 < _; omega)

theorem lowerByte_eq_self {b : UInt8} (h : ¬ (65 ≤ b.toNat ∧ b.toNat ≤ 90)) : lowerByte b = b :=
  if_neg h

theorem map_lowerByte_utf8EncodeChar (c : Char) :
    (String.utf8EncodeChar c).map lowerByte = String.utf8EncodeChar c.toLower := by
  obtain ⟨hascii, b, hbytes, hb⟩ | ⟨hhigh, hbytes⟩ := utf8EncodeChar_cases c
  · by_cases hupper : 65 ≤ c.toNat ∧ c.toNat ≤ 90
    · have hlower := toNat_toLower hupper
      obtain ⟨-, b', hbytes', hb'⟩ | ⟨hhigh', -⟩ := utf8EncodeChar_cases c.toLower
      · have hsame : lowerByte b = b' := by
          rw [← UInt8.toNat_inj, toNat_lowerByte (hb ▸ hupper), hb, hb', hlower]
        rw [hbytes, hbytes', List.map_singleton, hsame]
      · omega
    · rw [toLower_eq_self hupper, hbytes, List.map_singleton, lowerByte_eq_self (hb ▸ hupper)]
  · rw [toLower_eq_self (by omega)]
    refine (List.map_congr_left fun b hb => lowerByte_eq_self ?_).trans (List.map_id' _)
    have hb := hbytes b hb
    omega

/-- Bytes and characters are put in lower case alike. -/
theorem map_lowerByte_bytesOfChars (text : List Char) :
    (bytesOfChars text).map lowerByte = bytesOfChars (text.map Char.toLower) := by
  unfold bytesOfChars
  rw [List.map_flatMap, List.flatMap_map]
  exact List.flatMap_congr fun c _ => map_lowerByte_utf8EncodeChar c

/-! ## Places -/

/-- Characters from an ASCII character on stand at a byte of a text only where a character of the
    text starts: here, or after the first character. -/
theorem prefix_drop_cons_iff {first : Char} {others : List Char} (hfirst : first.toNat < 128)
    (c : Char) (text : List Char) (place : Nat) :
    bytesOfChars (first :: others) <+: (bytesOfChars (c :: text)).drop place ↔
      place = 0 ∧ first :: others <+: c :: text ∨ c.utf8Size ≤ place ∧
        bytesOfChars (first :: others) <+: (bytesOfChars text).drop (place - c.utf8Size) := by
  have hsize := c.utf8Size_pos
  have hlength := String.length_utf8EncodeChar c
  rcases place.eq_zero_or_pos with rfl | hplace
  · rw [List.drop_zero, bytesOfChars_prefix_iff]
    simp [Nat.ne_of_gt hsize]
  · rw [bytesOfChars_cons c text, List.drop_append, hlength]
    by_cases hle : c.utf8Size ≤ place
    · rw [List.drop_eq_nil_of_le (hlength ▸ hle), List.nil_append]
      simp [hle, Nat.ne_of_gt hplace]
    · -- a byte inside of a character is no ASCII character
      refine iff_of_false (fun hprefix => ?_) (by simp [hle, Nat.ne_of_gt hplace])
      have hinside : (String.utf8EncodeChar c).drop place ≠ [] := by
        rw [Ne, List.drop_eq_nil_iff, hlength]
        exact hle
      obtain ⟨b, inside, hdrop⟩ := List.exists_cons_of_ne_nil hinside
      have hmem : b ∈ String.utf8EncodeChar c :=
        List.mem_of_mem_drop (hdrop ▸ List.mem_cons_self)
      obtain ⟨-, b', hbytes, -⟩ | ⟨-, hbytes⟩ := utf8EncodeChar_cases c
      · rw [hbytes, List.length_singleton] at hlength
        omega
      · obtain ⟨-, b', hascii, hb'⟩ | ⟨hhigh, -⟩ := utf8EncodeChar_cases first
        · have hb := hbytes b hmem
          rw [bytesOfChars_cons, hascii, hdrop, List.singleton_append, List.cons_append,
            List.cons_prefix_cons] at hprefix
          rw [← hprefix.1, hb'] at hb
          omega
        · omega

end Bundler.Text

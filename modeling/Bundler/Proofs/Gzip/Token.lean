import Bundler.Gzip.Token
import Mathlib.Algebra.Order.Ring.Nat

set_option autoImplicit false

/-! # The bytes of tokens

The tokens of some bytes can be written, and their bytes are the ones they were found in
(`expands_tokens`), whatever places were noted: a copy is as long as the bytes at the place and at
its own are the same, and such a copy extends what was expanded so far to more of the bytes
(`copyBack_extract`). -/

namespace Bundler.Gzip

/-! ## Tokens that can be written -/

/-- Whether a token has a form in the format, behind `size` bytes. -/
def Token.IsValid (size : Nat) : Token → Prop
  | literal _ => True
  | copy length distance => minCopy ≤ length ∧ length ≤ maxCopy ∧ 0 < distance ∧
      distance ≤ maxDistance ∧ distance ≤ size

/-- Tokens that can be written behind some bytes, with the bytes that they lead to. -/
inductive Expands : ByteArray → List Token → ByteArray → Prop
  | nil (bytes : ByteArray) : Expands bytes [] bytes
  | cons {bytes last : ByteArray} {token : Token} {rest : List Token}
      (valid : token.IsValid bytes.size) (expands : Expands (token.expand bytes) rest last) :
      Expands bytes (token :: rest) last

theorem Expands.concat {bytes last : ByteArray} {tokens : List Token} {token : Token}
    (h : Expands bytes tokens last) (valid : token.IsValid last.size) :
    Expands bytes (tokens ++ [token]) (token.expand last) := by
  induction h with
  | nil bytes => exact .cons valid (.nil _)
  | cons hvalid _ ih => exact .cons hvalid (ih valid)

/-! ## Copies of bytes that are the same -/

variable {bytes : ByteArray} {i j distance : Nat}

theorem push_extract (h : i < bytes.size) :
    (bytes.extract 0 i).push (byteAt bytes i) = bytes.extract 0 (i + 1) := by
  rw [ByteArray.extract_eq_extract_append_extract i (Nat.zero_le i) (Nat.le_succ i),
    ByteArray.extract_add_one h, ByteArray.append_toByteArray_singleton, byteAt, dif_pos h]

theorem byteAt_extract (h : j < i) : byteAt (bytes.extract 0 i) j = byteAt bytes j := by
  unfold byteAt
  by_cases hsize : j < bytes.size
  · have hextract : j < (bytes.extract 0 i).size := by
      rw [ByteArray.size_extract]
      omega
    rw [dif_pos hextract, dif_pos hsize, ByteArray.getElem_extract]
    simp only [Nat.zero_add]
  · have hextract : ¬ j < (bytes.extract 0 i).size := by
      rw [ByteArray.size_extract]
      omega
    rw [dif_neg hextract, dif_neg hsize]

theorem size_extract_of_le (h : i ≤ bytes.size) : (bytes.extract 0 i).size = i := by
  rw [ByteArray.size_extract]
  omega

/-- A copy of bytes that are the same extends the first bytes to more of them. -/
theorem copyBack_extract (hpos : 0 < distance) (hback : distance ≤ i) {length : Nat}
    (h : ∀ k < length,
      i + k < bytes.size ∧ byteAt bytes (i + k) = byteAt bytes (i + k - distance)) :
    copyBack distance length (bytes.extract 0 i) = bytes.extract 0 (i + length) := by
  induction length generalizing i with
  | zero => rfl
  | succ n ih =>
    obtain ⟨hsize, hbyte⟩ : i < bytes.size ∧ byteAt bytes i = byteAt bytes (i - distance) :=
      h 0 (Nat.succ_pos n)
    have hrest := ih (Nat.le_succ_of_le hback) fun k hk => by
      rw [Nat.succ_add_eq_add_succ]
      exact h (k + 1) (Nat.succ_lt_succ hk)
    rw [copyBack, size_extract_of_le hsize.le, byteAt_extract (by omega), ← hbyte,
      push_extract hsize, hrest, Nat.succ_add_eq_add_succ]

/-! ## Tokens that are found -/

theorem commonLength_le (limit : Nat) : commonLength bytes i j limit ≤ limit := by
  induction limit generalizing i j with
  | zero => exact Nat.le_refl 0
  | succ n ih =>
    have := @ih (i + 1) (j + 1)
    unfold commonLength
    split
    · split <;> omega
    · exact Nat.zero_le _

/-- Bytes within the common length are the same. -/
theorem byteAt_of_lt_commonLength {limit k : Nat} (h : k < commonLength bytes i j limit) :
    i + k < bytes.size ∧ byteAt bytes (i + k) = byteAt bytes (j + k) := by
  induction limit generalizing i j k with
  | zero => exact absurd h (Nat.not_lt_zero k)
  | succ n ih =>
    unfold commonLength at h
    split at h
    case h_1 a b ha hb =>
      split at h
      case isTrue hab =>
        cases k with
        | zero =>
          obtain ⟨hi, rfl⟩ := getElem?_eq_some_iff.1 ha
          obtain ⟨hj, rfl⟩ := getElem?_eq_some_iff.1 hb
          simp only [Nat.add_zero]
          exact ⟨hi, by rw [byteAt, byteAt, dif_pos hi, dif_pos hj, hab]⟩
        | succ k =>
          have := @ih (i + 1) (j + 1) k (by omega)
          rwa [Nat.add_right_comm i, Nat.add_right_comm j] at this
      case isFalse => exact absurd h (Nat.not_lt_zero k)
    case h_2 => exact absurd h (Nat.not_lt_zero k)

/-- A copy that is found can be written, and its bytes are the same at its place and back. -/
theorem copyAt?_eq_some {places : Places} {length : Nat}
    (h : copyAt? bytes places i = some (length, distance)) :
    (Token.copy length distance).IsValid i ∧ ∀ k < length,
      i + k < bytes.size ∧ byteAt bytes (i + k) = byteAt bytes (i + k - distance) := by
  unfold copyAt? at h
  split at h
  case h_2 => cases h
  case h_1 j _ =>
    split at h
    case isFalse => cases h
    case isTrue hplace =>
      dsimp only at h
      split at h
      case isFalse => cases h
      case isTrue hlong =>
        obtain ⟨rfl, rfl⟩ := Prod.mk.inj (Option.some.inj h)
        refine ⟨⟨hlong, commonLength_le _, Nat.sub_pos_of_lt hplace.1, hplace.2,
          Nat.sub_le i j⟩, fun k hk => ?_⟩
        have hplaceBack : i + k - (i - j) = j + k := by omega
        rw [hplaceBack]
        exact byteAt_of_lt_commonLength hk

/-- Tokens that lead to the bytes before `i` are continued to tokens that lead to all of them. -/
theorem expands_tokensFrom {places : Places} {done : Array Token} (hi : i ≤ bytes.size)
    (h : Expands .empty done.toList (bytes.extract 0 i)) :
    Expands .empty (tokensFrom bytes places done i).toList bytes := by
  fun_induction tokensFrom bytes places done i with
  | case1 places done i hlt length distance hcopy ih =>
    obtain ⟨hvalid, hsame⟩ := copyAt?_eq_some hcopy
    have ⟨_, _, hpos, _, hback⟩ := hvalid
    refine ih (hsame length (Nat.lt_succ_self length)).1 ?_
    rw [Array.toList_push, ← copyBack_extract hpos hback hsame]
    exact h.concat (by rwa [size_extract_of_le hi])
  | case2 places done i hlt _ ih =>
    refine ih hlt ?_
    have hbyte : bytes[i] = byteAt bytes i := (dif_pos hlt).symm
    rw [Array.toList_push, ← push_extract hlt, hbyte]
    exact h.concat trivial
  | case3 places done i hend =>
    rwa [Nat.le_antisymm hi (Nat.le_of_not_lt hend), ByteArray.extract_zero_size] at h

theorem expands_tokens (bytes : ByteArray) : Expands .empty (tokens bytes) bytes := by
  refine expands_tokensFrom (Nat.zero_le _) ?_
  rw [ByteArray.extract_same]
  exact .nil _

end Bundler.Gzip

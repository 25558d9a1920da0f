import Bundler.Gzip.Bits
import Mathlib.Algebra.Order.Ring.Nat
import Mathlib.Data.List.Basic

set_option autoImplicit false

/-! # Numbers and bytes from their bits

A number is read back from its bits if there are enough of them (`takeNumber?_append`), and bits are
read back from the bytes that they are packed into, with less than a byte of filling
(`exists_bitsOfBytes_bytesOfBits`). -/

namespace Bundler.Gzip

/-! ## Numbers -/

@[simp]
theorem length_numberBits (n value : Nat) : (numberBits n value).length = n := by
  induction n generalizing value with
  | zero => rfl
  | succ n ih => rw [numberBits, List.length_cons, ih]

theorem bitsNumber_lt (bits : Bits) : bitsNumber bits < 2 ^ bits.length := by
  induction bits with
  | nil => exact Nat.one_pos
  | cons b rest ih =>
    rw [bitsNumber, List.length_cons, Nat.pow_succ]
    split <;> omega

/-- The bits of a number that some bits write are these bits, filled up with zeros. -/
theorem numberBits_bitsNumber {n : Nat} {bits : Bits} (h : bits.length ≤ n) :
    numberBits n (bitsNumber bits) = bits ++ List.replicate (n - bits.length) false := by
  induction n generalizing bits with
  | zero =>
    rw [List.length_eq_zero_iff.1 (Nat.le_zero.1 h)]
    rfl
  | succ n ih =>
    cases bits with
    | nil =>
      have hrest := @ih [] (Nat.zero_le n)
      simp only [bitsNumber, List.length_nil, Nat.sub_zero, List.nil_append] at hrest
      simp only [bitsNumber, numberBits, Nat.zero_mod, Nat.zero_div, hrest, List.length_nil,
        Nat.sub_zero, List.nil_append, List.replicate_succ]
      rfl
    | cons b rest =>
      have hrest := ih (Nat.le_of_succ_le_succ h)
      have hlow : (bitsNumber (b :: rest) % 2 == 1) = b := by
        cases b <;> simp [bitsNumber]
      have hhigh : bitsNumber (b :: rest) / 2 = bitsNumber rest := by
        rw [bitsNumber]
        split <;> omega
      rw [numberBits, hlow, hhigh, hrest, List.length_cons, Nat.succ_sub_succ, List.cons_append]

theorem takeNumber?_append {n value : Nat} (h : value < 2 ^ n) (rest : Bits) :
    takeNumber? n (numberBits n value ++ rest) = some (value, rest) := by
  induction n generalizing value with
  | zero =>
    rw [Nat.lt_one_iff.1 h]
    rfl
  | succ n ih =>
    have hhigh : value / 2 < 2 ^ n := by
      rw [Nat.pow_succ] at h
      omega
    rw [numberBits, List.cons_append, takeNumber?, ih hhigh]
    have hvalue : (if (value % 2 == 1) = true then 1 else 0) + 2 * (value / 2) = value := by
      rcases Nat.mod_two_eq_zero_or_one value with hlow | hlow <;> simp [hlow] <;> omega
    simp only [Option.map_some, hvalue]

/-! ## Bytes -/

theorem bitsOfBytes_append (bytes bytes' : List UInt8) :
    bitsOfBytes (bytes ++ bytes') = bitsOfBytes bytes ++ bitsOfBytes bytes' :=
  List.flatMap_append

theorem length_bitsOfBytes (bytes : List UInt8) :
    (bitsOfBytes bytes).length = 8 * bytes.length := by
  induction bytes with
  | nil => rfl
  | cons b rest ih =>
    rw [bitsOfBytes, List.flatMap_cons, List.length_append, length_numberBits, List.length_cons]
    rw [bitsOfBytes] at ih
    omega

/-- The bits of a byte that at most eight bits are packed into. -/
theorem bitsOfBytes_byte {bits : Bits} (h : bits.length ≤ 8) :
    bitsOfBytes [(bitsNumber bits).toUInt8] = bits ++ List.replicate (8 - bits.length) false := by
  have hlt : bitsNumber bits < 256 :=
    (bitsNumber_lt bits).trans_le (Nat.pow_le_pow_right Nat.two_pos h)
  rw [← numberBits_bitsNumber h, bitsOfBytes, List.flatMap_singleton]
  simp [Nat.mod_eq_of_lt hlt]

/-- Bits that are packed into bytes are followed by less than a byte of filling. -/
theorem exists_bitsOfBytes_packAfter (done : Array UInt8) (bits : Bits) :
    ∃ fill : Bits, fill.length < 8 ∧
      bitsOfBytes (packAfter done bits).toList = bitsOfBytes done.toList ++ (bits ++ fill) := by
  fun_induction packAfter done bits with
  | case1 done => exact ⟨[], by decide, by simp⟩
  | case2 done a b c d e f g h rest ih =>
    obtain ⟨fill, hfill, heq⟩ := ih
    refine ⟨fill, hfill, ?_⟩
    have hbyte := @bitsOfBytes_byte [a, b, c, d, e, f, g, h] (Nat.le_refl 8)
    rw [heq, Array.toList_push, bitsOfBytes_append, hbyte, List.append_assoc]
    rfl
  | case3 done bits hne hshort =>
    have hpos : 0 < bits.length := List.length_pos_iff.2 hne
    have hlength : bits.length < 8 := by
      by_contra hlong
      rcases bits with _ | ⟨a, _ | ⟨b, _ | ⟨c, _ | ⟨d, _ | ⟨e, _ | ⟨f, _ | ⟨g, _ | ⟨h, rest⟩⟩⟩⟩⟩⟩⟩⟩
      case cons.cons.cons.cons.cons.cons.cons.cons => exact hshort a b c d e f g h rest rfl
      all_goals exact hlong (by simp)
    refine ⟨List.replicate (8 - bits.length) false, ?_, ?_⟩
    · rw [List.length_replicate]
      omega
    · rw [Array.toList_push, bitsOfBytes_append, bitsOfBytes_byte hlength.le]

theorem exists_bitsOfBytes_bytesOfBits (bits : Bits) :
    ∃ fill : Bits, fill.length < 8 ∧ bitsOfBytes (bytesOfBits bits) = bits ++ fill :=
  exists_bitsOfBytes_packAfter #[] bits

end Bundler.Gzip

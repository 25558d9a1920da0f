import Bundler.Gzip.PrefixCode
import Mathlib.Algebra.Order.Ring.Nat
import Mathlib.Data.List.Chain

set_option autoImplicit false

/-! # The fixed code

A symbol is read back from its bits in the fixed code, and what stands behind them is left
(`read?_fixedBits`). The tables of lengths and of distances leave no gaps: the symbol of a value is
at most as much below it as its added bits can tell (`exists_symbolOf_eq`). -/

namespace Bundler.Gzip

/-! ## Reading a symbol -/

namespace PrefixCode

/-- Bits behind a symbol that is read are left. -/
theorem readFrom_append {symbols : Array Nat} {code first passed symbol : Nat} {counts : List Nat}
    {bits left : Bits} (h : readFrom symbols code first passed counts bits = some (symbol, left))
    (rest : Bits) :
    readFrom symbols code first passed counts (bits ++ rest) = some (symbol, left ++ rest) := by
  fun_induction readFrom symbols code first passed counts bits with
  | case1 code first passed count counts b bits next hlast hcode =>
    obtain ⟨found, hfound, heq⟩ := Option.map_eq_some_iff.1 h
    obtain ⟨rfl, rfl⟩ := Prod.mk.inj heq
    rw [List.cons_append, readFrom, if_pos hlast, if_pos hcode, hfound]
    rfl
  | case2 => cases h
  | case3 code first passed count counts b bits next hlast ih =>
    rw [List.cons_append, readFrom, if_neg hlast]
    exact ih h
  | case4 => cases h

theorem read?_append {c : PrefixCode} {symbol : Nat} {bits left : Bits}
    (h : c.read? bits = some (symbol, left)) (rest : Bits) :
    c.read? (bits ++ rest) = some (symbol, left ++ rest) :=
  readFrom_append h rest

end PrefixCode

theorem read?_fixedBits {symbol : Nat} (h : symbol < 288) (rest : Bits) :
    fixedCode.read? (fixedBits symbol ++ rest) = some (symbol, rest) := by
  have hall : ∀ symbol < 288, fixedCode.read? (fixedBits symbol) = some (symbol, []) := by
    decide +kernel
  exact PrefixCode.read?_append (hall symbol h) rest

theorem read?_codeBits {symbol : Nat} (h : symbol < 30) (rest : Bits) :
    fixedDistances.read? (codeBits 5 symbol ++ rest) = some (symbol, rest) := by
  have hall : ∀ symbol < 30, fixedDistances.read? (codeBits 5 symbol) = some (symbol, []) := by
    decide +kernel
  exact PrefixCode.read?_append (hall symbol h) rest

/-! ## Tables without gaps -/

/-- Whether each entry of a table has enough added bits to reach up to the next one, and the last
    entry up to a limit. -/
def IsGapless (table : List (Nat × Nat)) (limit : Nat) : Prop :=
  List.IsChain (fun a b : Nat × Nat => a.1 < b.1 ∧ b.1 ≤ a.1 + 2 ^ a.2) (table ++ [(limit, 0)])

instance (table : List (Nat × Nat)) (limit : Nat) : Decidable (IsGapless table limit) := by
  unfold IsGapless
  infer_instance

variable {table : List (Nat × Nat)} {limit value : Nat}

theorem IsGapless.tail {e : Nat × Nat} (h : IsGapless (e :: table) limit) :
    IsGapless table limit :=
  List.IsChain.tail h

/-- The entries of a table grow. -/
theorem IsGapless.lt_of_mem {e e' : Nat × Nat} (h : IsGapless (e :: table) limit)
    (he : e' ∈ table) : e.1 < e'.1 := by
  have hgrow : List.IsChain (fun a b : Nat × Nat => a.1 < b.1) (e :: (table ++ [(limit, 0)])) :=
    List.IsChain.imp (fun _ _ hab => hab.1) h
  have : IsTrans (Nat × Nat) fun a b => a.1 < b.1 := ⟨fun _ _ _ => Nat.lt_trans⟩
  exact List.rel_of_pairwise_cons hgrow.pairwise (List.mem_append_left _ he)

/-- The last entry that is not above a value, counted from `k`, does not depend on `start`. -/
theorem exists_foldl_eq {e : Nat × Nat} (h : IsGapless (e :: table) limit) (hfirst : e.1 ≤ value)
    (hlimit : value < limit) (k : Nat) (start : Nat × Nat × Nat) :
    ∃ i base extra, (e :: table)[i]? = some (base, extra) ∧
      (((e :: table).zipIdx k).filter (·.1.1 ≤ value)).foldl
        (fun _ e => (e.2, e.1.1, e.1.2)) start = (k + i, base, extra) ∧
      base ≤ value ∧ value < base + 2 ^ extra := by
  induction table generalizing e k start with
  | nil =>
    have hreach : limit ≤ e.1 + 2 ^ e.2 := (List.isChain_cons_cons.1 h).1.2
    exact ⟨0, e.1, e.2, rfl, by simp [hfirst], hfirst, hlimit.trans_le hreach⟩
  | cons e' table ih =>
    rw [List.zipIdx_cons, List.filter_cons_of_pos (by simpa using hfirst), List.foldl_cons]
    by_cases hnext : e'.1 ≤ value
    · obtain ⟨i, base, extra, hget, heq, hle, hlt⟩ := ih h.tail hnext (k + 1) (k, e.1, e.2)
      exact ⟨i + 1, base, extra, hget, by rw [heq, Nat.add_assoc, Nat.add_comm 1], hle, hlt⟩
    · have hreach : e'.1 ≤ e.1 + 2 ^ e.2 := (List.isChain_cons_cons.1 h).1.2
      have hnone : ((e' :: table).zipIdx (k + 1)).filter (·.1.1 ≤ value) = [] := by
        rw [List.filter_eq_nil_iff]
        intro f hf
        have hmem := List.fst_mem_of_mem_zipIdx hf
        have hge : e'.1 ≤ f.1.1 := by
          rcases List.mem_cons.1 hmem with heq | hlater
          · rw [heq]
          · exact (h.tail.lt_of_mem hlater).le
        simp only [decide_eq_true_iff]
        omega
      rw [hnone]
      exact ⟨0, e.1, e.2, rfl, rfl, hfirst, by omega⟩

/-- The symbol of a value within the reach of a table. -/
theorem exists_symbolOf_eq (h : IsGapless table limit) (hfirst : ∃ e ∈ table.head?, e.1 ≤ value)
    (hlimit : value < limit) :
    ∃ symbol base extra, symbolOf table value = (symbol, base, extra) ∧
      table[symbol]? = some (base, extra) ∧ base ≤ value ∧ value - base < 2 ^ extra := by
  obtain ⟨e, he, hle⟩ := hfirst
  obtain ⟨rest, rfl⟩ := List.head?_eq_some_iff.1 he
  obtain ⟨i, base, extra, hget, heq, hbase, hlt⟩ := exists_foldl_eq h hle hlimit 0 (0, 0, 0)
  exact ⟨i, base, extra, by rw [symbolOf, heq, Nat.zero_add], hget, hbase, by omega⟩

theorem isGapless_lengthTable : IsGapless lengthTable 259 := by decide

theorem isGapless_distanceTable : IsGapless distanceTable 32769 := by decide

end Bundler.Gzip

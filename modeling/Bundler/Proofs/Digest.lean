import Bundler.Digest
import Mathlib.Data.List.Basic

set_option autoImplicit false

/-! # Texts of digests

A digest has 32 bytes and is written with two hexadecimal digits for each of them. So its text has 64
characters, and different digests have different texts (`ofContent_eq_iff`).

A digest of several parts is taken from their bytes with a zero byte after each part. Two parts, of
which the second has a known length, can be read off these bytes (`separated_pair_inj`). -/

namespace Bundler

/-! ## Hexadecimal texts -/

/-- The hexadecimal digits. -/
def Bytes.hexDigits : List Char := "0123456789abcdef".toList

theorem Bytes.hexDigit_mem {n : Nat} (hn : n < 16) : hexDigit n ∈ hexDigits := by
  have hall : ∀ k : Fin 16, hexDigit k ∈ hexDigits := by decide
  exact hall ⟨n, hn⟩

theorem Bytes.hexByte_subset (b : UInt8) : hexByte b ⊆ hexDigits := by
  have hlt := b.toNat_lt
  intro c hc
  simp only [hexByte, List.mem_cons, List.not_mem_nil, or_false] at hc
  rcases hc with rfl | rfl
  · exact hexDigit_mem (by omega)
  · exact hexDigit_mem (by omega)

namespace Bytes

theorem hexDigit_inj {n m : Nat} (hn : n < 16) (hm : m < 16) (h : hexDigit n = hexDigit m) :
    n = m := by
  have hall : ∀ i j : Fin 16, hexDigit i = hexDigit j → i = j := by decide
  exact Fin.mk.inj (hall ⟨n, hn⟩ ⟨m, hm⟩ h)

theorem hexByte_inj {a b : UInt8} (h : hexByte a = hexByte b) : a = b := by
  have ha := a.toNat_lt
  have hb := b.toNat_lt
  obtain ⟨hhigh, hrest⟩ := List.cons.inj h
  obtain ⟨hlow, -⟩ := List.cons.inj hrest
  have hhigh := hexDigit_inj (by omega) (by omega) hhigh
  have hlow := hexDigit_inj (by omega) (by omega) hlow
  refine UInt8.toNat_inj.1 ?_
  omega

theorem length_flatMap_hexByte (l : List UInt8) : (l.flatMap hexByte).length = 2 * l.length := by
  induction l with
  | nil => rfl
  | cons b rest ih =>
    rw [List.flatMap_cons, List.length_append, ih, List.length_cons]
    show 2 + 2 * rest.length = _
    omega

theorem flatMap_hexByte_inj {l l' : List UInt8} (h : l.flatMap hexByte = l'.flatMap hexByte) :
    l = l' := by
  induction l generalizing l' with
  | nil =>
    cases l' with
    | nil => rfl
    | cons b' rest' => cases h
  | cons b rest ih =>
    cases l' with
    | nil => cases h
    | cons b' rest' =>
      rw [List.flatMap_cons, List.flatMap_cons] at h
      obtain ⟨hfirst, hrest⟩ := List.append_inj h rfl
      rw [hexByte_inj hfirst, ih hrest]

end Bytes

namespace Digest

theorem length_bytes (content : ByteArray) : (bytes content).length = 32 := by
  simp [bytes, wordBytes]

theorem toList_ofContent (content : ByteArray) :
    (ofContent content).toList = (bytes content).flatMap Bytes.hexByte := by
  simp [ofContent, Bytes.hex]

theorem length_ofContent (content : ByteArray) : (ofContent content).toList.length = 64 := by
  rw [toList_ofContent, Bytes.length_flatMap_hexByte, length_bytes]

theorem ofContent_eq_iff {content content' : ByteArray} :
    ofContent content = ofContent content' ↔ bytes content = bytes content' := by
  rw [← String.toList_inj, toList_ofContent, toList_ofContent]
  exact ⟨Bytes.flatMap_hexByte_inj, congrArg _⟩

/-- The text of a digest is made of hexadecimal digits. -/
theorem toList_ofContent_subset (content : ByteArray) :
    (ofContent content).toList ⊆ Bytes.hexDigits := by
  rw [toList_ofContent]
  intro c hc
  obtain ⟨b, -, hb⟩ := List.mem_flatMap.1 hc
  exact Bytes.hexByte_subset b hb

/-- A hexadecimal digit takes one byte. -/
theorem size_toUTF8_of_subset {l : List Char} (h : l ⊆ Bytes.hexDigits) :
    (String.ofList l).toUTF8.size = l.length := by
  show (String.ofList l).utf8ByteSize = l.length
  induction l with
  | nil => rfl
  | cons c rest ih =>
    have hall : (Bytes.hexDigits.all fun d => (String.ofList [d]).utf8ByteSize == 1) = true := by
      decide
    obtain ⟨hc, hrest⟩ := List.cons_subset.1 h
    rw [← List.singleton_append, String.ofList_append, String.utf8ByteSize_append,
      eq_of_beq (List.all_eq_true.1 hall c hc), ih hrest, List.length_append]
    rfl

theorem size_toUTF8_ofContent (content : ByteArray) : (ofContent content).toUTF8.size = 64 := by
  rw [← length_ofContent content, ← size_toUTF8_of_subset (toList_ofContent_subset content),
    String.ofList_toList]

/-! ## Digests in file names -/

theorem toList_ofFile (content : ByteArray) :
    (ofFile content).toList = (ofContent content).toList.take fileDigits := by
  simp [ofFile]

theorem toList_ofFile_subset (content : ByteArray) :
    (ofFile content).toList ⊆ Bytes.hexDigits := by
  rw [toList_ofFile]
  exact fun c hc => toList_ofContent_subset content (List.mem_of_mem_take hc)

theorem slash_not_mem_ofFile (content : ByteArray) : '/' ∉ (ofFile content).toList :=
  fun h => absurd (toList_ofFile_subset content h) (by decide)

theorem length_ofFile (content : ByteArray) : (ofFile content).toList.length = fileDigits := by
  rw [toList_ofFile, List.length_take, length_ofContent]
  rfl

/-! ## Bytes of several parts -/

theorem toList_separated (parts : List ByteArray) :
    (separated parts).data.toList = parts.flatMap fun part => part.data.toList ++ [0] := by
  have hfold : ∀ all : ByteArray,
      (parts.foldl (fun all part => (all ++ part).push 0) all).data.toList
        = all.data.toList ++ parts.flatMap fun part => part.data.toList ++ [0] := by
    induction parts with
    | nil => intro all; simp
    | cons part rest ih => intro all; simp [ih]
  unfold separated
  rw [hfold .empty]
  rfl

/-- The second of two parts stands at the end, so that the first is known if its length is. -/
theorem separated_pair_inj {a b a' b' : ByteArray} (hsize : b.size = b'.size)
    (h : separated [a, b] = separated [a', b']) : a = a' ∧ b = b' := by
  have hlist : (a.data.toList ++ [0]) ++ (b.data.toList ++ [0])
      = (a'.data.toList ++ [0]) ++ (b'.data.toList ++ [0]) := by
    have hbytes := congrArg (fun all => all.data.toList) h
    simpa only [toList_separated, List.flatMap_cons, List.flatMap_nil, List.append_nil] using hbytes
  have hlength : (b.data.toList ++ [0]).length = (b'.data.toList ++ [0]).length := by
    rw [List.length_append, List.length_append, Array.length_toList, Array.length_toList]
    exact congrArg (· + 1) hsize
  obtain ⟨hfirst, hsecond⟩ := List.append_inj' hlist hlength
  have hof : ∀ {x y : ByteArray}, x.data.toList ++ [0] = y.data.toList ++ [0] → x = y :=
    fun heq => ByteArray.ext (Array.toList_inj.1 (List.append_cancel_right heq))
  exact ⟨hof hfirst, hof hsecond⟩

end Digest

end Bundler

import Bundler.Gzip
import Bundler.Proofs.Gzip.Bits
import Bundler.Proofs.Gzip.PrefixCode
import Bundler.Proofs.Gzip.Token

set_option autoImplicit false

/-! # Compressed files are read back

What is compressed is decompressed to the same bytes (`decompress?_compress`). One token after the
other is read from its bits (`readTokens_bits_append`), so a block leads to the bytes that its
tokens lead to (`readTokens_flatMap_bits`). The filling behind the last block is less than a byte,
so that the trailer starts where the compressed form ends (`inflate?_deflate_append`). -/

namespace Bundler.Gzip

/-! ## Tokens -/

/-- A value of a table is read back from the bits that are added to its symbol. -/
theorem exists_tableValue?_eq {table : List (Nat × Nat)} {limit value : Nat}
    (h : IsGapless table limit) (hfirst : ∃ e ∈ table.head?, e.1 ≤ value) (hlimit : value < limit) :
    ∃ symbol base extra, symbolOf table value = (symbol, base, extra) ∧ symbol < table.length ∧
      ∀ rest, tableValue? table symbol (numberBits extra (value - base) ++ rest)
        = some (value, rest) := by
  obtain ⟨symbol, base, extra, heq, hget, hle, hlt⟩ := exists_symbolOf_eq h hfirst hlimit
  refine ⟨symbol, base, extra, heq, (List.getElem?_eq_some_iff.1 hget).1, fun rest => ?_⟩
  unfold tableValue?
  rw [hget, Option.bind_eq_bind, Option.bind_some]
  dsimp only
  rw [takeNumber?_append hlt, Option.bind_eq_bind, Option.bind_some]
  dsimp only
  rw [Nat.add_sub_cancel' hle]

/-- Reading a token from its bits continues with the bytes that it expands to. -/
theorem readTokens_bits_append {token : Token} {bytes : ByteArray} (h : token.IsValid bytes.size)
    (fuel : Nat) (rest : Bits) :
    readTokens fixedCode fixedDistances (fuel + 1) bytes (token.bits ++ rest)
      = readTokens fixedCode fixedDistances fuel (token.expand bytes) rest := by
  cases token with
  | literal b =>
    have hliteral : b.toNat < endSymbol := b.toNat_lt
    have hsymbol : b.toNat < 288 := hliteral.trans (by decide)
    rw [readTokens, Token.bits, read?_fixedBits hsymbol]
    dsimp only
    rw [if_pos hliteral, Token.expand, Nat.toUInt8_eq, UInt8.ofNat_toNat]
  | copy length distance =>
    obtain ⟨hmin, hmax, hpos, hfar, hback⟩ := h
    obtain ⟨l, lBase, lExtra, hl, hlt, hlength⟩ := exists_tableValue?_eq isGapless_lengthTable
      ⟨_, rfl, hmin⟩ (Nat.lt_succ_of_le hmax)
    obtain ⟨d, dBase, dExtra, hd, hdt, hdistance⟩ := exists_tableValue?_eq isGapless_distanceTable
      ⟨_, rfl, hpos⟩ (Nat.lt_succ_of_le hfar)
    -- a copy is four fields: each code names the range of a value, its extra bits the place there
    have hbits : (Token.copy length distance).bits = fixedBits (firstLengthSymbol + l) ++
        (numberBits lExtra (length - lBase) ++ (codeBits 5 d ++
          numberBits dExtra (distance - dBase))) := by
      rw [Token.bits, hl, hd]
      simp only [List.append_assoc]
    have hsymbol : firstLengthSymbol + l < 288 := by
      have hcount : lengthTable.length = 29 := rfl
      unfold firstLengthSymbol
      omega
    have hcopy : ¬ firstLengthSymbol + l < endSymbol ∧ firstLengthSymbol + l ≠ endSymbol := by
      unfold firstLengthSymbol endSymbol
      omega
    rw [readTokens, hbits, List.append_assoc, List.append_assoc, List.append_assoc,
      read?_fixedBits hsymbol]
    dsimp only
    rw [if_neg hcopy.1, if_neg hcopy.2, Nat.add_sub_cancel_left, hlength]
    dsimp only
    rw [read?_codeBits hdt, Option.bind_some, hdistance]
    dsimp only
    rw [if_pos hback, Token.expand]

/-- Reading the tokens of a block leads to the bytes that they lead to. -/
theorem readTokens_flatMap_bits {bytes last : ByteArray} {tokens : List Token}
    (h : Expands bytes tokens last) {fuel : Nat} (hfuel : tokens.length < fuel) (rest : Bits) :
    readTokens fixedCode fixedDistances fuel bytes
      (tokens.flatMap Token.bits ++ (fixedBits endSymbol ++ rest)) = some (last, rest) := by
  induction h generalizing fuel with
  | nil bytes =>
    obtain ⟨fuel, rfl⟩ := Nat.exists_eq_add_one_of_ne_zero (Nat.ne_of_gt hfuel)
    rw [List.flatMap_nil, List.nil_append, readTokens, read?_fixedBits (by decide)]
    rfl
  | cons valid _ ih =>
    obtain ⟨fuel, rfl⟩ := Nat.exists_eq_add_one_of_ne_zero (Nat.ne_of_gt (Nat.zero_lt_of_lt hfuel))
    rw [List.flatMap_cons, List.append_assoc, readTokens_bits_append valid]
    exact ih (Nat.lt_of_succ_lt_succ hfuel)

theorem Token.length_bits_pos (token : Token) : 0 < token.bits.length := by
  have hfixed (symbol : Nat) : 0 < (fixedBits symbol).length := by
    unfold fixedBits codeBits
    split_ifs <;> simp
  cases token with
  | literal b => exact hfixed _
  | copy length distance =>
    simp only [Token.bits, List.length_append]
    have := hfixed (firstLengthSymbol + (symbolOf lengthTable length).1)
    omega

theorem length_le_length_flatMap_bits (tokens : List Token) :
    tokens.length ≤ (tokens.flatMap Token.bits).length := by
  induction tokens with
  | nil => exact Nat.le_refl 0
  | cons token rest ih =>
    have := token.length_bits_pos
    rw [List.flatMap_cons, List.length_append, List.length_cons]
    omega

/-! ## Blocks -/

/-- The block of some bytes is read back, and the bits behind it are left. -/
theorem readBlocks_append (content : ByteArray) (fuel : Nat) (rest : Bits) :
    readBlocks (fuel + 1) .empty ([true, true, false] ++ (tokens content).flatMap Token.bits ++
      fixedBits endSymbol ++ rest) = some (content, rest) := by
  have hfuel : (tokens content).length <
      ((tokens content).flatMap Token.bits ++ (fixedBits endSymbol ++ rest)).length + 1 := by
    have := length_le_length_flatMap_bits (tokens content)
    rw [List.length_append]
    omega
  have hlast (bits : Bits) : takeNumber? 1 (true :: bits) = some (1, bits) := rfl
  have hform (bits : Bits) : takeNumber? 2 (true :: false :: bits) = some (1, bits) := rfl
  rw [readBlocks, List.append_assoc, List.append_assoc, List.cons_append, hlast,
    Option.bind_eq_bind, Option.bind_some]
  dsimp only
  rw [List.cons_append, List.cons_append, List.nil_append, hform, Option.bind_some]
  dsimp only
  rw [readTokens_flatMap_bits (expands_tokens content) hfuel]
  rfl

/-- The compressed form is read back, and the bytes behind it are left. -/
theorem inflate?_deflate_append (content : ByteArray) (trailer : List UInt8) :
    inflate? (deflate content ++ trailer) = some (content, trailer) := by
  obtain ⟨fill, hfill, hbits⟩ := exists_bitsOfBytes_bytesOfBits
    ([true, true, false] ++ (tokens content).flatMap Token.bits ++ fixedBits endSymbol)
  have hrest : (fill ++ bitsOfBytes trailer).length / 8 = trailer.length := by
    rw [List.length_append, length_bitsOfBytes]
    omega
  unfold inflate? deflate
  dsimp only
  rw [bitsOfBytes_append, hbits, List.append_assoc _ fill, readBlocks_append, Option.bind_eq_bind,
    Option.bind_some]
  dsimp only
  rw [hrest, List.length_append, Nat.add_sub_cancel, List.drop_left]

/-! ## Files -/

/-- What is compressed is decompressed to the same bytes. -/
theorem decompress?_compress (content : ByteArray) :
    decompress? (compress content) = some content := by
  have hcompress : (compress content).data.toList = header ++ (deflate content ++
      (fourBytes (crc32 content).toNat ++ fourBytes content.size)) := by
    simp only [compress, List.append_assoc]
  have htake (n n' : Nat) : (fourBytes n ++ fourBytes n').take 8 = fourBytes n ++ fourBytes n' :=
    rfl
  unfold decompress?
  rw [hcompress]
  show (inflate? (deflate content ++ _)).bind _ = _
  rw [inflate?_deflate_append, Option.bind_some]
  dsimp only
  rw [htake, guard, if_pos rfl]
  rfl

end Bundler.Gzip

import Bundler.Digest
import Bundler.Proofs.Text.Bytes
import Mathlib.Data.List.Basic

set_option autoImplicit false

/-! # Digests of lists of bytes

The digest of a message, computed from the list of its bytes (`ofContent_eq`). Words are natural
numbers below 2³², and lists are read from the front only: a message is cut into words and blocks as
it goes, and the schedule of a block keeps its newest word in front, close to the words that the next
one is made of. In this form the digest of a known message can be evaluated. -/

namespace Bundler.Digest

/-! ## Rounds -/

/-- A word rotated to the right. -/
def rotated (x n : Nat) : Nat := x >>> n ||| x <<< (32 - n) % 4294967296

theorem toNat_rotateRight (x : UInt32) {n : UInt32} (hpos : 0 < n.toNat) (hlt : n.toNat < 32) :
    (rotateRight x n).toNat = rotated x.toNat n.toNat := by
  have hsub : (32 - n).toNat = 32 - n.toNat :=
    UInt32.toNat_sub_of_le _ _ (UInt32.le_iff_toNat_le.2 (Nat.le_of_lt hlt))
  unfold rotateRight rotated
  rw [UInt32.toNat_or, UInt32.toNat_shiftRight, UInt32.toNat_shiftLeft, hsub,
    Nat.mod_eq_of_lt hlt, Nat.mod_eq_of_lt (show 32 - n.toNat < 32 by omega)]

/-- The eight words of the running state, as numbers. -/
structure Numbers where
  a : Nat
  b : Nat
  c : Nat
  d : Nat
  e : Nat
  f : Nat
  g : Nat
  h : Nat

/-- The words of a state as numbers. -/
def State.numbers (s : State) : Numbers :=
  ⟨s.a.toNat, s.b.toNat, s.c.toNat, s.d.toNat, s.e.toNat, s.f.toNat, s.g.toNat, s.h.toNat⟩

/-- One round with its constant and its word of the schedule. -/
def Numbers.round (s : Numbers) (constant word : Nat) : Numbers :=
  let s1 := rotated s.e 6 ^^^ rotated s.e 11 ^^^ rotated s.e 25
  let choice := (s.e &&& s.f) ^^^ ((4294967295 - s.e) &&& s.g)
  let t1 := (s.h + s1 + choice + constant + word) % 4294967296
  let s0 := rotated s.a 2 ^^^ rotated s.a 13 ^^^ rotated s.a 22
  let majority := (s.a &&& s.b) ^^^ (s.a &&& s.c) ^^^ (s.b &&& s.c)
  ⟨(t1 + (s0 + majority)) % 4294967296, s.a, s.b, s.c, (s.d + t1) % 4294967296, s.e, s.f, s.g⟩

theorem State.numbers_round (s : State) (constant word : UInt32) :
    (s.round constant word).numbers = s.numbers.round constant.toNat word.toNat := by
  have hsize : UInt32.size - 1 = 4294967295 := rfl
  unfold State.round Numbers.round State.numbers
  simp (disch := decide) only [UInt32.toNat_add, UInt32.toNat_xor, UInt32.toNat_and,
    UInt32.toNat_not, toNat_rotateRight, UInt32.reduceToNat, Nat.reducePow, Nat.mod_add_mod,
    Nat.add_mod_mod, hsize]

/-- The state after some rounds. -/
def Numbers.rounds : List Nat → List Nat → Numbers → Numbers
  | constant :: constants, word :: words, s => rounds constants words (s.round constant word)
  | _, _, s => s

theorem State.numbers_foldl_round (constants words : List UInt32) (s : State) :
    ((constants.zip words).foldl (fun r x => r.round x.1 x.2) s).numbers
      = s.numbers.rounds (constants.map (·.toNat)) (words.map (·.toNat)) := by
  induction constants generalizing words s with
  | nil => rfl
  | cons constant constants ih =>
    cases words with
    | nil => rfl
    | cons word words =>
      rw [List.zip_cons_cons, List.foldl_cons, ih, State.numbers_round]
      rfl

/-! ## The schedule -/

/-- The word after some words of a schedule, of which the newest comes first. -/
def nextWord (newest : List Nat) : Nat :=
  let back (i : Nat) := newest.getD (i - 1) 0
  let s0 := let x := back 15; rotated x 7 ^^^ rotated x 18 ^^^ x >>> 3
  let s1 := let x := back 2; rotated x 17 ^^^ rotated x 19 ^^^ x >>> 10
  (back 16 + s0 + back 7 + s1) % 4294967296

/-- The words of a schedule, newest first, and a number of further ones. -/
def moreWords : Nat → List Nat → List Nat
  | 0, newest => newest
  | n + 1, newest => moreWords n (nextWord newest :: newest)

theorem length_moreWords (n : Nat) (newest : List Nat) :
    (moreWords n newest).length = newest.length + n := by
  induction n generalizing newest with
  | zero => rfl
  | succ n ih =>
    rw [moreWords, ih, List.length_cons]
    omega

theorem toNat_scheduleWord {words : Array UInt32} {newest : List Nat}
    (h : words.toList.map (·.toNat) = newest.reverse) (hlength : 16 ≤ newest.length) :
    (scheduleWord words).toNat = nextWord newest := by
  have hsize : words.size = newest.length := by
    rw [← Array.length_toList, ← List.length_map, h, List.length_reverse]
  have hback : ∀ i, 0 < i → i ≤ 16 →
      (words.getD (words.size - i) 0).toNat = newest.getD (i - 1) 0 := by
    intro i hpos hle
    have hmap : (words.getD (words.size - i) 0).toNat
        = (words.toList.map (·.toNat)).getD (words.size - i) 0 := by
      rw [Array.getD_eq_getD_getElem?, ← Array.getElem?_toList,
        List.getD_eq_getElem?_getD, List.getElem?_map]
      cases words.toList[words.size - i]? <;> rfl
    rw [hmap, h, List.getD_eq_getElem?_getD, List.getElem?_reverse (by omega),
      List.getD_eq_getElem?_getD]
    congr 2
    omega
  unfold scheduleWord nextWord
  simp (disch := decide) only [UInt32.toNat_add, UInt32.toNat_xor, toNat_rotateRight,
    UInt32.toNat_shiftRight, UInt32.reduceToNat, Nat.reducePow, Nat.reduceMod, Nat.mod_add_mod,
    hback]


/-- Each word of a schedule is made of the words before it. -/
theorem toNat_foldl_push {α : Type} (steps : List α) {words : Array UInt32} {newest : List Nat}
    (h : words.toList.map (·.toNat) = newest.reverse) (hlength : 16 ≤ newest.length) :
    (steps.foldl (fun words _ => words.push (scheduleWord words)) words).toList.map (·.toNat)
      = (moreWords steps.length newest).reverse := by
  induction steps generalizing words newest with
  | nil => exact h
  | cons _ rest ih =>
    rw [List.foldl_cons]
    refine ih ?_ (Nat.le_succ_of_le hlength)
    rw [Array.toList_push, List.map_append, h, List.reverse_cons, List.map_singleton,
      toNat_scheduleWord h hlength]

/-! ## Blocks -/

/-- The sum of two states, word by word. -/
def Numbers.sum (s r : Numbers) : Numbers :=
  ⟨(s.a + r.a) % 4294967296, (s.b + r.b) % 4294967296, (s.c + r.c) % 4294967296,
    (s.d + r.d) % 4294967296, (s.e + r.e) % 4294967296, (s.f + r.f) % 4294967296,
    (s.g + r.g) % 4294967296, (s.h + r.h) % 4294967296⟩

/-- The state after a block of words. -/
def Numbers.absorb (s : Numbers) (block : List Nat) : Numbers :=
  s.sum (s.rounds (constants.toList.map (·.toNat)) (moreWords 48 block.reverse).reverse)

theorem State.numbers_absorb (s : State) {block : Array UInt32} (h : block.size = 16) :
    (s.absorb block).numbers = s.numbers.absorb (block.toList.map (·.toNat)) := by
  have hwords : (schedule block).toList.map (·.toNat)
      = (moreWords 48 (block.toList.map (·.toNat)).reverse).reverse := by
    refine toNat_foldl_push (List.range 48) (List.reverse_reverse _).symm ?_
    exact Nat.le_of_eq (by rw [List.length_reverse, List.length_map, Array.length_toList, h])
  have hsize : (schedule block).size = 64 := by
    rw [← Array.length_toList, ← List.length_map, hwords, List.length_reverse, length_moreWords,
      List.length_reverse, List.length_map, Array.length_toList, h]
  have hzip : constants.toList.zip (schedule block).toList
      = (List.range 64).map fun i => (constants.getD i 0, (schedule block).getD i 0) := by
    have hconstants : constants.size = 64 := rfl
    refine List.ext_getElem (by simp [hsize, hconstants]) fun i hi _ => ?_
    have hlt : i < 64 := by simpa [hsize, hconstants] using hi
    simp [Array.getD, hsize, hconstants, hlt]
  have hrounds := State.numbers_foldl_round constants.toList (schedule block).toList s
  rw [hzip, List.foldl_map, hwords] at hrounds
  unfold Numbers.absorb
  rw [← hrounds]
  unfold State.absorb Numbers.sum State.numbers
  simp only [UInt32.toNat_add, Nat.reducePow]

/-- The state after a number of blocks that some words begin with. -/
def Numbers.absorbAll : Nat → List Nat → Numbers → Numbers
  | 0, _, s => s
  | n + 1, words, s => absorbAll n (words.drop 16) (s.absorb (words.take 16))

/-! ## Words of messages -/

/-- The words of some bytes, highest byte first. -/
def wordsOf : List UInt8 → List Nat
  | a :: b :: c :: d :: rest =>
    [a, b, c, d].foldl (fun word byte => word * 256 + byte.toNat) 0 :: wordsOf rest
  | _ => []

/-- The word of the four bytes at a place, counted in words. -/
def wordAt (byte : Nat → UInt8) (i : Nat) : Nat :=
  (List.range 4).foldl (fun word k => word * 256 + (byte (4 * i + k)).toNat) 0

theorem wordsOf_map_range' (byte : Nat → UInt8) (first n : Nat) :
    wordsOf ((List.range' (4 * first) (4 * n)).map byte)
      = (List.range' first n).map (wordAt byte) := by
  induction n generalizing first with
  | zero => rfl
  | succ n ih =>
    have hrange : List.range' (4 * first) (4 * (n + 1)) = 4 * first :: (4 * first + 1) ::
        (4 * first + 2) :: (4 * first + 3) :: List.range' (4 * (first + 1)) (4 * n) := by
      simp only [Nat.mul_add, List.range'_succ]
    rw [hrange, List.map_cons, List.map_cons, List.map_cons, List.map_cons, wordsOf, ih,
      List.range'_succ, List.map_cons]
    rfl

/-- Four bytes fit in a word. -/
theorem toNat_foldl_bytes (byte : Nat → UInt8) :
    ((List.range 4).foldl (fun (word : UInt32) k => word * 256 + (byte k).toUInt32) 0).toNat
      = (List.range 4).foldl (fun word k => word * 256 + (byte k).toNat) 0 := by
  have hbase : (256 : UInt32).toNat = 256 := rfl
  have hbyte : ∀ k, (byte k).toNat < 256 := fun k => (byte k).toNat_lt
  have h0 := hbyte 0
  have h1 := hbyte 1
  have h2 := hbyte 2
  have h3 := hbyte 3
  rw [show List.range 4 = [0, 1, 2, 3] from rfl]
  simp only [List.foldl_cons, List.foldl_nil, UInt32.toNat_add, UInt32.toNat_mul,
    UInt8.toNat_toUInt32, UInt32.toNat_zero, hbase, Nat.reducePow]
  omega

theorem toNat_blockAt (message : ByteArray) (length i : Nat) :
    (blockAt message length (64 * i)).toList.map (·.toNat)
      = (List.range' (16 * i) 16).map (wordAt (paddedByte message length)) := by
  unfold blockAt wordAt
  rw [Array.toList_map, Array.toList_range, List.range'_eq_map_range, List.map_map, List.map_map]
  refine List.map_congr_left fun j _ => ?_
  have hplace : ∀ k, 64 * i + 4 * j + k = 4 * (16 * i + j) + k := fun k => by omega
  simp only [hplace, Function.comp_apply]
  exact toNat_foldl_bytes fun k => paddedByte message length (4 * (16 * i + j) + k)

theorem numbers_foldl_absorb (message : ByteArray) (length first n : Nat) (s : State) :
    ((List.range' first n).foldl (fun s i => s.absorb (blockAt message length (64 * i))) s).numbers
      = s.numbers.absorbAll n ((List.range' (16 * first) (16 * n)).map
          (wordAt (paddedByte message length))) := by
  induction n generalizing first s with
  | zero => rfl
  | succ n ih =>
    have hblock := toNat_blockAt message length first
    have hrange : List.range' (16 * first) (16 * (n + 1))
        = List.range' (16 * first) 16 ++ List.range' (16 * (first + 1)) (16 * n) := by
      rw [Nat.mul_succ, Nat.mul_succ, Nat.add_comm (16 * n) 16, List.range'_append_1]
    have hsize : (blockAt message length (64 * first)).size = 16 := by
      rw [← Array.length_toList, ← List.length_map, hblock]
      simp
    rw [List.range'_succ, List.foldl_cons, ih, State.numbers_absorb s hsize, hblock, hrange,
      List.map_append, Numbers.absorbAll, List.take_left' (by simp), List.drop_left' (by simp)]

/-! ## Padding -/

/-- The bytes of a message that is padded to a length. -/
def padded (length : Nat) (message : List UInt8) : List UInt8 :=
  message ++ 0x80 :: (List.replicate (length - (message.length + 9)) 0 ++
    (List.range 8).map fun i => (8 * message.length / Nat.pow 256 (7 - i)).toUInt8)

theorem padded_eq (message : ByteArray) {length : Nat} (hroom : message.size + 9 ≤ length) :
    padded length message.data.toList = (List.range length).map (paddedByte message length) := by
  have hsize : message.data.toList.length = message.size := rfl
  unfold padded
  rw [hsize]
  refine List.ext_getElem ?_ fun i hi hi' => ?_
  · simp only [List.length_append, List.length_cons, List.length_replicate, List.length_map,
      List.length_range, hsize]
    omega
  · rw [List.getElem_map, List.getElem_range]
    have hlt : i < length := by simpa using hi'
    unfold paddedByte
    rcases Nat.lt_trichotomy i message.size with hbefore | hat | hafter
    · rw [dif_pos hbefore, List.getElem_append_left hbefore]
      rfl
    · subst hat
      rw [dif_neg (Nat.lt_irrefl _), if_pos rfl, List.getElem_append_right (Nat.le_of_eq hsize)]
      simp [hsize]
    · rw [dif_neg (by omega), if_neg (by omega), List.getElem_append_right (by omega)]
      obtain ⟨k, rfl⟩ : ∃ k, i = message.size + (k + 1) := ⟨i - message.size - 1, by omega⟩
      simp only [hsize, Nat.add_sub_cancel_left, List.getElem_cons_succ]
      -- zeros, up to the eight bytes of the bit length
      by_cases hzero : k < length - (message.size + 9)
      · rw [if_neg (by omega), List.getElem_append_left (by rwa [List.length_replicate]),
          List.getElem_replicate]
      · have hplace : 7 - (k - (length - (message.size + 9)))
            = length - 1 - (message.size + (k + 1)) := by omega
        have hpast : (List.replicate (length - (message.size + 9)) (0 : UInt8)).length ≤ k := by
          rwa [List.length_replicate, ← Nat.not_lt]
        rw [if_pos (by omega), List.getElem_append_right hpast]
        simp [hplace]

/-! ## Digests -/

/-- How many blocks a message of some bytes takes with its padding. -/
def blockCount (size : Nat) : Nat := (size + 9 + 63) / 64

/-- The words of the digest of a message, from the list of its bytes. -/
def numbersOf (message : List UInt8) : Numbers :=
  let blocks := blockCount message.length
  State.initial.numbers.absorbAll blocks (wordsOf (padded (64 * blocks) message))

/-- The bytes of a number, highest first. -/
def numberBytes (n : Nat) : List UInt8 :=
  [(n / 16777216).toUInt8, (n / 65536).toUInt8, (n / 256).toUInt8, n.toUInt8]

theorem wordBytes_eq (w : UInt32) : wordBytes w = numberBytes w.toNat := by
  have hbyte : ∀ x : UInt32, x.toUInt8 = x.toNat.toUInt8 := fun x => rfl
  unfold wordBytes numberBytes
  simp only [hbyte, UInt32.toNat_shiftRight, UInt32.reduceToNat, Nat.reduceMod,
    Nat.shiftRight_eq_div_pow, Nat.reducePow]

/-- The bytes of the digest of a message, from the list of its bytes. -/
def bytesOf (message : List UInt8) : List UInt8 :=
  let s := numbersOf message
  [s.a, s.b, s.c, s.d, s.e, s.f, s.g, s.h].flatMap numberBytes

theorem bytes_eq (message : ByteArray) : bytes message = bytesOf message.data.toList := by
  have hroom : message.size + 9 ≤ 64 * blockCount message.size := by
    unfold blockCount
    omega
  have hlength : 64 * blockCount message.size = 4 * (16 * blockCount message.size) := by omega
  have hstate := numbers_foldl_absorb message (64 * blockCount message.size) 0
    (blockCount message.size) State.initial
  rw [Nat.mul_zero, ← Nat.mul_zero 4, ← wordsOf_map_range', Nat.mul_zero, ← hlength,
    ← List.range_eq_range', ← List.range_eq_range', ← padded_eq message hroom] at hstate
  unfold bytes bytesOf numbersOf
  rw [show message.data.toList.length = message.size from rfl]
  dsimp only
  rw [← hstate]
  simp only [List.flatMap_cons, List.flatMap_nil, wordBytes_eq]
  rfl

theorem ofContent_eq (content : ByteArray) :
    ofContent content = Bytes.hex (bytesOf content.data.toList) := by
  rw [ofContent, bytes_eq]

/-- The digest in the name of a file that holds a text. -/
theorem ofFile_toUTF8 (text : String) : ofFile text.toUTF8
    = .ofList ((Bytes.hex (bytesOf (Text.bytesOf text))).toList.take fileDigits) := by
  rw [ofFile, ofContent_eq, Text.bytesOf]

end Bundler.Digest

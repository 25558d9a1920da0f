import Bundler.Proofs.Transform.Names
import Bundler.Unicode.CharClass

set_option autoImplicit false

/-! # Paths of URLs

Letters, digits and some signs stand in the path of a URL as they are. Every other character is sent
as the bytes of its UTF-8 form, each written as a percent sign and two hexadecimal digits. So a text
is sent as it is exactly if it is made of the former (`encodePath_eq_iff`), and what is sent contains
neither a query nor a fragment. -/

namespace Bundler.Url

/-- Whether a character may stand in the path of a URL as it is. -/
def isPathChar (c : Char) : Bool :=
  Unicode.isAsciiLetter c || Unicode.isAsciiDigit c ||
    "-._~!$&\x27()*+,;=:@/".toList.contains c

/-- A character as it is sent in the path of a URL. -/
def encodeChar (c : Char) : List Char :=
  if isPathChar c then [c]
  else (String.utf8EncodeChar c).flatMap fun b => '%' :: (Bytes.hexByte b).map Char.toUpper

/-- A path as it is sent in a URL. -/
def encodePath (path : String) : String := .ofList (path.toList.flatMap encodeChar)

/-- Whether a text is made of characters that may stand in the path of a URL as they are. -/
def IsPlain (text : String) : Prop := ∀ c ∈ text.toList, isPathChar c = true

theorem encodeChar_of_isPathChar {c : Char} (h : isPathChar c = true) : encodeChar c = [c] := by
  unfold encodeChar
  rw [if_pos h]

/-- Any other character is sent as a percent sign with digits behind it. -/
theorem exists_encodeChar_eq {c : Char} (h : ¬ isPathChar c = true) :
    ∃ digit rest, encodeChar c = '%' :: digit :: rest := by
  unfold encodeChar
  rw [if_neg h]
  have hlength : 0 < (String.utf8EncodeChar c).length := by
    rw [String.length_utf8EncodeChar]
    exact c.utf8Size_pos
  obtain ⟨b, rest, hbytes⟩ := List.exists_cons_of_length_pos hlength
  rw [hbytes, List.flatMap_cons]
  exact ⟨_, _, rfl⟩

theorem flatMap_encodeChar_of_isPathChar {l : List Char} (h : ∀ c ∈ l, isPathChar c = true) :
    l.flatMap encodeChar = l := by
  induction l with
  | nil => rfl
  | cons c rest ih =>
    rw [List.flatMap_cons, encodeChar_of_isPathChar (h c List.mem_cons_self),
      ih fun d hd => h d (List.mem_cons_of_mem _ hd)]
    rfl

theorem length_le_length_flatMap (l : List Char) : l.length ≤ (l.flatMap encodeChar).length := by
  induction l with
  | nil => exact Nat.le_refl 0
  | cons c rest ih =>
    have hpos : 1 ≤ (encodeChar c).length := by
      by_cases hc : isPathChar c = true
      · rw [encodeChar_of_isPathChar hc]
        exact Nat.le_refl 1
      · obtain ⟨digit, more, hencode⟩ := exists_encodeChar_eq hc
        rw [hencode]
        exact Nat.succ_le_succ (Nat.zero_le _)
    rw [List.flatMap_cons, List.length_append, List.length_cons]
    omega

theorem isPathChar_of_flatMap_eq {l : List Char} (h : l.flatMap encodeChar = l) :
    ∀ c ∈ l, isPathChar c = true := by
  induction l with
  | nil => exact fun c hc => by cases hc
  | cons c rest ih =>
    rw [List.flatMap_cons] at h
    by_cases hc : isPathChar c = true
    · rw [encodeChar_of_isPathChar hc] at h
      intro d hd
      rcases List.mem_cons.1 hd with rfl | hd
      · exact hc
      · exact ih (List.cons.inj h).2 d hd
    · -- what is sent for the first character is longer than it
      obtain ⟨digit, more, hencode⟩ := exists_encodeChar_eq hc
      rw [hencode] at h
      have htail : digit :: (more ++ rest.flatMap encodeChar) = rest := (List.cons.inj h).2
      have hlength := congrArg List.length htail
      have hle := length_le_length_flatMap rest
      rw [List.length_cons, List.length_append] at hlength
      omega

theorem toList_encodePath (path : String) :
    (encodePath path).toList = path.toList.flatMap encodeChar := String.toList_ofList

theorem encodePath_append (a b : String) : encodePath (a ++ b) = encodePath a ++ encodePath b := by
  unfold encodePath
  rw [String.toList_append, List.flatMap_append, String.ofList_append]

theorem encodePath_eq_iff {text : String} : encodePath text = text ↔ IsPlain text := by
  rw [← String.toList_inj, toList_encodePath]
  exact ⟨isPathChar_of_flatMap_eq, flatMap_encodeChar_of_isPathChar⟩

/-- What is sent starts with a slash exactly if the text does. -/
theorem head?_encodePath_eq_slash_iff {text : String} :
    (encodePath text).toList.head? = some '/' ↔ text.toList.head? = some '/' := by
  rw [toList_encodePath]
  cases text.toList with
  | nil => exact Iff.rfl
  | cons c rest =>
    rw [List.flatMap_cons]
    by_cases hc : isPathChar c = true
    · rw [encodeChar_of_isPathChar hc]
      exact Iff.rfl
    · obtain ⟨digit, more, hencode⟩ := exists_encodeChar_eq hc
      rw [hencode]
      refine iff_of_false (by simp) fun heq => hc ?_
      rw [Option.some.inj heq]
      decide

/-- A percent sign is sent if some character is not sent as it is. -/
theorem percent_mem_encodePath {text : String} (h : ¬ IsPlain text) :
    '%' ∈ (encodePath text).toList := by
  obtain ⟨c, h⟩ := not_forall.1 h
  obtain ⟨hc, hpath⟩ := Classical.not_imp.1 h
  obtain ⟨digit, rest, hencode⟩ := exists_encodeChar_eq hpath
  rw [toList_encodePath]
  exact List.mem_flatMap.2 ⟨c, hc, hencode ▸ List.mem_cons_self⟩

/-- All that is sent is characters of paths and percent signs. -/
theorem isPathChar_of_mem_encodePath {text : String} {c : Char}
    (h : c ∈ (encodePath text).toList) : isPathChar c = true ∨ c = '%' := by
  have hdigits : ∀ d ∈ Bytes.hexDigits, isPathChar d.toUpper = true :=
    List.all_eq_true.1 (by decide)
  rw [toList_encodePath] at h
  obtain ⟨d, -, hd⟩ := List.mem_flatMap.1 h
  unfold encodeChar at hd
  split at hd
  · next hpath => exact .inl (List.mem_singleton.1 hd ▸ hpath)
  · obtain ⟨b, -, hb⟩ := List.mem_flatMap.1 hd
    rcases List.mem_cons.1 hb with rfl | hb
    · exact .inr rfl
    · obtain ⟨digit, hdigit, rfl⟩ := List.mem_map.1 hb
      exact .inl (hdigits digit (Bytes.hexByte_subset b hdigit))

end Bundler.Url

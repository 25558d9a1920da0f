import Bundler.Output.Document
import Bundler.Proofs.Text.Bytes

set_option autoImplicit false

/-! # Where the document gets its script tags

The place of the script tags is a number of characters. Read as bytes of the template, it is the
first place where the end of the head stands in any letter case, or else the end of the body, or
else the end of the template (`insertionPlace_spec`). What stands before the place and after it is
kept, so the template can be read off a document byte for byte (`render_inserts`). -/

namespace Bundler.Document

open Text

variable {name text : List Char} {tag : String} {passed place : Nat}

/-! ## Tags in bytes -/

/-- Whether a tag stands at a place of some bytes, with its letters in any case. -/
def StandsAt (tag : String) (bytes : List UInt8) (place : Nat) : Prop :=
  bytesOf tag <+: (bytes.drop place).map lowerByte

/-- Whether a place is the first where a tag stands. -/
structure IsFirst (tag : String) (bytes : List UInt8) (place : Nat) : Prop where
  stands : StandsAt tag bytes place
  first : ∀ earlier < place, ¬ StandsAt tag bytes earlier

/-- Whether a place of a template is the one for script tags: before the first end of the head, or
    if there is none before the first end of the body, or if there is neither the end. -/
inductive IsInsertionPlace (bytes : List UInt8) : Nat → Prop
  | head (place : Nat) (h : IsFirst "</head>" bytes place) : IsInsertionPlace bytes place
  | body (place : Nat) (hhead : ∀ k, ¬ StandsAt "</head>" bytes k)
      (h : IsFirst "</body>" bytes place) : IsInsertionPlace bytes place
  | fragment (hhead : ∀ k, ¬ StandsAt "</head>" bytes k)
      (hbody : ∀ k, ¬ StandsAt "</body>" bytes k) : IsInsertionPlace bytes bytes.length

theorem startsWithTag_iff (tag text : List Char) :
    startsWithTag tag text = true ↔ tag <+: text.map Char.toLower := by
  unfold startsWithTag
  rw [List.isPrefixOf_iff_prefix, List.map_take, List.prefix_take_iff]
  exact and_iff_left (Nat.le_refl _)

/-- A tag stands at the start of the template or after its first character. -/
theorem standsAt_cons_iff (htag : tag.toList = '<' :: name) (c : Char) (text : List Char)
    (place : Nat) :
    StandsAt tag (bytesOfChars (c :: text)) place ↔
      place = 0 ∧ startsWithTag tag.toList (c :: text) = true ∨
        c.utf8Size ≤ place ∧ StandsAt tag (bytesOfChars text) (place - c.utf8Size) := by
  have hsize : c.toLower.utf8Size = c.utf8Size := by
    rw [← String.length_utf8EncodeChar, ← map_lowerByte_utf8EncodeChar, List.length_map,
      String.length_utf8EncodeChar]
  unfold StandsAt
  rw [startsWithTag_iff, List.map_drop, List.map_drop, map_lowerByte_bytesOfChars,
    map_lowerByte_bytesOfChars, bytesOf_eq, htag, List.map_cons,
    prefix_drop_cons_iff (by decide), hsize]

theorem not_standsAt_nil (htag : tag.toList = '<' :: name) (place : Nat) :
    ¬ StandsAt tag (bytesOfChars []) place := by
  unfold StandsAt
  rw [bytesOf_eq, htag, bytesOfChars_cons]
  have hnil : ((bytesOfChars []).drop place).map lowerByte = [] := by simp [bytesOfChars]
  rw [hnil, List.prefix_nil]
  simp [String.utf8EncodeChar]

/-! ## The search -/

/-- The characters before the place that is found are the bytes before the first place of the
    tag. -/
theorem exists_of_tagPlace? (htag : tag.toList = '<' :: name)
    (h : tagPlace? tag.toList passed text = some place) :
    ∃ before after, text = before ++ after ∧ place = passed + before.length ∧
      IsFirst tag (bytesOfChars text) (bytesOfChars before).length := by
  induction text generalizing passed with
  | nil => cases h
  | cons c rest ih =>
    unfold tagPlace? at h
    split at h
    · next hstarts =>
      obtain rfl := Option.some.inj h
      refine ⟨[], c :: rest, rfl, rfl, ?_, fun earlier hlt => absurd hlt (Nat.not_lt_zero _)⟩
      exact (standsAt_cons_iff htag c rest _).2 (.inl ⟨rfl, hstarts⟩)
    · next hstarts =>
      obtain ⟨before, after, rfl, rfl, hfirst⟩ := ih h
      have hlength : (bytesOfChars (c :: before)).length =
          c.utf8Size + (bytesOfChars before).length := by
        rw [bytesOfChars_cons, List.length_append, String.length_utf8EncodeChar]
      refine ⟨c :: before, after, rfl, by rw [List.length_cons]; omega, ?_, fun earlier hlt => ?_⟩
      · rw [hlength]
        refine (standsAt_cons_iff htag c _ _).2 (.inr ⟨Nat.le_add_right _ _, ?_⟩)
        rw [Nat.add_sub_cancel_left]
        exact hfirst.stands
      · rw [standsAt_cons_iff htag]
        rintro (⟨-, hhere⟩ | ⟨hle, hlater⟩)
        · exact hstarts hhere
        · exact hfirst.first _ (by omega) hlater

theorem not_standsAt_of_tagPlace? (htag : tag.toList = '<' :: name)
    (h : tagPlace? tag.toList passed text = none) (place : Nat) :
    ¬ StandsAt tag (bytesOfChars text) place := by
  induction text generalizing passed place with
  | nil => exact not_standsAt_nil htag place
  | cons c rest ih =>
    unfold tagPlace? at h
    split at h
    · cases h
    · next hstarts =>
      rw [standsAt_cons_iff htag]
      rintro (⟨-, hhere⟩ | ⟨-, hlater⟩)
      · exact hstarts hhere
      · exact ih h _ hlater

/-- The characters before the place of the script tags are the bytes before it. -/
theorem insertionPlace_spec (text : List Char) :
    ∃ before after, text = before ++ after ∧ insertionPlace text = before.length ∧
      IsInsertionPlace (bytesOfChars text) (bytesOfChars before).length := by
  unfold insertionPlace
  have hhead : "</head>".toList = '<' :: "/head>".toList := by decide
  have hbody : "</body>".toList = '<' :: "/body>".toList := by decide
  cases hfound : tagPlace? "</head>".toList 0 text with
  | some place =>
    obtain ⟨before, after, rfl, rfl, hfirst⟩ := exists_of_tagPlace? hhead hfound
    exact ⟨before, after, rfl, Nat.zero_add _, .head _ hfirst⟩
  | none =>
    have hnone := not_standsAt_of_tagPlace? hhead hfound
    cases hfound' : tagPlace? "</body>".toList 0 text with
    | some place =>
      obtain ⟨before, after, rfl, rfl, hfirst⟩ := exists_of_tagPlace? hbody hfound'
      exact ⟨before, after, rfl, Nat.zero_add _, .body _ hnone hfirst⟩
    | none =>
      exact ⟨text, [], (List.append_nil _).symm, rfl,
        .fragment hnone (not_standsAt_of_tagPlace? hbody hfound')⟩

/-! ## Documents -/

/-- What stands before the script tags and after them is the template, cut at their place. -/
theorem exists_render_eq (template : Option String) : ∃ before after : String,
    template.getD default = before ++ after ∧
      IsInsertionPlace (bytesOf (template.getD default)) (bytesOf before).length ∧
      ∀ publicPath scripts, render template publicPath scripts =
        before ++ String.join (scripts.map (scriptTag publicPath)) ++ after := by
  obtain ⟨before, after, htext, hplace, hspec⟩ := insertionPlace_spec (template.getD default).toList
  refine ⟨.ofList before, .ofList after, ?_, ?_, fun publicPath scripts => ?_⟩
  · rw [← String.ofList_append, ← htext, String.ofList_toList]
  · rw [bytesOf_eq, bytesOf_eq, String.toList_ofList]
    exact hspec
  · unfold render
    simp only [hplace]
    rw [htext, List.take_left, List.drop_left]

/-- For every template, public path and list of scripts, the document is the template with one block
    put in at the place for script tags. The block has one line for each script, in their order, and
    if its bytes are taken out, the bytes of the template are left. -/
theorem render_inserts (template : Option String) (publicPath : String) (scripts : List String) :
    let block := String.join (scripts.map fun script =>
      "<script defer src=\"" ++ publicPath ++ script ++ "\"></script>\n")
    let document := render template publicPath scripts
    ∃ before after : String, template.getD default = before ++ after ∧
      document = before ++ block ++ after ∧
      IsInsertionPlace (bytesOf (template.getD default)) (bytesOf before).length ∧
      (bytesOf document).take (bytesOf before).length ++
        (bytesOf document).drop ((bytesOf before).length + (bytesOf block).length) =
          bytesOf (template.getD default) := by
  intro block document
  obtain ⟨before, after, htemplate, hplace, hrender⟩ := exists_render_eq template
  have hdocument : document = before ++ block ++ after := hrender publicPath scripts
  refine ⟨before, after, htemplate, hdocument, hplace, ?_⟩
  rw [hdocument, htemplate, bytesOf_append, bytesOf_append, bytesOf_append, ← List.length_append,
    List.drop_left, List.append_assoc, List.take_left]

/-- The end of the head counts wherever it stands, and characters of several bytes stay whole. -/
example : render (some "é</BODY>ß</HeAd>é</head>") "/" ["a.js"] =
    "é</BODY>ß<script defer src=\"/a.js\"></script>\n</HeAd>é</head>" := by
  decide

end Bundler.Document

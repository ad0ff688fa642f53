import CypherPages.Proofs.Html.Escape
import CypherPages.Proofs.Html.Piece

/-! # Fragments of plain markup

Markup that the program writes is put together from tags with escaped values, escaped texts and
elements. A fragment that is no text at either end can stand anywhere in plain markup. -/

namespace CypherPages.Html

/-! ### Tags with given values -/

namespace WrittenTag

/-- A tag with the values of its attributes, each attribute behind one space. -/
def ofValues (name : Text) (values : List (Text × Text)) : WrittenTag :=
  ⟨name, values.map fun (name, value) => ⟨[' '], name, escape value⟩, []⟩

theorem write_ofValues (name : Text) (values : List (Text × Text)) :
    (ofValues name values).write =
      '<' :: name ++ (values.flatMap fun (name, value) =>
        ' ' :: name ++ '=' :: '"' :: escape value ++ ['"']) ++ ['>'] := by
  simp only [ofValues, write, tail, List.flatMap_map, List.append_nil]
  rfl

theorem read_ofValues (name : Text) (values : List (Text × Text)) :
    (ofValues name values).attributes.map WrittenAttribute.read =
      values.map fun (name, value) => (name.lower, some value) := by
  simp [ofValues, Function.comp_def, WrittenAttribute.read, unescape_escape]

theorem isLawful_ofValues {name : Text} {values : List (Text × Text)}
    (hname : isTagName name = true)
    (hvalues : ∀ key ∈ values.map Prod.fst, key ≠ [] ∧ key.all isAttributeNameChar = true) :
    (ofValues name values).isLawful = true := by
  simp only [isLawful, ofValues, hname, List.all_nil, Bool.and_true, Bool.true_and, List.all_map,
    List.all_eq_true]
  rintro ⟨key, value⟩ hmem
  obtain ⟨hne, hall⟩ := hvalues key (List.mem_map_of_mem (f := Prod.fst) hmem)
  have hquote : '"' ∉ escape value := not_mem_escape (by simp) value
  simp only [Function.comp_apply, WrittenAttribute.isLawful, List.all_eq_true] at hall ⊢
  simpa [hne, hquote, isTagSpace] using hall

end WrittenTag

namespace Piece

/-! ### Plain markup in plain markup -/

theorem Plain.append {first rest : List Piece} (hfirst : Plain first) (hrest : Plain rest)
    (h : ∀ a ∈ first.getLast?, ∀ b ∈ rest.head?, ¬ (a.isText = true ∧ b.isText = true)) :
    Plain (first ++ rest) :=
  ⟨fun piece hp => (List.mem_append.mp hp).elim (hfirst.lawful piece) (hrest.lawful piece),
    List.isChain_append.mpr ⟨hfirst.separate, hrest.separate, h⟩⟩

theorem Plain.left {first rest : List Piece} (h : Plain (first ++ rest)) : Plain first :=
  ⟨fun piece hp => h.lawful piece (List.mem_append_left _ hp),
    (List.isChain_append.mp h.separate).1⟩

theorem Plain.right {first rest : List Piece} (h : Plain (first ++ rest)) : Plain rest :=
  ⟨fun piece hp => h.lawful piece (List.mem_append_right _ hp),
    (List.isChain_append.mp h.separate).2.1⟩

/-- Plain pieces that are text neither at their start nor at their end. -/
structure Solid (pieces : List Piece) : Prop where
  plain : Plain pieces
  head : ∀ piece ∈ pieces.head?, piece.isText = false
  last : ∀ piece ∈ pieces.getLast?, piece.isText = false

/-- Solid pieces may be put in anywhere. -/
theorem Plain.insert {front back added : List Piece} (h : Plain (front ++ back))
    (hadded : Solid added) : Plain (front ++ added ++ back) := by
  by_cases hne : added = []
  · rwa [hne, List.append_nil]
  · have hfirst : Plain (front ++ added) :=
      h.left.append hadded.plain fun _ _ b hb h => by simp [hadded.head b hb] at h
    refine hfirst.append h.right fun a ha _ _ h => ?_
    rw [List.getLast?_append_of_ne_nil _ hne] at ha
    simp [hadded.last a ha] at h

theorem Solid.append {first rest : List Piece} (hfirst : Solid first) (hrest : Solid rest) :
    Solid (first ++ rest) := by
  refine ⟨hfirst.plain.append hrest.plain fun a ha _ _ h => by simp [hfirst.last a ha] at h,
    fun piece hp => ?_, fun piece hp => ?_⟩
  · rw [List.head?_append] at hp
    cases hhead : first.head? with
    | none => exact hrest.head piece (by simpa [hhead] using hp)
    | some found => exact hfirst.head piece (by simpa [hhead] using hp)
  · rw [List.getLast?_append] at hp
    cases hlast : rest.getLast? with
    | none => exact hfirst.last piece (by simpa [hlast] using hp)
    | some found => exact hrest.last piece (by simpa [hlast] using hp)

theorem plain_nil : Plain [] := ⟨by simp, .nil⟩

theorem solid_nil : Solid [] := ⟨plain_nil, by simp, by simp⟩

theorem plain_singleton {piece : Piece} (h : piece.isLawful = true) : Plain [piece] :=
  ⟨by simpa using h, .singleton piece⟩

theorem solid_singleton {piece : Piece} (h : piece.isLawful = true)
    (htext : piece.isText = false) : Solid [piece] :=
  ⟨plain_singleton h, by simpa using htext, by simpa using htext⟩

/-! ### Texts and elements -/

/-- The pieces of a text, which is no piece where it is empty. -/
def ofText (t : Text) : List Piece := if t.isEmpty then [] else [.text t]

@[simp] theorem writeAll_ofText (t : Text) : writeAll (ofText t) = t := by
  cases t <;> simp [ofText, write]

theorem plain_ofText {t : Text} (h : '<' ∉ t) : Plain (ofText t) := by
  cases t with
  | nil => exact plain_nil
  | cons c t => exact plain_singleton (by simpa [isLawful] using h)

/-- An element with its content. -/
def element (tag : WrittenTag) (content : List Piece) : List Piece :=
  .start tag :: content ++ [.close tag.name]

theorem element_ne_nil (tag : WrittenTag) (content : List Piece) : element tag content ≠ [] := by
  simp [element]

@[simp] theorem writeAll_element (tag : WrittenTag) (content : List Piece) :
    writeAll (element tag content) = tag.write ++ writeAll content ++ endTag tag.name := by
  simp [element, write]

theorem isTagName_of_start {tag : WrittenTag} (h : (Piece.start tag).isLawful = true) :
    isTagName tag.name = true := by
  simp only [isLawful, WrittenTag.isLawful, Bool.and_eq_true] at h
  exact h.1.1.1

theorem Plain.element {tag : WrittenTag} {content : List Piece}
    (htag : (Piece.start tag).isLawful = true) (hcontent : Plain content) :
    Solid (element tag content) := by
  have hopened : Plain (.start tag :: content) :=
    (plain_singleton htag).append hcontent fun a ha b _ h => by
      obtain rfl : Piece.start tag = a := by simpa using ha
      cases h.1
  have hclosed : Plain [Piece.close tag.name] := plain_singleton (isTagName_of_start htag)
  refine ⟨hopened.append hclosed fun a _ b hb h => ?_, ?_, ?_⟩
  · obtain rfl : Piece.close tag.name = b := by simpa using hb
    cases h.2
  · simp [Piece.element, isText]
  · intro piece hp
    rw [Piece.element, List.getLast?_append_of_ne_nil _ (by simp)] at hp
    obtain rfl : Piece.close tag.name = piece := by simpa using hp
    rfl

/-! ### Properly nested pieces -/

/-- Texts and elements, in which every start tag has its end tag. -/
inductive Nested : List Piece → Prop
  | nil : Nested []
  | text (characters : Text) {rest : List Piece} (h : Nested rest) :
    Nested (.text characters :: rest)
  | element (tag : WrittenTag) {content rest : List Piece} (hcontent : Nested content)
    (h : Nested rest) : Nested (element tag content ++ rest)

namespace Nested

theorem append {first rest : List Piece} (hfirst : Nested first) (hrest : Nested rest) :
    Nested (first ++ rest) := by
  induction hfirst with
  | nil => exact hrest
  | text characters _ ih => exact .text characters ih
  | element tag hcontent _ _ ih =>
      rw [List.append_assoc]
      exact .element tag hcontent ih

theorem ofText (t : Text) : Nested (ofText t) := by
  cases t with
  | nil => exact .nil
  | cons c t => exact .text _ .nil

theorem singleton (tag : WrittenTag) {content : List Piece} (h : Nested content) :
    Nested (Piece.element tag content) := by
  have := Nested.element tag h .nil
  rwa [List.append_nil] at this

end Nested

end Piece

end CypherPages.Html

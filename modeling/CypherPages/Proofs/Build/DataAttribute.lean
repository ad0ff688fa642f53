import CypherPages.Build.CodeBlock
import CypherPages.Html.Tag
import CypherPages.Proofs.Entries
import CypherPages.Proofs.Html.Escape
import CypherPages.Proofs.Text.Lower
import Mathlib.Data.Nat.Notation

/-! # The attributes of published blocks

The name of a data attribute is a stem and a slug. Such names read as they are written, and the
attributes of a block have different names, among them those of its number and its endpoint. -/

namespace CypherPages

namespace DataAttribute

/-! ### Slugs -/

theorem isSlugChar_of_mem_hyphenate {inRun : Bool} {t : Text} {c : Char}
    (h : c ∈ hyphenate inRun t) : isSlugChar c = true := by
  induction t generalizing inRun with
  | nil => cases h
  | cons d t ih =>
      rw [hyphenate] at h
      split at h
      · next hd =>
          rcases List.mem_cons.mp h with rfl | h
          · exact hd
          · exact ih h
      · split at h
        · exact ih h
        · rcases List.mem_cons.mp h with rfl | h
          · decide
          · exact ih h

theorem isSlugChar_of_mem_slug {key : Text} {c : Char} (h : c ∈ slug key) :
    isSlugChar c = true := by
  rw [slug, Text.dropEndWhile, List.mem_reverse] at h
  have hmem := (List.dropWhile_sublist _).subset h
  rw [List.mem_reverse] at hmem
  exact isSlugChar_of_mem_hyphenate ((List.dropWhile_sublist _).subset hmem)

theorem isSlugChar_iff (c : Char) : isSlugChar c = true ↔
    (97 ≤ c.toNat ∧ c.toNat ≤ 122) ∨ (48 ≤ c.toNat ∧ c.toNat ≤ 57) ∨ c.toNat = 95 ∨
      c.toNat = 45 := by
  have hchar : ∀ d : Char, c = d ↔ c.toNat = d.toNat := fun d =>
    ⟨fun h => by rw [h], fun h => Char.toNat_inj.mp h⟩
  simp only [isSlugChar, Bool.or_eq_true, Bool.and_eq_true, decide_eq_true_eq, beq_iff_eq,
    hchar, or_assoc]
  rfl

theorem isAscii_of_isSlugChar {c : Char} (h : isSlugChar c = true) : Text.isAscii c = true := by
  rw [isSlugChar_iff] at h
  rw [Text.isAscii, decide_eq_true_eq]
  omega

theorem toLower_of_isSlugChar {c : Char} (h : isSlugChar c = true) : c.toLower = c := by
  rw [isSlugChar_iff] at h
  refine dif_neg ?_
  rintro ⟨hle, hge⟩
  have hle : 65 ≤ c.toNat := hle
  have hge : c.toNat ≤ 90 := hge
  omega

theorem ne_of_isSlugChar {c d : Char} (h : isSlugChar c = true) (hd : isSlugChar d = false) :
    c ≠ d := by
  rintro rfl
  rw [h] at hd
  cases hd

theorem isAttributeNameChar_of_isSlugChar {c : Char} (h : isSlugChar c = true) :
    Html.isAttributeNameChar c = true := by
  have hblank : isBlank c = false := by
    rw [isSlugChar_iff] at h
    simp only [isBlank, isWhiteSpace, Bool.or_eq_false_iff, Bool.and_eq_false_iff,
      decide_eq_false_iff_not, beq_eq_false_iff_ne]
    omega
  simp [Html.isAttributeNameChar, hblank, ne_of_isSlugChar (d := '/') h (by decide),
    ne_of_isSlugChar (d := '=') h (by decide), ne_of_isSlugChar (d := '>') h (by decide)]

theorem escapeChar_of_isSlugChar {c : Char} (h : isSlugChar c = true) :
    Html.escapeChar c = [c] := by
  apply Html.escapeChar_eq_self <;> exact ne_of_isSlugChar h (by decide)

/-! ### Names -/

/-- A name in which only characters of slugs occur reads as it is written. -/
theorem lower_of_all_isSlugChar {name : Text} (h : name.all isSlugChar = true) :
    name.lower = name := by
  rw [List.all_eq_true] at h
  rw [Text.lower_ascii (List.all_eq_true.mpr fun c hc => isAscii_of_isSlugChar (h c hc))]
  exact (List.map_congr_left fun c hc => toLower_of_isSlugChar (h c hc)).trans (List.map_id name)

theorem escape_of_all_isSlugChar {name : Text} (h : name.all isSlugChar = true) :
    Html.escape name = name := by
  induction name with
  | nil => rfl
  | cons c name ih =>
      rw [List.all_cons, Bool.and_eq_true] at h
      rw [Html.escape_cons, escapeChar_of_isSlugChar h.1, ih h.2, List.singleton_append]

/-- A name is the name of a data attribute. -/
structure IsName (name : Text) : Prop where
  stem : stem <+: name
  all_isSlugChar : name.all isSlugChar = true

theorem isName_id : IsName id := ⟨by decide, by decide⟩

theorem isName_endpoint : IsName endpoint := ⟨by decide, by decide⟩

theorem isName_of_name? {key name : Text} (h : name? key = some name) : IsName name := by
  unfold name? at h
  split at h
  · cases h
  · obtain rfl := Option.some.inj h
    refine ⟨List.prefix_append _ _, ?_⟩
    rw [List.all_append, Bool.and_eq_true]
    exact ⟨by decide, List.all_eq_true.mpr fun c hc => isSlugChar_of_mem_slug hc⟩

theorem IsName.ne_class {name : Text} (h : IsName name) : name ≠ "class".toList := by
  rintro rfl
  revert h
  exact fun h => absurd h.stem (by decide)

theorem IsName.ne_nil {name : Text} (h : IsName name) : name ≠ [] := by
  rintro rfl
  exact absurd h.stem (by decide)

end DataAttribute

theorem nonEmpty?_cases (value : Option Text) :
    (∃ text, text ≠ [] ∧ value = some text ∧ nonEmpty? value = some text) ∨
      ((∀ text, value = some text → text = []) ∧ nonEmpty? value = none) := by
  match value with
  | none => exact .inr ⟨by simp, rfl⟩
  | some [] => exact .inr ⟨by simp, rfl⟩
  | some (c :: rest) => exact .inl ⟨c :: rest, List.cons_ne_nil c rest, rfl, rfl⟩

namespace CodeBlock

/-! ### The attributes of a block -/

/-- The endpoint that a build resolves for a block. -/
def builtEndpoint (environment : Option Text) (source : Text) : Text :=
  resolveEndpoint ((Directive.byKey source).get? CellOptions.endpointKey) environment

theorem nonEmpty?_eq_some {text : Option Text} {found : Text} (h : nonEmpty? text = some found) :
    found ≠ [] := by
  unfold nonEmpty? at h
  split at h
  · cases h
    simp
  · cases h

theorem nonEmpty?_of_ne_nil {text : Text} (h : text ≠ []) : nonEmpty? (some text) = some text := by
  cases text with
  | nil => exact absurd rfl h
  | cons c rest => rfl

theorem builtEndpoint_ne_nil (environment : Option Text) (source : Text) :
    builtEndpoint environment source ≠ [] := by
  rw [builtEndpoint, resolveEndpoint]
  cases hblock : nonEmpty? ((Directive.byKey source).get? CellOptions.endpointKey) with
  | some found => exact nonEmpty?_eq_some hblock
  | none =>
      cases henvironment : nonEmpty? environment with
      | some found => exact nonEmpty?_eq_some henvironment
      | none => decide

/-- The number and the endpoint of a block come first; no option sets either of them. -/
theorem dataAttributes_eq (number : ℕ) (environment : Option Text) (source : Text) :
    ∃ others : List (Text × Text),
      dataAttributes number environment source =
        (DataAttribute.id, Text.decimal number) ::
          (DataAttribute.endpoint, builtEndpoint environment source) :: others ∧
      ∀ name ∈ others.map Prod.fst, DataAttribute.IsName name ∧ name ≠ DataAttribute.id ∧
        name ≠ DataAttribute.endpoint := by
  have hendpoint : (CellOptions.resolve (Directive.byKey source) environment).get?
      CellOptions.endpointKey = some (builtEndpoint environment source) := by
    rw [CellOptions.resolve, Entries.get?_set, if_pos (beq_self_eq_true _), builtEndpoint]
  simp only [dataAttributes, hendpoint, Option.getD_some]
  refine ⟨_, rfl, ?_⟩
  intro name hname
  obtain ⟨⟨found, value⟩, hfound, rfl⟩ := List.mem_map.mp hname
  obtain ⟨⟨key, option⟩, -, hsome⟩ := List.mem_filterMap.mp hfound
  dsimp only at hsome
  split at hsome
  · next hkey =>
      split at hsome
      · cases hsome
      · next hne =>
          cases hsome
          simp only [Bool.or_eq_true, beq_iff_eq, not_or] at hne
          exact ⟨DataAttribute.isName_of_name? hkey, hne⟩
  · cases hsome

/-- A block without attributes is published with different names of data attributes, the
number and the endpoint of the block among them. -/
structure Published (number : ℕ) (endpoint : Text) (attributes : Entries Text Text) : Prop where
  isName : ∀ name ∈ attributes.map Prod.fst, DataAttribute.IsName name
  nodup : (attributes.map Prod.fst).Nodup
  get?_id : attributes.get? DataAttribute.id = some (Text.decimal number)
  get?_endpoint : attributes.get? DataAttribute.endpoint = some endpoint

theorem publish_published {block : CodeBlock Text} (h : block.attributes = []) (number : ℕ)
    (environment : Option Text) :
    Published number (builtEndpoint environment block.text)
      (block.publish number environment).attributes := by
  obtain ⟨others, hothers, hnames⟩ := dataAttributes_eq number environment block.text
  have hattributes : (block.publish number environment).attributes =
      Entries.setAll [] ((DataAttribute.id, Text.decimal number) ::
        (DataAttribute.endpoint, builtEndpoint environment block.text) :: others) := by
    simp only [publish, h, hothers, BlockValue.ofText, List.map_id']
  have hid : DataAttribute.id ∉ others.map Prod.fst := fun hmem => (hnames _ hmem).2.1 rfl
  have hendpoint : DataAttribute.endpoint ∉ others.map Prod.fst := fun hmem =>
    (hnames _ hmem).2.2 rfl
  have hne : (DataAttribute.endpoint == DataAttribute.id) = false := by decide
  rw [hattributes]
  refine ⟨?_, Entries.nodup_keys_setAll (by simp) _, ?_, ?_⟩
  · intro name hname
    rcases Entries.mem_keys_setAll hname with hname | hname
    · cases hname
    · rw [List.map_cons, List.map_cons, List.mem_cons, List.mem_cons] at hname
      rcases hname with rfl | rfl | hname
      · exact DataAttribute.isName_id
      · exact DataAttribute.isName_endpoint
      · exact (hnames name hname).1
  · rw [Entries.setAll_cons, Entries.setAll_cons, Entries.get?_setAll_of_not_mem hid,
      Entries.get?_set, hne, if_neg Bool.false_ne_true, Entries.get?_set,
      if_pos (beq_self_eq_true _)]
  · rw [Entries.setAll_cons, Entries.setAll_cons, Entries.get?_setAll_of_not_mem hendpoint,
      Entries.get?_set, if_pos (beq_self_eq_true _)]

end CodeBlock

end CypherPages

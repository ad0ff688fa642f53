import CypherPages.Proofs.Build.DataAttribute
import CypherPages.Proofs.Html.AttributeName

/-! # Slugs of keys

The slug of a key is the part of the lower-case key between its first and its last usable
character, with every run of unsafe characters in it hyphenated. So it is there as soon as one
usable character is, and it is its own slug. A name that is made of one stands as it is in every
start tag. -/

namespace CypherPages

namespace DataAttribute

/-- Whether a character stays in the slug of a key wherever it stands: a letter or digit of ASCII,
or an underscore. -/
def isUsable (c : Char) : Bool := c.isAlphanum || c == '_'

/-- A text from its first to its last usable character. -/
def usablePart (t : Text) : Text := Text.dropEndWhile (!isUsable ·) (t.dropWhile (!isUsable ·))

/-- The characters of slugs stay as they are, and every longest run of other characters becomes
one hyphen. -/
inductive Hyphenates : Text → Text → Prop
  | nil : Hyphenates [] []
  | keep {c : Char} {t slug : Text} (hc : isSlugChar c = true) (h : Hyphenates t slug) :
    Hyphenates (c :: t) (c :: slug)
  | run {gap t slug : Text} (hne : gap ≠ []) (hgap : ∀ c ∈ gap, isSlugChar c = false)
    (hnext : ∀ c ∈ t.head?, isSlugChar c = true) (h : Hyphenates t slug) :
    Hyphenates (gap ++ t) ('-' :: slug)

/-- The slug of a key. -/
structure SlugOf (key slug : Text) : Prop where
  ne_nil : slug ≠ []
  all_isSlugChar : ∀ c ∈ slug, isSlugChar c = true
  head : slug.head? ≠ some '-'
  last : slug.getLast? ≠ some '-'
  /-- All usable characters are there, in order, and no others. -/
  usable : slug.filter isUsable = key.lower.filter isUsable
  hyphenates : Hyphenates (usablePart key.lower) slug

/-! ### Usable characters -/

theorem isUsable_iff (c : Char) : isUsable c = true ↔
    (65 ≤ c.toNat ∧ c.toNat ≤ 90) ∨ (97 ≤ c.toNat ∧ c.toNat ≤ 122) ∨
      (48 ≤ c.toNat ∧ c.toNat ≤ 57) ∨ c.toNat = 95 := by
  have hunderscore : c = '_' ↔ c.toNat = 95 :=
    ⟨fun h => by rw [h]; rfl, fun h => Char.toNat_inj.mp h⟩
  have hbetween (low high : ℕ) : (decide (low ≤ c.toNat) && decide (c.toNat ≤ high)) = true ↔
      low ≤ c.toNat ∧ c.toNat ≤ high := by
    rw [Bool.and_eq_true, decide_eq_true_iff, decide_eq_true_iff]
  have hlower : c.isLower = true ↔ 97 ≤ c.toNat ∧ c.toNat ≤ 122 := hbetween 97 122
  have hdigit : c.isDigit = true ↔ 48 ≤ c.toNat ∧ c.toNat ≤ 57 := hbetween 48 57
  change (c.isUpper || c.isLower || c.isDigit || c == '_') = true ↔ _
  rw [Bool.or_eq_true, Bool.or_eq_true, Bool.or_eq_true, Text.isUpper_iff, hlower, hdigit,
    beq_iff_eq, hunderscore, or_assoc, or_assoc]

/-- In lower case the characters of slugs are the usable ones and the hyphen. -/
theorem isSlugChar_iff_isUsable {c : Char} (h : c.isUpper = false) :
    isSlugChar c = true ↔ isUsable c = true ∨ c = '-' := by
  have hhyphen : c = '-' ↔ c.toNat = 45 :=
    ⟨fun h => by rw [h]; rfl, fun h => Char.toNat_inj.mp h⟩
  rw [← Bool.not_eq_true, Text.isUpper_iff] at h
  rw [isSlugChar_iff, isUsable_iff, hhyphen]
  omega

theorem eq_hyphen_of_not_isUsable {c : Char} (h : isSlugChar c = true)
    (hc : isUsable c = false) : c = '-' := by
  refine Char.toNat_inj.mp ?_
  rw [← Bool.not_eq_true, isUsable_iff] at hc
  rw [isSlugChar_iff] at h
  change c.toNat = 45
  omega

theorem ne_hyphen_of_isUsable {c : Char} (h : isUsable c = true) : c ≠ '-' := by
  rintro rfl
  revert h
  decide

/-! ### The usable part of a text -/

theorem exists_dropEndWhile (p : Char → Bool) (t : Text) :
    ∃ back, t = Text.dropEndWhile p t ++ back ∧ (∀ c ∈ back, p c = true) ∧
      ∀ c ∈ (Text.dropEndWhile p t).getLast?, p c = false := by
  refine ⟨(t.reverse.takeWhile p).reverse, ?_, ?_, ?_⟩
  · rw [Text.dropEndWhile, ← List.reverse_append, List.takeWhile_append_dropWhile,
      List.reverse_reverse]
  · intro c hc
    exact List.mem_takeWhile_imp (List.mem_reverse.mp hc)
  · intro c hc
    rw [Text.dropEndWhile, List.getLast?_reverse] at hc
    have hhead := List.head?_dropWhile_not p t.reverse
    rw [hc] at hhead
    exact hhead

/-- A text falls into its usable part and what stands on either side of it. -/
theorem exists_usablePart (t : Text) :
    ∃ front back, t = front ++ (usablePart t ++ back) ∧
      (∀ c ∈ front, isUsable c = false) ∧ (∀ c ∈ back, isUsable c = false) ∧
      (∀ c ∈ (usablePart t).head?, isUsable c = true) ∧
      ∀ c ∈ (usablePart t).getLast?, isUsable c = true := by
  obtain ⟨back, hback, hall, hlast⟩ :=
    exists_dropEndWhile (!isUsable ·) (t.dropWhile (!isUsable ·))
  refine ⟨t.takeWhile (!isUsable ·), back, ?_, ?_, ?_, ?_, ?_⟩
  · rw [usablePart, ← hback, List.takeWhile_append_dropWhile]
  · intro c hc
    simpa using List.mem_takeWhile_imp hc
  · intro c hc
    simpa using hall c hc
  · intro c hc
    have hhead : (t.dropWhile (!isUsable ·)).head? = some c := by
      rw [hback, List.head?_append]
      exact Option.or_eq_some_iff.mpr (.inl hc)
    have hnot := List.head?_dropWhile_not (!isUsable ·) t
    rw [hhead] at hnot
    simpa using hnot
  · intro c hc
    simpa using hlast c hc

theorem filter_usablePart (t : Text) : (usablePart t).filter isUsable = t.filter isUsable := by
  obtain ⟨front, back, ht, hfront, hback, -, -⟩ := exists_usablePart t
  have hnone : front.filter isUsable = [] := List.filter_eq_nil_iff.mpr (by simpa using hfront)
  have hnone' : back.filter isUsable = [] := List.filter_eq_nil_iff.mpr (by simpa using hback)
  conv_rhs => rw [ht]
  rw [List.filter_append, List.filter_append, hnone, hnone', List.nil_append, List.append_nil]

theorem usablePart_eq_nil_iff (t : Text) :
    usablePart t = [] ↔ ∀ c ∈ t, isUsable c = false := by
  constructor
  · intro h
    have hfilter := filter_usablePart t
    rw [h, List.filter_nil, eq_comm, List.filter_eq_nil_iff] at hfilter
    simpa using hfilter
  · intro h
    obtain ⟨front, back, ht, -, -, hhead, -⟩ := exists_usablePart t
    cases hpart : usablePart t with
    | nil => rfl
    | cons c rest =>
        have hc := hhead c (by rw [hpart]; rfl)
        rw [h c (by rw [ht, hpart]; simp)] at hc
        cases hc

/-- A text with usable characters at both ends is its usable part. -/
theorem usablePart_eq_self {t : Text} (hhead : ∀ c ∈ t.head?, isUsable c = true)
    (hlast : ∀ c ∈ t.getLast?, isUsable c = true) : usablePart t = t := by
  have hfront : t.dropWhile (!isUsable ·) = t := by
    cases t with
    | nil => rfl
    | cons c rest => exact List.dropWhile_cons_of_neg (by simp [hhead c rfl])
  have hback : t.reverse.dropWhile (!isUsable ·) = t.reverse := by
    cases hreverse : t.reverse with
    | nil => rfl
    | cons c rest =>
        refine List.dropWhile_cons_of_neg ?_
        rw [hlast c (by rw [← List.head?_reverse, hreverse]; rfl)]
        decide
  rw [usablePart, hfront, Text.dropEndWhile, hback, List.reverse_reverse]

/-! ### Hyphens for unsafe runs -/

theorem hyphenate_cons {c : Char} (hc : isSlugChar c = true) (inRun : Bool) (t : Text) :
    hyphenate inRun (c :: t) = c :: hyphenate false t := by
  rw [hyphenate, if_pos hc]

/-- A character of slugs ends the run before it. -/
theorem hyphenate_append_cons {c : Char} (hc : isSlugChar c = true) (inRun : Bool)
    (front t : Text) :
    hyphenate inRun (front ++ c :: t) = hyphenate inRun front ++ c :: hyphenate false t := by
  induction front generalizing inRun with
  | nil => exact hyphenate_cons hc inRun t
  | cons d front ih =>
      rw [List.cons_append, hyphenate, hyphenate]
      split
      · rw [ih, List.cons_append]
      · split
        · exact ih true
        · rw [ih, List.cons_append]

/-- Without usable characters there are hyphens only. -/
theorem eq_hyphen_of_mem_hyphenate {t : Text} (h : ∀ c ∈ t, isUsable c = false) {inRun : Bool}
    {c : Char} (hc : c ∈ hyphenate inRun t) : c = '-' := by
  induction t generalizing inRun with
  | nil => cases hc
  | cons d t ih =>
      obtain ⟨hd, ht⟩ := List.forall_mem_cons.mp h
      rw [hyphenate] at hc
      split at hc
      · next hslug =>
          rcases List.mem_cons.mp hc with rfl | hc
          · exact eq_hyphen_of_not_isUsable hslug hd
          · exact ih ht hc
      · split at hc
        · exact ih ht hc
        · rcases List.mem_cons.mp hc with rfl | hc
          · rfl
          · exact ih ht hc

theorem hyphenate_eq_self {t : Text} (h : ∀ c ∈ t, isSlugChar c = true) (inRun : Bool) :
    hyphenate inRun t = t := by
  induction t generalizing inRun with
  | nil => rfl
  | cons c t ih =>
      obtain ⟨hc, ht⟩ := List.forall_mem_cons.mp h
      rw [hyphenate, if_pos hc, ih ht]

/-- Hyphenating keeps the usable characters of a text in lower case. -/
theorem filter_hyphenate {t : Text} (h : ∀ c ∈ t, c.isUpper = false) (inRun : Bool) :
    (hyphenate inRun t).filter isUsable = t.filter isUsable := by
  have hhyphen : isUsable '-' = false := by decide
  induction t generalizing inRun with
  | nil => rfl
  | cons c t ih =>
      obtain ⟨hc, ht⟩ := List.forall_mem_cons.mp h
      rw [hyphenate]
      split
      · rw [List.filter_cons, List.filter_cons, ih ht]
      · next hunsafe =>
          have hnot : isUsable c = false := by
            rw [← Bool.not_eq_true]
            exact fun husable => hunsafe ((isSlugChar_iff_isUsable hc).mpr (.inl husable))
          rw [List.filter_cons_of_neg (by simp [hnot])]
          split
          · exact ih ht true
          · rw [List.filter_cons_of_neg (by simp [hhyphen]), ih ht]

/-- What is left of a run is skipped. -/
theorem hyphenate_run {gap : Text} (h : ∀ c ∈ gap, isSlugChar c = false) {t : Text}
    (ht : ∀ c ∈ t.head?, isSlugChar c = true) :
    hyphenate true (gap ++ t) = hyphenate false t := by
  induction gap with
  | nil =>
      cases t with
      | nil => rfl
      | cons c t => rw [List.nil_append, hyphenate_cons (ht c rfl), hyphenate_cons (ht c rfl)]
  | cons c gap ih =>
      obtain ⟨hc, hgap⟩ := List.forall_mem_cons.mp h
      rw [List.cons_append, hyphenate, if_neg (by simp [hc]), if_pos rfl, ih hgap]

theorem exists_unsafe_run (t : Text) :
    ∃ gap rest, t = gap ++ rest ∧ (∀ c ∈ gap, isSlugChar c = false) ∧
      ∀ c ∈ rest.head?, isSlugChar c = true := by
  refine ⟨t.takeWhile (!isSlugChar ·), t.dropWhile (!isSlugChar ·),
    List.takeWhile_append_dropWhile.symm, fun c hc => ?_, fun c hc => ?_⟩
  · simpa using List.mem_takeWhile_imp hc
  · have hnot := List.head?_dropWhile_not (!isSlugChar ·) t
    rw [hc] at hnot
    simpa using hnot

theorem hyphenates_hyphenate (t : Text) : Hyphenates t (hyphenate false t) := by
  cases t with
  | nil => exact .nil
  | cons c t =>
      by_cases hc : isSlugChar c = true
      · rw [hyphenate_cons hc]
        exact .keep hc (hyphenates_hyphenate t)
      · obtain ⟨gap, rest, ht, hgap, hnext⟩ := exists_unsafe_run t
        have hlength : rest.length ≤ t.length := by rw [ht, List.length_append]; omega
        rw [ht, hyphenate, if_neg hc, if_neg Bool.false_ne_true, hyphenate_run hgap hnext,
          ← List.cons_append]
        exact .run (List.cons_ne_nil c gap)
          (List.forall_mem_cons.mpr ⟨by simpa using hc, hgap⟩) hnext (hyphenates_hyphenate rest)
  termination_by t.length
  decreasing_by all_goals simp only [List.length_cons]; omega

/-! ### Slugs -/

/-- What stands in front of a usable character gives hyphens only. -/
theorem dropWhile_hyphenate {front t : Text} (hfront : ∀ c ∈ front, isUsable c = false)
    (ht : ∀ c ∈ t.head?, isUsable c = true ∧ isSlugChar c = true) :
    (hyphenate false (front ++ t)).dropWhile (· == '-') = hyphenate false t := by
  have hhyphens : ∀ c ∈ hyphenate false front, (c == '-') = true :=
    fun c hc => beq_iff_eq.mpr (eq_hyphen_of_mem_hyphenate hfront hc)
  cases t with
  | nil =>
      rw [List.append_nil, List.dropWhile_eq_nil_iff.mpr hhyphens]
      rfl
  | cons c rest =>
      obtain ⟨husable, hslug⟩ := ht c rfl
      rw [hyphenate_append_cons hslug, List.dropWhile_append_of_pos hhyphens, hyphenate_cons hslug]
      exact List.dropWhile_cons_of_neg (by simpa using ne_hyphen_of_isUsable husable)

/-- What stands behind a usable character gives hyphens only. -/
theorem dropEndWhile_hyphenate {t back : Text} (hback : ∀ c ∈ back, isUsable c = false)
    (ht : ∀ c ∈ t.getLast?, isUsable c = true ∧ isSlugChar c = true) :
    Text.dropEndWhile (· == '-') (hyphenate false (t ++ back)) = hyphenate false t := by
  have hhyphens : ∀ c ∈ (hyphenate false back).reverse, (c == '-') = true :=
    fun c hc => beq_iff_eq.mpr (eq_hyphen_of_mem_hyphenate hback (List.mem_reverse.mp hc))
  rw [Text.dropEndWhile]
  rcases List.eq_nil_or_concat' t with rfl | ⟨init, c, rfl⟩
  · rw [List.nil_append, List.dropWhile_eq_nil_iff.mpr hhyphens]
    rfl
  · obtain ⟨husable, hslug⟩ := ht c (by simp)
    have hlast : ¬ (c == '-') = true := by simpa using ne_hyphen_of_isUsable husable
    rw [List.append_assoc, List.singleton_append, hyphenate_append_cons hslug,
      hyphenate_append_cons hslug, List.reverse_append, List.reverse_cons, List.append_assoc,
      List.dropWhile_append_of_pos hhyphens, List.singleton_append]
    rw [List.dropWhile_cons_of_neg (p := (· == '-')) hlast, List.reverse_cons,
      List.reverse_reverse]
    rfl

/-- Trimming the hyphens of a text is hyphenating its usable part. -/
theorem slug_eq (key : Text) : slug key = hyphenate false (usablePart key.lower) := by
  obtain ⟨front, back, hkey, hfront, hback, hhead, hlast⟩ := exists_usablePart key.lower
  have hslug {c : Char} (hmem : c ∈ usablePart key.lower) (hc : isUsable c = true) :
      isUsable c = true ∧ isSlugChar c = true := by
    have hmem : c ∈ key.lower := by rw [hkey]; simp [hmem]
    exact ⟨hc, (isSlugChar_iff_isUsable (Text.not_isUpper_of_mem_lower hmem)).mpr (.inl hc)⟩
  by_cases hpart : usablePart key.lower = []
  · have hnone := dropWhile_hyphenate (t := []) ((usablePart_eq_nil_iff _).mp hpart) (by simp)
    rw [List.append_nil] at hnone
    rw [slug, hnone, hpart]
    rfl
  · have hfirst : (usablePart key.lower ++ back).head? = (usablePart key.lower).head? :=
      List.head?_append_of_ne_nil _ hpart
    have htrimmed : (hyphenate false key.lower).dropWhile (· == '-') =
        hyphenate false (usablePart key.lower ++ back) := by
      conv_lhs => rw [hkey]
      apply dropWhile_hyphenate hfront
      intro c hc
      rw [hfirst] at hc
      exact hslug (List.mem_of_mem_head? hc) (hhead c hc)
    rw [slug, htrimmed]
    exact dropEndWhile_hyphenate hback fun c hc => hslug (List.mem_of_getLast? hc) (hlast c hc)

theorem hyphenate_eq_nil_iff (t : Text) : hyphenate false t = [] ↔ t = [] := by
  cases t with
  | nil => exact iff_of_true rfl rfl
  | cons c t =>
      rw [hyphenate]
      split <;> simp

theorem slug_eq_nil_iff (key : Text) : slug key = [] ↔ ∀ c ∈ key.lower, isUsable c = false := by
  rw [slug_eq, hyphenate_eq_nil_iff, usablePart_eq_nil_iff]

theorem head?_hyphenate {t : Text} (h : ∀ c ∈ t.head?, isSlugChar c = true) :
    (hyphenate false t).head? = t.head? := by
  cases t with
  | nil => rfl
  | cons c rest => rw [hyphenate_cons (h c rfl), List.head?_cons, List.head?_cons]

theorem getLast?_hyphenate {t : Text} (h : ∀ c ∈ t.getLast?, isSlugChar c = true) :
    (hyphenate false t).getLast? = t.getLast? := by
  rcases List.eq_nil_or_concat' t with rfl | ⟨init, c, rfl⟩
  · rfl
  · rw [hyphenate_append_cons (h c (by simp)), hyphenate, List.getLast?_concat,
      List.getLast?_concat]

theorem slugOf_slug {key : Text} (h : slug key ≠ []) : SlugOf key (slug key) := by
  obtain ⟨front, back, hkey, -, -, hhead, hlast⟩ := exists_usablePart key.lower
  have hupper : ∀ c ∈ usablePart key.lower, c.isUpper = false := fun c hc =>
    Text.not_isUpper_of_mem_lower (by rw [hkey]; simp [hc])
  have hslug {c : Char} (hmem : c ∈ usablePart key.lower) (hc : isUsable c = true) :
      isSlugChar c = true := (isSlugChar_iff_isUsable (hupper c hmem)).mpr (.inl hc)
  refine ⟨h, fun c => isSlugChar_of_mem_slug, ?_, ?_, ?_, ?_⟩
  · rw [slug_eq, head?_hyphenate fun c hc => hslug (List.mem_of_mem_head? hc) (hhead c hc)]
    exact fun hhyphen => ne_hyphen_of_isUsable (hhead '-' hhyphen) rfl
  · rw [slug_eq, getLast?_hyphenate fun c hc => hslug (List.mem_of_getLast? hc) (hlast c hc)]
    exact fun hhyphen => ne_hyphen_of_isUsable (hlast '-' hhyphen) rfl
  · rw [slug_eq, filter_hyphenate hupper, filter_usablePart]
  · rw [slug_eq]
    exact hyphenates_hyphenate _

/-- A slug is its own slug. -/
theorem SlugOf.slug_eq_self {key slug : Text} (h : SlugOf key slug) :
    DataAttribute.slug slug = slug := by
  have husable {c : Char} (hmem : c ∈ slug) (hne : c ≠ '-') : isUsable c = true := by
    by_contra hnot
    exact hne (eq_hyphen_of_not_isUsable (h.all_isSlugChar c hmem) (Bool.not_eq_true _ ▸ hnot))
  have hpart : usablePart slug = slug := by
    apply usablePart_eq_self
    · intro c hc
      exact husable (List.mem_of_mem_head? hc) fun hhyphen => h.head (hhyphen ▸ hc)
    · intro c hc
      exact husable (List.mem_of_getLast? hc) fun hhyphen => h.last (hhyphen ▸ hc)
  rw [slug_eq, lower_of_all_isSlugChar (List.all_eq_true.mpr h.all_isSlugChar), hpart,
    hyphenate_eq_self h.all_isSlugChar]

/-- A name that is made of characters of slugs stands as it is. -/
theorem IsName.standsWhole {name : Text} (h : IsName name) : Html.StandsWhole name := by
  have hchars := List.all_eq_true.mp h.all_isSlugChar
  refine Html.standsWhole_of_forall h.ne_nil (fun c hc => ?_)
    (lower_of_all_isSlugChar h.all_isSlugChar) (escape_of_all_isSlugChar h.all_isSlugChar)
  have hquote : Html.isQuote c = false := by
    simp [Html.isQuote, ne_of_isSlugChar (d := '\'') (hchars c hc) (by decide),
      ne_of_isSlugChar (d := '"') (hchars c hc) (by decide)]
  rw [Html.isInnerNameChar, isAttributeNameChar_of_isSlugChar (hchars c hc), hquote]
  rfl

theorem name?_eq_ite (key : Text) :
    name? key = if slug key = [] then none else some (stem ++ slug key) := by
  unfold name?
  cases slug key with
  | nil => rfl
  | cons c rest => rfl

/-- A key has a name as soon as one character of its lower-case form is usable. The name is made
of the key's slug, which has the same name, and it stands as it is in every start tag. -/
theorem name?_of_key (key : Text) :
    (name? key = none ↔ ∀ c ∈ key.lower, isUsable c = false) ∧
      ∀ name ∈ name? key, ∃ slug, name = stem ++ slug ∧ SlugOf key slug ∧
        name? slug = some name ∧ Html.StandsWhole name := by
  constructor
  · rw [← slug_eq_nil_iff, name?_eq_ite]
    split <;> simp_all
  · intro name hname
    have hstands := (isName_of_name? hname).standsWhole
    rw [name?_eq_ite, Option.mem_def, Option.ite_none_left_eq_some] at hname
    obtain ⟨hnil, hname⟩ := hname
    obtain rfl := Option.some.inj hname
    have hslug := slugOf_slug hnil
    refine ⟨slug key, rfl, hslug, ?_, hstands⟩
    rw [name?_eq_ite, hslug.slug_eq_self, if_neg hnil]

/-- A key with hyphens and blanks at its ends, a letter that is in ASCII only in lower case, and
quotes, an equals sign and a bracket in one run beside a hyphen. -/
theorem name?_of_key_with_quotes :
    let key := "- \u212a-\"=>\u00e9'_9 -".toList
    ∃ slug, name? key = some (stem ++ slug) ∧ slug = "k--_9".toList ∧ SlugOf key slug ∧
      name? slug = some (stem ++ slug) ∧ Html.StandsWhole (stem ++ slug) := by
  intro key
  have hname : name? key = some (stem ++ "k--_9".toList) := by decide +kernel
  obtain ⟨slug, heq, hslug, hagain, hstands⟩ := (name?_of_key key).2 _ hname
  obtain rfl := List.append_cancel_left heq
  exact ⟨_, hname, rfl, hslug, hagain, hstands⟩

end DataAttribute

end CypherPages

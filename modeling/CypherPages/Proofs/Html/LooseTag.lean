import CypherPages.Proofs.Html.WrittenTag

/-! # Tags with loose attributes

A start tag in which the names of attributes may be any text, without closing brackets and
apostrophes, that ends with the closing quote of its last value. However its attributes are read,
it ends at its own closing bracket, unless the closing quote is taken for the opening one of a
value. That value then goes on to the next quote, and the tag to the next closing bracket. -/

namespace CypherPages.Html

/-- What is left of a loose tag before its closing bracket. -/
structure Loose (left : Text) : Prop where
  no_angle : '>' ∉ left
  no_apostrophe : '\'' ∉ left
  quoted : ∀ c ∈ left.getLast?, c = '"'

theorem Loose.of_quote {front : Text} (hangle : '>' ∉ front) (hapostrophe : '\'' ∉ front) :
    Loose (front ++ ['"']) := by
  refine ⟨by simpa using hangle, by simpa using hapostrophe, fun c hc => ?_⟩
  rw [List.getLast?_append] at hc
  exact (Option.some.inj hc).symm

theorem Loose.of_suffix {left rest : Text} (h : Loose left) (hsuffix : rest <:+ left) :
    Loose rest := by
  refine ⟨fun hmem => h.no_angle (hsuffix.subset hmem),
    fun hmem => h.no_apostrophe (hsuffix.subset hmem), fun c hc => h.quoted c ?_⟩
  obtain ⟨front, rfl⟩ := hsuffix
  rw [List.getLast?_append, Option.mem_def.mp hc]
  rfl

theorem Loose.tail {c : Char} {left : Text} (h : Loose (c :: left)) : Loose left :=
  h.of_suffix (List.suffix_cons c left)

/-! ### Gaps and names -/

theorem dropWhile_append_of_angle {p : Char → Bool} (h : p '>' = false) (left after : Text) :
    (left ++ '>' :: after).dropWhile p = left.dropWhile p ++ '>' :: after := by
  have hangle : ('>' :: after).dropWhile p = '>' :: after :=
    List.dropWhile_cons_of_neg (by rw [h]; exact Bool.false_ne_true)
  rw [List.dropWhile_append]
  split
  · next hempty => rw [List.isEmpty_iff.mp hempty, hangle, List.nil_append]
  · rfl

/-- Skipping a gap goes to where an attribute or the end of the tag starts. -/
theorem Loose.exists_skipGap {left : Text} (h : Loose left) (after : Text) :
    ∃ rest, rest <:+ left ∧ skipGap (left ++ '>' :: after) = rest ++ '>' :: after ∧
      (∀ c ∈ rest.head?, startsAttribute c = true) ∧
      ∀ c ∈ left.head?, startsAttribute c = false → rest.length < left.length := by
  induction left with
  | nil => exact ⟨[], List.suffix_rfl, skipGap_angle after, nofun, nofun⟩
  | cons c left ih =>
      obtain ⟨rest, hsuffix, hskip, hstarts, -⟩ := ih h.tail
      have hlength : rest.length < (c :: left).length := Nat.lt_succ_of_le hsuffix.length_le
      rw [List.cons_append, skipGap]
      by_cases hblank : isBlank c = true
      · rw [if_pos hblank]
        exact ⟨rest, hsuffix.trans (List.suffix_cons c left), hskip, hstarts, fun _ _ _ => hlength⟩
      · rw [if_neg hblank]
        by_cases hslash : c = '/'
        · have hnext : (left ++ '>' :: after).head? ≠ some '>' := by
            cases left with
            | nil =>
                have hquote := h.quoted c rfl
                rw [hslash] at hquote
                cases hquote
            | cons d left =>
                rintro ⟨⟩
                exact h.no_angle (by simp)
          have hgap : (c == '/' && (left ++ '>' :: after).head? != some '>') = true := by
            rw [hslash, bne_iff_ne.mpr hnext]
            rfl
          rw [if_pos hgap]
          exact ⟨rest, hsuffix.trans (List.suffix_cons c left), hskip, hstarts,
            fun _ _ _ => hlength⟩
        · have hangle : c ≠ '>' := by
            rintro rfl
            exact h.no_angle List.mem_cons_self
          have hstart : startsAttribute c = true := by
            simp [startsAttribute, hblank, hslash, hangle]
          rw [if_neg (by simp [hslash])]
          refine ⟨c :: left, List.suffix_rfl, rfl, ?_, ?_⟩
          · rintro d ⟨⟩
            exact hstart
          · rintro d ⟨⟩ hno
            rw [hstart] at hno
            cases hno

/-! ### Values -/

theorem drop_length_takeWhile (p : Char → Bool) (t : Text) :
    t.drop (t.takeWhile p).length = t.dropWhile p := by
  have hdrop : (t.takeWhile p ++ t.dropWhile p).drop (t.takeWhile p).length = t.dropWhile p :=
    List.drop_left
  rwa [List.takeWhile_append_dropWhile] at hdrop

/-- A place behind a part of a loose tag: one that is further on in the tag, or the one behind
the next quote after the tag. -/
def Behind (left beforeQuote afterQuote place : Text) : Prop :=
  (∃ rest, rest <:+ left ∧ place = rest ++ '>' :: (beforeQuote ++ '"' :: afterQuote)) ∨
    place = afterQuote

theorem Behind.mono {left more beforeQuote afterQuote place : Text}
    (h : Behind left beforeQuote afterQuote place) (hsuffix : left <:+ more) :
    Behind more beforeQuote afterQuote place :=
  h.imp (fun ⟨rest, hrest, hplace⟩ => ⟨rest, hrest.trans hsuffix, hplace⟩) id

variable {left beforeQuote : Text}

/-- A quote never stays open: if none closes it in the tag, the next one after the tag does. -/
theorem Loose.exists_value? (h : Loose left) (hbefore : '"' ∉ beforeQuote) (afterQuote : Text) :
    ∃ value place, value? (left ++ '>' :: (beforeQuote ++ '"' :: afterQuote)) =
      some (value, place) ∧ Behind left beforeQuote afterQuote place := by
  have hbare : isBareChar '>' = false := by decide
  cases left with
  | nil => exact ⟨_, _, rfl, .inl ⟨[], List.suffix_rfl, rfl⟩⟩
  | cons c left =>
      rw [List.cons_append, value?]
      by_cases hquote : isQuote c = true
      · have hc : c = '"' := by
          rw [isQuote, Bool.or_eq_true, beq_iff_eq, beq_iff_eq] at hquote
          refine hquote.resolve_left ?_
          rintro rfl
          exact h.no_apostrophe List.mem_cons_self
        rw [if_pos hquote, hc]
        by_cases hinside : '"' ∈ left
        · obtain ⟨front, back, rfl, hfront⟩ := List.eq_append_cons_of_mem hinside
          rw [List.append_assoc, List.cons_append, (Text.cut_append hfront _).2]
          refine ⟨_, _, rfl, .inl ⟨back, ?_, rfl⟩⟩
          exact ⟨c :: front ++ ['"'], by simp [hc]⟩
        · have hlast : left = [] := by
            rcases List.eq_nil_or_concat left with hnil | ⟨front, d, rfl⟩
            · exact hnil
            · have hd : d = '"' := h.quoted d (by simp [List.getLast?_cons])
              exact absurd (by simp [hd]) hinside
          subst hlast
          have hangle : '"' ∉ '>' :: beforeQuote := by simp [hbefore]
          have hdrop := (Text.cut_append hangle afterQuote).2
          rw [List.cons_append] at hdrop
          rw [List.nil_append, hdrop]
          exact ⟨_, _, rfl, .inr rfl⟩
      · rw [if_neg hquote, ← List.cons_append, dropWhile_append_of_angle hbare]
        exact ⟨_, _, rfl, .inl ⟨_, List.dropWhile_suffix _, rfl⟩⟩

theorem assignment?_of_no_sign {t : Text} (h : (t.dropWhile isBlank).head? ≠ some '=') :
    assignment? t = none := by
  have hsigns : (t.dropWhile isBlank).takeWhile (· == '=') = [] := by
    cases hat : t.dropWhile isBlank with
    | nil => rfl
    | cons c rest =>
        rw [hat] at h
        exact List.takeWhile_cons_of_neg (by simpa using h)
  simp only [assignment?, hsigns, List.isEmpty_nil, ite_true]

theorem assignment?_of_sign {t : Text} (h : (t.dropWhile isBlank).head? = some '=')
    {found : Text × Text}
    (hvalue : value? (((t.dropWhile isBlank).dropWhile (· == '=')).dropWhile isBlank) =
      some found) : assignment? t = some found := by
  have hsigns : ((t.dropWhile isBlank).takeWhile (· == '=')).isEmpty = false := by
    obtain ⟨rest, hrest⟩ := List.head?_eq_some_iff.mp h
    rw [hrest, List.takeWhile_cons_of_pos (by simp)]
    rfl
  simp only [assignment?, hsigns, Bool.false_eq_true, ite_false, drop_length_takeWhile, hvalue]

/-- An equals sign behind a name is followed by a value. -/
theorem Loose.assignment?_cases (h : Loose left) (hbefore : '"' ∉ beforeQuote)
    (afterQuote : Text) :
    ((∀ c ∈ left.head?, c ≠ '=') ∧
        assignment? (left ++ '>' :: (beforeQuote ++ '"' :: afterQuote)) = none) ∨
      ∃ value place, assignment? (left ++ '>' :: (beforeQuote ++ '"' :: afterQuote)) =
        some (value, place) ∧ Behind left beforeQuote afterQuote place := by
  have hblank : isBlank '>' = false := by decide
  have hangle : (fun c => c == '=') '>' = false := by decide
  have hatSign := dropWhile_append_of_angle hblank left (beforeQuote ++ '"' :: afterQuote)
  by_cases hsign : (left.dropWhile isBlank).head? = some '='
  · right
    have hhead : ((left ++ '>' :: (beforeQuote ++ '"' :: afterQuote)).dropWhile isBlank).head? =
        some '=' := by
      obtain ⟨rest, hrest⟩ := List.head?_eq_some_iff.mp hsign
      rw [hatSign, hrest]
      rfl
    have hsuffix : ((left.dropWhile isBlank).dropWhile (· == '=')).dropWhile isBlank <:+ left :=
      ((List.dropWhile_suffix _).trans (List.dropWhile_suffix _)).trans (List.dropWhile_suffix _)
    obtain ⟨value, place, hvalue, hplace⟩ :=
      (h.of_suffix hsuffix).exists_value? hbefore afterQuote
    refine ⟨value, place, assignment?_of_sign hhead ?_, hplace.mono hsuffix⟩
    rw [hatSign, dropWhile_append_of_angle hangle, dropWhile_append_of_angle hblank]
    exact hvalue
  · left
    refine ⟨?_, assignment?_of_no_sign ?_⟩
    · rintro c hc rfl
      obtain ⟨rest, rfl⟩ := List.head?_eq_some_iff.mp hc
      exact hsign rfl
    · rw [hatSign]
      cases hat : left.dropWhile isBlank with
      | nil => simp
      | cons c rest =>
          rw [hat] at hsign
          exact hsign

/-! ### Attributes -/

/-- An attribute of a loose tag ends in the tag, where another one may start, or behind the next
quote after it. -/
theorem Loose.read_attribute {c : Char} (h : Loose (c :: left)) (hbefore : '"' ∉ beforeQuote)
    (afterQuote : Text) :
    let first := SpelledAttribute.read c (left ++ '>' :: (beforeQuote ++ '"' :: afterQuote))
    (∃ rest, rest <:+ left ∧ first.rest = rest ++ '>' :: (beforeQuote ++ '"' :: afterQuote) ∧
        (∀ d ∈ rest.head?, startsAttribute d = true) ∧
        (rest ≠ [] → first.mayContinue = true)) ∨
      first.rest = skipGap afterQuote ∧ first.mayContinue = true := by
  intro first
  have hname : isAttributeNameChar '>' = false := by decide
  have hdrop := dropWhile_append_of_angle hname left (beforeQuote ++ '"' :: afterQuote)
  have hsuffix : left.dropWhile isAttributeNameChar <:+ left := List.dropWhile_suffix _
  have hloose := h.tail.of_suffix hsuffix
  rcases hloose.assignment?_cases hbefore afterQuote with
    ⟨hsign, hnone⟩ | ⟨value, place, hsome, hplace⟩
  · left
    obtain ⟨rest, hrest, hskip, hstarts, hshorter⟩ :=
      hloose.exists_skipGap (beforeQuote ++ '"' :: afterQuote)
    have hfirst : first.rest = rest ++ '>' :: (beforeQuote ++ '"' :: afterQuote) := by
      simp only [first, SpelledAttribute.read, hdrop, hnone, hskip]
    refine ⟨rest, hrest.trans hsuffix, hfirst, hstarts, fun hne => ?_⟩
    -- What ends the name is neither the end of the tag nor an equals sign, so a gap follows.
    have hlt : rest.length < (left.dropWhile isAttributeNameChar).length := by
      cases hleft : left.dropWhile isAttributeNameChar with
      | nil =>
          rw [hleft] at hrest
          exact absurd (List.suffix_nil.mp hrest) hne
      | cons d more =>
          have hd := List.head?_dropWhile_not isAttributeNameChar left
          rw [hleft] at hd hsign hshorter
          refine hshorter d rfl ?_
          have hequals := hsign d rfl
          simpa [isAttributeNameChar, startsAttribute, hequals] using hd
    have hgap : (rest ++ '>' :: (beforeQuote ++ '"' :: afterQuote)).length <
        (left.dropWhile isAttributeNameChar ++
          '>' :: (beforeQuote ++ '"' :: afterQuote)).length := by
      rw [List.length_append, List.length_append]
      omega
    simp only [first, SpelledAttribute.read, hdrop, hnone, hskip, hgap, decide_true, Bool.or_true]
  · have hfirst : first.rest = skipGap place ∧ first.mayContinue = true := by
      simp only [first, SpelledAttribute.read, hdrop, hsome, and_self]
    rcases hplace with ⟨rest, hrest, rfl⟩ | rfl
    · left
      obtain ⟨more, hmore, hskip, hstarts, -⟩ :=
        (hloose.of_suffix hrest).exists_skipGap (beforeQuote ++ '"' :: afterQuote)
      exact ⟨more, (hmore.trans hrest).trans hsuffix, hfirst.1.trans hskip, hstarts,
        fun _ => hfirst.2⟩
    · exact .inr hfirst

/-- A last attribute without a value. -/
theorem exists_attributes_word {word : Text} (hne : word ≠ [])
    (h : word.all isAttributeNameChar = true) (after : Text) :
    ∃ found, attributes true (skipGap (word ++ '>' :: after)) = (found, '>' :: after) := by
  obtain ⟨c, rest, rfl⟩ := List.exists_cons_of_ne_nil hne
  rw [List.all_cons, Bool.and_eq_true] at h
  have hname : isAttributeNameChar '>' = false := by decide
  have hdrop : (rest ++ '>' :: after).dropWhile isAttributeNameChar = '>' :: after := by
    rw [dropWhile_append_of_angle hname, List.dropWhile_eq_nil_iff.mpr (List.all_eq_true.mp h.2),
      List.nil_append]
  have hnone : assignment? ('>' :: after) = none := by
    refine assignment?_of_no_sign ?_
    rw [List.dropWhile_cons_of_neg (by decide)]
    rintro ⟨⟩
  have hread : (SpelledAttribute.read c (rest ++ '>' :: after)).rest = '>' :: after := by
    simp only [SpelledAttribute.read, hdrop, hnone, skipGap_angle]
  rw [List.cons_append, skipGap_of_isAttributeNameChar h.1, attributes]
  simp only [isAttributeNameChar_startsAttribute h.1, Bool.and_self, ite_true, hread,
    attributes_angle]
  exact ⟨_, rfl⟩

/-- The attributes of a loose tag end at its closing bracket or, where its last quote opens a
value, at the next one behind the quote after that. -/
theorem Loose.exists_attributes (h : Loose left) (hbefore : '"' ∉ beforeQuote) {word : Text}
    (hne : word ≠ []) (hword : word.all isAttributeNameChar = true) (after : Text)
    {mayStart : Bool} (hmay : left ≠ [] → mayStart = true)
    (hstarts : ∀ c ∈ left.head?, startsAttribute c = true) :
    ∃ found, attributes mayStart (left ++ '>' :: (beforeQuote ++ '"' :: (word ++ '>' :: after))) =
        (found, '>' :: (beforeQuote ++ '"' :: (word ++ '>' :: after))) ∨
      attributes mayStart (left ++ '>' :: (beforeQuote ++ '"' :: (word ++ '>' :: after))) =
        (found, '>' :: after) := by
  induction hlength : left.length using Nat.strong_induction_on generalizing left mayStart with
  | _ length ih =>
      cases left with
      | nil => exact ⟨[], .inl (attributes_angle mayStart _)⟩
      | cons c left =>
          obtain rfl := hmay (List.cons_ne_nil c left)
          have hc := hstarts c rfl
          rw [List.cons_append, attributes]
          simp only [hc, Bool.and_self, ite_true]
          rcases h.read_attribute hbefore (word ++ '>' :: after) with
            ⟨rest, hrest, hfirst, hnext, hcontinue⟩ | ⟨hfirst, hcontinue⟩
          · have hlt : rest.length < length := by
              have := hrest.length_le
              rw [List.length_cons] at hlength
              omega
            obtain ⟨found, hfound⟩ :=
              ih rest.length hlt (h.tail.of_suffix hrest) hcontinue hnext rfl
            rw [hfirst]
            rcases hfound with hfound | hfound <;> rw [hfound]
            · exact ⟨_, .inl rfl⟩
            · exact ⟨_, .inr rfl⟩
          · obtain ⟨found, hfound⟩ := exists_attributes_word hne hword after
            rw [hfirst, hcontinue, hfound]
            exact ⟨_, .inr rfl⟩

/-! ### The tag -/

theorem startHead_of_attributes {name body after : Text}
    (hname : name.all (!endsTagName ·) = true) {found : List (Text × Option Text)}
    (hfound : attributes true (skipGap body) = (found, '>' :: after)) :
    startHead (name ++ ' ' :: body) = (.startTag name.lower found false, after) := by
  have htake : (name ++ ' ' :: body).takeWhile (!endsTagName ·) = name := by
    rw [List.takeWhile_append_of_pos (List.all_eq_true.mp hname),
      List.takeWhile_cons_of_neg (by decide), List.append_nil]
  have hskip : skipGap (' ' :: body) = skipGap body := by
    rw [skipGap, if_pos (by decide)]
  have hgap : (skipGap body).length < (' ' :: body).length :=
    Nat.lt_succ_of_le (length_skipGap_le body)
  simp only [startHead, StartTag.read, htake, List.drop_left, hskip, hgap, decide_true,
    Bool.true_or, hfound]
  rfl

/-- The start tag with loose attributes behind a blank. -/
theorem Loose.exists_startHead (h : Loose left) (hbefore : '"' ∉ beforeQuote) {word : Text}
    (hne : word ≠ []) (hword : word.all isAttributeNameChar = true) {name : Text}
    (hname : name.all (!endsTagName ·) = true) (after : Text) :
    ∃ found,
      startHead (name ++ ' ' :: (left ++
          '>' :: (beforeQuote ++ '"' :: (word ++ '>' :: after)))) =
        (.startTag name.lower found false, beforeQuote ++ '"' :: (word ++ '>' :: after)) ∨
      startHead (name ++ ' ' :: (left ++
          '>' :: (beforeQuote ++ '"' :: (word ++ '>' :: after)))) =
        (.startTag name.lower found false, after) := by
  obtain ⟨rest, hrest, hskip, hstarts, -⟩ :=
    h.exists_skipGap (beforeQuote ++ '"' :: (word ++ '>' :: after))
  obtain ⟨found, hfound⟩ := (h.of_suffix hrest).exists_attributes hbefore hne hword after
    (fun _ => rfl) hstarts
  rw [← hskip] at hfound
  exact ⟨found, hfound.imp (startHead_of_attributes hname) (startHead_of_attributes hname)⟩

end CypherPages.Html

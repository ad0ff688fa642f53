import CypherPages.Proofs.Html.Piece

/-! # Lexemes of tags

A tag stands between an opening bracket and a closing one. Reading a start tag leaves a tail of
the text behind its closing bracket, so a bracket in a quoted value does not end it; an end tag
ends at the first closing bracket. -/

namespace CypherPages.Html

/-! ### What reading a start tag leaves -/

theorem skipGap_suffix (t : Text) : skipGap t <:+ t := by
  fun_induction skipGap t with
  | case1 => exact List.suffix_rfl
  | case2 c rest _ ih => exact ih.trans (List.suffix_cons c rest)
  | case3 c rest _ _ ih => exact ih.trans (List.suffix_cons c rest)
  | case4 => exact List.suffix_rfl

theorem value?_suffix {t : Text} {found : Text × Text} (h : value? t = some found) :
    found.2 <:+ t := by
  unfold value? at h
  split at h
  · obtain rfl := Option.some.inj h
    exact List.suffix_rfl
  · next c rest =>
    split at h
    · split at h
      · cases h
      · next d after hdrop =>
          obtain rfl := Option.some.inj h
          have hrest : d :: after <:+ rest := hdrop ▸ List.dropWhile_suffix _
          exact ((List.suffix_cons d after).trans hrest).trans (List.suffix_cons c rest)
    · obtain rfl := Option.some.inj h
      exact List.dropWhile_suffix _

theorem assignment?_suffix {t : Text} {found : Text × Text} (h : assignment? t = some found) :
    found.2 <:+ t := by
  unfold assignment? at h
  have hsign : t.dropWhile isBlank <:+ t := List.dropWhile_suffix _
  simp only at h
  split at h
  · cases h
  · split at h
    · next found' hvalue =>
        obtain rfl := Option.some.inj h
        exact (value?_suffix hvalue).trans
          ((List.drop_suffix _ _).trans ((List.drop_suffix _ _).trans hsign))
    · split at h
      · obtain rfl := Option.some.inj h
        exact (List.drop_suffix _ _).trans ((List.drop_suffix _ _).trans hsign)
      · split at h
        · obtain rfl := Option.some.inj h
          exact (List.dropWhile_suffix _).trans
            ((List.drop_suffix _ _).trans ((List.drop_suffix _ _).trans hsign))
        · cases h

theorem SpelledAttribute.read_suffix (c : Char) (t : Text) :
    (SpelledAttribute.read c t).rest <:+ t := by
  have hname : t.dropWhile isAttributeNameChar <:+ t := List.dropWhile_suffix _
  simp only [SpelledAttribute.read]
  split
  · next value after hassignment =>
      exact (skipGap_suffix after).trans ((assignment?_suffix hassignment).trans hname)
  · exact (skipGap_suffix _).trans hname

theorem attributes_suffix (mayStart : Bool) (t : Text) : (attributes mayStart t).2 <:+ t := by
  fun_induction attributes mayStart t with
  | case1 => exact List.suffix_rfl
  | case2 mayStart c rest _ first _ others final hrest ih =>
      rw [hrest] at ih
      exact ih.trans ((SpelledAttribute.read_suffix c rest).trans (List.suffix_cons c rest))
  | case3 => exact List.suffix_rfl

theorem tagEnd_closed {t rest : Text} {selfClosing : Bool}
    (h : tagEnd t = (.closed selfClosing, rest)) : '>' :: rest <:+ t := by
  unfold tagEnd at h
  split at h
  · obtain ⟨-, rfl⟩ := Prod.mk.inj h
    exact List.suffix_rfl
  · obtain ⟨-, rfl⟩ := Prod.mk.inj h
    exact List.suffix_cons _ _
  · cases h
  · have hend := (Prod.mk.inj h).1
    split at hend <;> cases hend

/-- A start tag that is closed leaves what stands behind a closing bracket. -/
theorem StartTag.read_closed {t : Text} {selfClosing : Bool}
    (h : (StartTag.read t).ending = .closed selfClosing) :
    '>' :: (StartTag.read t).rest <:+ t := by
  unfold StartTag.read at h ⊢
  exact (tagEnd_closed (Prod.ext h rfl)).trans
    ((attributes_suffix _ _).trans ((skipGap_suffix _).trans (List.drop_suffix _ _)))

/-! ### The token at the head of a text -/

theorem afterAngle?_eq_some {t after : Text} (h : afterAngle? t = some after) :
    ∃ inner, '>' ∉ inner ∧ t = inner ++ '>' :: after := by
  unfold afterAngle? at h
  split at h
  · next d rest hdrop =>
      obtain rfl := Option.some.inj h
      have hd : d = '>' := by
        have hhead := List.head?_dropWhile_not (fun c : Char => decide (c ≠ '>')) t
        rw [hdrop] at hhead
        simpa using hhead
      refine ⟨t.takeWhile (· ≠ '>'), fun hmem => ?_, ?_⟩
      · simpa using List.mem_takeWhile_imp hmem
      · subst hd
        rw [← hdrop, List.takeWhile_append_dropWhile]
  · cases h

theorem closesAngle?_eq_some {t after : Text} (h : closesAngle? t = some after) :
    ∃ blanks, blanks.all isBlank = true ∧ t = blanks ++ '>' :: after := by
  unfold closesAngle? Text.trimLeft at h
  split at h
  · next rest hdrop =>
      obtain rfl := Option.some.inj h
      refine ⟨t.takeWhile isBlank, List.all_takeWhile, ?_⟩
      rw [← hdrop, List.takeWhile_append_dropWhile]
  · cases h

theorem not_mem_of_all_isBlank {blanks : Text} (h : blanks.all isBlank = true) :
    '>' ∉ blanks := by
  intro hmem
  have := List.all_eq_true.mp h '>' hmem
  revert this
  decide

/-- The end tag of a raw element holds no bracket before its closing one. -/
theorem closesRaw?_eq_some {name t after : Text} (hname : '>' ∉ name)
    (h : closesRaw? name t = some after) :
    ∃ inner, '>' ∉ inner ∧ t = '<' :: (inner ++ '>' :: after) := by
  unfold closesRaw? at h
  split at h
  · next rest =>
      dsimp only at h
      split at h
      · next hlower =>
          obtain ⟨blanks, hblanks, hdrop⟩ := closesAngle?_eq_some h
          have hspelled : '>' ∉ (rest.dropWhile isBlank).take name.length := by
            intro hmem
            apply hname
            rw [← beq_iff_eq.mp hlower, List.mem_map]
            exact ⟨'>', hmem, by decide⟩
          refine ⟨'/' :: (rest.takeWhile isBlank ++
            ((rest.dropWhile isBlank).take name.length ++ blanks)), ?_, ?_⟩
          · simp [hspelled, not_mem_of_all_isBlank hblanks,
              not_mem_of_all_isBlank List.all_takeWhile]
          · rw [List.cons_append, List.append_assoc, List.append_assoc, ← hdrop,
              List.take_append_drop, List.takeWhile_append_dropWhile]
      · cases h
  · cases h

theorem exists_text_of_incompleteHead (rest : Text) :
    ∃ decoded, (incompleteHead rest).1 = .text decoded := by
  unfold incompleteHead
  split
  · exact ⟨_, rfl⟩
  · split <;> exact ⟨_, rfl⟩

theorem endTagEvent_ne_startTag (inner name : Text) (attributes : List (Text × Option Text))
    (selfClosing : Bool) : endTagEvent inner ≠ .startTag name attributes selfClosing := by
  simp only [endTagEvent]
  split
  · simp
  · split <;> simp

/-- What an opening bracket starts, by what it tells a reader. -/
theorem bracketHead_cases {rest after : Text} {event : Event}
    (h : bracketHead rest = .ok (event, after)) :
    (∃ decoded, event = .text decoded) ∨ event = .skipped ∨
      (∃ inner, '>' ∉ inner ∧ event = endTagEvent inner ∧ rest = '/' :: (inner ++ '>' :: after)) ∨
      ∃ name attributes selfClosing,
        event = .startTag name attributes selfClosing ∧ '>' :: after <:+ rest := by
  have hincomplete (heq : incompleteHead rest = (event, after)) :
      ∃ decoded, event = .text decoded := by
    obtain ⟨decoded, htext⟩ := exists_text_of_incompleteHead rest
    exact ⟨decoded, by rw [← htext, heq]⟩
  unfold bracketHead at h
  split at h
  · exact .inl ⟨_, (Prod.mk.inj (Except.ok.inj h)).1.symm⟩
  · next inner =>
      split at h
      · next hafter =>
          obtain ⟨rfl, rfl⟩ := Prod.mk.inj (Except.ok.inj h)
          obtain ⟨found, hangle, rfl⟩ := afterAngle?_eq_some hafter
          rw [(Text.cut_append hangle _).1]
          exact .inr (.inr (.inl ⟨found, hangle, rfl, rfl⟩))
      · exact .inl (hincomplete (Except.ok.inj h))
  · next inner =>
      cases hdeclaration : afterDeclaration inner with
      | error refusal =>
          rw [hdeclaration] at h
          cases h
      | ok found =>
          rw [hdeclaration] at h
          cases found with
          | none => exact .inl (hincomplete (Except.ok.inj h))
          | some found => exact .inr (.inl (Prod.mk.inj (Except.ok.inj h)).1.symm)
  · split at h
    · exact .inr (.inl (Prod.mk.inj (Except.ok.inj h)).1.symm)
    · exact .inl (hincomplete (Except.ok.inj h))
  · next c tail =>
      split at h
      · have hstart := Except.ok.inj h
        simp only [startHead] at hstart
        split at hstart
        · next hending =>
            obtain ⟨rfl, rfl⟩ := Prod.mk.inj hstart
            exact .inr (.inr (.inr ⟨_, _, _, rfl, StartTag.read_closed hending⟩))
        · exact .inl (hincomplete hstart)
        · exact .inl ⟨_, (Prod.mk.inj hstart).1.symm⟩
      · exact .inl ⟨_, (Prod.mk.inj (Except.ok.inj h)).1.symm⟩

/-! ### Tokens -/

/-- What the lexeme of a token looks like. The closing bracket of a start tag is its last
character, that of an end tag is its first closing bracket as well. -/
structure Token.Spelled (token : Token) : Prop where
  lexeme_ne_nil : token.lexeme ≠ []
  startTag : ∀ name attributes selfClosing, token.event = .startTag name attributes selfClosing →
    ∃ inner, token.lexeme = inner ++ ['>']
  endTag : ∀ name, token.event = .endTag name →
    ∃ inner, '>' ∉ inner ∧ token.lexeme = inner ++ ['>']

/-- A token whose lexeme stands before what the head of a text leaves. -/
theorem spelled_of_head {openElement : Option Text} (hopen : ∀ name ∈ openElement, '>' ∉ name)
    {c : Char} {rest after : Text} {event : Event}
    (h : head openElement c rest = .ok (event, after)) :
    Token.Spelled ⟨c :: rest.take (rest.length - after.length), event⟩ := by
  have htake {inner : Text} (hrest : rest = inner ++ '>' :: after) :
      rest.take (rest.length - after.length) = inner ++ ['>'] := by
    rw [hrest, show inner ++ '>' :: after = inner ++ ['>'] ++ after by simp, List.length_append,
      Nat.add_sub_cancel, List.take_left]
  have hstart {name : Text} {attributes : List (Text × Option Text)} {selfClosing : Bool}
      (hevent : event = .startTag name attributes selfClosing) (hsuffix : '>' :: after <:+ rest) :
      Token.Spelled ⟨c :: rest.take (rest.length - after.length), event⟩ := by
    obtain ⟨inner, hrest⟩ := hsuffix
    refine ⟨List.cons_ne_nil _ _, fun _ _ _ _ => ⟨c :: inner, ?_⟩, fun name hend => ?_⟩
    · rw [htake hrest.symm, List.cons_append]
    · rw [hevent] at hend
      cases hend
  have hend (inner : Text) (hevent : ∀ name attributes selfClosing,
      event ≠ .startTag name attributes selfClosing) (hinner : '>' ∉ c :: inner)
      (hrest : rest = inner ++ '>' :: after) :
      Token.Spelled ⟨c :: rest.take (rest.length - after.length), event⟩ := by
    refine ⟨List.cons_ne_nil _ _, fun name attributes selfClosing hstart => ?_,
      fun _ _ => ⟨c :: inner, hinner, ?_⟩⟩
    · exact absurd hstart (hevent name attributes selfClosing)
    · rw [htake hrest, List.cons_append]
  have hother (hstart : ∀ name attributes selfClosing,
      event ≠ .startTag name attributes selfClosing) (hend : ∀ name, event ≠ .endTag name) :
      Token.Spelled ⟨c :: rest.take (rest.length - after.length), event⟩ :=
    ⟨List.cons_ne_nil _ _, fun _ _ _ h => absurd h (hstart _ _ _), fun _ h => absurd h (hend _)⟩
  unfold head at h
  split at h
  · next name =>
      simp only [Except.ok.injEq, rawHead] at h
      split at h
      · next hcloses =>
          obtain ⟨rfl, rfl⟩ := Prod.mk.inj h
          obtain ⟨inner, hinner, hsplit⟩ := closesRaw?_eq_some (hopen name rfl) hcloses
          obtain ⟨rfl, hrest⟩ := List.cons.inj hsplit
          exact hend inner (by simp) (by simpa using hinner) hrest
      · split at h <;> obtain ⟨rfl, rfl⟩ := Prod.mk.inj h <;> exact hother (by simp) (by simp)
  · split at h
    · next hc =>
        rcases bracketHead_cases h with ⟨decoded, rfl⟩ | rfl | ⟨inner, hinner, rfl, hrest⟩ |
          ⟨name, attributes, selfClosing, hevent, hsuffix⟩
        · exact hother (by simp) (by simp)
        · exact hother (by simp) (by simp)
        · exact hend ('/' :: inner) (endTagEvent_ne_startTag inner)
            (by simpa [hc] using hinner) hrest
        · exact hstart hevent hsuffix
    · obtain ⟨rfl, rfl⟩ := Prod.mk.inj (Except.ok.inj h)
      exact hother (by simp) (by simp)

theorem not_mem_rawAfter {openElement : Option Text} (hopen : ∀ name ∈ openElement, '>' ∉ name)
    (event : Event) : ∀ name ∈ rawAfter openElement event, '>' ∉ name := by
  intro name hname
  unfold rawAfter at hname
  split at hname
  · split at hname
    · next hraw =>
        obtain rfl := Option.some.inj hname
        rcases eq_of_isRawElement hraw with rfl | rfl <;> decide
    · cases hname
  · cases hname
  · exact hopen name hname

theorem spelled_of_tokensIn {openElement : Option Text}
    (hopen : ∀ name ∈ openElement, '>' ∉ name) {page : Text} {found : List Token}
    (h : tokensIn openElement page = .ok found) : ∀ token ∈ found, token.Spelled := by
  fun_induction tokensIn openElement page generalizing found with
  | case1 =>
      cases h
      simp
  | case2 => cases h
  | case3 => cases h
  | case4 openElement c rest event after hhead length others hothers ih =>
      cases h
      intro token htoken
      rcases List.mem_cons.mp htoken with rfl | htoken
      · exact spelled_of_head hopen hhead
      · exact ih (not_mem_rawAfter hopen event) hothers token htoken

theorem spelled_of_tokens {page : Text} {found : List Token} (h : tokens page = .ok found) :
    ∀ token ∈ found, token.Spelled :=
  spelled_of_tokensIn (fun _ hname => by cases hname) h

end CypherPages.Html

import CypherPages.Proofs.Entries
import CypherPages.Proofs.Json.Limits
import CypherPages.Proofs.Json.Strings

/-! # Reading JSON back

A value without doubles and overlong integers that is written as JSON, with a backslash in every
`</`, reads as the value that it was. -/

namespace CypherPages.Json
open Dependency (guardEndTags)

/-! ### Steps of reading -/

section Steps

variable {decoder inner : Decoder} {t left after rest : Text} {value : Json}

theorem skipSpace_cons {c : Char} (h : isSpace c = false) (t : Text) :
    skipSpace (c :: t) = c :: t :=
  List.dropWhile_cons_of_neg (by rw [h]; exact Bool.false_ne_true)

theorem readValue_string {s : Text} (h : Finds (readString decoder.half ('"' :: t) t) s rest) :
    Finds (readValue decoder ('"' :: t)) (.string s) rest := by
  obtain ⟨shorter, h⟩ := h
  refine ⟨Nat.lt_succ_of_lt shorter, ?_⟩
  rw [readValue, h]

theorem readValue_scalar {c : Char} {length : ℕ} (h : scalar? (c :: t) = some (value, length))
    (hshort : value.overlongDigits? = none) (hc : c ≠ '"' ∧ c ≠ '[' ∧ c ≠ '{') :
    Finds (readValue decoder (c :: t)) value (t.drop (length - 1)) := by
  refine ⟨by simp only [List.length_drop, List.length_cons]; omega, ?_⟩
  rw [readValue]
  · simp only [h, hshort]
  · exact fun heq => absurd heq hc.1
  · exact fun heq => absurd heq hc.2.1
  · exact fun heq => absurd heq hc.2.2

theorem readValue_array_nil (h : decoder.enter? = some inner) (rest : Text) :
    Finds (readValue decoder ('[' :: ']' :: rest)) (.array []) rest := by
  refine ⟨by simp only [List.length_cons]; omega, ?_⟩
  rw [readValue, h]
  rfl

theorem readValue_array {items : List Json} (henter : decoder.enter? = some inner)
    (hopen : (skipSpace t).head? ≠ some ']')
    (h : Finds (readItems inner (skipSpace t)) items rest) :
    Finds (readValue decoder ('[' :: t)) (.array items) rest := by
  obtain ⟨shorter, h⟩ := h
  have hle := length_skipSpace_le t
  refine ⟨by simp only [List.length_cons]; omega, ?_⟩
  rw [readValue, henter]
  dsimp only
  split
  · next heq =>
      rw [heq] at hopen
      exact absurd rfl hopen
  · simp only [h]

/-- What stands behind an item: the closing bracket, or a comma and further items. -/
inductive Continues {α : Type} (reader : (t : Text) → Except Failure (Scanned (List α) t))
    (close : Char) (left : Text) : List α → Text → Prop
  | last {rest : Text} (h : skipSpace left = close :: rest) : Continues reader close left [] rest
  | more {after rest : Text} {items : List α} (h : skipSpace left = ',' :: after)
      (hitems : Finds (reader (skipSpace after)) items rest) :
      Continues reader close left items rest

theorem Continues.shorter {α : Type} {reader : (t : Text) → Except Failure (Scanned (List α) t)}
    {close : Char} {items : List α} (h : Continues reader close left items rest) :
    rest.length < left.length := by
  have hle := length_skipSpace_le left
  cases h with
  | last h =>
      rw [h, List.length_cons] at hle
      omega
  | @more after _ _ h hitems =>
      obtain ⟨shorter, -⟩ := hitems
      have hle' := length_skipSpace_le after
      rw [h, List.length_cons] at hle
      omega

theorem readItems_cons {items : List Json} (h : Finds (readValue decoder t) value left)
    (hitems : Continues (readItems decoder) ']' left items rest) :
    Finds (readItems decoder t) (value :: items) rest := by
  obtain ⟨shorter, h⟩ := h
  have hlt := Nat.lt_trans hitems.shorter shorter
  refine ⟨hlt, ?_⟩
  rw [readItems, h]
  dsimp only
  cases hitems with
  | last hleft =>
      split
      · next heq =>
          obtain rfl := (List.cons.inj (hleft.symm.trans heq)).2
          rfl
      · next heq => cases hleft.symm.trans heq
      · next hclose _ => exact absurd hleft (hclose rest)
  | @more after _ _ hleft hitems =>
      obtain ⟨shorter', hitems⟩ := hitems
      split
      · next heq => cases hleft.symm.trans heq
      · next heq =>
          obtain rfl := (List.cons.inj (hleft.symm.trans heq)).2
          rw [hitems]
      · next hcomma => exact absurd hleft (hcomma after)

theorem readValue_object_nil (h : decoder.enter? = some inner) (rest : Text) :
    Finds (readValue decoder ('{' :: '}' :: rest)) (.object []) rest := by
  refine ⟨by simp only [List.length_cons]; omega, ?_⟩
  rw [readValue, h]
  rfl

theorem readValue_object {fields : List (Text × Json)} (henter : decoder.enter? = some inner)
    (hopen : (skipSpace t).head? ≠ some '}')
    (h : Finds (readMembers inner (skipSpace t)) fields rest) :
    Finds (readValue decoder ('{' :: t)) (.object (Entries.ofPairs fields)) rest := by
  obtain ⟨shorter, h⟩ := h
  have hle := length_skipSpace_le t
  refine ⟨by simp only [List.length_cons]; omega, ?_⟩
  rw [readValue, henter]
  dsimp only
  split
  · next heq =>
      rw [heq] at hopen
      exact absurd rfl hopen
  · simp only [h]

theorem readMembers_cons {name afterName : Text}
    (hname : Finds (readString decoder.half ('"' :: t) t) name afterName)
    (hcolon : skipSpace afterName = ':' :: after)
    (h : Finds (readValue decoder (skipSpace after)) value left) {fields : List (Text × Json)}
    (hfields : Continues (readMembers decoder) '}' left fields rest) :
    Finds (readMembers decoder ('"' :: t)) ((name, value) :: fields) rest := by
  obtain ⟨shorter, h⟩ := h
  obtain ⟨shorter', hname⟩ := hname
  have hrest := hfields.shorter
  have hle := length_skipSpace_le afterName
  have hle' := length_skipSpace_le after
  refine ⟨by simp only [hcolon, List.length_cons] at hle ⊢; omega, ?_⟩
  rw [readMembers, hname]
  dsimp only
  split
  · next heq =>
      obtain rfl := (List.cons.inj (hcolon.symm.trans heq)).2
      rw [h]
      dsimp only
      cases hfields with
      | last hleft =>
          split
          · next heq =>
              obtain rfl := (List.cons.inj (hleft.symm.trans heq)).2
              rfl
          · next heq => cases hleft.symm.trans heq
          · next hclose _ => exact absurd hleft (hclose rest)
      | @more afterComma _ _ hleft hmore =>
          obtain ⟨shorter'', hmore⟩ := hmore
          split
          · next heq => cases hleft.symm.trans heq
          · next heq =>
              obtain rfl := (List.cons.inj (hleft.symm.trans heq)).2
              rw [hmore]
          · next hcomma => exact absurd hleft (hcomma afterComma)
  · next hcolon' => exact absurd hcolon (hcolon' after)

end Steps

/-! ### Literals and numbers -/

/-- What may stand behind a value: nothing, a comma or a closing bracket. -/
def Delimits (rest : Text) : Prop := ∀ c ∈ rest.head?, c ∈ [',', ']', '}']

theorem Delimits.cons {c : Char} (h : c ∈ [',', ']', '}']) (rest : Text) :
    Delimits (c :: rest) := by
  rintro d ⟨⟩
  exact h

theorem Delimits.no_number {rest : Text} (h : Delimits rest) :
    rest.takeWhile Numeral.isDigit = [] ∧ fractionDigits rest = [] ∧ exponentPart rest = [] := by
  cases rest with
  | nil => exact ⟨rfl, rfl, rfl⟩
  | cons c rest =>
      have hc := h c rfl
      simp only [List.mem_cons, List.not_mem_nil, or_false] at hc
      rcases hc with rfl | rfl | rfl <;> exact ⟨rfl, rfl, rfl⟩

theorem wholeDigits_decimal (n : ℕ) {rest : Text} (h : Delimits rest) :
    wholeDigits (Text.decimal n ++ rest) = Text.decimal n := by
  by_cases hzero : n = 0
  · subst hzero
    rfl
  · obtain ⟨c, digits, hdecimal, -⟩ := Numeral.exists_decimal n
    have hall := List.all_eq_true.mp (Numeral.all_isDigit_decimal n)
    have hc : c ≠ '0' := by
      rintro rfl
      exact hzero (Numeral.head?_decimal (by rw [hdecimal]; rfl))
    have hwhole : wholeDigits (c :: (digits ++ rest)) =
        (c :: (digits ++ rest)).takeWhile Numeral.isDigit := by
      unfold wholeDigits
      split
      · next heq => exact absurd (List.cons.inj heq).1 hc
      · rfl
    rw [hdecimal] at hall ⊢
    rw [List.cons_append, hwhole, ← List.cons_append, List.takeWhile_append_of_pos hall,
      h.no_number.1, List.append_nil]

theorem drop_decimal (n : ℕ) (rest : Text) :
    (Text.decimal n ++ rest).drop (Text.decimal n).length = rest := List.drop_left

theorem number?_signedDecimal (n : Int) {rest : Text} (h : Delimits rest) :
    number? (Text.signedDecimal n ++ rest) = some (.int n, (Text.signedDecimal n).length) := by
  obtain ⟨-, hfraction, hexponent⟩ := h.no_number
  have hne : (Text.decimal n.natAbs).isEmpty = false :=
    List.isEmpty_eq_false_iff.mpr Nat.toDigits_ne_nil
  have hvalue := Numeral.ofDigits_decimal n.natAbs
  by_cases hneg : n < 0
  · have hsigned : Text.signedDecimal n = '-' :: Text.decimal n.natAbs := if_pos hneg
    rw [hsigned, List.cons_append, number?]
    simp only [wholeDigits_decimal _ h, hne, Bool.false_eq_true, ite_false, drop_decimal,
      hfraction, List.isEmpty_nil, ite_true, List.drop_zero, hexponent, Bool.and_self, hvalue]
    congr 2
    · congr 1
      omega
    · simp [Nat.add_comm]
  · have hsigned : Text.signedDecimal n = Text.decimal n.natAbs := if_neg hneg
    obtain ⟨c, digits, hdigits, hc⟩ := Numeral.exists_decimal n.natAbs
    have hsign : c ≠ '-' := by
      rintro rfl
      exact absurd hc (by decide)
    rw [hsigned, number?]
    · simp only [wholeDigits_decimal _ h, hne, Bool.false_eq_true, ite_false, drop_decimal,
        hfraction, List.isEmpty_nil, ite_true, List.drop_zero, hexponent, Bool.and_self, hvalue]
      congr 2
      · congr 1
        omega
      · simp
    · intro after heq
      rw [hdigits] at heq
      exact hsign (List.cons.inj heq).1

theorem literals_find?_number {c : Char} (hc : Numeral.isDigit c = true) (t : Text) :
    (literals.find? fun literal => literal.1.isPrefixOf (c :: t)) = none ∧
      (literals.find? fun literal => literal.1.isPrefixOf ('-' :: c :: t)) = none := by
  have hne : ∀ d : Char, Numeral.isDigit d = false → (d == c) = false := by
    intro d hd
    rw [beq_eq_false_iff_ne]
    rintro rfl
    rw [hd] at hc
    cases hc
  simp [literals, List.find?, List.isPrefixOf, hne 'n' (by decide), hne 't' (by decide),
    hne 'f' (by decide), hne 'N' (by decide), hne 'I' (by decide), hne '-' (by decide)]

theorem scalar?_signedDecimal (n : Int) {rest : Text} (h : Delimits rest) :
    scalar? (Text.signedDecimal n ++ rest) = some (.int n, (Text.signedDecimal n).length) := by
  have hnone : (literals.find? fun literal =>
      literal.1.isPrefixOf (Text.signedDecimal n ++ rest)) = none := by
    obtain ⟨c, digits, hdigits, hc⟩ := Numeral.exists_decimal n.natAbs
    rw [Text.signedDecimal, hdigits]
    split
    · exact (literals_find?_number hc (digits ++ rest)).2
    · exact (literals_find?_number hc (digits ++ rest)).1
  rw [scalar?, hnone]
  exact number?_signedDecimal n h

theorem signedDecimal_ne_nil (n : Int) : Text.signedDecimal n ≠ [] := by
  unfold Text.signedDecimal
  split
  · exact List.cons_ne_nil _ _
  · exact Nat.toDigits_ne_nil

/-- A numeral is made of digits and the minus sign. -/
theorem not_mem_signedDecimal {c : Char} (h : c ≠ '-' ∧ Numeral.isDigit c = false) (n : Int) :
    c ∉ Text.signedDecimal n := by
  have hdecimal : c ∉ Text.decimal n.natAbs := by
    intro hmem
    have hdigit := List.all_eq_true.mp (Numeral.all_isDigit_decimal n.natAbs) c hmem
    rw [h.2] at hdigit
    cases hdigit
  unfold Text.signedDecimal
  split
  · rw [List.mem_cons, not_or]
    exact ⟨h.1, hdecimal⟩
  · exact hdecimal

/-! ### Written values -/

/-- Characters with which no value starts. -/
def foreign : Text := " \t\n\r]/\ufeff".toList

/-- No value is written with a blank, a closing bracket, a slash or a byte order mark in front. -/
theorem exists_write {value : Json} (h : Exact value) (style : Style) :
    ∃ c t, write style value = c :: t ∧ c ∉ foreign := by
  cases h with
  | null => exact ⟨_, _, rfl, by decide⟩
  | bool b => cases b <;> exact ⟨_, _, rfl, by decide⟩
  | string s => exact ⟨_, _, rfl, by decide⟩
  | array => exact ⟨_, _, rfl, by decide⟩
  | object => exact ⟨_, _, rfl, by decide⟩
  | int n =>
      obtain ⟨c, t, hwrite⟩ := List.exists_cons_of_ne_nil (signedDecimal_ne_nil n)
      refine ⟨c, t, hwrite, fun hmem => ?_⟩
      have hall : foreign.all (fun d => d ≠ '-' ∧ Numeral.isDigit d = false) = true := by decide
      have hc : c ∈ Text.signedDecimal n := by
        rw [hwrite]
        exact List.mem_cons_self
      exact not_mem_signedDecimal (by simpa using List.all_eq_true.mp hall c hmem) n hc

theorem isSpace_of_not_mem {c : Char} (h : c ∉ foreign) : isSpace c = false := by
  have hne : ∀ d ∈ foreign, c ≠ d := fun d hd heq => h (heq ▸ hd)
  simp [isSpace, hne ' ' (by decide), hne '\t' (by decide), hne '\n' (by decide),
    hne '\r' (by decide)]

/-- What is left to read of a value, and how it starts. -/
theorem skipSpace_guardEndTags {c : Char} (h : c ∉ foreign) (t rest : Text) :
    skipSpace (guardEndTags (c :: t) ++ rest) = guardEndTags (c :: t) ++ rest ∧
      (guardEndTags (c :: t) ++ rest).head? = some c := by
  obtain ⟨after, hafter⟩ := exists_guardEndTags c t
  rw [hafter, List.cons_append]
  exact ⟨skipSpace_cons (isSpace_of_not_mem h) _, rfl⟩

theorem guardEndTags_quote (ascii : Bool) (s rest : Text) :
    guardEndTags (quote ascii s ++ rest) =
      '"' :: (guardEndTags (s.flatMap (escapeChar ascii)) ++ '"' :: guardEndTags rest) := by
  have hsplit : quote ascii s ++ rest =
      '"' :: (s.flatMap (escapeChar ascii) ++ '"' :: rest) := by
    rw [quote, List.cons_append, List.cons_append, List.append_assoc, List.singleton_append]
  have hquote : '"' ≠ '<' := by decide
  rw [hsplit, guardEndTags_cons fun h => absurd h hquote, guardEndTags_append _ (by simp),
    guardEndTags_cons fun h => absurd h hquote]

theorem guardEndTags_comma (first rest : Text) :
    guardEndTags (first ++ ',' :: ' ' :: rest) =
      guardEndTags first ++ ',' :: ' ' :: guardEndTags rest := by
  have hblank : ',' ≠ '<' ∧ ' ' ≠ '<' := by decide
  rw [guardEndTags_append _ (by simp), guardEndTags_cons fun h => absurd h hblank.1,
    guardEndTags_cons fun h => absurd h hblank.2]

theorem skipSpace_blank (t : Text) : skipSpace (' ' :: t) = skipSpace t := rfl

/-- A value that is written reads as it was, whatever may follow a value behind it. -/
def ReadsBack (value : Json) : Prop :=
  ∀ rest, Delimits rest →
    Finds (readValue .standard (guardEndTags (write .spaced value) ++ rest)) value rest

theorem writeItems_cons_cons (item next : Json) (rest : List Json) :
    writeItems .spaced (item :: next :: rest) =
      write .spaced item ++ (',' :: ' ' :: writeItems .spaced (next :: rest)) := by
  rw [writeItems, List.append_assoc]
  · rfl
  · exact List.cons_ne_nil _ _

theorem exists_writeItems {items : List Json} (hne : items ≠ [])
    (h : ∀ item ∈ items, Exact item) :
    ∃ c t, writeItems .spaced items = c :: t ∧ c ∉ foreign := by
  match items, hne with
  | [item], _ =>
      rw [writeItems]
      exact exists_write (h item List.mem_cons_self) .spaced
  | item :: next :: rest, _ =>
      obtain ⟨c, t, hwrite, hc⟩ := exists_write (h item List.mem_cons_self) .spaced
      rw [writeItems_cons_cons, hwrite]
      exact ⟨c, _, rfl, hc⟩

theorem readItems_write {items : List Json} (hne : items ≠ [])
    (hexact : ∀ item ∈ items, Exact item) (h : ∀ item ∈ items, ReadsBack item) (rest : Text) :
    Finds (readItems .standard (guardEndTags (writeItems .spaced items) ++ ']' :: rest)) items
      rest := by
  induction items with
  | nil => exact absurd rfl hne
  | cons item items ih =>
      have hitem := h item List.mem_cons_self
      cases items with
      | nil =>
          rw [writeItems]
          exact readItems_cons (hitem _ (.cons (by decide) rest)) (.last rfl)
      | cons next others =>
          have hothers : ∀ other ∈ next :: others, Exact other := fun other hother =>
            hexact other (List.mem_cons_of_mem _ hother)
          have htail := ih (List.cons_ne_nil _ _) hothers
            fun other hother => h other (List.mem_cons_of_mem _ hother)
          obtain ⟨c, t, hwrite, hc⟩ := exists_writeItems (List.cons_ne_nil _ _) hothers
          rw [writeItems_cons_cons, guardEndTags_comma, List.append_assoc, List.cons_append,
            List.cons_append]
          refine readItems_cons (hitem _ (.cons (by decide) _)) (.more rfl ?_)
          rw [hwrite] at htail ⊢
          rw [skipSpace_blank, (skipSpace_guardEndTags hc t _).1]
          exact htail

/-- What is left to read behind the name of a field. -/
theorem guardEndTags_field (name : Text) (rest : Text) :
    guardEndTags (quote Style.spaced.ascii name ++ (Style.spaced.colon ++ rest)) =
      '"' :: (guardEndTags (name.flatMap (escapeChar Style.spaced.ascii)) ++
        '"' :: ':' :: ' ' :: guardEndTags rest) := by
  have hblank : ':' ≠ '<' ∧ ' ' ≠ '<' := by decide
  have hcolon : Style.spaced.colon ++ rest = ':' :: ' ' :: rest := rfl
  rw [guardEndTags_quote, hcolon, guardEndTags_cons fun h => absurd h hblank.1,
    guardEndTags_cons fun h => absurd h hblank.2]

theorem writeFields_singleton (field : Text × Json) :
    writeFields .spaced [field] =
      quote Style.spaced.ascii field.1 ++ (Style.spaced.colon ++ write .spaced field.2) := by
  rw [writeFields, List.append_assoc]

theorem writeFields_cons_cons (field next : Text × Json) (rest : List (Text × Json)) :
    writeFields .spaced (field :: next :: rest) =
      quote Style.spaced.ascii field.1 ++ (Style.spaced.colon ++
        (write .spaced field.2 ++ (',' :: ' ' :: writeFields .spaced (next :: rest)))) := by
  rw [writeFields, List.append_assoc, List.append_assoc, List.append_assoc]
  · rfl
  · exact List.cons_ne_nil _ _

theorem readValue_blank {value : Json} (hexact : Exact value) (h : ReadsBack value) {rest : Text}
    (hrest : Delimits rest) :
    Finds (readValue .standard (skipSpace (' ' :: (guardEndTags (write .spaced value) ++ rest))))
      value rest := by
  obtain ⟨c, t, hwrite, hc⟩ := exists_write hexact .spaced
  have hvalue := h rest hrest
  rw [hwrite] at hvalue ⊢
  rw [skipSpace_blank, (skipSpace_guardEndTags hc t rest).1]
  exact hvalue

theorem exists_writeFields {fields : List (Text × Json)} (hne : fields ≠ []) :
    ∃ t, writeFields .spaced fields = '"' :: t := by
  match fields, hne with
  | [field], _ => exact ⟨_, by rw [writeFields_singleton, quote]; rfl⟩
  | field :: next :: rest, _ => exact ⟨_, by rw [writeFields_cons_cons, quote]; rfl⟩

theorem readMembers_write {fields : List (Text × Json)} (hne : fields ≠ [])
    (hexact : ∀ field ∈ fields, Exact field.2) (h : ∀ field ∈ fields, ReadsBack field.2)
    (rest : Text) :
    Finds (readMembers .standard (guardEndTags (writeFields .spaced fields) ++ '}' :: rest)) fields
      rest := by
  induction fields with
  | nil => exact absurd rfl hne
  | cons field fields ih =>
      have hvalue := @readValue_blank field.2 (hexact field List.mem_cons_self)
        (h field List.mem_cons_self)
      cases fields with
      | nil =>
          rw [writeFields_singleton, guardEndTags_field, List.cons_append, List.append_assoc,
            List.cons_append, List.cons_append, List.cons_append]
          exact readMembers_cons (readString_guarded _ _ _ _ _) (skipSpace_cons rfl _)
            (hvalue (.cons (by decide) _)) (.last (skipSpace_cons rfl _))
      | cons next others =>
          have htail := ih (List.cons_ne_nil _ _)
            (fun other hother => hexact other (List.mem_cons_of_mem _ hother))
            fun other hother => h other (List.mem_cons_of_mem _ hother)
          obtain ⟨t, hwrite⟩ := @exists_writeFields (next :: others) (List.cons_ne_nil _ _)
          rw [writeFields_cons_cons, guardEndTags_field, guardEndTags_comma, List.cons_append,
            List.append_assoc, List.cons_append, List.cons_append, List.cons_append,
            List.append_assoc, List.cons_append, List.cons_append]
          refine readMembers_cons (readString_guarded _ _ _ _ _) (skipSpace_cons rfl _)
            (hvalue (.cons (by decide) _)) (.more (skipSpace_cons rfl _) ?_)
          rw [hwrite] at htail ⊢
          rw [skipSpace_blank, (skipSpace_guardEndTags (by decide) t _).1]
          exact htail

/-! ### All values -/

theorem readsBack_null : ReadsBack .null := by
  intro rest _
  exact readValue_scalar (t := 'u' :: 'l' :: 'l' :: rest) (c := 'n') rfl rfl (by decide)

theorem readsBack_bool (b : Bool) : ReadsBack (.bool b) := by
  intro rest _
  cases b with
  | true => exact readValue_scalar (t := 'r' :: 'u' :: 'e' :: rest) (c := 't') rfl rfl (by decide)
  | false =>
      exact readValue_scalar (t := 'a' :: 'l' :: 's' :: 'e' :: rest) (c := 'f') rfl rfl (by decide)

theorem guardEndTags_of_not_mem {t : Text} (h : '<' ∉ t) : guardEndTags t = t := by
  have happend := guardEndTags_append_of_not_mem h []
  rw [List.append_nil] at happend
  exact happend.trans (List.append_nil t)

theorem readsBack_int {n : Int} (h : isOverlong n = false) : ReadsBack (.int n) := by
  intro rest hrest
  have hguard : '<' ∉ Text.signedDecimal n := not_mem_signedDecimal (by decide) n
  obtain ⟨c, t, hsigned⟩ := List.exists_cons_of_ne_nil (signedDecimal_ne_nil n)
  have hc : ∀ d, d ≠ '-' ∧ Numeral.isDigit d = false → c ≠ d := by
    rintro d hd rfl
    refine not_mem_signedDecimal hd n ?_
    rw [hsigned]
    exact List.mem_cons_self
  have hscalar := scalar?_signedDecimal n hrest
  rw [write, guardEndTags_of_not_mem hguard, hsigned, List.cons_append]
  rw [hsigned, List.cons_append] at hscalar
  have hdrop : (t ++ rest).drop ((c :: t).length - 1) = rest := List.drop_left
  have hvalue : Finds (readValue .standard (c :: (t ++ rest))) (.int n)
      ((t ++ rest).drop ((c :: t).length - 1)) :=
    readValue_scalar hscalar (overlongDigits?_int h)
      ⟨hc '"' (by decide), hc '[' (by decide), hc '{' (by decide)⟩
  rwa [hdrop] at hvalue

theorem readsBack_string (s : Text) : ReadsBack (.string s) := by
  intro rest _
  have hguard : guardEndTags (write .spaced (.string s)) =
      '"' :: (guardEndTags (s.flatMap (escapeChar Style.spaced.ascii)) ++ ['"']) := by
    rw [write, ← List.append_nil (quote _ s), guardEndTags_quote]
    rfl
  rw [hguard, List.cons_append, List.append_assoc, List.singleton_append]
  exact readValue_string (readString_guarded _ _ _ _ _)

theorem readsBack_array {items : List Json} (hexact : ∀ item ∈ items, Exact item)
    (h : ∀ item ∈ items, ReadsBack item) : ReadsBack (.array items) := by
  intro rest _
  have hbracket : '[' ≠ '<' ∧ ']' ≠ '<' := by decide
  have hguard : guardEndTags (write .spaced (.array items)) =
      '[' :: (guardEndTags (writeItems .spaced items) ++ [']']) := by
    rw [write, List.cons_append, guardEndTags_cons fun h => absurd h hbracket.1,
      guardEndTags_append _ (by simp)]
    rfl
  rw [hguard, List.cons_append, List.append_assoc, List.singleton_append]
  by_cases hne : items = []
  · subst hne
    exact readValue_array_nil rfl rest
  · obtain ⟨c, t, hwrite, hc⟩ := exists_writeItems hne hexact
    have hitems := readItems_write hne hexact h rest
    rw [hwrite] at hitems ⊢
    obtain ⟨hspace, hhead⟩ := skipSpace_guardEndTags hc t (']' :: rest)
    refine readValue_array rfl ?_ ?_
    · rw [hspace, hhead]
      rintro ⟨⟩
      exact absurd hc (by decide)
    · rwa [hspace]

theorem readsBack_object {fields : List (Text × Json)} (hnames : (fields.map Prod.fst).Nodup)
    (hexact : ∀ field ∈ fields, Exact field.2) (h : ∀ field ∈ fields, ReadsBack field.2) :
    ReadsBack (.object fields) := by
  intro rest _
  have hbrace : '{' ≠ '<' ∧ '}' ≠ '<' := by decide
  have hguard : guardEndTags (write .spaced (.object fields)) =
      '{' :: (guardEndTags (writeFields .spaced fields) ++ ['}']) := by
    rw [write, List.cons_append, guardEndTags_cons fun h => absurd h hbrace.1,
      guardEndTags_append _ (by simp)]
    rfl
  rw [hguard, List.cons_append, List.append_assoc, List.singleton_append]
  by_cases hne : fields = []
  · subst hne
    exact readValue_object_nil rfl rest
  · obtain ⟨t, hwrite⟩ := exists_writeFields hne
    have hfields := readMembers_write hne hexact h rest
    rw [hwrite] at hfields ⊢
    obtain ⟨hspace, hhead⟩ := skipSpace_guardEndTags (c := '"') (by decide) t ('}' :: rest)
    rw [← Entries.ofPairs_of_nodup hnames]
    refine readValue_object rfl ?_ ?_
    · rw [hspace, hhead]
      decide
    · rwa [hspace]

theorem Exact.readsBack {value : Json} (h : Exact value) (hfits : value.fits = true) :
    ReadsBack value := by
  induction h with
  | null => exact readsBack_null
  | bool b => exact readsBack_bool b
  | int n => exact readsBack_int (fits_int_iff.mp hfits)
  | string s => exact readsBack_string s
  | array h ih =>
      have hitems := fits_array_iff.mp hfits
      exact readsBack_array h fun item hitem => ih item hitem (hitems item hitem)
  | object hnames h ih =>
      have hfields := fits_object_iff.mp hfits
      exact readsBack_object hnames h fun field hfield => ih field hfield (hfields field hfield)

/-- A value without doubles and overlong integers is read from its guarded JSON text. -/
theorem Exact.read_guardEndTags {value : Json} (h : Exact value) (hfits : value.fits = true) :
    Json.read (guardEndTags (write .spaced value)) = .ok value := by
  obtain ⟨c, t, hwrite, hc⟩ := exists_write h .spaced
  obtain ⟨after, hafter⟩ := exists_guardEndTags c t
  have hspace := (skipSpace_guardEndTags hc t []).1
  have hfinds := h.readsBack hfits [] nofun
  have hmark : c ≠ '\ufeff' := fun heq => hc (heq ▸ by decide)
  rw [List.append_nil] at hspace
  rw [hwrite, List.append_nil, ← hspace] at hfinds
  obtain ⟨shorter, hvalue⟩ := hfinds
  have hdecoded : readDecoded .standard (guardEndTags (c :: t)) = .ok value := by
    rw [readDecoded, hvalue]
    rfl
  rw [hwrite, Json.read]
  · exact hdecoded
  · intro rest heq
    rw [hafter] at heq
    exact hmark (List.cons.inj heq).1

end CypherPages.Json

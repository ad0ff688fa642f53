import CypherPages.Directive
import CypherPages.Proofs.Text.Cut
import CypherPages.Proofs.Text.Pattern
import Mathlib.Data.List.DropRight

/-! # Directive lines

A line states a directive when it starts with the marker, after blanks, and a colon follows with
more than blanks in front of it. The line is matched by a pattern of greedy and reluctant runs, and
what the runs capture is the key and the value that the line states. -/

namespace CypherPages

namespace Text

/-! ### Trimmed texts -/

theorem exists_trimRight (t : Text) : ∃ back : Text, t = t.trimRight ++ back ∧
    back.isBlankText = true := by
  refine ⟨t.rtakeWhile isBlank, List.rdropWhile_append_rtakeWhile.symm, ?_⟩
  exact List.all_eq_true.mpr fun c hc => List.mem_rtakeWhile_imp hc

/-- A trimmed text does not end with blanks. -/
theorem isBlankText_of_trimRight {t front back : Text} (h : t.trimRight = front ++ back)
    (hne : back ≠ []) : back.isBlankText = false := by
  have hwhole : t.rdropWhile isBlank ≠ [] := by
    intro hnil
    rw [show t.trimRight = [] from hnil] at h
    exact hne (List.append_eq_nil_iff.mp h.symm).2
  have hlast := List.rdropWhile_last_not isBlank t hwhole
  have hmem : (t.rdropWhile isBlank).getLast hwhole ∈ back := by
    rw [List.getLast_congr hwhole (h ▸ hwhole) h, List.getLast_append_of_ne_nil _ hne]
    exact List.getLast_mem hne
  exact List.all_eq_false.mpr ⟨_, hmem, hlast⟩

theorem trimLeft_append {t : Text} {c : Char} (hc : isBlank c = false) (rest : Text) :
    (t ++ c :: rest).trimLeft = t.trimLeft ++ c :: rest := by
  rw [trimLeft, trimLeft, List.dropWhile_append]
  split
  · next hempty =>
      rw [List.isEmpty_iff.mp hempty, List.dropWhile_cons_of_neg (by simp [hc]), List.nil_append]
  · rfl

theorem trimLeft_of_isBlankText {t : Text} (h : t.isBlankText = true) : t.trimLeft = [] := by
  rw [trimLeft, List.dropWhile_eq_nil_iff]
  exact List.all_eq_true.mp h

theorem trim_eq_nil_iff (t : Text) : t.trim = [] ↔ t.isBlankText = true := by
  constructor
  · intro h
    obtain ⟨back, hback, hblank⟩ := exists_trimRight t.trimLeft
    rw [show t.trimLeft.trimRight = [] from h, List.nil_append] at hback
    have hall : t.takeWhile isBlank ++ back = t := by
      rw [← hback]
      exact List.takeWhile_append_dropWhile
    rw [← hall, isBlankText, List.all_append, Bool.and_eq_true]
    exact ⟨List.all_takeWhile, hblank⟩
  · intro h
    rw [trim, trimLeft_of_isBlankText h]
    rfl

end Text

namespace Directive

/-- A line states a directive: blanks, the marker, a key up to the first colon, and a value. Blanks
around the key and the value do not count, and the key is not blank. -/
def States (line : Text) (directive : Directive) : Prop :=
  ∃ indent name rest : Text, line = indent ++ (marker ++ (name ++ ':' :: rest)) ∧
    indent.isBlankText = true ∧ ':' ∉ name ∧ name.isBlankText = false ∧
    directive = ⟨name.trim, rest.trim⟩

/-! ### The pattern of a directive line -/

open Pattern

/-- Blanks that belong to nothing. -/
def blanks : Part := .run isBlank .longest false

/-- A value between blanks, up to the end of the line. -/
def valueParts : List Part := [blanks, .run (· ≠ '\n') .shortest true, blanks]

/-- A key between blanks, and a value behind its colon. -/
def keyParts : List Part :=
  blanks :: .run (· ≠ ':') .shortest true :: blanks :: .char ':' :: valueParts

/-- The pattern of a directive line, which captures the key and the value. -/
def linePattern : List Part := blanks :: (marker.map .char ++ keyParts)

variable {t line : Text}

theorem match?_blanks (h : t.isBlankText = true) : match? [blanks] t = some [] := by
  apply match?_longest
  rw [List.dropWhile_eq_nil_iff.mpr (List.all_eq_true.mp h)]
  rfl

theorem ways_blanks_of_not (h : t.isBlankText = false) : ways [blanks] t = [] := by
  refine List.eq_nil_iff_forall_not_mem.mpr fun found hfound => ?_
  obtain ⟨taken, rest, _, rfl, htaken, hrest⟩ := exists_of_mem_ways_run hfound
  have hblank : rest.isBlankText = true := by
    rw [ways] at hrest
    split at hrest
    · next hends => rcases hends with rfl | rfl <;> rfl
    · cases hrest
  rw [Text.isBlankText, List.all_append, htaken] at h
  rw [Text.isBlankText] at hblank
  simp [hblank] at h

theorem match?_value (h : '\n' ∉ t) : match? valueParts t = some [t.trim] := by
  obtain ⟨back, hback, hblank⟩ := Text.exists_trimRight t.trimLeft
  have htrim : t.dropWhile isBlank = t.trim ++ back := hback
  have hsub : ∀ c ∈ t.trim, c ∈ t := by
    intro c hc
    exact (List.dropWhile_sublist _).subset (htrim ▸ List.mem_append_left back hc)
  apply match?_longest
  rw [htrim]
  apply match?_shortest
  · refine List.all_eq_true.mpr fun c hc => decide_eq_true ?_
    rintro rfl
    exact h (hsub _ hc)
  · -- With less than the trimmed text a character is left that is not blank.
    intro front rest hfront hrest
    apply ways_blanks_of_not
    rw [Text.isBlankText, List.all_append,
      show rest.all isBlank = false from Text.isBlankText_of_trimRight hfront hrest]
    rfl
  · exact match?_blanks hblank

/-- Blanks in front of a colon take all that stands in front of the first colon. -/
theorem ways_blanks_colon_of_not {name rest : Text} (hcolon : ':' ∉ name)
    (h : name.isBlankText = false) (parts : List Part) :
    ways (blanks :: .char ':' :: parts) (name ++ ':' :: rest) = [] := by
  refine List.eq_nil_iff_forall_not_mem.mpr fun found hfound => ?_
  obtain ⟨taken, after, _, heq, htaken, hafter⟩ := exists_of_mem_ways_run hfound
  cases after with
  | nil => simp [ways] at hafter
  | cons d after =>
      rw [ways] at hafter
      split at hafter
      · next hd =>
          subst hd
          have hmem : ':' ∉ taken := fun hmem =>
            absurd (List.all_eq_true.mp htaken _ hmem) (by decide)
          have hsame : name = taken := by
            rw [← (Text.cut_append hcolon rest).1, heq, (Text.cut_append hmem after).1]
          rw [hsame, Text.isBlankText, htaken] at h
          cases h
      · cases hafter

theorem match?_key {name rest : Text} (hcolon : ':' ∉ name) (h : '\n' ∉ rest) :
    match? keyParts (name ++ ':' :: rest) = some [name.trim, rest.trim] := by
  obtain ⟨back, hback, hblank⟩ := Text.exists_trimRight name.trimLeft
  have htrim : (name ++ ':' :: rest).dropWhile isBlank = name.trim ++ (back ++ ':' :: rest) := by
    rw [← List.append_assoc, ← show name.trimLeft = name.trim ++ back from hback]
    exact Text.trimLeft_append (by decide) rest
  have hsub : ∀ c ∈ name.trim ++ back, c ≠ ':' := by
    rintro c hc rfl
    exact hcolon ((List.dropWhile_sublist _).subset
      (show ':' ∈ name.trimLeft from hback ▸ hc))
  apply match?_longest
  rw [htrim]
  apply match?_shortest
  · exact List.all_eq_true.mpr fun c hc => decide_eq_true (hsub c (List.mem_append_left back hc))
  · intro front later hfront hlater
    rw [← List.append_assoc]
    apply ways_blanks_colon_of_not
    · intro hmem
      refine hsub ':' ?_ rfl
      rw [hfront, List.append_assoc]
      exact List.mem_append_right front hmem
    · rw [Text.isBlankText, List.all_append,
        show later.all isBlank = false from Text.isBlankText_of_trimRight hfront hlater]
      rfl
  · apply match?_longest
    have hdrop : (back ++ ':' :: rest).dropWhile isBlank = ':' :: rest := by
      have htrimLeft := Text.trimLeft_append (t := back) (c := ':') (by decide) rest
      rwa [Text.trimLeft_of_isBlankText hblank] at htrimLeft
    rw [hdrop, match?, ways, if_pos rfl]
    exact match?_value h

theorem match?_marker (parts : List Part) (t : Text) :
    match? (marker.map .char ++ parts) (marker ++ t) = match? parts t := by
  have hmarker : marker = ['/', '/', '|'] := by decide
  simp [hmarker, match?, ways]

theorem trimLeft_indent {indent : Text} (hindent : indent.isBlankText = true) (t : Text) :
    (indent ++ (marker ++ t)).trimLeft = marker ++ t := by
  have hmarker : marker = '/' :: ['/', '|'] := by decide
  have htrimLeft := Text.trimLeft_append (t := indent) (c := '/') (by decide) (['/', '|'] ++ t)
  rwa [Text.trimLeft_of_isBlankText hindent] at htrimLeft

/-- The pattern matches a line of the form of a directive, and captures its key and its value. -/
theorem match?_linePattern {indent name rest : Text} (hindent : indent.isBlankText = true)
    (hcolon : ':' ∉ name) (h : '\n' ∉ rest) :
    match? linePattern (indent ++ (marker ++ (name ++ ':' :: rest))) =
      some [name.trim, rest.trim] := by
  apply match?_longest
  rw [show (indent ++ (marker ++ (name ++ ':' :: rest))).dropWhile isBlank = _ from
    trimLeft_indent hindent (name ++ ':' :: rest), match?_marker]
  exact match?_key hcolon h

/-- Only lines of the form of a directive match in any way. -/
theorem exists_of_mem_ways {found : List Text} (h : found ∈ ways linePattern line) :
    ∃ indent name rest : Text, line = indent ++ (marker ++ (name ++ ':' :: rest)) ∧
      indent.isBlankText = true ∧ ':' ∉ name := by
  obtain ⟨indent, t, _, rfl, hindent, ht⟩ := exists_of_mem_ways_run h
  have hmarker : ∃ t', t = marker ++ t' ∧ ∃ found', found' ∈ ways keyParts t' := by
    have hchars : marker = ['/', '/', '|'] := by decide
    rw [hchars] at ht ⊢
    match t, ht with
    | [], ht => simp [ways] at ht
    | [_], ht => simp [ways] at ht
    | [_, _], ht => simp [ways] at ht
    | a :: b :: c :: t', ht =>
        simp only [List.map_cons, List.map_nil, List.cons_append, List.nil_append, ways] at ht
        split at ht
        · next ha =>
            split at ht
            · next hb =>
                split at ht
                · next hc => exact ⟨t', by rw [ha, hb, hc]; rfl, _, ht⟩
                · cases ht
            · cases ht
        · cases ht
  obtain ⟨t', rfl, found', hfound'⟩ := hmarker
  obtain ⟨front, t', _, rfl, hfront, ht'⟩ := exists_of_mem_ways_run hfound'
  obtain ⟨key, t', _, rfl, hkey, ht'⟩ := exists_of_mem_ways_run ht'
  obtain ⟨back, t', _, rfl, hback, ht'⟩ := exists_of_mem_ways_run ht'
  cases t' with
  | nil => simp [ways] at ht'
  | cons c rest =>
      rw [ways] at ht'
      split at ht'
      · next hc =>
          subst hc
          refine ⟨indent, front ++ (key ++ back), rest, by simp, hindent, ?_⟩
          have hblank : ∀ t : Text, t.all isBlank = true → ':' ∉ t := fun t ht hmem =>
            absurd (List.all_eq_true.mp ht _ hmem) (by decide)
          have hname : ':' ∉ key := fun hmem => by
            simpa using List.all_eq_true.mp hkey _ hmem
          simp [hblank front hfront, hblank back hback, hname]
      · cases ht'

/-- What the pattern captures of a line is what the line states, unless it captures no key. -/
theorem states_iff_match? (h : '\n' ∉ line) (directive : Directive) :
    States line directive ↔
      match? linePattern line = some [directive.key, directive.value] ∧ directive.key ≠ [] := by
  constructor
  · rintro ⟨indent, name, rest, rfl, hindent, hcolon, hname, rfl⟩
    refine ⟨match?_linePattern hindent hcolon fun hmem => h (by simp [hmem]), ?_⟩
    rw [Ne, Text.trim_eq_nil_iff, hname]
    simp
  · rintro ⟨hmatch, hkey⟩
    obtain ⟨indent, name, rest, rfl, hindent, hcolon⟩ :=
      exists_of_mem_ways (List.mem_of_mem_head? hmatch)
    rw [match?_linePattern hindent hcolon fun hmem => h (by simp [hmem])] at hmatch
    obtain ⟨key, value⟩ := directive
    simp only [Option.some.injEq, List.cons.injEq, and_true] at hmatch
    obtain ⟨rfl, rfl⟩ := hmatch
    refine ⟨indent, name, rest, rfl, hindent, hcolon, ?_, rfl⟩
    rwa [Ne, Text.trim_eq_nil_iff, Bool.not_eq_true] at hkey

/-! ### Reading a line -/

theorem ofLine?_of_form {indent name rest : Text} (hindent : indent.isBlankText = true)
    (hcolon : ':' ∉ name) (hname : name.isBlankText = false) :
    ofLine? (indent ++ (marker ++ (name ++ ':' :: rest))) = some ⟨name.trim, rest.trim⟩ := by
  have hbody : marker.isPrefixOf? (indent ++ (marker ++ (name ++ ':' :: rest))).trimLeft =
      some (name ++ ':' :: rest) := by
    rw [trimLeft_indent hindent, List.isPrefixOf?_eq_some_iff_append_eq]
  obtain ⟨htake, hdrop⟩ := Text.cut_append hcolon rest
  have hkey : name.trim.isEmpty = false := by
    rw [← Bool.not_eq_true, List.isEmpty_iff, Text.trim_eq_nil_iff, hname]
    simp
  rw [ofLine?, hbody]
  simp only [hdrop, htake, hkey, Bool.false_eq_true, ite_false]

/-- Reading a line finds the directive that the line states. -/
theorem ofLine?_eq_some_iff (line : Text) (directive : Directive) :
    ofLine? line = some directive ↔ States line directive := by
  constructor
  · intro h
    unfold ofLine? at h
    split at h
    · cases h
    · next body hbody =>
        split at h
        · cases h
        · next c value hcut =>
            obtain ⟨name, rfl, hname, hc⟩ := exists_of_dropWhile hcut
            obtain rfl : c = ':' := by simpa using hc
            have hcolon : ':' ∉ name := fun hmem => by
              simpa using List.all_eq_true.mp hname _ hmem
            rw [(Text.cut_append hcolon value).1] at h
            dsimp only at h
            split at h
            · cases h
            · next hkey =>
                refine ⟨line.takeWhile isBlank, name, value, ?_, List.all_takeWhile, hcolon, ?_,
                  (Option.some.inj h).symm⟩
                · rw [List.isPrefixOf?_eq_some_iff_append_eq.mp hbody]
                  exact List.takeWhile_append_dropWhile.symm
                · rwa [List.isEmpty_iff, Text.trim_eq_nil_iff, Bool.not_eq_true] at hkey
  · rintro ⟨indent, name, rest, rfl, hindent, hcolon, hname, rfl⟩
    exact ofLine?_of_form hindent hcolon hname

end Directive

end CypherPages

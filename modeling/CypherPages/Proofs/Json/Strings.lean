import CypherPages.Build.Assets
import CypherPages.Json.Reader
import CypherPages.Proofs.Number.Digits

/-! # Reading strings back

A character that is written inside a JSON string reads as that character, in whatever way it is
escaped. So do the characters of a string in which a backslash was put into every `</`. -/

namespace CypherPages.Json

/-- A step of reading finds a value and leaves a text. -/
def Finds {α : Type} {source : Text} (outcome : Except Failure (Scanned α source)) (value : α)
    (rest : Text) : Prop :=
  ∃ shorter, outcome = .ok ⟨value, rest, shorter⟩

/-! ### Sixteen-bit units -/

theorem unitEscape_append (n : ℕ) (t : Text) :
    unitEscape n ++ t = '\\' :: 'u' :: (Hexadecimal.toDigits 4 n ++ t) := rfl

theorem exists_hexUnit? {n : ℕ} (h : n < 0x10000) :
    ∃ a b c d, Hexadecimal.toDigits 4 n = [a, b, c, d] ∧ hexUnit? a b c d = some n := by
  have hlength : (Hexadecimal.toDigits 4 n).length = 4 :=
    Hexadecimal.length_toDigits (by decide) h
  have hdigits := Hexadecimal.all_isDigit_toDigits 4 n
  have hvalue := Hexadecimal.ofDigits_toDigits 4 n
  match hunit : Hexadecimal.toDigits 4 n, hlength with
  | [a, b, c, d], _ =>
      rw [hunit] at hdigits hvalue
      refine ⟨a, b, c, d, rfl, ?_⟩
      simp only [hexUnit?, hdigits, hvalue, ite_true]

/-- A unit that is no half of a pair. -/
theorem readUnicode_single {n : ℕ} (h : n < 0x10000) (hhigh : isHighUnit n = false)
    (hlow : isLowUnit n = false) (half : Char) {t : Text} (ht : t ≠ []) :
    Finds (readUnicode half (Hexadecimal.toDigits 4 n ++ t)) (Char.ofNat n) t := by
  obtain ⟨a, b, c, d, hdigits, hunit⟩ := exists_hexUnit? h
  obtain ⟨next, rest, rfl⟩ := List.exists_cons_of_ne_nil ht
  have hchar : ofUnit half n = Char.ofNat n := by
    rw [ofUnit, hhigh, hlow]
    rfl
  rw [hdigits]
  refine ⟨by simp, ?_⟩
  simp only [List.cons_append, List.nil_append, readUnicode, hunit, hhigh, Bool.false_eq_true,
    ite_false, hchar]

/-- A pair of units. -/
theorem readUnicode_pair {high low : ℕ} (hhigh : isHighUnit high = true)
    (hlow : isLowUnit low = true) (half : Char) {t : Text} (ht : t ≠ []) :
    Finds (readUnicode half (Hexadecimal.toDigits 4 high ++ (unitEscape low ++ t)))
      (Char.ofNat (0x10000 + (high - 0xd800) * 0x400 + (low - 0xdc00))) t := by
  have hranges : high < 0x10000 ∧ low < 0x10000 := by
    simp only [isHighUnit, isLowUnit, Bool.and_eq_true, decide_eq_true_eq] at hhigh hlow
    omega
  obtain ⟨a, b, c, d, hdigits, hunit⟩ := exists_hexUnit? hranges.1
  obtain ⟨a', b', c', d', hdigits', hunit'⟩ := exists_hexUnit? hranges.2
  obtain ⟨next, rest, rfl⟩ := List.exists_cons_of_ne_nil ht
  rw [unitEscape, hdigits, hdigits']
  refine ⟨by simp only [List.cons_append, List.nil_append, List.length_cons]; omega, ?_⟩
  simp only [List.cons_append, List.nil_append, readUnicode, hunit, hhigh, ite_true, lowUnit?,
    hunit', hlow]

/-! ### Characters -/

variable {half : Char} {opening t s rest : Text}

theorem readString_quote (half : Char) (opening rest : Text) :
    Finds (readString half opening ('"' :: rest)) [] rest :=
  ⟨Nat.lt_succ_self _, by rw [readString]⟩

theorem ne_nil_of_finds (h : Finds (readString half opening t) s rest) : t ≠ [] := by
  rintro rfl
  obtain ⟨_, h⟩ := h
  rw [readString] at h
  cases h

theorem readString_plain {c : Char} (hquote : c ≠ '"') (hslash : c ≠ '\\')
    (hcontrol : ¬ c.toNat < 0x20) (h : Finds (readString half opening t) s rest) :
    Finds (readString half opening (c :: t)) (c :: s) rest := by
  obtain ⟨shorter, h⟩ := h
  refine ⟨Nat.lt_succ_of_lt shorter, ?_⟩
  rw [readString, if_neg hcontrol, h]
  · exact fun heq => absurd heq hquote
  · exact fun heq => absurd heq hslash
  · exact fun _ heq => absurd heq hslash
  · exact fun _ _ heq => absurd heq hslash

theorem readString_named (letter : Char) {c : Char} (hletter : namedEscape? letter = some c)
    (h : Finds (readString half opening t) s rest) :
    Finds (readString half opening ('\\' :: letter :: t)) (c :: s) rest := by
  obtain ⟨shorter, h⟩ := h
  refine ⟨by simp only [List.length_cons]; omega, ?_⟩
  rw [readString]
  · simp only [hletter, h]
  · rintro rfl
    cases hletter

theorem readString_unicode {digits : Text} {c : Char}
    (hunit : Finds (readUnicode half digits) c t) (h : Finds (readString half opening t) s rest) :
    Finds (readString half opening ('\\' :: 'u' :: digits)) (c :: s) rest := by
  obtain ⟨shorter, h⟩ := h
  obtain ⟨shorter', hunit⟩ := hunit
  refine ⟨by simp only [List.length_cons]; omega, ?_⟩
  rw [readString, hunit]
  simp only [h]

theorem readString_codeEscape (c : Char) (h : Finds (readString half opening t) s rest) :
    Finds (readString half opening (codeEscape c ++ t)) (c :: s) rest := by
  have hne := ne_nil_of_finds h
  have hvalid : c.toNat < 0xd800 ∨ 0xdfff < c.toNat ∧ c.toNat < 0x110000 := c.valid
  by_cases hsmall : c.toNat < 0x10000
  · have hhigh : isHighUnit c.toNat = false := by
      simp only [isHighUnit, Bool.and_eq_false_iff, decide_eq_false_iff_not]
      omega
    have hlow : isLowUnit c.toNat = false := by
      simp only [isLowUnit, Bool.and_eq_false_iff, decide_eq_false_iff_not]
      omega
    have hunit := readUnicode_single hsmall hhigh hlow half hne
    rw [Char.ofNat_toNat] at hunit
    have hcode : codeEscape c = unitEscape c.toNat := if_pos hsmall
    rw [hcode, unitEscape_append]
    exact readString_unicode hunit h
  · have hhigh : isHighUnit (0xd800 + (c.toNat - 0x10000) / 0x400) = true := by
      simp only [isHighUnit, Bool.and_eq_true, decide_eq_true_eq]
      omega
    have hlow : isLowUnit (0xdc00 + (c.toNat - 0x10000) % 0x400) = true := by
      simp only [isLowUnit, Bool.and_eq_true, decide_eq_true_eq]
      omega
    have hunit := readUnicode_pair hhigh hlow half hne
    have hvalue : 0x10000 + (0xd800 + (c.toNat - 0x10000) / 0x400 - 0xd800) * 0x400 +
        (0xdc00 + (c.toNat - 0x10000) % 0x400 - 0xdc00) = c.toNat := by omega
    rw [hvalue, Char.ofNat_toNat] at hunit
    have hcode : codeEscape c = unitEscape (0xd800 + (c.toNat - 0x10000) / 0x400) ++
        unitEscape (0xdc00 + (c.toNat - 0x10000) % 0x400) := if_neg hsmall
    rw [hcode, List.append_assoc, unitEscape_append]
    exact readString_unicode hunit h

/-- A character reads as it was, however it is written. -/
theorem readString_escapeChar (ascii : Bool) (c : Char)
    (h : Finds (readString half opening t) s rest) :
    Finds (readString half opening (escapeChar ascii c ++ t)) (c :: s) rest := by
  generalize hwritten : escapeChar ascii c = written
  unfold escapeChar at hwritten
  split at hwritten
  · exact hwritten ▸ readString_named '"' rfl h
  · exact hwritten ▸ readString_named '\\' rfl h
  · exact hwritten ▸ readString_named 'n' rfl h
  · exact hwritten ▸ readString_named 'r' rfl h
  · exact hwritten ▸ readString_named 't' rfl h
  · exact hwritten ▸ readString_named 'f' rfl h
  · exact hwritten ▸ readString_named 'b' rfl h
  · next hquote hslash _ _ _ _ _ =>
      split at hwritten
      · exact hwritten ▸ readString_codeEscape c h
      · next hplain =>
          rw [Bool.not_eq_true, Bool.or_eq_false_iff, decide_eq_false_iff_not] at hplain
          exact hwritten ▸ readString_plain hquote hslash hplain.1 h

/-! ### Guarded strings -/

open Dependency (guardEndTags)

theorem head?_guardEndTags (t : Text) : (guardEndTags t).head? = t.head? := by
  fun_cases guardEndTags t <;> rfl

theorem exists_guardEndTags (c : Char) (t : Text) : ∃ rest, guardEndTags (c :: t) = c :: rest :=
  List.head?_eq_some_iff.mp (head?_guardEndTags (c :: t))

theorem guardEndTags_cons {c : Char} {t : Text} (h : c = '<' → t.head? ≠ some '/') :
    guardEndTags (c :: t) = c :: guardEndTags t := by
  unfold guardEndTags
  split
  · next heq =>
      obtain ⟨rfl, rfl⟩ := List.cons.inj heq
      exact absurd rfl (h rfl)
  · next heq =>
      obtain ⟨rfl, rfl⟩ := List.cons.inj heq
      rw [guardEndTags.eq_def]
  · next heq => cases heq

theorem guardEndTags_append_of_not_mem {first : Text} (h : '<' ∉ first) (rest : Text) :
    guardEndTags (first ++ rest) = first ++ guardEndTags rest := by
  induction first with
  | nil => rfl
  | cons c first ih =>
      rw [List.mem_cons, not_or] at h
      rw [List.cons_append, guardEndTags_cons fun hc => absurd hc.symm h.1, ih h.2,
        List.cons_append]

/-- Guarding goes part by part where no part starts with a slash. -/
theorem guardEndTags_append (first : Text) {rest : Text} (h : rest.head? ≠ some '/') :
    guardEndTags (first ++ rest) = guardEndTags first ++ guardEndTags rest := by
  induction first using Dependency.guardEndTags.induct with
  | case1 first ih => simp only [List.cons_append, guardEndTags, ih]
  | case2 c first hguard ih =>
      have hfirst : c = '<' → first.head? ≠ some '/' := by
        rintro rfl hslash
        obtain ⟨tail, rfl⟩ := List.head?_eq_some_iff.mp hslash
        exact hguard tail rfl rfl
      have hboth : c = '<' → (first ++ rest).head? ≠ some '/' := by
        cases first with
        | nil => exact fun _ => h
        | cons d first => exact hfirst
      rw [List.cons_append, guardEndTags_cons hboth, guardEndTags_cons hfirst, ih,
        List.cons_append]
  | case3 => rfl

theorem not_mem_unitEscape (n : ℕ) : '<' ∉ unitEscape n := by
  intro hmem
  rw [unitEscape, List.mem_cons, List.mem_cons] at hmem
  rcases hmem with hmem | hmem | hmem
  · cases hmem
  · cases hmem
  · exact absurd (List.all_eq_true.mp (Hexadecimal.all_isDigit_toDigits 4 n) _ hmem) (by decide)

theorem not_mem_codeEscape (c : Char) : '<' ∉ codeEscape c := by
  unfold codeEscape
  dsimp only
  split
  · exact not_mem_unitEscape _
  · rw [List.mem_append, not_or]
    exact ⟨not_mem_unitEscape _, not_mem_unitEscape _⟩

/-- Only an opening bracket is written with one. -/
theorem not_mem_escapeChar (ascii : Bool) {c : Char} (h : c ≠ '<') : '<' ∉ escapeChar ascii c := by
  unfold escapeChar
  split
  all_goals try decide
  split
  · exact not_mem_codeEscape c
  · simpa using h.symm

theorem head?_codeEscape (c : Char) : (codeEscape c).head? = some '\\' := by
  unfold codeEscape
  dsimp only
  split <;> rfl

/-- Only a slash is written with one in front. -/
theorem head?_escapeChar {ascii : Bool} {c : Char}
    (h : (escapeChar ascii c).head? = some '/') : c = '/' := by
  unfold escapeChar at h
  split at h
  all_goals try cases h
  split at h
  · rw [head?_codeEscape] at h
    cases h
  · exact Option.some.inj h

theorem escapeChar_ne_nil (ascii : Bool) (c : Char) : escapeChar ascii c ≠ [] := by
  unfold escapeChar
  split
  all_goals try decide
  split
  · intro hnil
    have := head?_codeEscape c
    rw [hnil] at this
    cases this
  · exact List.cons_ne_nil c []

theorem escapeChar_open (ascii : Bool) : escapeChar ascii '<' = ['<'] := by cases ascii <;> rfl

theorem escapeChar_slash (ascii : Bool) : escapeChar ascii '/' = ['/'] := by cases ascii <;> rfl

/-- A string reads as it was, though end tags in it are guarded. -/
theorem readString_guarded (ascii : Bool) (half : Char) (opening s rest : Text) :
    Finds (readString half opening (guardEndTags (s.flatMap (escapeChar ascii)) ++ '"' :: rest)) s
      rest := by
  induction s using Dependency.guardEndTags.induct with
  | case1 s ih =>
      rw [List.flatMap_cons, List.flatMap_cons, escapeChar_open, escapeChar_slash]
      exact readString_plain (by decide) (by decide) (by decide) (readString_named '/' rfl ih)
  | case2 c s hguard ih =>
      rw [List.flatMap_cons]
      by_cases hc : c = '<'
      · have hslash : (s.flatMap (escapeChar ascii)).head? ≠ some '/' := by
          cases s with
          | nil => exact nofun
          | cons d s =>
              rw [List.flatMap_cons, List.head?_append_of_ne_nil _ (escapeChar_ne_nil ascii d)]
              intro hhead
              obtain rfl := head?_escapeChar hhead
              exact hguard s hc rfl
        rw [hc, escapeChar_open, List.singleton_append, guardEndTags_cons fun _ => hslash]
        exact readString_plain (by decide) (by decide) (by decide) ih
      · rw [guardEndTags_append_of_not_mem (not_mem_escapeChar ascii hc), List.append_assoc]
        exact readString_escapeChar ascii c ih
  | case3 => exact readString_quote half opening rest

end CypherPages.Json

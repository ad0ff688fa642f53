import CypherPages.Html.CharRef
import CypherPages.Html.Escape
import Mathlib.Data.Nat.Notation
import Mathlib.Tactic.Common

/-! # Escaped text

Escaping leaves none of the characters that end a text or a quoted value, and decoding the
references of an escaped text gives the text back. -/

namespace CypherPages.Html

@[simp] theorem escape_nil : escape [] = [] := rfl

@[simp] theorem escape_cons (c : Char) (t : Text) : escape (c :: t) = escapeChar c ++ escape t :=
  rfl

theorem escapeChar_eq_self {c : Char} (hamp : c ≠ '&') (hlt : c ≠ '<') (hgt : c ≠ '>')
    (hquot : c ≠ '"') (hapos : c ≠ '\'') : escapeChar c = [c] := by
  unfold escapeChar
  split <;> simp_all

/-! ### What escaped text does not hold -/

theorem not_mem_escape {c : Char} (h : c = '<' ∨ c = '>' ∨ c = '"' ∨ c = '\'') (t : Text) :
    c ∉ escape t := by
  intro hc
  obtain ⟨d, -, hd⟩ := List.mem_flatMap.mp hc
  unfold escapeChar at hd
  split at hd
  case h_6 =>
    rw [List.mem_singleton] at hd
    subst hd
    simp_all
  all_goals rcases h with rfl | rfl | rfl | rfl <;> simp at hd

theorem escape_eq_nil_iff {t : Text} : escape t = [] ↔ t = [] := by
  cases t with
  | nil => simp
  | cons c t =>
      have : escapeChar c ≠ [] := by
        unfold escapeChar
        split <;> simp
      simp [this]

/-! ### Decoding -/

@[simp] theorem unescape_nil : unescape [] = [] := by
  rw [unescape]

theorem unescape_cons_of_ne {c : Char} (h : c ≠ '&') (t : Text) :
    unescape (c :: t) = c :: unescape t := by
  rw [unescape]
  exact h

theorem unescape_reference (t characters : Text) (length : ℕ)
    (h : reference? t = some (characters, length)) :
    unescape ('&' :: t) = characters ++ unescape (t.drop length) := by
  rw [unescape, h]

theorem unescape_escapeChar_append (c : Char) (t : Text) :
    unescape (escapeChar c ++ t) = c :: unescape t := by
  unfold escapeChar
  split
  · exact unescape_reference ("amp;".toList ++ t) ['&'] 4 rfl
  · exact unescape_reference ("lt;".toList ++ t) ['<'] 3 rfl
  · exact unescape_reference ("gt;".toList ++ t) ['>'] 3 rfl
  · exact unescape_reference ("quot;".toList ++ t) ['"'] 5 rfl
  · exact unescape_reference ("#x27;".toList ++ t) ['\''] 5 rfl
  · next h _ _ _ _ => exact unescape_cons_of_ne h t

/-- Decoding undoes escaping. -/
theorem unescape_escape (t : Text) : unescape (escape t) = t := by
  induction t with
  | nil => simp
  | cons c t ih => rw [escape_cons, unescape_escapeChar_append, ih]

end CypherPages.Html

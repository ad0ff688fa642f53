import CypherPages.Proofs.Html.Lexeme

/-! # Tokens in their places

The tokens of a page stand one behind the other. A place in the page is the start of a token,
just past its end, or inside of it. -/

namespace CypherPages.Html

/-- A token with the offset at which it starts. -/
structure Placed where
  start : ℕ
  token : Token

namespace Placed

/-- Just past a token. -/
def stop (placed : Placed) : ℕ := placed.start + placed.token.lexeme.length

/-- Just past the first closing bracket of a token. -/
def bracketEnd (placed : Placed) : ℕ :=
  placed.start + (placed.token.lexeme.takeWhile (· ≠ '>')).length + 1

/-- Tokens in their places, the first of which starts at an offset. -/
def all (offset : ℕ) : List Token → List Placed
  | [] => []
  | token :: rest => ⟨offset, token⟩ :: all (offset + token.lexeme.length) rest

/-- A start tag that is its own end tag, or an end tag. -/
def Closes (placed : Placed) (name : Text) : Prop :=
  placed.token.event = .endTag name ∨
    ∃ attributes, placed.token.event = .startTag name attributes true

/-- A start tag of an element, which may be its own end tag. -/
def starts (name : Text) (placed : Placed) : Bool :=
  match placed.token.event with
  | .startTag found _ _ => found == name
  | _ => false

/-- Whether a tag closes an element. -/
def ends (name : Text) (placed : Placed) : Bool :=
  match placed.token.event with
  | .endTag found => found == name
  | .startTag found _ selfClosing => selfClosing && found == name
  | _ => false

theorem ends_iff {placed : Placed} {name : Text} :
    placed.ends name = true ↔ placed.Closes name := by
  unfold ends Closes
  split <;> simp_all [and_comm]

/-- How many tokens of a kind start in a part of a page. -/
def count (line : List Placed) (kind : Placed → Bool) (start limit : ℕ) : ℕ :=
  line.countP fun placed => kind placed && (start ≤ placed.start && placed.start < limit)

/-- A tag closes the element that another one opens: the elements of a name that start from there
on are all closed by it, and not by a tag before it. -/
structure Matches (line : List Placed) (name : Text) (opening closing : Placed) : Prop where
  closes : closing.Closes name
  start_le : opening.start ≤ closing.start
  unclosed : ∀ tag ∈ line, opening.start ≤ tag.start → tag.start < closing.start →
    count line (ends name) opening.start tag.stop < count line (starts name) opening.start tag.stop
  balanced : count line (ends name) opening.start closing.stop =
    count line (starts name) opening.start closing.stop

theorem Closes.name_eq {placed : Placed} {name other : Text} (h : placed.Closes name)
    (hother : placed.Closes other) : name = other := by
  rcases h with h | ⟨attributes, h⟩ <;> rcases hother with ho | ⟨others, ho⟩ <;> rw [h] at ho <;>
    cases ho <;> rfl

/-- A tag that closes a division is no start tag of another element. -/
theorem Closes.name_eq_of_startTag {placed : Placed} {name other : Text}
    {attributes : List (Text × Option Text)} {selfClosing : Bool} (h : placed.Closes name)
    (hother : placed.token.event = .startTag other attributes selfClosing) : name = other := by
  rcases h with h | ⟨_, h⟩ <;> rw [h] at hother <;> cases hother
  rfl

/-- An offset is not inside a token. -/
def Spares (placed : Placed) (offset : ℕ) : Prop :=
  offset ≤ placed.start ∨ placed.stop ≤ offset

/-- A tag that is its own end tag and holds a closing bracket before its last one. -/
def HoldsBracket (placed : Placed) : Prop :=
  (∃ name attributes, placed.token.event = .startTag name attributes true) ∧
    '>' ∈ placed.token.lexeme.dropLast

/-- An offset is inside a tag, just past the first of its closing brackets. -/
def CutAt (placed : Placed) (offset : ℕ) : Prop :=
  offset = placed.bracketEnd ∧ offset < placed.stop ∧ placed.HoldsBracket

theorem start_lt_bracketEnd (placed : Placed) : placed.start < placed.bracketEnd := by
  unfold bracketEnd
  omega

theorem length_takeWhile_lt {inner : Text} (h : '>' ∈ inner) (after : Text) :
    ((inner ++ after).takeWhile (· ≠ '>')).length < inner.length := by
  obtain ⟨front, back, rfl, hfront⟩ := List.eq_append_cons_of_mem h
  rw [List.append_assoc, List.cons_append, (Text.cut_append hfront _).1,
    List.length_append, List.length_cons]
  omega

/-- The first closing bracket of a tag that closes an element is its last character, unless the
tag is its own end tag and holds another one. -/
theorem Closes.bracketEnd_cases {placed : Placed} {name : Text} (h : placed.Closes name)
    (hspelled : placed.token.Spelled) :
    (placed.bracketEnd = placed.stop ∧ ¬ placed.HoldsBracket) ∨
      (placed.bracketEnd < placed.stop ∧ placed.HoldsBracket) := by
  have hfirst {inner : Text} (hangle : '>' ∉ inner)
      (hinner : placed.token.lexeme = inner ++ ['>']) :
      placed.bracketEnd = placed.stop ∧ ¬ placed.HoldsBracket := by
    refine ⟨?_, fun hholds => hangle ?_⟩
    · rw [bracketEnd, stop, hinner, (Text.cut_append hangle []).1, List.length_append,
        List.length_singleton, Nat.add_assoc]
    · simpa [hinner] using hholds.2
  rcases h with hevent | ⟨attributes, hevent⟩
  · obtain ⟨inner, hangle, hinner⟩ := hspelled.endTag name hevent
    exact .inl (hfirst hangle hinner)
  · obtain ⟨inner, hinner⟩ := hspelled.startTag name attributes true hevent
    by_cases hangle : '>' ∈ inner
    · have hlt := length_takeWhile_lt hangle ['>']
      refine .inr ⟨?_, ⟨name, attributes, hevent⟩, by simpa [hinner] using hangle⟩
      rw [bracketEnd, stop, hinner, List.length_append, List.length_singleton]
      omega
    · exact .inl (hfirst hangle hinner)

theorem Closes.bracketEnd_le {placed : Placed} {name : Text} (h : placed.Closes name)
    (hspelled : placed.token.Spelled) : placed.bracketEnd ≤ placed.stop := by
  rcases h.bracketEnd_cases hspelled with ⟨heq, -⟩ | ⟨hlt, -⟩
  · exact heq.le
  · exact hlt.le

theorem Closes.bracketEnd_eq_stop_iff {placed : Placed} {name : Text} (h : placed.Closes name)
    (hspelled : placed.token.Spelled) :
    placed.bracketEnd = placed.stop ↔ ¬ placed.HoldsBracket := by
  rcases h.bracketEnd_cases hspelled with ⟨heq, hholds⟩ | ⟨hlt, hholds⟩
  · exact iff_of_true heq hholds
  · exact iff_of_false hlt.ne (not_not_intro hholds)

/-! ### The tokens of a page -/

theorem count_self (line : List Placed) (kind : Placed → Bool) (start : ℕ) :
    count line kind start start = 0 := by
  refine List.countP_eq_zero.mpr fun placed _ => ?_
  simp only [Bool.and_eq_true, decide_eq_true_eq]
  omega

theorem start_le_of_mem_all {offset : ℕ} {tokens : List Token} {placed : Placed}
    (h : placed ∈ all offset tokens) : offset ≤ placed.start := by
  induction tokens generalizing offset with
  | nil => cases h
  | cons token rest ih =>
      rcases List.mem_cons.mp h with rfl | h
      · exact le_rfl
      · exact (Nat.le_add_right _ _).trans (ih h)

theorem pairwise_all (offset : ℕ) (tokens : List Token) :
    (all offset tokens).Pairwise fun a b => a.stop ≤ b.start := by
  induction tokens generalizing offset with
  | nil => exact .nil
  | cons token rest ih => exact .cons (fun _ h => start_le_of_mem_all h) (ih _)

theorem mem_of_mem_all {offset : ℕ} {tokens : List Token} {placed : Placed}
    (h : placed ∈ all offset tokens) : placed.token ∈ tokens := by
  induction tokens generalizing offset with
  | nil => cases h
  | cons token rest ih =>
      rcases List.mem_cons.mp h with rfl | h
      · exact List.mem_cons_self
      · exact List.mem_cons_of_mem _ (ih h)

theorem stop_le_of_mem_all {offset : ℕ} {tokens : List Token} {placed : Placed}
    (h : placed ∈ all offset tokens) :
    placed.stop ≤ offset + (tokens.flatMap Token.lexeme).length := by
  induction tokens generalizing offset with
  | nil => cases h
  | cons token rest ih =>
      rw [List.flatMap_cons, List.length_append, ← Nat.add_assoc]
      rcases List.mem_cons.mp h with rfl | h
      · exact Nat.le_add_right _ _
      · exact ih h

/-- Tokens that stand one behind the other and are spelled as tokens of a page are. -/
structure InLine (line : List Placed) : Prop where
  pairwise : line.Pairwise fun a b => a.stop ≤ b.start
  spelled : ∀ placed ∈ line, placed.token.Spelled

theorem inLine_of_tokens {source : Text} {tokens : List Token}
    (h : Html.tokens source = .ok tokens) : InLine (all 0 tokens) :=
  ⟨pairwise_all 0 tokens, fun _ hmem => spelled_of_tokens h _ (mem_of_mem_all hmem)⟩

namespace InLine

variable {line : List Placed} {a b : Placed}

theorem start_lt_stop (h : InLine line) (ha : a ∈ line) : a.start < a.stop :=
  Nat.lt_add_of_pos_right (List.length_pos_iff.mpr (h.spelled a ha).lexeme_ne_nil)

/-- Two tokens are the same, or one stands behind the other. -/
theorem eq_or_apart (h : InLine line) (ha : a ∈ line) (hb : b ∈ line) :
    a = b ∨ a.stop ≤ b.start ∨ b.stop ≤ a.start := by
  obtain ⟨i, hi, rfl⟩ := List.getElem_of_mem ha
  obtain ⟨j, hj, rfl⟩ := List.getElem_of_mem hb
  have hpairwise := List.pairwise_iff_getElem.mp h.pairwise
  rcases lt_trichotomy i j with hlt | rfl | hlt
  · exact .inr (.inl (hpairwise i j hi hj hlt))
  · exact .inl rfl
  · exact .inr (.inr (hpairwise j i hj hi hlt))

theorem eq_of_start_eq (h : InLine line) (ha : a ∈ line) (hb : b ∈ line)
    (heq : a.start = b.start) : a = b := by
  have hlt := h.start_lt_stop ha
  have hlt' := h.start_lt_stop hb
  rcases h.eq_or_apart ha hb with hsame | hle | hle
  · exact hsame
  · omega
  · omega

theorem stop_le_of_start_lt (h : InLine line) (ha : a ∈ line) (hb : b ∈ line)
    (hlt : a.start < b.start) : a.stop ≤ b.start := by
  have hlt' := h.start_lt_stop hb
  rcases h.eq_or_apart ha hb with rfl | hle | hle
  · omega
  · exact hle
  · omega

/-- The tokens that start up to the end of a token are those in front of it, and the token. -/
theorem count_stop (h : InLine line) (ha : a ∈ line) (kind : Placed → Bool) {start : ℕ}
    (hstart : start ≤ a.start) :
    count line kind start a.stop = count line kind start a.start + (kind a).toNat := by
  have hlt := h.start_lt_stop ha
  obtain ⟨front, back, rfl⟩ := List.append_of_mem ha
  obtain ⟨-, hback, hfront⟩ := List.pairwise_append.mp h.pairwise
  have hsame : ∀ part : List Placed, (∀ b ∈ part, b.start < a.start ∨ a.stop ≤ b.start) →
      count part kind start a.stop = count part kind start a.start := by
    intro part hpart
    refine List.countP_congr fun b hb => ?_
    have hapart := hpart b hb
    have hiff : b.start < a.stop ↔ b.start < a.start := by omega
    simp only [hiff]
  have hfront' : count front kind start a.stop = count front kind start a.start :=
    hsame front fun b hb => .inl ((h.start_lt_stop (List.mem_append_left _ hb)).trans_le
      (hfront b hb a List.mem_cons_self))
  have hback' : count back kind start a.stop = count back kind start a.start :=
    hsame back fun b hb => .inr ((List.pairwise_cons.mp hback).1 b hb)
  unfold count at *
  rw [List.countP_append, List.countP_append, List.countP_cons, List.countP_cons, hfront', hback']
  cases kind a <;> simp [hstart, hlt, Nat.add_assoc]

theorem spares_stop (h : InLine line) (ha : a ∈ line) (hb : b ∈ line) : a.Spares b.stop := by
  unfold Spares
  rcases h.eq_or_apart hb ha with rfl | hle | hle
  · exact .inr le_rfl
  · exact .inl hle
  · exact .inr (hle.trans (h.start_lt_stop hb).le)

theorem spares_start (h : InLine line) (ha : a ∈ line) (hb : b ∈ line) : a.Spares b.start := by
  unfold Spares
  rcases h.eq_or_apart hb ha with rfl | hle | hle
  · exact .inl le_rfl
  · exact .inl ((h.start_lt_stop hb).le.trans hle)
  · exact .inr hle

/-- The first closing bracket of a tag is in no other one, and ends the tag unless the tag is its
own end tag and holds a further bracket. -/
theorem spares_or_cutAt_bracketEnd (h : InLine line) (ha : a ∈ line) (hb : b ∈ line) {name : Text}
    (hcloses : b.Closes name) : a.Spares b.bracketEnd ∨ a.CutAt b.bracketEnd := by
  have hlt := b.start_lt_bracketEnd
  have hcases := hcloses.bracketEnd_cases (h.spelled b hb)
  rcases h.eq_or_apart hb ha with rfl | hapart | hapart
  · rcases hcases with ⟨heq, -⟩ | ⟨hinside, hholds⟩
    · exact .inl (.inr heq.ge)
    · exact .inr ⟨rfl, hinside, hholds⟩
  · exact .inl (.inl ((hcloses.bracketEnd_le (h.spelled b hb)).trans hapart))
  · exact .inl (.inr (hapart.trans hlt.le))

end InLine

end Placed

end CypherPages.Html

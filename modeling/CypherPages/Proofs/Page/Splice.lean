import CypherPages.Page.Writer
import Mathlib.Data.List.Nodup
import Mathlib.Order.Nat
import Mathlib.Tactic.Common

/-! # Writing edits from left to right

Edits are made from the back of a text to its front. Where their places are in order this copies
the text once and puts every replacement where its edit says. -/

namespace CypherPages.Edit

/-- The places of edits are in order from an offset on, and no two edits start at one place. -/
def Ordered (offset : ℕ) : List Edit → Prop
  | [] => True
  | edit :: rest =>
    offset ≤ edit.start ∧ edit.start ≤ edit.stop ∧ Ordered (max edit.stop (edit.start + 1)) rest

instance decidableOrdered (offset : ℕ) : (edits : List Edit) → Decidable (Ordered offset edits)
  | [] => inferInstanceAs (Decidable True)
  | edit :: rest =>
    have := decidableOrdered (max edit.stop (edit.start + 1)) rest
    inferInstanceAs (Decidable (offset ≤ edit.start ∧ edit.start ≤ edit.stop ∧ Ordered _ rest))

/-- Edits from an offset on that do not go back behind the end of an earlier one. Two insertions
may stand at one place. -/
def InPlace (offset : ℕ) : List Edit → Prop
  | [] => True
  | edit :: rest => offset ≤ edit.start ∧ edit.start ≤ edit.stop ∧ InPlace edit.stop rest

/-- A text that starts at an offset, copied with its edits made on the way. -/
def splice (offset : ℕ) (edits : List Edit) (text : Text) : Text :=
  match edits with
  | [] => text
  | edit :: rest =>
    text.take (edit.start - offset) ++ edit.replacement ++
      splice edit.stop rest (text.drop (edit.stop - offset))

/-! ### Places in order -/

theorem Ordered.mono {offset lower : ℕ} {edits : List Edit} (h : Ordered offset edits)
    (hle : lower ≤ offset) : Ordered lower edits := by
  cases edits with
  | nil => trivial
  | cons edit rest => exact ⟨hle.trans h.1, h.2⟩

theorem Ordered.le_start {offset : ℕ} {edits : List Edit} (h : Ordered offset edits) {edit : Edit}
    (hmem : edit ∈ edits) : offset ≤ edit.start := by
  induction edits generalizing offset with
  | nil => cases hmem
  | cons first rest ih =>
      rcases List.mem_cons.mp hmem with rfl | hmem
      · exact h.1
      · have := ih h.2.2 hmem
        have := h.1
        omega

/-- An edit may stand before others that start behind it and behind its end. -/
theorem Ordered.toList_append {offset next : ℕ} {edit? : Option Edit} {rest : List Edit}
    (hrest : Ordered next rest) (hle : offset ≤ next)
    (h : ∀ edit ∈ edit?, offset ≤ edit.start ∧ edit.start ≤ edit.stop ∧ edit.stop ≤ next ∧
      edit.start < next) : Ordered offset (edit?.toList ++ rest) := by
  cases edit? with
  | none => exact hrest.mono hle
  | some edit =>
      obtain ⟨hstart, hstop, hnext, hlt⟩ := h edit rfl
      exact ⟨hstart, hstop, hrest.mono (max_le hnext hlt)⟩

theorem Ordered.pairwise {offset : ℕ} {edits : List Edit} (h : Ordered offset edits) :
    edits.Pairwise fun a b => a.start < b.start := by
  induction edits generalizing offset with
  | nil => exact .nil
  | cons edit rest ih =>
      refine .cons (fun other hother => ?_) (ih h.2.2)
      have := h.2.2.le_start hother
      omega

theorem Ordered.inPlace {offset : ℕ} {edits : List Edit} (h : Ordered offset edits) :
    InPlace offset edits := by
  induction edits generalizing offset with
  | nil => trivial
  | cons edit rest ih => exact ⟨h.1, h.2.1, ih (h.2.2.mono (le_max_left _ _))⟩

theorem inPlace_of_pairwise {offset : ℕ} {edits : List Edit}
    (hpairs : edits.Pairwise fun a b => a.stop ≤ b.start)
    (hbounds : ∀ edit ∈ edits, offset ≤ edit.start ∧ edit.start ≤ edit.stop) :
    InPlace offset edits := by
  induction edits generalizing offset with
  | nil => trivial
  | cons edit rest ih =>
      obtain ⟨hbehind, hrest⟩ := List.pairwise_cons.mp hpairs
      obtain ⟨⟨hoffset, hle⟩, hbounds⟩ := List.forall_mem_cons.mp hbounds
      exact ⟨hoffset, hle, ih hrest fun other hother =>
        ⟨hbehind other hother, (hbounds other hother).2⟩⟩

theorem pairwise_mergeSort_start (edits : List Edit) :
    (edits.mergeSort fun a b => b.start ≤ a.start).Pairwise fun a b => b.start ≤ a.start := by
  have hsorted : (edits.mergeSort fun a b => b.start ≤ a.start).Pairwise
      fun a b => decide (b.start ≤ a.start) = true :=
    List.pairwise_mergeSort (by simpa using fun a b c hab hbc => hbc.trans hab)
      (by simpa using fun a b => le_total _ _) edits
  exact hsorted.imp of_decide_eq_true

/-- Edits in order are made in the reverse order. -/
theorem Ordered.mergeSort_eq {offset : ℕ} {edits : List Edit} (h : Ordered offset edits) :
    edits.mergeSort (fun a b => b.start ≤ a.start) = edits.reverse := by
  have hnodup : (edits.map Edit.start).Nodup := List.pairwise_map.mpr (h.pairwise.imp ne_of_lt)
  have hperm : (edits.mergeSort fun a b => b.start ≤ a.start).Perm edits.reverse :=
    (List.mergeSort_perm _ _).trans (List.reverse_perm edits).symm
  refine hperm.eq_of_pairwise (fun a b ha hb hab hba => ?_) (pairwise_mergeSort_start edits)
    (List.pairwise_reverse.mpr (h.pairwise.imp le_of_lt))
  exact List.inj_on_of_nodup_map hnodup (List.mem_mergeSort.mp ha) (List.mem_reverse.mp hb)
    (le_antisymm hba hab)

/-! ### Copying -/

/-- Text before the first edit is copied. -/
theorem splice_append {offset : ℕ} {edits : List Edit} (front text : Text)
    (h : ∀ edit ∈ edits.head?, offset + front.length ≤ edit.start)
    (hstop : ∀ edit ∈ edits.head?, edit.start ≤ edit.stop) :
    splice offset edits (front ++ text) = front ++ splice (offset + front.length) edits text := by
  cases edits with
  | nil => rfl
  | cons edit rest =>
      have hstart := h edit rfl
      have hle := hstop edit rfl
      obtain ⟨start, hs⟩ := Nat.exists_eq_add_of_le hstart
      obtain ⟨stop, ht⟩ := Nat.exists_eq_add_of_le (hstart.trans hle)
      have htake : edit.start - offset = front.length + start := by omega
      have htake' : edit.start - (offset + front.length) = start := by omega
      have hdrop : edit.stop - offset = front.length + stop := by omega
      have hdrop' : edit.stop - (offset + front.length) = stop := by omega
      simp only [splice, htake, htake', hdrop, hdrop', List.take_length_add_append,
        List.drop_length_add_append, List.append_assoc]

/-- The text of an edit is replaced. -/
theorem splice_cons {offset : ℕ} {edit : Edit} {replaced : Text} (h : edit.start = offset)
    (hstop : edit.stop = offset + replaced.length) (rest : List Edit) (text : Text) :
    splice offset (edit :: rest) (replaced ++ text) =
      edit.replacement ++ splice edit.stop rest text := by
  have hlength : edit.stop - offset = replaced.length := by omega
  simp [splice, h, hlength]

/-- An edit, if there is one, stands at a place and replaces a text there. What stands there in
the end is `written`. -/
structure Writes (edit? : Option Edit) (place : ℕ) (replaced written : Text) : Prop where
  place : ∀ edit ∈ edit?, edit.start = place ∧ edit.stop = edit.start + replaced.length
  written : (edit?.map replacement).getD replaced = written

theorem Writes.none (place : ℕ) (replaced : Text) : Writes none place replaced replaced :=
  ⟨by simp, rfl⟩

theorem Writes.insertion (place : ℕ) (written : Text) :
    Writes (some (Edit.insertion place written)) place [] written :=
  ⟨fun edit h => by rw [← Option.some.inj h]; exact ⟨rfl, rfl⟩, rfl⟩

theorem Writes.replacement {place stop : ℕ} {replaced : Text} (h : stop = place + replaced.length)
    (written : Text) : Writes (some ⟨place, stop, written⟩) place replaced written :=
  ⟨fun edit hedit => by rw [← Option.some.inj hedit]; exact ⟨rfl, h⟩, rfl⟩

/-- What stands before an edit is copied, and then what the edit writes. -/
theorem splice_toList {offset place : ℕ} {edit? : Option Edit} {front replaced written : Text}
    (h : Writes edit? place replaced written) (hplace : place = offset + front.length)
    {rest : List Edit} (hrest : Ordered (place + replaced.length) rest) (text : Text) :
    splice offset (edit?.toList ++ rest) (front ++ (replaced ++ text)) =
      front ++ (written ++ splice (place + replaced.length) rest text) := by
  subst hplace
  obtain ⟨hedit, rfl⟩ := h
  have hhead : ∀ edit ∈ rest.head?, offset + (front ++ replaced).length ≤ edit.start := by
    intro edit hedit
    rw [List.length_append, ← Nat.add_assoc]
    exact hrest.le_start (List.mem_of_mem_head? hedit)
  have hstop : ∀ edit ∈ rest.head?, edit.start ≤ edit.stop := by
    intro edit hedit
    cases rest with
    | nil => cases hedit
    | cons first rest =>
        obtain rfl : first = edit := by simpa using hedit
        exact hrest.2.1
  cases edit? with
  | none =>
      rw [Option.toList_none, List.nil_append, ← List.append_assoc, splice_append _ _ hhead hstop,
        List.length_append, ← Nat.add_assoc, List.append_assoc]
      rfl
  | some edit =>
      obtain ⟨hstart, hend⟩ := hedit edit rfl
      rw [Option.toList_some, List.singleton_append,
        splice_append front _ (by simp [hstart]) (by simp [hend]),
        splice_cons hstart (by omega), hend, hstart]
      rfl

/-- Making edits in place from back to front is copying the text with its edits. -/
theorem foldr_apply_eq {offset : ℕ} {edits : List Edit} (h : InPlace offset edits)
    {front : Text} (hfront : front.length = offset) {text : Text}
    (hstop : ∀ edit ∈ edits, edit.stop ≤ offset + text.length) :
    edits.foldr (fun edit text => apply text edit) (front ++ text) =
      front ++ splice offset edits text := by
  induction edits generalizing offset front text with
  | nil => rfl
  | cons edit rest ih =>
      obtain ⟨hstart, hle, hrest⟩ := h
      have hbound := hstop edit List.mem_cons_self
      have htext : text = text.take (edit.stop - offset) ++ text.drop (edit.stop - offset) :=
        (List.take_append_drop _ _).symm
      have hkept : (front ++ text.take (edit.stop - offset)).length = edit.stop := by
        rw [List.length_append, List.length_take]
        omega
      have hbounds : ∀ other ∈ rest,
          other.stop ≤ edit.stop + (text.drop (edit.stop - offset)).length := by
        intro other hother
        have := hstop other (List.mem_cons_of_mem _ hother)
        rw [List.length_drop]
        omega
      -- The later edits leave everything up to the end of this one alone.
      have hih := ih hrest hkept hbounds
      rw [List.append_assoc, ← htext] at hih
      have hdrop : ∀ after : Text, (front ++ text.take (edit.stop - offset) ++ after).drop
          edit.stop = after := fun after => List.drop_left' hkept
      have htake : ∀ after : Text, (front ++ text.take (edit.stop - offset) ++ after).take
          edit.start = front ++ text.take (edit.start - offset) := by
        intro after
        rw [List.append_assoc, List.take_append, List.take_of_length_le (by omega), hfront,
          List.take_append, List.take_take, min_eq_left (by omega), List.length_take]
        have hzero : edit.start - offset - min (edit.stop - offset) text.length = 0 := by omega
        rw [hzero, List.take_zero, List.append_nil]
      rw [List.foldr_cons, hih, apply, hdrop, htake, splice]
      simp only [List.append_assoc]

theorem applyAll_eq_foldl_reverse {offset : ℕ} {edits : List Edit} (h : Ordered offset edits)
    (text : Text) : applyAll text edits = edits.reverse.foldl apply text := by
  rw [applyAll, h.mergeSort_eq]

/-- A text with ordered edits is the text copied with its edits. -/
theorem applyAll_eq_splice {edits : List Edit} (h : Ordered 0 edits) {text : Text}
    (hstop : ∀ edit ∈ edits, edit.stop ≤ text.length) :
    applyAll text edits = splice 0 edits text := by
  rw [applyAll_eq_foldl_reverse h, List.foldl_reverse]
  exact @foldr_apply_eq 0 edits h.inPlace [] rfl text (by simpa using hstop)

end CypherPages.Edit

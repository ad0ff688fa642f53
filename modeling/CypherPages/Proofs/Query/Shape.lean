import CypherPages.Proofs.Query.ReadBack
import CypherPages.Query.Result
import Mathlib.Data.List.Forall2
import Mathlib.Data.Set.List

/-! # The shape of a result

Which decoded bodies are results, and of what: the rules below name the fields that count and do
not mention the check. The check accepts just what they describe and counts the faults of
everything else. -/

namespace CypherPages

/-! ### Rules -/

/-- A field lists values of one kind. It may be missing or null, and lists nothing then. -/
inductive Lists {α : Type} (kind : α → Json) : Option Json → List α → Prop
  | missing : Lists kind none []
  | null : Lists kind (some .null) []
  | array (items : List α) : Lists kind (some (.array (items.map kind))) items

/-- A field holds a text. It may be missing or null, and holds none then. -/
inductive HoldsText : Option Json → Option Text → Prop
  | missing : HoldsText none none
  | null : HoldsText (some .null) none
  | text (text : Text) : HoldsText (some (.string text)) (some text)

namespace QueryResult

/-- The fields of an object describe a result without statistics. -/
structure Described (fields : List (Text × Json)) (result : QueryResult) : Prop where
  columns : Lists .string (fields.lookup "columns".toList) result.columns
  rows : Lists .object (fields.lookup "rows".toList) result.rows
  error : HoldsText (fields.lookup "error".toList) result.error
  stats : result.stats = none

/-- The statistics of an object are missing or null. -/
def WithoutStats (fields : List (Text × Json)) : Prop :=
  fields.lookup "stats".toList = none ∨ fields.lookup "stats".toList = some .null

end QueryResult

/-- A field that lists values may be missing or null, or is an array of values that are all of
the kind. -/
def MayList {α : Type} (kind : α → Json) (field : Option Json) : Prop :=
  field = none ∨ field = some .null ∨
    ∃ items, field = some (.array items) ∧ ∀ item ∈ items, ∃ value, item = kind value

def MayHoldText (field : Option Json) : Prop :=
  field = none ∨ field = some .null ∨ ∃ text, field = some (.string text)

section

variable {α : Type} {kind : α → Json} {field : Option Json}

theorem Lists.mayList {values : List α} (h : Lists kind field values) : MayList kind field := by
  cases h with
  | missing => exact .inl rfl
  | null => exact .inr (.inl rfl)
  | array items =>
      refine .inr (.inr ⟨_, rfl, fun item hitem => ?_⟩)
      obtain ⟨value, -, rfl⟩ := List.mem_map.mp hitem
      exact ⟨value, rfl⟩

theorem MayList.exists_lists (h : MayList kind field) : ∃ values, Lists kind field values := by
  rcases h with rfl | rfl | ⟨items, rfl, hitems⟩
  · exact ⟨[], .missing⟩
  · exact ⟨[], .null⟩
  · have hrange : items ∈ Set.range (List.map kind) := by
      rw [Set.range_list_map]
      intro item hitem
      obtain ⟨value, rfl⟩ := hitems item hitem
      exact ⟨value, rfl⟩
    obtain ⟨values, rfl⟩ := hrange
    exact ⟨values, .array values⟩

theorem HoldsText.mayHoldText {text : Option Text} (h : HoldsText field text) :
    MayHoldText field := by
  cases h with
  | missing => exact .inl rfl
  | null => exact .inr (.inl rfl)
  | text s => exact .inr (.inr ⟨s, rfl⟩)

theorem MayHoldText.exists_holdsText (h : MayHoldText field) : ∃ text, HoldsText field text := by
  rcases h with rfl | rfl | ⟨s, rfl⟩
  · exact ⟨none, .missing⟩
  · exact ⟨none, .null⟩
  · exact ⟨some s, .text s⟩

end

/-! ### Faults -/

def Json.isText : Json → Bool
  | .string _ => true
  | _ => false

def Json.isRecord : Json → Bool
  | .object _ => true
  | _ => false

/-- The faults of a field that should list values of a kind: one for each item that is not, or
one for a field that lists nothing. -/
def listFaults (kind : Json → Bool) : Option Json → ℕ
  | none | some .null => 0
  | some (.array items) => items.countP fun item => !kind item
  | some _ => 1

def textFaults : Option Json → ℕ
  | none | some .null | some (.string _) => 0
  | some _ => 1

namespace QueryResult

/-- The faults of an object without statistics. -/
def faults (fields : List (Text × Json)) : ℕ :=
  listFaults Json.isText (fields.lookup "columns".toList) +
    listFaults Json.isRecord (fields.lookup "rows".toList) +
    textFaults (fields.lookup "error".toList)

/-- A decoded body is no result, and why. -/
inductive Misshapen : Json → ShapeProblem → Prop
  | notAnObject {value : Json} (h : ∀ fields, value ≠ .object fields) :
    Misshapen value (.notAnObject (kindName value).toList)
  | faults {fields : List (Text × Json)} (h : faults fields ≠ 0) :
    Misshapen (.object fields) (.faults (faults fields))

end QueryResult

/-! ### What a check finds -/

namespace Checked

variable {α β : Type}

/-- A check accepts the one value that a rule allows. If there is none, it has faults. -/
inductive Finds (allowed : α → Prop) : Checked α → ℕ → Prop
  | accepted {a : α} (h : allowed a) (hunique : ∀ b, allowed b → b = a) : Finds allowed (.ok a) 0
  | refused {faults : ℕ} (h : ∀ a, ¬ allowed a) (hfaults : faults ≠ 0) :
    Finds allowed (.error faults) faults

namespace Finds

variable {allowed : α → Prop} {outcome : Checked α} {faults : ℕ}

theorem eq_ok_iff (h : Finds allowed outcome faults) {a : α} : outcome = .ok a ↔ allowed a := by
  cases h with
  | accepted hfound hunique =>
      constructor
      · intro heq
        rwa [← Except.ok.inj heq]
      · intro ha
        rw [hunique a ha]
  | refused h => simp [h a]

theorem eq_error_iff (h : Finds allowed outcome faults) {count : ℕ} :
    outcome = .error count ↔ faults = count ∧ faults ≠ 0 := by
  cases h with
  | accepted => simp
  | refused _ hfaults => simp [hfaults]

/-- The check may be told by another rule that allows the same values. -/
theorem congr (h : Finds allowed outcome faults) {other : α → Prop}
    (hother : ∀ a, other a ↔ allowed a) : Finds other outcome faults := by
  have heq : other = allowed := funext fun a => propext (hother a)
  rwa [heq]

/-- The faults of two values are counted together. -/
theorem both {second : Checked β} {permitted : β → Prop} {count : ℕ}
    (h : Finds allowed outcome faults) (hsecond : Finds permitted second count) :
    Finds (fun pair => allowed pair.1 ∧ permitted pair.2) (Checked.both outcome second)
      (faults + count) := by
  cases h with
  | accepted h hunique =>
      cases hsecond with
      | accepted hsecond hsecondUnique =>
          apply accepted ⟨h, hsecond⟩
          rintro ⟨a, b⟩ ⟨ha, hb⟩
          rw [hunique a ha, hsecondUnique b hb]
      | refused hsecond hcount =>
          rw [Nat.zero_add]
          exact refused (fun pair hpair => hsecond pair.2 hpair.2) hcount
  | refused h hfaults =>
      have hnone : ∀ pair : α × β, ¬ (allowed pair.1 ∧ permitted pair.2) :=
        fun pair hpair => h pair.1 hpair.1
      cases hsecond with
      | accepted => exact refused hnone hfaults
      | refused => exact refused hnone (by omega)

theorem map (h : Finds allowed outcome faults) (change : α → β) :
    Finds (fun b => ∃ a, allowed a ∧ change a = b) (outcome.map change) faults := by
  cases h with
  | @accepted a h hunique =>
      apply accepted ⟨a, h, rfl⟩
      rintro _ ⟨b, hb, rfl⟩
      rw [hunique b hb]
  | refused h hfaults =>
      apply refused _ hfaults
      rintro _ ⟨a, ha, -⟩
      exact h a ha

/-- Every item that is refused counts, so one of them does not hide another. -/
theorem each {check : α → Checked β} {permitted : α → β → Prop} {accepts : α → Bool}
    (h : ∀ a, Finds (permitted a) (check a) (if accepts a then 0 else 1)) (items : List α) :
    Finds (List.Forall₂ permitted items) (Checked.each check items)
      (items.countP fun item => !accepts item) := by
  induction items with
  | nil =>
      apply accepted .nil
      intro others hothers
      exact List.forall₂_nil_left_iff.mp hothers
  | cons item rest ih =>
      have hcount : (item :: rest).countP (fun item => !accepts item) =
          (if accepts item then 0 else 1) + rest.countP fun item => !accepts item := by
        rw [List.countP_cons, Nat.add_comm]
        cases accepts item <;> rfl
      rw [hcount]
      apply (((h item).both ih).map fun pair => pair.1 :: pair.2).congr
      intro others
      rw [List.forall₂_cons_left_iff]
      constructor
      · rintro ⟨other, others, hother, hothers, rfl⟩
        exact ⟨(other, others), ⟨hother, hothers⟩, rfl⟩
      · rintro ⟨⟨other, others⟩, ⟨hother, hothers⟩, rfl⟩
        exact ⟨other, others, hother, hothers, rfl⟩

end Finds

theorem text_finds (value : Json) :
    Finds (fun s => value = .string s) (text value) (if value.isText then 0 else 1) := by
  cases value with
  | string s =>
      exact .accepted rfl fun other h => (Json.string.inj h).symm
  | null | bool | int | float | array | object => exact .refused (by simp) Nat.one_ne_zero

theorem fields_finds (value : Json) :
    Finds (fun entries => value = .object entries) (fields value)
      (if value.isRecord then 0 else 1) := by
  cases value with
  | object entries =>
      exact .accepted rfl fun other h => (Json.object.inj h).symm
  | null | bool | int | float | string | array => exact .refused (by simp) Nat.one_ne_zero

/-- A field that may list values of a kind is accepted with the values that it lists. -/
theorem list_finds {kind : α → Json} {check : Json → Checked α} {isKind : Json → Bool}
    (h : ∀ value, Finds (fun a => value = kind a) (check value) (if isKind value then 0 else 1))
    (field : Option Json) :
    Finds (Lists kind field) (list check field) (listFaults isKind field) := by
  cases field with
  | none =>
      apply Finds.accepted .missing
      intro others hothers
      cases hothers
      rfl
  | some value =>
      cases value with
      | null =>
          apply Finds.accepted .null
          intro others hothers
          cases hothers
          rfl
      | array items =>
          apply (Finds.each h items).congr
          intro others
          constructor
          · rintro ⟨⟩
            simp [List.forall₂_map_left_iff, List.forall₂_same]
          · intro hothers
            have heq : items = others.map kind := by
              rw [← List.forall₂_eq_eq_eq, List.forall₂_map_right_iff]
              exact hothers
            rw [heq]
            exact .array others
      | bool | int | float | string | object =>
          apply Finds.refused _ Nat.one_ne_zero
          rintro others ⟨⟩

theorem optional_text_finds (field : Option Json) :
    Finds (HoldsText field) (optional text field) (textFaults field) := by
  cases field with
  | none =>
      apply Finds.accepted .missing
      rintro other ⟨⟩
      rfl
  | some value =>
      cases value with
      | null =>
          apply Finds.accepted .null
          rintro other ⟨⟩
          rfl
      | string s =>
          apply Finds.accepted (.text s)
          rintro other ⟨⟩
          rfl
      | bool | int | float | array | object =>
          apply Finds.refused _ Nat.one_ne_zero
          rintro other ⟨⟩

end Checked

namespace QueryResult

variable {fields others : List (Text × Json)} {result : QueryResult}

theorem optional_stats (h : WithoutStats fields) :
    Checked.optional Checked.stats (fields.lookup "stats".toList) = .ok none := by
  rcases h with h | h
  · rw [h]
    rfl
  · rw [h]
    rfl

/-- The check of an object finds what its fields describe. -/
theorem ofFields_finds (h : WithoutStats fields) :
    Checked.Finds (Described fields) (ofFields fields) (faults fields) := by
  have hstats : Checked.Finds (fun stats : Option QueryStats => stats = none)
      (Checked.optional Checked.stats (fields.lookup "stats".toList)) 0 := by
    rw [optional_stats h]
    exact .accepted rfl fun other hother => hother
  have hcolumns := Checked.list_finds Checked.text_finds (fields.lookup "columns".toList)
  have hrows := Checked.list_finds Checked.fields_finds (fields.lookup "rows".toList)
  have herror := Checked.optional_text_finds (fields.lookup "error".toList)
  have hall := (hcolumns.both hrows).both (hstats.both herror)
  rw [Nat.zero_add] at hall
  apply (hall.map _).congr
  intro result
  constructor
  · rintro ⟨hcolumns, hrows, herror, hstats⟩
    exact ⟨((result.columns, result.rows), (result.stats, result.error)),
      ⟨⟨hcolumns, hrows⟩, hstats, herror⟩, rfl⟩
  · rintro ⟨⟨⟨columns, rows⟩, ⟨stats, error⟩⟩, ⟨⟨hcolumns, hrows⟩, hstats, herror⟩, rfl⟩
    exact ⟨hcolumns, hrows, herror, hstats⟩

/-- Which objects describe a result. -/
theorem exists_described_iff : (∃ result, Described fields result) ↔
    MayList .string (fields.lookup "columns".toList) ∧
      MayList .object (fields.lookup "rows".toList) ∧
      MayHoldText (fields.lookup "error".toList) := by
  constructor
  · rintro ⟨result, hcolumns, hrows, herror, -⟩
    exact ⟨hcolumns.mayList, hrows.mayList, herror.mayHoldText⟩
  · rintro ⟨hcolumns, hrows, herror⟩
    obtain ⟨columns, hcolumns⟩ := hcolumns.exists_lists
    obtain ⟨rows, hrows⟩ := hrows.exists_lists
    obtain ⟨error, herror⟩ := herror.exists_holdsText
    exact ⟨⟨columns, rows, none, error⟩, hcolumns, hrows, herror, rfl⟩

/-! ### Decoded bodies -/

variable {payload : Json}

theorem ofPayload_eq_ok_iff (h : ∀ fields, payload = .object fields → WithoutStats fields) :
    ofPayload payload = .ok result ↔ ∃ fields, payload = .object fields ∧
      Described fields result := by
  cases payload with
  | object fields =>
      simp only [Json.object.injEq, exists_eq_left', ← (ofFields_finds (h fields rfl)).eq_ok_iff,
        ofPayload]
      cases ofFields fields <;> simp
  | null | bool | int | float | string | array => simp [ofPayload]

theorem ofPayload_eq_error_iff (h : ∀ fields, payload = .object fields → WithoutStats fields)
    {problem : ShapeProblem} : ofPayload payload = .error problem ↔
      Misshapen payload problem := by
  constructor
  · intro herror
    cases payload with
    | object fields =>
        have hfinds := ofFields_finds (h fields rfl)
        rw [ofPayload] at herror
        cases hfields : ofFields fields with
        | ok result => simp [hfields] at herror
        | error count =>
            obtain ⟨rfl, hfaults⟩ := hfinds.eq_error_iff.mp hfields
            simp only [hfields, Except.error.injEq] at herror
            rw [← herror]
            exact .faults hfaults
    | null | bool | int | float | string | array =>
        cases herror
        exact .notAnObject (by simp)
  · intro hproblem
    cases hproblem with
    | notAnObject hvalue =>
        cases payload with
        | object fields => exact absurd rfl (hvalue fields)
        | null | bool | int | float | string | array => rfl
    | @faults fields hfaults =>
        have herror := (ofFields_finds (h fields rfl)).eq_error_iff.mpr ⟨rfl, hfaults⟩
        rw [ofPayload, herror]

/-- Objects with the same columns, rows and error have the same outcome. -/
theorem ofPayload_congr (h : WithoutStats fields) (hothers : WithoutStats others)
    (hsame : ∀ name ∈ ["columns", "rows", "error"],
      others.lookup name.toList = fields.lookup name.toList) :
    ofPayload (.object others) = ofPayload (.object fields) := by
  have hcolumns := hsame "columns" (by simp)
  have hrows := hsame "rows" (by simp)
  have herror := hsame "error" (by simp)
  simp only [ofPayload, ofFields, hcolumns, hrows, herror, optional_stats h,
    optional_stats hothers]

/-- The check of a decoded body without statistics is told by its columns, its rows and its error
alone. What it accepts has the values of these fields as they are, and can be shown. -/
theorem ofPayload_decides (h : ∀ fields, payload = .object fields → WithoutStats fields) :
    ((∃ result, ofPayload payload = .ok result) ↔ ∃ fields, payload = .object fields ∧
      MayList .string (fields.lookup "columns".toList) ∧
      MayList .object (fields.lookup "rows".toList) ∧
      MayHoldText (fields.lookup "error".toList)) ∧
    (∀ result, ofPayload payload = .ok result ↔
      ∃ fields, payload = .object fields ∧ Described fields result) ∧
    (∀ problem, ofPayload payload = .error problem ↔ Misshapen payload problem) ∧
    (∀ fields others, payload = .object fields → WithoutStats others →
      (∀ name ∈ ["columns", "rows", "error"],
        others.lookup name.toList = fields.lookup name.toList) →
      ofPayload (.object others) = ofPayload payload) ∧
    ∀ result, ofPayload payload = .ok result →
      Html.readNodes? (Render.result result) = some (Render.resultNodes result) := by
  refine ⟨?_, fun result => ofPayload_eq_ok_iff h, fun problem => ofPayload_eq_error_iff h, ?_,
    fun result _ => Render.readNodes?_result result⟩
  · simp only [ofPayload_eq_ok_iff h, ← exists_described_iff]
    constructor
    · rintro ⟨result, fields, hpayload, hdescribed⟩
      exact ⟨fields, hpayload, result, hdescribed⟩
    · rintro ⟨fields, hpayload, result, hdescribed⟩
      exact ⟨result, fields, hpayload, hdescribed⟩
  · rintro fields others rfl hothers hsame
    exact ofPayload_congr (h fields rfl) hothers hsame

/-- An object with null columns, a nested value, an empty error and a field that does not count,
the same object without that field, and one with three faults. -/
theorem ofPayload_decides_sparse :
    let rows := [[("n".toList, Json.array [.null, .object []])], []]
    let fields := [("columns".toList, .null), ("rows".toList, .array (rows.map .object)),
      ("error".toList, .string [])]
    let noted := .object (("note".toList, .bool true) :: fields)
    let faulty := Json.object [("columns".toList, .array [.null, .string [], .int 1]),
      ("error".toList, .int 0), ("stats".toList, .null)]
    ofPayload noted = .ok ⟨[], rows, none, some []⟩ ∧
      ofPayload (.object fields) = ofPayload noted ∧ ofPayload faulty = .error (.faults 3) := by
  intro rows fields noted faulty
  have hfields : WithoutStats fields := .inl rfl
  have hnoted : ∀ entries, noted = .object entries → WithoutStats entries := by
    intro entries hentries
    rw [← Json.object.inj hentries]
    exact .inl rfl
  have hfaulty : ∀ entries, faulty = .object entries → WithoutStats entries := by
    intro entries hentries
    rw [← Json.object.inj hentries]
    exact .inr rfl
  obtain ⟨-, haccepted, -, hothers, -⟩ := ofPayload_decides hnoted
  obtain ⟨-, -, hrefused, -, -⟩ := ofPayload_decides hfaulty
  refine ⟨(haccepted _).mpr ⟨_, rfl, ?_⟩, hothers _ _ rfl hfields ?_, (hrefused _).mpr ?_⟩
  · exact ⟨.null, .array rows, .text [], rfl⟩
  · intro name hname
    simp only [List.mem_cons, List.not_mem_nil, or_false] at hname
    rcases hname with rfl | rfl | rfl <;> rfl
  · exact .faults (by decide)

end QueryResult

end CypherPages

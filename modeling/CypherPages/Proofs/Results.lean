import Mathlib.Data.List.Forall2

/-! # Results that are no errors

What a computation that came to a value tells of the computations that it is made of. -/

namespace CypherPages

variable {ε ε' α β : Type}

theorem exists_of_bind_eq_ok {first : Except ε α} {next : α → Except ε β} {b : β}
    (h : first >>= next = .ok b) : ∃ a, first = .ok a ∧ next a = .ok b := by
  cases first with
  | error error => cases h
  | ok a => exact ⟨a, rfl, h⟩

theorem bind_eq_ok {first : Except ε α} {next : α → Except ε β} {a : α} {b : β}
    (h : first = .ok a) (hnext : next a = .ok b) : first >>= next = .ok b := by
  rw [h]
  exact hnext

theorem error_of_bind {first : Except ε α} {next : α → Except ε β} {error : ε}
    (h : first >>= next = .error error) :
    first = .error error ∨ ∃ a, first = .ok a ∧ next a = .error error := by
  cases first with
  | error other => exact .inl (congrArg Except.error (Except.error.inj h))
  | ok a => exact .inr ⟨a, rfl, h⟩

theorem exists_of_map_eq_ok {result : Except ε α} {change : α → β} {b : β}
    (h : result.map change = .ok b) : ∃ a, result = .ok a ∧ change a = b := by
  cases result with
  | error error => cases h
  | ok a => exact ⟨a, rfl, Except.ok.inj h⟩

theorem eq_ok_of_mapError {result : Except ε α} {change : ε → ε'} {a : α}
    (h : result.mapError change = .ok a) : result = .ok a := by
  cases result with
  | error error => cases h
  | ok b => exact congrArg Except.ok (Except.ok.inj h)

theorem exists_of_mapError_eq_error {result : Except ε α} {change : ε → ε'} {error : ε'}
    (h : result.mapError change = .error error) :
    ∃ original, result = .error original ∧ change original = error := by
  cases result with
  | error original => exact ⟨original, rfl, Except.error.inj h⟩
  | ok a => cases h

theorem error_of_map {result : Except ε α} {change : α → β} {error : ε}
    (h : result.map change = .error error) : result = .error error := by
  cases result with
  | error original => exact congrArg Except.error (Except.error.inj h)
  | ok a => cases h

/-- A value that was looked at in part. -/
theorem exists_of_toOption_map {result : Except ε α} {view : α → β} {b : β}
    (h : result.toOption.map view = some b) : ∃ a, result = .ok a ∧ view a = b := by
  cases result with
  | error error => cases h
  | ok a => exact ⟨a, rfl, Option.some.inj h⟩

/-- Values that were taken one after the other, all of them without an error. -/
theorem mapM_eq_ok_iff {f : α → Except ε β} {values : List α} {results : List β} :
    values.mapM f = .ok results ↔
      List.Forall₂ (fun a b => f a = .ok b) values results := by
  induction values generalizing results with
  | nil =>
      rw [List.mapM_nil, List.forall₂_nil_left_iff]
      exact ⟨fun h => (Except.ok.inj h).symm, fun h => congrArg Except.ok h.symm⟩
  | cons value rest ih =>
      rw [List.mapM_cons, List.forall₂_cons_left_iff]
      constructor
      · intro h
        obtain ⟨result, hresult, h⟩ := exists_of_bind_eq_ok h
        obtain ⟨others, hothers, h⟩ := exists_of_bind_eq_ok h
        exact ⟨result, others, hresult, ih.mp hothers, (Except.ok.inj h).symm⟩
      · rintro ⟨result, others, hresult, hothers, rfl⟩
        rw [hresult, ih.mpr hothers]
        rfl

end CypherPages

import CypherPages.Json.Reader
import CypherPages.Proofs.Entries
import CypherPages.Proofs.Json.Exact
import CypherPages.Proofs.Number.Magnitude

/-! # Integers within the limit

An integer is within the limit if it has no more digits than can be read and written. Every value
that is read has such integers only, wherever they stand in it, and so has the same value with
the fields of its objects in order. A text that is JSON is refused only for an integer beyond the
limit, or because it nests too deeply for its reader. -/

namespace CypherPages.Json

theorem isOverlong_eq_false {n : ℤ} {width : ℕ} (h : n.natAbs < 2 ^ width)
    (hwidth : width ≤ digitLimit) : isOverlong n = false := by
  have hlt : n.natAbs < 10 ^ digitLimit :=
    calc n.natAbs < 2 ^ width := h
      _ ≤ 10 ^ width := Nat.pow_le_pow_left (by decide) width
      _ ≤ 10 ^ digitLimit := Nat.pow_le_pow_right (by decide) hwidth
  have hlength := (Nat.length_toDigits_le_iff (b := 10) (by decide) (by decide)).mpr hlt
  exact decide_eq_false (Nat.not_lt.mpr hlength)

/-- The integer part of a double is within the limit. -/
theorem isOverlong_of_truncate? {x : Binary64} {k : ℕ} {n : ℤ}
    (h : (x.mulNat k).truncate? = some n) : isOverlong n = false :=
  isOverlong_eq_false (Binary64.natAbs_truncate?_mulNat_lt h) (by decide)

theorem overlongDigits?_int {n : ℤ} (h : isOverlong n = false) :
    (Json.int n).overlongDigits? = none := by
  rw [overlongDigits?, h]
  rfl

/-! ### Values and the values below them -/

theorem fits_int_iff {n : ℤ} : (Json.int n).fits = true ↔ isOverlong n = false := by
  rw [fits, Bool.not_eq_true']

theorem fitsItems_iff {items : List Json} :
    fitsItems items = true ↔ ∀ item ∈ items, item.fits = true := by
  induction items with
  | nil => simp [fitsItems]
  | cons item items ih => rw [fitsItems, Bool.and_eq_true, ih, List.forall_mem_cons]

theorem fits_array_iff {items : List Json} :
    (Json.array items).fits = true ↔ ∀ item ∈ items, item.fits = true := by
  rw [fits, fitsItems_iff]

theorem fitsMembers_iff {fields : List (Text × Json)} :
    fitsMembers fields = true ↔ ∀ field ∈ fields, field.2.fits = true := by
  induction fields with
  | nil => simp [fitsMembers]
  | cons field fields ih => rw [fitsMembers, Bool.and_eq_true, ih, List.forall_mem_cons]

theorem fits_object_iff {fields : List (Text × Json)} :
    (Json.object fields).fits = true ↔ ∀ field ∈ fields, field.2.fits = true := by
  rw [fits, fitsMembers_iff]

theorem fits_of_mem_children {value child : Json} (hfits : value.fits = true)
    (h : child ∈ value.children) : child.fits = true := by
  cases value with
  | array items => exact fits_array_iff.mp hfits child h
  | object fields =>
      obtain ⟨field, hfield, rfl⟩ := List.mem_map.mp h
      exact fits_object_iff.mp hfits field hfield
  | null | bool | int | float | string => cases h

theorem fits_of_lookup {fields : List (Text × Json)} {name : Text} {value : Json}
    (hfits : (Json.object fields).fits = true) (h : fields.lookup name = some value) :
    value.fits = true := by
  obtain ⟨before, after, rfl, -⟩ := List.lookup_eq_some_iff.mp h
  exact fits_object_iff.mp hfits (name, value) (by simp)

/-- A value with its fields in order has the same integers. -/
theorem fits_sortFields (value : Json) : value.sortFields.fits = value.fits := by
  induction value using induction_children with
  | step value ih =>
      cases value with
      | array items =>
          rw [Bool.eq_iff_iff, sortFields_array, fits_array_iff, fits_array_iff,
            List.forall_mem_map]
          exact forall₂_congr fun item hitem => by rw [ih item hitem]
      | object fields =>
          obtain ⟨others, hothers, hperm⟩ := sortFields_object fields
          have hmem : ∀ field ∈ fields, field.2 ∈ (Json.object fields).children :=
            fun _ => List.mem_map_of_mem
          rw [Bool.eq_iff_iff, hothers, fits_object_iff, fits_object_iff]
          simp only [← hperm.mem_iff, List.forall_mem_map]
          exact forall₂_congr fun field hfield => by rw [ih field.2 (hmem field hfield)]
      | _ => rfl

theorem fitsMembers_ofPairs {pairs : List (Text × Json)} (h : fitsMembers pairs = true) :
    fitsMembers (Entries.ofPairs pairs) = true :=
  fitsMembers_iff.mpr (Entries.forall_setAll (p := fun value : Json => value.fits = true)
    (fitsMembers_iff.mp h) fun _ hfield => absurd hfield List.not_mem_nil)

/-! ### What reading comes to -/

/-- A failure that can come up: an integer is overlong only if it has too many digits, and nothing
is too deep for a reader without a limit. -/
def Failure.Arises (decoder : Decoder) : Failure → Prop
  | .malformed _ _ => True
  | .overlong digits => digitLimit < digits
  | .tooDeep _ => decoder.nesting.isSome = true

theorem Failure.Arises.of_enter? {decoder inner : Decoder} {failure : Failure}
    (henter : decoder.enter? = some inner) (h : failure.Arises inner) : failure.Arises decoder := by
  cases failure with
  | malformed | overlong => exact h
  | tooDeep container =>
      unfold Decoder.enter? at henter
      cases hnesting : decoder.nesting with
      | none =>
          rw [hnesting] at henter
          obtain rfl := Option.some.inj henter
          exact h
      | some n => exact congrArg Option.isSome hnesting

/-- A step of reading finds a value with a property, or fails as it can. -/
def Yields (decoder : Decoder) {α : Type} {source : Text} (p : α → Bool) :
    Except Failure (Scanned α source) → Prop
  | .ok scanned => p scanned.value = true
  | .error failure => failure.Arises decoder

section

variable {decoder : Decoder} {α : Type} {source : Text} {p : α → Bool}
  {outcome : Except Failure (Scanned α source)}

theorem Yields.value (h : Yields decoder p outcome) {scanned : Scanned α source}
    (hfound : outcome = .ok scanned) : p scanned.value = true := by
  subst hfound
  exact h

theorem Yields.failure (h : Yields decoder p outcome) {failure : Failure}
    (hfails : outcome = .error failure) : failure.Arises decoder := by
  subst hfails
  exact h

end

theorem fits_number? {t : Text} {value : Json} {length : ℕ} (h : number? t = some (value, length))
    (hshort : value.overlongDigits? = none) : value.fits = true := by
  unfold number? at h
  dsimp only at h
  -- a minus sign in front makes no difference
  split at h
  all_goals
    obtain ⟨-, h⟩ := Option.ite_none_left_eq_some.mp h
    obtain ⟨-, h⟩ | ⟨-, h⟩ := ite_eq_iff.mp h
    · cases h
      rw [fits_int_iff]
      simpa [overlongDigits?] using hshort
    · cases h
      rfl

theorem fits_scalar? {t : Text} {value : Json} {length : ℕ} (h : scalar? t = some (value, length))
    (hshort : value.overlongDigits? = none) : value.fits = true := by
  unfold scalar? at h
  split at h
  · next hfind =>
      cases h
      have hall : literals.all (fun literal => literal.2.fits) = true := rfl
      exact List.all_eq_true.mp hall _ (List.mem_of_find?_eq_some hfind)
  · exact fits_number? h hshort

theorem digitLimit_lt_of_overlongDigits? {value : Json} {digits : ℕ}
    (h : value.overlongDigits? = some digits) : digitLimit < digits := by
  cases value with
  | int n =>
      obtain ⟨hoverlong, hdigits⟩ := Option.ite_none_right_eq_some.mp h
      rw [← Option.some.inj hdigits]
      exact of_decide_eq_true hoverlong
  | null | bool | float | string | array | object => cases h

theorem lowUnit?_eq_error {t : Text} {failure : Failure} (h : lowUnit? t = .error failure) :
    ∃ problem rest, failure = .malformed problem rest := by
  unfold lowUnit? at h
  split at h
  · split at h
    · exact ⟨_, _, (Except.error.inj h).symm⟩
    · split at h <;> cases h
  · cases h

theorem readUnicode_eq_error {half : Char} {digits : Text} {failure : Failure}
    (h : readUnicode half digits = .error failure) :
    ∃ problem rest, failure = .malformed problem rest := by
  unfold readUnicode at h
  split at h
  · split at h
    · exact ⟨_, _, (Except.error.inj h).symm⟩
    · dsimp only at h
      split at h
      · split at h
        · next hlow =>
            obtain rfl := Except.error.inj h
            exact lowUnit?_eq_error hlow
        · cases h
        · cases h
      · cases h
  · exact ⟨_, _, (Except.error.inj h).symm⟩

/-- A string is well-formed or not, and has nothing that could be too long or too deep. -/
theorem readString_eq_error {half : Char} {opening t : Text} {failure : Failure}
    (h : readString half opening t = .error failure) :
    ∃ problem rest, failure = .malformed problem rest := by
  fun_induction readString half opening t with
  | case1 | case3 | case7 | case10 => exact ⟨_, _, (Except.error.inj h).symm⟩
  | case2 | case6 | case9 | case12 => cases h
  | case4 digits found hunit =>
      obtain rfl := Except.error.inj h
      exact readUnicode_eq_error hunit
  | case5 digits unit hunit hshorter found hread ih =>
      obtain rfl := Except.error.inj h
      exact ih hread
  | case8 letter rest hletter c hnamed found hread ih =>
      obtain rfl := Except.error.inj h
      exact ih hread
  | case11 c rest hquote hlast hunicode hescape hcontrol found hread ih =>
      obtain rfl := Except.error.inj h
      exact ih hread

section Steps

variable {decoder : Decoder} {t : Text}

theorem Failure.arises_tooDeep (container : Container) (h : decoder.enter? = none) :
    (Failure.tooDeep container).Arises decoder := by
  unfold Decoder.enter? at h
  cases hnesting : decoder.nesting with
  | none =>
      rw [hnesting] at h
      cases h
  | some n => exact congrArg Option.isSome hnesting

theorem Failure.arises_of_readString {opening : Text} {failure : Failure}
    (h : readString decoder.half opening t = .error failure) : failure.Arises decoder := by
  obtain ⟨problem, rest, rfl⟩ := readString_eq_error h
  trivial

theorem yields_readValue
    (hitems : ∀ inner rest, rest.length < t.length →
      Yields inner fitsItems (readItems inner rest))
    (hmembers : ∀ inner rest, rest.length < t.length →
      Yields inner fitsMembers (readMembers inner rest)) :
    Yields decoder fits (readValue decoder t) := by
  rw [readValue.eq_def]
  split
  · trivial
  · split
    · exact Failure.arises_of_readString ‹_›
    · rfl
  · next rest =>
      have hlt : (skipSpace rest).length < rest.length + 1 :=
        Nat.lt_succ_of_le (length_skipSpace_le rest)
      split
      · exact Failure.arises_tooDeep .array ‹_›
      · next inner henter =>
          have hinner := hitems inner _ hlt
          dsimp only
          split
          · rfl
          · split
            · exact .of_enter? henter (hinner.failure ‹_›)
            · exact hinner.value ‹_›
  · next rest =>
      have hlt : (skipSpace rest).length < rest.length + 1 :=
        Nat.lt_succ_of_le (length_skipSpace_le rest)
      split
      · exact Failure.arises_tooDeep .object ‹_›
      · next inner henter =>
          have hinner := hmembers inner _ hlt
          dsimp only
          split
          · rfl
          · split
            · exact .of_enter? henter (hinner.failure ‹_›)
            · exact fitsMembers_ofPairs (hinner.value ‹_›)
  · split
    · trivial
    · split
      · exact digitLimit_lt_of_overlongDigits? ‹_›
      · exact fits_scalar? ‹_› ‹_›

theorem yields_readItems (hvalue : Yields decoder fits (readValue decoder t))
    (hrest : ∀ rest, rest.length < t.length →
      Yields decoder fitsItems (readItems decoder rest)) :
    Yields decoder fitsItems (readItems decoder t) := by
  rw [readItems]
  split
  · exact hvalue.failure ‹_›
  · next item hread =>
      have hfits := hvalue.value hread
      have hle := length_skipSpace_le item.rest
      have hshorter := item.shorter
      dsimp only
      split
      · exact fitsItems_iff.mpr (List.forall_mem_singleton.mpr hfits)
      · next after hcomma =>
          have hleAfter := length_skipSpace_le after
          rw [hcomma, List.length_cons] at hle
          have hothers := hrest (skipSpace after) (by omega)
          split
          · exact hothers.failure ‹_›
          · exact (Bool.and_eq_true _ _).mpr ⟨hfits, hothers.value ‹_›⟩
      · trivial

theorem yields_readMembers
    (hvalue : ∀ rest, rest.length < t.length → Yields decoder fits (readValue decoder rest))
    (hrest : ∀ rest, rest.length < t.length →
      Yields decoder fitsMembers (readMembers decoder rest)) :
    Yields decoder fitsMembers (readMembers decoder t) := by
  rw [readMembers.eq_def]
  split
  · split
    · exact Failure.arises_of_readString ‹_›
    · next name _ =>
        have hle := length_skipSpace_le name.rest
        have hshorter := name.shorter
        dsimp only
        split
        · next afterColon hcolon =>
            have hleColon := length_skipSpace_le afterColon
            rw [hcolon, List.length_cons] at hle
            have hmember := hvalue (skipSpace afterColon)
              (by simp only [List.length_cons]; omega)
            split
            · exact hmember.failure ‹_›
            · next value hread =>
                have hfits := hmember.value hread
                have hleValue := length_skipSpace_le value.rest
                have hshorterValue := value.shorter
                split
                · exact fitsMembers_iff.mpr (List.forall_mem_singleton.mpr hfits)
                · next after hcomma =>
                    have hleAfter := length_skipSpace_le after
                    rw [hcomma, List.length_cons] at hleValue
                    have hothers := hrest (skipSpace after)
                      (by simp only [List.length_cons]; omega)
                    split
                    · exact hothers.failure ‹_›
                    · exact (Bool.and_eq_true _ _).mpr ⟨hfits, hothers.value ‹_›⟩
                · trivial
        · trivial
  · trivial

end Steps

/-- What a container holds was read before the container. -/
theorem yields_fits (t : Text) (decoder : Decoder) :
    Yields decoder fits (readValue decoder t) ∧
      Yields decoder fitsItems (readItems decoder t) ∧
      Yields decoder fitsMembers (readMembers decoder t) := by
  induction hlength : t.length using Nat.strongRecOn generalizing t decoder with
  | ind n ih =>
      subst hlength
      have hvalue : Yields decoder fits (readValue decoder t) :=
        yields_readValue (fun inner rest hlt => (ih _ hlt rest inner rfl).2.1)
          fun inner rest hlt => (ih _ hlt rest inner rfl).2.2
      exact ⟨hvalue, yields_readItems hvalue fun rest hlt => (ih _ hlt rest decoder rfl).2.1,
        yields_readMembers (fun rest hlt => (ih _ hlt rest decoder rfl).1)
          fun rest hlt => (ih _ hlt rest decoder rfl).2.2⟩

/-- A value that is read from a text has no overlong integer in it. -/
theorem fits_readDecoded {decoder : Decoder} {t : Text} {value : Json}
    (h : readDecoded decoder t = .ok value) : value.fits = true := by
  have hread := (yields_fits (skipSpace t) decoder).1
  unfold readDecoded at h
  split at h
  · cases h
  · next hvalue =>
      split at h
      · cases h
        exact hread.value hvalue
      · cases h

theorem arises_of_readDecoded {decoder : Decoder} {t : Text} {failure : Failure}
    (h : readDecoded decoder t = .error failure) : failure.Arises decoder := by
  have hread := (yields_fits (skipSpace t) decoder).1
  unfold readDecoded at h
  split at h
  · next hvalue =>
      cases h
      exact hread.failure hvalue
  · split at h
    · cases h
    · cases h
      trivial

/-- A text that cannot be read, and is JSON all the same, has an overlong integer in it. -/
theorem exists_overlong_of_read {t : Text} {failure : Failure} (h : read t = .error failure)
    (hjson : ∀ problem rest, failure ≠ .malformed problem rest) :
    ∃ digits, digitLimit < digits ∧ failure = .overlong digits := by
  unfold read at h
  split at h
  · cases h
    exact absurd rfl (hjson _ _)
  · have harises := arises_of_readDecoded h
    cases failure with
    | malformed problem rest => exact absurd rfl (hjson problem rest)
    | overlong digits => exact ⟨digits, harises, rfl⟩
    | tooDeep container => cases harises

end CypherPages.Json

import CypherPages.Entries
import Mathlib.Data.List.Nodup
import Mathlib.Tactic.Common

/-! # Laws of ordered entries

What setting a key does to the value of that key, to the values of the others, and to the order
of the keys. -/

namespace CypherPages.Entries

variable {κ ν : Type} [BEq κ] [LawfulBEq κ]

/-! ### Values -/

theorem get?_cons (key k : κ) (v : ν) (rest : Entries κ ν) :
    get? key ((k, v) :: rest) = if k == key then some v else get? key rest := by
  rw [get?, List.lookup_cons, get?]
  by_cases h : k = key
  · simp [h]
  · simp [beq_eq_false_iff_ne.mpr h, beq_eq_false_iff_ne.mpr (Ne.symm h)]

theorem get?_set (key other : κ) (value : ν) (entries : Entries κ ν) :
    get? other (entries.set key value) =
      if key == other then some value else get? other entries := by
  induction entries with
  | nil => exact get?_cons other key value []
  | cons entry rest ih =>
      obtain ⟨k, v⟩ := entry
      by_cases hk : k = key
      · subst hk
        simp only [set, beq_self_eq_true, ite_true, get?_cons]
        split <;> rfl
      · simp only [set, beq_eq_false_iff_ne.mpr hk, Bool.false_eq_true, ite_false, get?_cons, ih]
        by_cases hother : k = other
        · subst hother
          simp [Ne.symm hk]
        · simp [hother]

omit [LawfulBEq κ] in
theorem setAll_cons (entries : Entries κ ν) (key : κ) (value : ν) (pairs : List (κ × ν)) :
    entries.setAll ((key, value) :: pairs) = (entries.set key value).setAll pairs := rfl

/-- The value of the last pair with a key. -/
def last? (key : κ) (pairs : List (κ × ν)) : Option ν :=
  ((pairs.filter fun pair => pair.1 == key).getLast?).map Prod.snd

omit [LawfulBEq κ] in
theorem last?_cons (key : κ) (pair : κ × ν) (pairs : List (κ × ν)) :
    last? key (pair :: pairs) =
      (last? key pairs).or (if pair.1 == key then some pair.2 else none) := by
  unfold last?
  rw [List.filter_cons]
  split
  · rw [List.getLast?_cons]
    cases (pairs.filter fun pair => pair.1 == key).getLast? <;> rfl
  · rw [Option.or_none]

/-- A key has the last value that it was set to. -/
theorem get?_setAll (key : κ) (entries : Entries κ ν) (pairs : List (κ × ν)) :
    get? key (entries.setAll pairs) = (last? key pairs).or (get? key entries) := by
  induction pairs generalizing entries with
  | nil => rfl
  | cons pair pairs ih =>
      obtain ⟨k, v⟩ := pair
      rw [setAll_cons, ih, get?_set, last?_cons, Option.or_assoc]
      split <;> rfl

theorem last?_of_not_mem {key : κ} {pairs : List (κ × ν)} (h : key ∉ pairs.map Prod.fst) :
    last? key pairs = none := by
  have hnone : pairs.filter (fun pair => pair.1 == key) = [] := by
    refine List.filter_eq_nil_iff.mpr fun pair hpair hkey => h ?_
    exact List.mem_map.mpr ⟨pair, hpair, beq_iff_eq.mp hkey⟩
  rw [last?, hnone]
  rfl

theorem get?_setAll_of_not_mem {key : κ} {pairs : List (κ × ν)} (h : key ∉ pairs.map Prod.fst)
    (entries : Entries κ ν) : get? key (entries.setAll pairs) = get? key entries := by
  rw [get?_setAll, last?_of_not_mem h, Option.none_or]

/-- A key that is there once has the value that stands beside it. -/
theorem lookup_eq_some_iff_mem {entries : Entries κ ν} (hkeys : (entries.map Prod.fst).Nodup)
    {key : κ} {value : ν} : entries.lookup key = some value ↔ (key, value) ∈ entries := by
  induction entries with
  | nil => simp
  | cons entry entries ih =>
      obtain ⟨first, held⟩ := entry
      rw [List.map_cons, List.nodup_cons] at hkeys
      rw [List.lookup_cons, List.mem_cons, Prod.mk.injEq, ← ih hkeys.2]
      by_cases hkey : key = first
      · subst hkey
        have hother : entries.lookup key ≠ some value := fun hlookup =>
          hkeys.1 (List.mem_map.mpr ⟨_, (ih hkeys.2).mp hlookup, rfl⟩)
        simp [hother, eq_comm]
      · simp [beq_eq_false_iff_ne.mpr hkey, hkey]

theorem lookup_perm {entries others : Entries κ ν} (h : entries.Perm others)
    (hkeys : (entries.map Prod.fst).Nodup) (key : κ) :
    entries.lookup key = others.lookup key := by
  refine Option.ext fun value => ?_
  rw [lookup_eq_some_iff_mem hkeys,
    lookup_eq_some_iff_mem ((h.map Prod.fst).nodup_iff.mp hkeys), h.mem_iff]

/-! ### Keys -/

theorem keys_set_of_mem {key : κ} {entries : Entries κ ν} (h : key ∈ entries.map Prod.fst)
    (value : ν) : (entries.set key value).map Prod.fst = entries.map Prod.fst := by
  induction entries with
  | nil => cases h
  | cons entry rest ih =>
      obtain ⟨k, v⟩ := entry
      by_cases hk : k = key
      · simp [set, hk]
      · rw [List.map_cons, List.mem_cons] at h
        simp only [set, beq_eq_false_iff_ne.mpr hk, Bool.false_eq_true, ite_false, List.map_cons,
          ih (h.resolve_left (Ne.symm hk))]

theorem set_of_not_mem {key : κ} {entries : Entries κ ν} (h : key ∉ entries.map Prod.fst)
    (value : ν) : entries.set key value = entries ++ [(key, value)] := by
  induction entries with
  | nil => rfl
  | cons entry rest ih =>
      rw [List.map_cons, List.mem_cons, not_or] at h
      simp [set, beq_eq_false_iff_ne.mpr (Ne.symm h.1), ih h.2]

omit [LawfulBEq κ] in
theorem mem_keys_set {key other : κ} {value : ν} {entries : Entries κ ν}
    (h : other ∈ (entries.set key value).map Prod.fst) :
    other = key ∨ other ∈ entries.map Prod.fst := by
  induction entries with
  | nil => exact .inl (by simpa [set] using h)
  | cons entry rest ih =>
      rw [set] at h
      split at h
      · exact .inr h
      · rcases List.mem_cons.mp h with rfl | h
        · exact .inr List.mem_cons_self
        · exact (ih h).imp id (List.mem_cons_of_mem _)

theorem mem_keys_set_self (key : κ) (value : ν) (entries : Entries κ ν) :
    key ∈ (entries.set key value).map Prod.fst := by
  by_cases h : key ∈ entries.map Prod.fst
  · rwa [keys_set_of_mem h]
  · simp [set_of_not_mem h]

theorem mem_keys_set_of_mem {key other : κ} {value : ν} {entries : Entries κ ν}
    (h : key ∈ entries.map Prod.fst) : key ∈ (entries.set other value).map Prod.fst := by
  by_cases hother : other ∈ entries.map Prod.fst
  · rwa [keys_set_of_mem hother]
  · rw [set_of_not_mem hother, List.map_append]
    exact List.mem_append_left _ h

theorem nodup_keys_set {entries : Entries κ ν} (h : (entries.map Prod.fst).Nodup) (key : κ)
    (value : ν) : ((entries.set key value).map Prod.fst).Nodup := by
  by_cases hkey : key ∈ entries.map Prod.fst
  · rwa [keys_set_of_mem hkey]
  · rw [set_of_not_mem hkey, List.map_append, List.map_singleton, ← List.concat_eq_append]
    exact h.concat hkey

omit [LawfulBEq κ] in
theorem mem_keys_setAll {other : κ} {pairs : List (κ × ν)} {entries : Entries κ ν}
    (h : other ∈ (entries.setAll pairs).map Prod.fst) :
    other ∈ entries.map Prod.fst ∨ other ∈ pairs.map Prod.fst := by
  induction pairs generalizing entries with
  | nil => exact .inl h
  | cons pair pairs ih =>
      rcases ih h with h | h
      · rcases mem_keys_set h with rfl | h
        · exact .inr (by simp)
        · exact .inl h
      · exact .inr (by simp [h])

theorem nodup_keys_setAll {entries : Entries κ ν} (h : (entries.map Prod.fst).Nodup)
    (pairs : List (κ × ν)) : ((entries.setAll pairs).map Prod.fst).Nodup := by
  induction pairs generalizing entries with
  | nil => exact h
  | cons pair pairs ih => exact ih (nodup_keys_set h pair.1 pair.2)

/-- New keys stand behind the old ones, in the order in which they first came. -/
theorem keys_setAll (entries : Entries κ ν) (pairs : List (κ × ν)) :
    (entries.setAll pairs).map Prod.fst = entries.map Prod.fst ++
      ((pairs.map Prod.fst).filter fun key => !(entries.map Prod.fst).contains key).eraseDups := by
  induction pairs generalizing entries with
  | nil => simp [setAll]
  | cons pair pairs ih =>
      obtain ⟨k, v⟩ := pair
      rw [setAll_cons, ih, List.map_cons, List.filter_cons]
      by_cases hmem : k ∈ entries.map Prod.fst
      · rw [keys_set_of_mem hmem, List.contains_iff_mem.mpr hmem]
        rfl
      · have hkeys : (fun key => !(entries.map Prod.fst ++ [k]).contains key) = fun key =>
            !key == k && !(entries.map Prod.fst).contains key := by
          funext key
          rw [List.contains_append, Bool.not_or, Bool.and_comm]
          simp
        rw [set_of_not_mem hmem, List.map_append, List.map_singleton, hkeys,
          if_pos (by simpa using hmem), List.eraseDups_cons, List.append_assoc, List.filter_filter]
        rfl

/-- Elements that are all different are those that are left without repetitions. -/
theorem eraseDups_of_nodup {keys : List κ} (h : keys.Nodup) :
    keys.eraseDups = keys := by
  induction keys with
  | nil => rfl
  | cons key keys ih =>
      obtain ⟨hkey, hkeys⟩ := List.nodup_cons.mp h
      have hfilter : keys.filter (fun other => !other == key) = keys := by
        refine List.filter_eq_self.mpr fun other hother => ?_
        simpa using fun heq : other = key => hkey (heq ▸ hother)
      rw [List.eraseDups_cons, hfilter, ih hkeys]

/-- The keys of pairs stand in the order in which they first came. -/
theorem keys_ofPairs (pairs : List (κ × ν)) :
    (ofPairs pairs).map Prod.fst = (pairs.map Prod.fst).eraseDups := by
  simp [ofPairs, keys_setAll]

omit [LawfulBEq κ] in
theorem forall_set {p : ν → Prop} {entries : Entries κ ν} (h : ∀ entry ∈ entries, p entry.2)
    (key : κ) {value : ν} (hvalue : p value) : ∀ entry ∈ entries.set key value, p entry.2 := by
  induction entries with
  | nil => simpa [set] using hvalue
  | cons entry rest ih =>
      obtain ⟨hentry, hrest⟩ := List.forall_mem_cons.mp h
      rw [set]
      split
      · exact List.forall_mem_cons.mpr ⟨hvalue, hrest⟩
      · exact List.forall_mem_cons.mpr ⟨hentry, ih hrest⟩

omit [LawfulBEq κ] in
theorem forall_setAll {p : ν → Prop} {pairs : List (κ × ν)} (hpairs : ∀ pair ∈ pairs, p pair.2)
    {entries : Entries κ ν} (h : ∀ entry ∈ entries, p entry.2) :
    ∀ entry ∈ entries.setAll pairs, p entry.2 := by
  induction pairs generalizing entries with
  | nil => exact h
  | cons pair pairs ih =>
      obtain ⟨hpair, hpairs⟩ := List.forall_mem_cons.mp hpairs
      exact ih hpairs (forall_set h pair.1 hpair)

/-! ### Setting a key again -/

theorem set_set (key : κ) (value other : ν) (entries : Entries κ ν) :
    (entries.set key value).set key other = entries.set key other := by
  induction entries with
  | nil => simp [set]
  | cons entry rest ih =>
      by_cases hk : entry.1 = key
      · simp [set, hk]
      · simp [set, beq_eq_false_iff_ne.mpr hk, ih]

/-- Setting a key that is present commutes with setting another one. -/
theorem set_comm {key other : κ} (hne : other ≠ key) {entries : Entries κ ν}
    (h : key ∈ entries.map Prod.fst) (value new : ν) :
    (entries.set other new).set key value = (entries.set key value).set other new := by
  induction entries with
  | nil => cases h
  | cons entry rest ih =>
      by_cases hk : entry.1 = key
      · simp [set, hk, beq_eq_false_iff_ne.mpr hne.symm]
      · have hrest : key ∈ rest.map Prod.fst :=
          (List.mem_cons.mp h).resolve_left (Ne.symm hk)
        by_cases hother : entry.1 = other
        · simp [set, hother, beq_eq_false_iff_ne.mpr hne]
        · simp [set, beq_eq_false_iff_ne.mpr hk, beq_eq_false_iff_ne.mpr hother, ih hrest]

/-- A key that is present can be set before all others. -/
theorem set_setAll {key : κ} {pairs : List (κ × ν)} (hpairs : key ∉ pairs.map Prod.fst)
    {entries : Entries κ ν} (h : key ∈ entries.map Prod.fst) (value : ν) :
    (entries.setAll pairs).set key value = (entries.set key value).setAll pairs := by
  induction pairs generalizing entries with
  | nil => rfl
  | cons pair pairs ih =>
      obtain ⟨other, new⟩ := pair
      rw [List.map_cons, List.mem_cons, not_or] at hpairs
      have hmem : key ∈ (entries.set other new).map Prod.fst := mem_keys_set_of_mem h
      rw [setAll_cons, setAll_cons, ih hpairs.2 hmem, set_comm (Ne.symm hpairs.1) h]

theorem setAll_of_nodup {entries pairs : List (κ × ν)}
    (h : ((entries ++ pairs).map Prod.fst).Nodup) :
    Entries.setAll entries pairs = entries ++ pairs := by
  induction pairs generalizing entries with
  | nil => exact (List.append_nil entries).symm
  | cons pair pairs ih =>
      obtain ⟨key, value⟩ := pair
      have hkey : key ∉ entries.map Prod.fst := by
        rw [List.map_append, List.map_cons] at h
        exact fun hmem => (List.nodup_append.mp h).2.2 _ hmem _ List.mem_cons_self rfl
      rw [setAll_cons, set_of_not_mem hkey, ih (by simpa using h), List.append_assoc,
        List.singleton_append]

/-- Pairs with different keys are the entries that they describe. -/
theorem ofPairs_of_nodup {pairs : List (κ × ν)} (h : (pairs.map Prod.fst).Nodup) :
    ofPairs pairs = pairs :=
  @setAll_of_nodup _ _ _ _ [] pairs h

/-! ### Keys and values in another form

A form of keys that keeps different keys apart leaves everything as it is. -/

section Forms

variable {κ ν κ' ν' : Type} [BEq κ] [BEq κ'] {keyForm : κ → κ'}

theorem set_map (h : ∀ a b, (keyForm a == keyForm b) = (a == b)) (valueForm : ν → ν') (key : κ)
    (value : ν) (entries : Entries κ ν) :
    (entries.set key value).map (Prod.map keyForm valueForm) =
      Entries.set (keyForm key) (valueForm value)
        (entries.map (Prod.map keyForm valueForm)) := by
  induction entries with
  | nil => rfl
  | cons entry rest ih =>
      obtain ⟨k, v⟩ := entry
      simp only [set, List.map_cons, Prod.map_apply, h]
      split
      · rfl
      · rw [List.map_cons, ih, Prod.map_apply]

theorem setAll_map (h : ∀ a b, (keyForm a == keyForm b) = (a == b)) (valueForm : ν → ν')
    (entries : Entries κ ν) (pairs : List (κ × ν)) :
    (entries.setAll pairs).map (Prod.map keyForm valueForm) =
      Entries.setAll (entries.map (Prod.map keyForm valueForm))
        (pairs.map (Prod.map keyForm valueForm)) := by
  induction pairs generalizing entries with
  | nil => rfl
  | cons pair pairs ih =>
      rw [setAll_cons, ih, set_map h, List.map_cons, Prod.map, setAll_cons]

end Forms

end CypherPages.Entries

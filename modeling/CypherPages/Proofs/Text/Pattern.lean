import CypherPages.Proofs.Text.Lines

/-! # Patterns with preferences

A pattern is a sequence of characters and of runs of a class of characters. A text may match a
pattern in several ways; each run says whether it would rather be long or short, and runs further
left decide first. So the ways of a match have an order, and the first of them is the match. -/

namespace CypherPages

/-- What a run tries first. -/
inductive Preference
  | longest
  | shortest

namespace Pattern

inductive Part
  | char (c : Char)
  /-- Any number of characters of a class. The text of a captured run is part of the match. -/
  | run (accepts : Char → Bool) (preference : Preference) (captured : Bool)

/-- The ways to cut a text behind characters of a class, the shortest cut first. -/
def cuts (accepts : Char → Bool) : Text → List (Text × Text)
  | [] => [([], [])]
  | c :: t => ([], c :: t) ::
      if accepts c then (cuts accepts t).map (Prod.map (c :: ·) id) else []

/-- Cuts in the order in which they are tried. -/
def inOrder (cuts : List (Text × Text)) : Preference → List (Text × Text)
  | .longest => cuts.reverse
  | .shortest => cuts

/-- The ways in which a whole text matches, each with its captured runs, the preferred way first.
A line feed at the very end of the text need not be matched. -/
def ways : List Part → Text → List (List Text)
  | [], t => if t = [] ∨ t = ['\n'] then [[]] else []
  | .char _ :: _, [] => []
  | .char c :: parts, d :: t => if d = c then ways parts t else []
  | .run accepts preference captured :: parts, t =>
    (inOrder (cuts accepts t) preference).flatMap fun (taken, rest) =>
      (ways parts rest).map fun found => if captured then taken :: found else found

/-- The captured runs of the preferred match. -/
def match? (parts : List Part) (t : Text) : Option (List Text) := (ways parts t).head?

variable {accepts : Char → Bool} {preference : Preference} {captured : Bool} {parts : List Part}
  {t : Text}

/-! ### Cuts -/

theorem eq_append_of_mem_cuts {taken rest : Text} (h : (taken, rest) ∈ cuts accepts t) :
    t = taken ++ rest ∧ taken.all accepts = true := by
  induction t generalizing taken with
  | nil =>
      cases List.mem_singleton.mp h
      exact ⟨rfl, rfl⟩
  | cons c t ih =>
      rcases List.mem_cons.mp h with h | h
      · cases h
        exact ⟨rfl, rfl⟩
      · split at h
        · next hc =>
            obtain ⟨⟨taken, rest⟩, hcut, heq⟩ := List.mem_map.mp h
            cases heq
            obtain ⟨rfl, hall⟩ := ih hcut
            exact ⟨rfl, by rw [List.all_cons, hc, hall]; rfl⟩
        · cases h

theorem mem_inOrder {cut : Text × Text} {list : List (Text × Text)} :
    cut ∈ inOrder list preference ↔ cut ∈ list := by
  cases preference
  · exact List.mem_reverse
  · exact Iff.rfl

/-- The longest cut is the last one. -/
theorem getLast?_cuts (accepts : Char → Bool) (t : Text) :
    (cuts accepts t).getLast? = some (t.takeWhile accepts, t.dropWhile accepts) := by
  induction t with
  | nil => rfl
  | cons c t ih =>
      by_cases hc : accepts c = true
      · have hmap : ((cuts accepts t).map (Prod.map (c :: ·) id)).getLast? =
            some (c :: t.takeWhile accepts, t.dropWhile accepts) := by
          rw [List.getLast?_map, ih]
          rfl
        rw [cuts, if_pos hc, List.getLast?_cons, hmap, List.takeWhile_cons_of_pos hc,
          List.dropWhile_cons_of_pos hc]
        rfl
      · simp [cuts, hc]

/-! ### Ways of a pattern that starts with a run -/

/-- Whatever way a match takes, the run stands in front of a match of the other parts. -/
theorem exists_of_mem_ways_run {found : List Text}
    (h : found ∈ ways (.run accepts preference captured :: parts) t) :
    ∃ taken rest found', t = taken ++ rest ∧ taken.all accepts = true ∧
      found' ∈ ways parts rest := by
  rw [ways, List.mem_flatMap] at h
  obtain ⟨⟨taken, rest⟩, hcut, hfound⟩ := h
  obtain ⟨found', hfound', -⟩ := List.mem_map.mp hfound
  obtain ⟨rfl, hall⟩ := eq_append_of_mem_cuts (mem_inOrder.mp hcut)
  exact ⟨taken, rest, found', rfl, hall, hfound'⟩

/-- If what follows the longest run matches, that is the match. -/
theorem match?_longest {found : List Text}
    (h : match? parts (t.dropWhile accepts) = some found) :
    match? (.run accepts .longest false :: parts) t = some found := by
  obtain ⟨front, hfront⟩ := List.getLast?_eq_some_iff.mp (getLast?_cuts accepts t)
  rw [match?, ways, inOrder, hfront, List.reverse_append, List.reverse_singleton,
    List.singleton_append, List.flatMap_cons, List.head?_append, List.head?_map]
  rw [match?] at h
  simp [h]

theorem ways_shortest_nil :
    ways (.run accepts .shortest true :: parts) [] = (ways parts []).map ([] :: ·) := by
  simp [ways, inOrder, cuts]

/-- A run that would rather be short takes a character only if there is no match without. -/
theorem ways_shortest_cons (c : Char) (t : Text) :
    ways (.run accepts .shortest true :: parts) (c :: t) =
      (ways parts (c :: t)).map ([] :: ·) ++
        if accepts c then
          (ways (.run accepts .shortest true :: parts) t).map (List.modifyHead (c :: ·))
        else [] := by
  by_cases hc : accepts c = true
  · simp only [ways, inOrder, cuts, hc, ite_true, List.flatMap_cons, List.flatMap_map,
      List.map_flatMap, List.map_map]
    rfl
  · simp [ways, inOrder, cuts, hc]

/-- If no cut in front of `rest` is followed by a match, but the one at `rest` is, the run takes
all that stands in front of it. -/
theorem match?_shortest {taken rest : Text} {found : List Text}
    (haccepts : taken.all accepts = true)
    (hlonger : ∀ front back, taken = front ++ back → back ≠ [] → ways parts (back ++ rest) = [])
    (h : match? parts rest = some found) :
    match? (.run accepts .shortest true :: parts) (taken ++ rest) = some (taken :: found) := by
  unfold match? at *
  induction taken with
  | nil =>
      rw [List.nil_append]
      cases rest with
      | nil => rw [ways_shortest_nil, List.head?_map, h, Option.map_some]
      | cons c rest => rw [ways_shortest_cons, List.head?_append, List.head?_map, h]; rfl
  | cons c taken ih =>
      rw [List.all_cons, Bool.and_eq_true] at haccepts
      have hnone : ways parts (c :: (taken ++ rest)) = [] :=
        hlonger [] (c :: taken) rfl (List.cons_ne_nil c taken)
      have hrest := ih haccepts.2 fun front back htaken hback =>
        hlonger (c :: front) back (by rw [htaken, List.cons_append]) hback
      rw [List.cons_append, ways_shortest_cons, hnone, if_pos haccepts.1, List.map_nil,
        List.nil_append, List.head?_map, hrest]
      rfl

end Pattern

end CypherPages

import CypherPages.Page.Reader
import CypherPages.Proofs.Html.Placed

/-! # What a page tells a reader

A page tells a reader of start tags, end tags and texts, in the order in which they stand. A tag
that is its own end tag counts as both; comments and declarations tell nothing. To read the tokens
of a page is to take these up one by one. A configuration is a raw element, so there is no tag in
it before its own end tag. -/

namespace CypherPages.Page
open Html

/-- A start tag, an end tag or a text of a page. -/
inductive Occurrence
  /-- A start tag that stands from `start` to `stop`. -/
  | opening (name : Text) (attributes : Entries Text Text) (start stop : ℕ)
  /-- An end tag with its first closing bracket just before `stop`. -/
  | closing (name : Text) (stop : ℕ)
  | text (decoded : Text)

namespace Occurrence

/-- A start tag of an element. -/
def opens (name : Text) : Occurrence → Bool
  | .opening found _ _ _ => found == name
  | _ => false

/-- An end tag of an element. -/
def closes (name : Text) : Occurrence → Bool
  | .closing found _ => found == name
  | _ => false

/-- A start tag of an element with a class. -/
def opensClass (name cls : Text) : Occurrence → Bool
  | .opening found attributes _ _ =>
    found == name && (Text.words ((attributes.get? "class".toList).getD [])).contains cls
  | _ => false

/-- A start tag of a query block. -/
def opensBlock : Occurrence → Bool := opensClass "pre".toList CodeBlock.publishedClass

/-- A start tag of a result region. -/
def opensRegion : Occurrence → Bool := opensClass "div".toList ResultRegion.elementClass

/-- A start tag of a configuration. -/
def opensConfig : Occurrence → Bool
  | .opening name attributes _ _ =>
    name == "script".toList && attributes.get? "id".toList == some Dependency.configId
  | _ => false

def isBlank : Occurrence → Bool
  | .text decoded => decoded.isBlankText
  | _ => false

theorem closes_iff {event : Occurrence} {name : Text} :
    event.closes name = true ↔ ∃ stop, event = .closing name stop := by
  cases event <;> simp [closes]

theorem opens_of_opensClass {event : Occurrence} {name cls : Text}
    (h : event.opensClass name cls = true) : event.opens name = true := by
  cases event with
  | opening found attributes start stop => exact (Bool.and_eq_true_iff.mp h).1
  | closing found stop => cases h
  | text decoded => cases h

/-- The tags of elements of different names differ. -/
theorem opensClass_of_opens {event : Occurrence} {name other : Text} (h : event.opens name = true)
    (hne : name ≠ other) (cls : Text) : event.opensClass other cls = false := by
  cases event with
  | opening found attributes start stop =>
      obtain rfl := eq_of_beq h
      rw [opensClass, beq_eq_false_iff_ne.mpr hne, Bool.false_and]
  | closing found stop => rfl
  | text decoded => rfl

theorem opensConfig_of_opens {event : Occurrence} {name : Text} (h : event.opens name = true)
    (hne : name ≠ "script".toList) : event.opensConfig = false := by
  cases event with
  | opening found attributes start stop =>
      obtain rfl := eq_of_beq h
      rw [opensConfig, beq_eq_false_iff_ne.mpr hne, Bool.false_and]
  | closing found stop => rfl
  | text decoded => rfl

end Occurrence

/-- What a token of a page tells a reader. -/
def occurrencesAt (placed : Placed) : List Occurrence :=
  match placed.token.event with
  | .startTag name attributes selfClosing =>
    .opening name (Reading.byName attributes) placed.start placed.stop ::
      if selfClosing then [.closing name placed.bracketEnd] else []
  | .endTag name => [.closing name placed.bracketEnd]
  | .text decoded => [.text decoded]
  | .skipped => []

/-- What tokens tell a reader, the first of which starts at an offset. -/
def occurrences (offset : ℕ) (tokens : List Token) : List Occurrence :=
  (Placed.all offset tokens).flatMap occurrencesAt

theorem occurrences_cons (offset : ℕ) (token : Token) (rest : List Token) :
    occurrences offset (token :: rest) =
      occurrencesAt ⟨offset, token⟩ ++ occurrences (offset + token.lexeme.length) rest := by
  simp [occurrences, Placed.all]

namespace Reading

/-- A reader takes up what it is told next. -/
def take (reading : Reading) : Occurrence → Reading
  | .opening name attributes start stop => reading.startTag name attributes start stop
  | .closing name stop => reading.endTag name stop
  | .text decoded => reading.text decoded

/-- A reader takes up several things one after the other. -/
def takeAll (reading : Reading) (events : List Occurrence) : Reading := events.foldl take reading

@[simp] theorem takeAll_cons (reading : Reading) (event : Occurrence) (rest : List Occurrence) :
    reading.takeAll (event :: rest) = (reading.take event).takeAll rest := rfl

@[simp] theorem takeAll_append (reading : Reading) (front back : List Occurrence) :
    reading.takeAll (front ++ back) = (reading.takeAll front).takeAll back :=
  List.foldl_append

theorem token_eq_takeAll (reading : Reading) (offset : ℕ) (token : Token) :
    reading.token offset token = reading.takeAll (occurrencesAt ⟨offset, token⟩) := by
  unfold Reading.token occurrencesAt
  cases token.event with
  | startTag name attributes selfClosing => cases selfClosing <;> rfl
  | endTag name => rfl
  | text decoded => rfl
  | skipped => rfl

/-- To read tokens is to take up what they tell. -/
theorem tokens_eq_takeAll (reading : Reading) (offset : ℕ) (tokens : List Token) :
    reading.tokens offset tokens = reading.takeAll (occurrences offset tokens) := by
  induction tokens generalizing reading offset with
  | nil => rfl
  | cons token rest ih =>
      rw [occurrences_cons, takeAll_append, ← token_eq_takeAll, ← ih]
      rfl

end Reading

/-! ### Configurations hold no tags -/

/-- Whether a configuration is open after an event. -/
def Occurrence.configAfter (within : Bool) (event : Occurrence) : Bool :=
  event.opensConfig || within && !event.closes "script".toList

namespace Occurrence

variable (within : Bool)

@[simp] theorem configAfter_opening (name : Text) (attributes : Entries Text Text)
    (start stop : ℕ) : (opening name attributes start stop).configAfter within =
      ((opening name attributes start stop).opensConfig || within) :=
  congrArg _ (Bool.and_true within)

@[simp] theorem configAfter_script (stop : ℕ) :
    (closing "script".toList stop).configAfter within = false :=
  Bool.and_false within

theorem configAfter_closing {name : Text} (h : (name == "script".toList) = false) (stop : ℕ) :
    (closing name stop).configAfter within = within :=
  (congrArg (within && !·) h).trans (Bool.and_true within)

@[simp] theorem configAfter_text (decoded : Text) : (text decoded).configAfter within = within :=
  Bool.and_true within

end Occurrence

/-- A tag that a configuration can neither hold nor end with. -/
def Occurrence.isTag : Occurrence → Bool
  | .opening _ _ _ _ => true
  | .closing name _ => name != "script".toList
  | .text _ => false

/-- Behind the start tag of a configuration there are no tags up to the end of its element.
`within` says that a configuration is open at first. -/
def GuardsConfig (within : Bool) : List Occurrence → Prop
  | [] => True
  | event :: rest =>
    (within = true → event.isTag = false) ∧ GuardsConfig (event.configAfter within) rest

/-- Whether the events up to here leave a configuration open. -/
def inConfig (events : List Occurrence) : Bool := events.foldl Occurrence.configAfter false

theorem inConfig_append_singleton (events : List Occurrence) (event : Occurrence) :
    inConfig (events ++ [event]) = event.configAfter (inConfig events) :=
  List.foldl_append

theorem GuardsConfig.of_append {within : Bool} {front rest : List Occurrence}
    (h : GuardsConfig within (front ++ rest)) :
    GuardsConfig (front.foldl Occurrence.configAfter within) rest := by
  induction front generalizing within with
  | nil => exact h
  | cons event front ih => exact ih h.2

/-- No configuration is open in front of a tag, other than its own end tag, and none behind it
that the tag does not open. -/
theorem GuardsConfig.at_tag {within : Bool} {front rest : List Occurrence} {event : Occurrence}
    (h : GuardsConfig within (front ++ event :: rest)) (htag : event.isTag = true)
    (hconfig : event.opensConfig = false) :
    front.foldl Occurrence.configAfter within = false ∧ GuardsConfig false rest := by
  obtain ⟨hnone, hrest⟩ := h.of_append
  have hfront : front.foldl Occurrence.configAfter within = false := by
    rw [← Bool.not_eq_true]
    intro htrue
    rw [hnone htrue] at htag
    cases htag
  rw [hfront, Occurrence.configAfter, hconfig, Bool.false_and, Bool.false_or] at hrest
  exact ⟨hfront, hrest⟩

/-- Outside a configuration anything may follow. -/
theorem GuardsConfig.cons {event : Occurrence} {rest : List Occurrence}
    (h : GuardsConfig event.opensConfig rest) : GuardsConfig false (event :: rest) := by
  refine ⟨fun htrue => absurd htrue Bool.false_ne_true, ?_⟩
  rw [Occurrence.configAfter, Bool.false_and, Bool.or_false]
  exact h

theorem guardsConfig_closing {within : Bool} {name : Text} {rest : List Occurrence}
    (h : within = true → name = "script".toList) (hrest : GuardsConfig false rest) (stop : ℕ) :
    GuardsConfig within (.closing name stop :: rest) := by
  cases within with
  | false => exact .cons hrest
  | true =>
      obtain rfl := h rfl
      exact ⟨fun _ => rfl, hrest⟩

/-- What a raw element holds or ends with. -/
theorem event_of_head {name : Text} {c : Char} {rest after : Text} {event : Event}
    (h : head (some name) c rest = .ok (event, after)) :
    event = .endTag name ∨ (∃ decoded, event = .text decoded) ∨ event = .skipped := by
  obtain rfl : (rawHead name (c :: rest)).1 = event := congrArg Prod.fst (Except.ok.inj h)
  unfold rawHead
  split
  · exact .inl rfl
  · split
    · exact .inr (.inl ⟨_, rfl⟩)
    · exact .inr (.inr rfl)

/-- A configuration is a raw element. -/
theorem eq_script_of_opensConfig {name : Text} {attributes : Entries Text Text} {start stop : ℕ}
    (h : (Occurrence.opening name attributes start stop).opensConfig = true) :
    name = "script".toList := by
  simp only [Occurrence.opensConfig, Bool.and_eq_true, beq_iff_eq] at h
  exact h.1

/-- The tokens of a page hold configurations without tags. -/
theorem guardsConfig_tokensIn {openElement : Option Text} {t : Text} {found : List Token}
    (h : tokensIn openElement t = .ok found) {within : Bool}
    (hwithin : within = true → openElement = some "script".toList) (offset : ℕ) :
    GuardsConfig within (occurrences offset found) := by
  fun_induction tokensIn openElement t generalizing found within offset with
  | case1 =>
      cases h
      trivial
  | case2 => cases h
  | case3 => cases h
  | case4 openElement c rest event after hhead length others hothers =>
      rename_i ih
      cases h
      rw [occurrences_cons]
      have hclosed : ∀ offset, GuardsConfig false (occurrences offset others) :=
        fun offset => ih hothers (fun htrue => absurd htrue Bool.false_ne_true) offset
      cases within with
      | false =>
          cases event with
          | text decoded => exact .cons (hclosed _)
          | skipped => exact hclosed _
          | endTag name => exact .cons (hclosed _)
          | startTag name attributes selfClosing =>
              apply GuardsConfig.cons
              cases selfClosing with
              | false =>
                  apply ih hothers
                  intro hopens
                  rw [eq_script_of_opensConfig hopens]
                  rfl
              | true => exact guardsConfig_closing eq_script_of_opensConfig (hclosed _) _
      | true =>
          obtain rfl := hwithin rfl
          rcases event_of_head hhead with rfl | ⟨decoded, rfl⟩ | rfl
          · exact ⟨fun _ => rfl, hclosed _⟩
          · exact ⟨fun _ => rfl, ih hothers (fun _ => rfl) _⟩
          · exact ih hothers (fun _ => rfl) _

end CypherPages.Page

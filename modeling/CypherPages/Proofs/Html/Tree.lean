import CypherPages.Proofs.Html.Fragment

/-! # Fragments as trees

A properly nested fragment is a list of texts and elements. A reader with a stack of open
elements finds the list again from the tokens of the fragment. -/

namespace CypherPages.Html

/-- A part of a fragment: a text with its references decoded, or an element with what stands in
it. -/
inductive Node
  | text (decoded : Text)
  | element (name : Text) (attributes : List (Text × Option Text)) (content : List Node)

def Event.isText : Event → Bool
  | .text _ => true
  | _ => false

namespace Node

mutual

/-- What the tokens of a node tell a reader. -/
def events : Node → List Event
  | .text decoded => [.text decoded]
  | .element name attributes content =>
    .startTag name attributes false :: (eventsAll content ++ [.endTag name])

/-- What the tokens of several nodes tell a reader. -/
def eventsAll : List Node → List Event
  | [] => []
  | node :: rest => node.events ++ eventsAll rest

end

@[simp] theorem eventsAll_nil : eventsAll [] = [] := rfl

@[simp] theorem eventsAll_cons (node : Node) (rest : List Node) :
    eventsAll (node :: rest) = node.events ++ eventsAll rest := rfl

@[simp] theorem eventsAll_append (first rest : List Node) :
    eventsAll (first ++ rest) = eventsAll first ++ eventsAll rest := by
  induction first with
  | nil => rfl
  | cons node first ih =>
      rw [List.cons_append, eventsAll_cons, ih, eventsAll_cons, List.append_assoc]

/-- The nodes of a text, which is no node where it is empty. -/
def ofText (t : Text) : List Node := if t.isEmpty then [] else [.text t]

mutual

/-- The text of a node, without its tags. -/
def shownText : Node → Text
  | .text decoded => decoded
  | .element _ _ content => shownTextAll content

/-- The text of several nodes. -/
def shownTextAll : List Node → Text
  | [] => []
  | node :: rest => node.shownText ++ shownTextAll rest

end

@[simp] theorem shownTextAll_ofText (t : Text) : shownTextAll (ofText t) = t := by
  cases t <;> simp [ofText, shownTextAll, shownText]

/-- The tags of several nodes in their order. -/
def tagsAll (nodes : List Node) : List Event := (eventsAll nodes).filter (!·.isText)

@[simp] theorem tagsAll_nil : tagsAll [] = [] := rfl

@[simp] theorem tagsAll_append (first rest : List Node) :
    tagsAll (first ++ rest) = tagsAll first ++ tagsAll rest := by
  rw [tagsAll, eventsAll_append, List.filter_append, tagsAll, tagsAll]

@[simp] theorem tagsAll_cons_text (decoded : Text) (rest : List Node) :
    tagsAll (.text decoded :: rest) = tagsAll rest := by
  simp [tagsAll, events, Event.isText]

@[simp] theorem tagsAll_cons_element (name : Text) (attributes : List (Text × Option Text))
    (content rest : List Node) : tagsAll (.element name attributes content :: rest) =
      .startTag name attributes false :: (tagsAll content ++ .endTag name :: tagsAll rest) := by
  simp [tagsAll, events, Event.isText]

@[simp] theorem tagsAll_ofText (t : Text) : tagsAll (ofText t) = [] := by
  cases t <;> simp [ofText]

theorem tagsAll_map {α : Type} (node : α → Node) (items : List α) :
    tagsAll (items.map node) = items.flatMap fun item => tagsAll [node item] := by
  induction items with
  | nil => rfl
  | cons item items ih =>
      rw [List.map_cons, ← List.singleton_append, tagsAll_append, ih, List.flatMap_cons]

/-- What stands in an element of a given name. -/
def inside? (name : String) : Node → Option (List Node)
  | .text _ => none
  | .element found _ content => if found = name.toList then some content else none

theorem inside?_element (name : String) (attributes : List (Text × Option Text))
    (content : List Node) : inside? name (.element name.toList attributes content) = some content :=
  if_pos rfl

end Node

/-! ### Reading a fragment -/

/-- An element whose end tag is still to come, with the nodes that stand before it. -/
structure OpenElement where
  name : Text
  attributes : List (Text × Option Text)
  before : List Node

/-- What the tokens told a reader who has come as far as `opened`. -/
def OpenElement.events (element : OpenElement) : List Event :=
  Node.eventsAll element.before ++ [.startTag element.name element.attributes false]

/-- The nodes of a fragment, from the elements that are open and the nodes already read in the
innermost one. Every end tag has to close the innermost open element. -/
def buildNodes (opened : List OpenElement) (content : List Node) :
    List Event → Option (List Node)
  | [] => if opened.isEmpty then some content else none
  | .text decoded :: rest => buildNodes opened (content ++ [.text decoded]) rest
  | .startTag name attributes false :: rest =>
    buildNodes (⟨name, attributes, content⟩ :: opened) [] rest
  | .startTag _ _ true :: _ => none
  | .endTag name :: rest =>
    match opened with
    | [] => none
    | ⟨innermost, attributes, before⟩ :: outer =>
      if innermost = name then buildNodes outer (before ++ [.element name attributes content]) rest
      else none
  | .skipped :: _ => none

/-- The nodes of a text that is a properly nested fragment of texts and elements. -/
def readNodes? (markup : Text) : Option (List Node) :=
  match tokens markup with
  | .ok found => buildNodes [] [] (found.map Token.event)
  | .error _ => none

/-- The tags of a text in their order, with comments and all that is no text. -/
def tags (markup : Text) : Except Refusal (List Event) :=
  (tokens markup).map fun found => (found.map Token.event).filter (!·.isText)

mutual

theorem buildNodes_events (opened : List OpenElement) (content : List Node) (node : Node)
    (rest : List Event) :
    buildNodes opened content (node.events ++ rest) =
      buildNodes opened (content ++ [node]) rest := by
  cases node with
  | text decoded => rfl
  | element name attributes inner =>
      rw [Node.events, List.cons_append, List.append_assoc, buildNodes,
        buildNodes_eventsAll _ _ inner, List.singleton_append, buildNodes, if_pos rfl,
        List.nil_append]

theorem buildNodes_eventsAll (opened : List OpenElement) (content nodes : List Node)
    (rest : List Event) :
    buildNodes opened content (Node.eventsAll nodes ++ rest) =
      buildNodes opened (content ++ nodes) rest := by
  cases nodes with
  | nil => rw [Node.eventsAll_nil, List.nil_append, List.append_nil]
  | cons node nodes =>
      rw [Node.eventsAll_cons, List.append_assoc, buildNodes_events _ _ node,
        buildNodes_eventsAll _ _ nodes, List.append_assoc, List.singleton_append]

end

/-- What has been read and what is still to come are the nodes that come out. -/
theorem eventsAll_of_buildNodes {opened : List OpenElement} {content nodes : List Node}
    {events : List Event} (h : buildNodes opened content events = some nodes) :
    Node.eventsAll nodes =
      opened.reverse.flatMap OpenElement.events ++ Node.eventsAll content ++ events := by
  fun_induction buildNodes opened content events with
  | case1 opened content hopened =>
      obtain rfl := Option.some.inj h
      simp [List.isEmpty_iff.mp hopened]
  | case2 => cases h
  | case3 opened content decoded rest ih => simp [ih h, Node.events]
  | case4 opened content name attributes rest ih => simp [ih h, OpenElement.events]
  | case5 => cases h
  | case6 => cases h
  | case7 content name rest attributes before outer ih =>
      simp [ih h, OpenElement.events, Node.events]
  | case8 => cases h
  | case9 => cases h

/-- The reader finds exactly the nodes that the tokens of a fragment come from. -/
theorem readNodes?_eq_some_iff {markup : Text} {nodes : List Node} :
    readNodes? markup = some nodes ↔
      ∃ found, tokens markup = .ok found ∧ found.map Token.event = Node.eventsAll nodes := by
  unfold readNodes?
  cases htokens : tokens markup with
  | error refusal => simp
  | ok found =>
      constructor
      · intro h
        exact ⟨found, rfl, by simpa using (eventsAll_of_buildNodes h).symm⟩
      · rintro ⟨_, heq, hevents⟩
        obtain rfl := Except.ok.inj heq
        have hbuild := buildNodes_eventsAll [] [] nodes []
        rw [List.append_nil, List.nil_append, ← hevents] at hbuild
        exact hbuild

theorem tags_of_readNodes? {markup : Text} {nodes : List Node}
    (h : readNodes? markup = some nodes) :
    tags markup = .ok (Node.tagsAll nodes) := by
  obtain ⟨found, htokens, hevents⟩ := readNodes?_eq_some_iff.mp h
  simp only [tags, htokens, Except.map, hevents, Node.tagsAll]

/-! ### Pieces and nodes -/

namespace Piece

/-- Pieces whose tokens tell a reader about given nodes. -/
def Tells (pieces : List Piece) (nodes : List Node) : Prop :=
  (allTokens pieces).map Token.event = Node.eventsAll nodes

namespace Tells

variable {pieces first rest : List Piece} {nodes others : List Node}

theorem readNodes? (h : Tells pieces nodes) (hplain : Plain pieces) :
    Html.readNodes? (writeAll pieces) = some nodes :=
  readNodes?_eq_some_iff.mpr ⟨_, hplain.tokens_writeAll, h⟩

theorem nil : Tells [] [] := rfl

theorem append (h : Tells first nodes) (hrest : Tells rest others) :
    Tells (first ++ rest) (nodes ++ others) := by
  unfold Tells allTokens at *
  rw [List.flatMap_append, List.map_append, Node.eventsAll_append, h, hrest]

theorem flatMap {α : Type} {pieces : α → List Piece} {node : α → Node}
    (h : ∀ item, Tells (pieces item) [node item]) (items : List α) :
    Tells (items.flatMap pieces) (items.map node) := by
  induction items with
  | nil => exact nil
  | cons item items ih => exact (h item).append ih

theorem ofText (t : Text) : Tells (Piece.ofText (escape t)) (Node.ofText t) := by
  cases t with
  | nil => exact nil
  | cons c t =>
      have hne : ¬ (escape (c :: t)).isEmpty = true := by
        rw [List.isEmpty_iff, escape_eq_nil_iff]
        exact List.cons_ne_nil c t
      rw [Piece.ofText, if_neg hne]
      show [Event.text (unescape (escape (c :: t)))] = [Event.text (c :: t)]
      rw [unescape_escape]

/-- An element tells about a node if its start tag does. -/
theorem element {tag : WrittenTag} {name : Text} {attributes : List (Text × Option Text)}
    (htag : tag.event = .startTag name attributes false) (h : Tells pieces nodes) :
    Tells (Piece.element tag pieces) [.element name attributes nodes] := by
  have hname : tag.name.lower = name := (Event.startTag.inj htag).1
  unfold Tells at *
  simp only [allTokens] at h
  simp [Piece.element, allTokens, tokens, Node.events, h, htag, hname]

end Tells

end Piece

end CypherPages.Html

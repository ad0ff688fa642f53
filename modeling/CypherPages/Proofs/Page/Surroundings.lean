import CypherPages.Proofs.Build.PublishedPage
import CypherPages.Proofs.Html.LooseTag

/-! # What surrounds a configuration

Text and query blocks, whatever their attributes are named, neither hold a configuration nor open
a result region. A reader that passes over them reads the same configuration before and after. -/

namespace CypherPages
open Html

namespace Html

/-- Whether an event neither opens an element whose content counts nor a division. -/
def Event.isQuiet : Event → Bool
  | .startTag name _ _ => name != "script".toList && name != "div".toList
  | _ => true

/-- A text in front of another one is divided into tokens of its own, all of them quiet. -/
def Passes (t after : Text) : Prop :=
  ∃ own : List Token, (∀ token ∈ own, token.event.isQuiet = true) ∧
    tokensIn none (t ++ after) = (tokensIn none after).map (own ++ ·)

theorem Passes.nil (after : Text) : Passes [] after := by
  refine ⟨[], nofun, ?_⟩
  rw [List.nil_append]
  cases tokensIn none after <;> rfl

theorem Passes.append {first second after : Text} (hfirst : Passes first (second ++ after))
    (hsecond : Passes second after) : Passes (first ++ second) after := by
  obtain ⟨own, hown, htokens⟩ := hfirst
  obtain ⟨others, hothers, htokens'⟩ := hsecond
  refine ⟨own ++ others, ?_, ?_⟩
  · intro token htoken
    exact (List.mem_append.mp htoken).elim (hown token) (hothers token)
  · rw [List.append_assoc, htokens, htokens']
    cases tokensIn none after with
    | error refusal => rfl
    | ok found => exact congrArg Except.ok (List.append_assoc own others found).symm

theorem Passes.of_tokensIn {t after : Text} {event : Event} (hquiet : event.isQuiet = true)
    (h : tokensIn none (t ++ after) = (tokensIn none after).map (⟨t, event⟩ :: ·)) :
    Passes t after := by
  refine ⟨[⟨t, event⟩], ?_, h⟩
  intro token htoken
  rw [List.mem_singleton.mp htoken]
  exact hquiet

theorem endsText_open (t : Text) : EndsText ('<' :: t) := by
  rintro c ⟨⟩
  rfl

theorem Passes.text {t after : Text} (h : '<' ∉ t) (hafter : EndsText after) : Passes t after := by
  by_cases hne : t = []
  · exact hne ▸ .nil after
  · exact .of_tokensIn rfl (tokensIn_text hne h hafter)

theorem Passes.startTag {tag : WrittenTag} (h : tag.isLawful = true)
    (hraw : isRawElement tag.name.lower = false) (hquiet : tag.event.isQuiet = true)
    (after : Text) : Passes tag.write after := by
  have htokens := tokensIn_startTag h after
  have hopen : rawAfter none tag.event = none := by
    simp only [WrittenTag.event, rawAfter, hraw, Bool.false_eq_true, ite_false]
  rw [hopen] at htokens
  exact .of_tokensIn hquiet htokens

theorem Passes.endTag {name : Text} (h : isTagName name = true) (after : Text) :
    Passes (Piece.endTag name) after :=
  .of_tokensIn rfl (tokensIn_endTag h after)

theorem Passes.raw {tag : WrittenTag} {content closing : Text}
    (h : (Piece.raw tag content closing).isLawful = true) (hquiet : tag.event.isQuiet = true)
    (after : Text) : Passes (Piece.raw tag content closing).write after := by
  refine ⟨(Piece.raw tag content closing).tokens, ?_, tokensIn_raw h after⟩
  intro token htoken
  rw [Piece.tokens, List.mem_cons, List.mem_append, List.mem_singleton] at htoken
  rcases htoken with rfl | htoken | rfl
  · exact hquiet
  · rw [Piece.contentTokens] at htoken
    split at htoken
    · cases htoken
    · rw [List.mem_singleton.mp htoken]
      rfl
  · rfl

end Html

/-! ### Published blocks -/

namespace CodeBlock

/-- The attributes of a block as they are written in its start tag. -/
def writtenAttributes (block : CodeBlock Text) : List Text :=
  ((if block.identifier.isEmpty then [] else [("id".toList, escape block.identifier)]) ++
    ("class".toList, escape ([' '].intercalate block.classes)) ::
      block.attributes.map fun (name, value) => (escape name, escape value)).map
    fun (name, value) => name ++ "=\"".toList ++ value ++ ['"']

/-- What a block is written as between its start tag and its end tag. -/
def writtenContent (block : CodeBlock Text) : Text :=
  "<code class=".toList ++ '"' :: ("language-cypher\"".toList ++ '>' ::
    (escape block.text ++ (Piece.endTag "code".toList ++ Piece.endTag "pre".toList)))

theorem render_eq_element (block : CodeBlock Text) :
    block.render = '<' :: ("pre".toList ++ ' ' ::
      ([' '].intercalate block.writtenAttributes ++ '>' :: block.writtenContent)) ++ ['\n'] := by
  have hopen : "<pre ".toList = '<' :: ("pre".toList ++ [' ']) := by decide
  have hcode : "><code class=\"language-cypher\">".toList =
      '>' :: ("<code class=".toList ++ '"' :: ("language-cypher\"".toList ++ ['>'])) := by decide
  have hclose : "</code></pre>\n".toList =
      Piece.endTag "code".toList ++ Piece.endTag "pre".toList ++ ['\n'] := by decide
  -- The literals are kept apart from the rest, which is a matter of brackets.
  have hparts : ∀ opening pre attributes code before word text closing codeEnd preEnd : Text,
      opening = '<' :: (pre ++ [' ']) → code = '>' :: (before ++ '"' :: (word ++ ['>'])) →
      closing = codeEnd ++ preEnd ++ ['\n'] →
      opening ++ attributes ++ code ++ text ++ closing =
        '<' :: (pre ++ ' ' :: (attributes ++ '>' :: (before ++ '"' :: (word ++ '>' ::
          (text ++ (codeEnd ++ preEnd)))))) ++ ['\n'] := by
    rintro _ pre attributes _ before word text _ codeEnd preEnd rfl rfl rfl
    simp only [List.append_assoc, List.cons_append, List.nil_append]
  exact hparts _ _ _ _ _ _ _ _ _ _ hopen hcode hclose

/-- The attributes of a block between blanks. -/
theorem exists_front {words : List Text} (hne : words ≠ [])
    (h : ∀ word ∈ words, ∃ front, '>' ∉ front ∧ '\'' ∉ front ∧ word = front ++ ['"']) :
    ∃ front, '>' ∉ front ∧ '\'' ∉ front ∧ [' '].intercalate words = front ++ ['"'] := by
  induction words with
  | nil => exact absurd rfl hne
  | cons word words ih =>
      obtain ⟨front, hangle, hapostrophe, rfl⟩ := h word List.mem_cons_self
      cases words with
      | nil => exact ⟨front, hangle, hapostrophe, List.intercalate_singleton⟩
      | cons next words =>
          obtain ⟨rest, hangle', hapostrophe', hrest⟩ := ih (List.cons_ne_nil _ _)
            fun other hother => h other (List.mem_cons_of_mem _ hother)
          refine ⟨front ++ '"' :: ' ' :: rest, ?_, ?_, ?_⟩
          · simp [hangle, hangle']
          · simp [hapostrophe, hapostrophe']
          · rw [List.intercalate_cons_cons, hrest]
            simp

theorem loose_writtenAttributes (block : CodeBlock Text) :
    Loose ([' '].intercalate block.writtenAttributes) := by
  have hescape : ∀ t : Text, '>' ∉ escape t ∧ '\'' ∉ escape t := fun t =>
    ⟨not_mem_escape (.inr (.inl rfl)) t, not_mem_escape (.inr (.inr (.inr rfl))) t⟩
  have hnames : ∀ name ∈ ["id".toList, "class".toList, "=\"".toList],
      '>' ∉ name ∧ '\'' ∉ name := by decide
  have hpair : ∀ pair ∈ (if block.identifier.isEmpty then []
      else [("id".toList, escape block.identifier)]) ++
      ("class".toList, escape ([' '].intercalate block.classes)) ::
        block.attributes.map fun (name, value) => (escape name, escape value),
      ('>' ∉ pair.1 ∧ '\'' ∉ pair.1) ∧ '>' ∉ pair.2 ∧ '\'' ∉ pair.2 := by
    intro pair hpair
    rw [List.mem_append, List.mem_cons] at hpair
    rcases hpair with hpair | rfl | hpair
    · split at hpair
      · cases hpair
      · rw [List.mem_singleton.mp hpair]
        exact ⟨hnames _ (by simp), hescape _⟩
    · exact ⟨hnames _ (by simp), hescape _⟩
    · obtain ⟨attribute', -, rfl⟩ := List.mem_map.mp hpair
      exact ⟨hescape _, hescape _⟩
  have hne : block.writtenAttributes ≠ [] := by simp [writtenAttributes]
  obtain ⟨front, hangle, hapostrophe, hfront⟩ := exists_front hne fun word hword => by
    obtain ⟨pair, hmem, rfl⟩ := List.mem_map.mp hword
    obtain ⟨hname, hvalue⟩ := hpair pair hmem
    have hequals := hnames "=\"".toList (by simp)
    refine ⟨pair.1 ++ "=\"".toList ++ pair.2, ?_, ?_, rfl⟩
    · rw [List.mem_append, List.mem_append, not_or, not_or]
      exact ⟨⟨hname.1, hequals.1⟩, hvalue.1⟩
    · rw [List.mem_append, List.mem_append, not_or, not_or]
      exact ⟨⟨hname.2, hequals.2⟩, hvalue.2⟩
  rw [hfront]
  exact .of_quote hangle hapostrophe

theorem passes_startTag {body after : Text} (found : List (Text × Option Text))
    (h : startHead ("pre".toList ++ ' ' :: (body ++ after)) =
      (.startTag (Text.lower "pre".toList) found false, after)) :
    Passes ('<' :: ("pre".toList ++ ' ' :: body)) after := by
  have hhead : head none '<' (("pre".toList ++ ' ' :: body) ++ after) =
      .ok (.startTag (Text.lower "pre".toList) found false, after) := by
    rw [List.append_assoc, List.cons_append, head]
    simp only [ite_true]
    exact (bracketHead_of_isLetter (by decide) _).trans (congrArg Except.ok h)
  have hraw : isRawElement (Text.lower "pre".toList) = false := by decide
  have hquiet : (Event.startTag (Text.lower "pre".toList) found false).isQuiet = true := by
    have hname : Text.lower "pre".toList = "pre".toList := by decide
    rw [hname]
    rfl
  have hopen : rawAfter none (.startTag (Text.lower "pre".toList) found false) = none := by
    simp only [rawAfter, hraw, Bool.false_eq_true, ite_false]
  have htokens := tokensIn_cons hhead
  rw [hopen] at htokens
  exact .of_tokensIn hquiet htokens

/-- An element with loose attributes whose content starts with a tag that has an attribute. -/
theorem passes_loose {left before word content after : Text} (hleft : Loose left)
    (hbefore : '"' ∉ before) (hne : word ≠ []) (hword : word.all isAttributeNameChar = true)
    (htag : Passes (before ++ '"' :: (word ++ ['>'])) (content ++ after))
    (hcontent : Passes content after) :
    Passes ('<' :: ("pre".toList ++ ' ' ::
      (left ++ '>' :: (before ++ '"' :: (word ++ '>' :: content))))) after := by
  obtain ⟨found, hfound | hfound⟩ :=
    hleft.exists_startHead hbefore hne hword (by decide : "pre".toList.all (!endsTagName ·) = true)
      (content ++ after)
  · -- The tag ends at its own bracket.
    have hown : Passes ('<' :: ("pre".toList ++ ' ' :: (left ++ ['>'])))
        (before ++ '"' :: (word ++ ['>']) ++ content ++ after) := by
      refine passes_startTag found ?_
      simpa only [List.append_assoc, List.cons_append, List.nil_append] using hfound
    have hpasses := hown.append (htag.append hcontent)
    simpa only [List.append_assoc, List.cons_append, List.nil_append] using hpasses
  · -- The tag goes on to the bracket of the next one.
    have hboth : Passes ('<' :: ("pre".toList ++ ' ' ::
        (left ++ '>' :: (before ++ '"' :: (word ++ ['>']))))) (content ++ after) := by
      refine passes_startTag found ?_
      simpa only [List.append_assoc, List.cons_append, List.nil_append] using hfound
    have hpasses := hboth.append hcontent
    simpa only [List.append_assoc, List.cons_append, List.nil_append] using hpasses

/-- A written block, whatever its attributes are named. -/
theorem passes_element (block : CodeBlock Text) (after : Text) :
    Passes ('<' :: ("pre".toList ++ ' ' ::
      ([' '].intercalate block.writtenAttributes ++ '>' :: block.writtenContent))) after := by
  have hwrite : MarkdownPage.codeTag.write =
      "<code class=".toList ++ '"' :: ("language-cypher\"".toList ++ ['>']) := by decide
  have hcontent : ∀ after, Passes
      (escape block.text ++ (Piece.endTag "code".toList ++ Piece.endTag "pre".toList)) after := by
    intro after
    have htext : '<' ∉ escape block.text := not_mem_escape (.inl rfl) block.text
    exact (Passes.text htext (endsText_open _)).append
      ((Passes.endTag (by decide) _).append (.endTag (by decide) after))
  refine passes_loose block.loose_writtenAttributes (by decide) (by decide) (by decide) ?_
    (hcontent after)
  rw [← hwrite]
  exact .startTag (by decide) (by decide) (by decide) _

end CodeBlock

/-! ### Surroundings -/

/-- What may stand beside a configuration: text without tags, or a published block. -/
inductive Surrounding
  | text (characters : Text) (h : '<' ∉ characters)
  | published (block : CodeBlock Text) (number : ℕ) (environment : Option Text)

namespace Surrounding

def write : Surrounding → Text
  | .text characters _ => characters
  | .published block number environment => (block.publish number environment).render

def writeAll (surroundings : List Surrounding) : Text := surroundings.flatMap write

/-- Text in front of surroundings goes on into them. -/
theorem passes_writeAll {lead : Text} (hlead : '<' ∉ lead) (surroundings : List Surrounding)
    {after : Text} (hafter : EndsText after) : Passes (lead ++ writeAll surroundings) after := by
  induction surroundings generalizing lead with
  | nil =>
      rw [writeAll, List.flatMap_nil, List.append_nil]
      exact .text hlead hafter
  | cons surrounding rest ih =>
      rw [writeAll, List.flatMap_cons]
      cases surrounding with
      | text characters h =>
          have hmore : '<' ∉ lead ++ characters := by
            rw [List.mem_append, not_or]
            exact ⟨hlead, h⟩
          rw [write, ← List.append_assoc]
          exact ih hmore
      | published block number environment =>
          -- The line feed that ends a block is text in front of what follows.
          have hrest : Passes (['\n'] ++ writeAll rest) after := ih (by decide)
          rw [write, CodeBlock.render_eq_element, List.append_assoc]
          exact (Passes.text hlead (endsText_open _)).append
            ((CodeBlock.passes_element _ _).append hrest)

end Surrounding

end CypherPages

import CypherPages.Proofs.Directive.Scan
import CypherPages.Proofs.Document.Published

/-! # The two hosts of a build

Fenced blocks come to a build in two ways. A Markdown document hands over the text of a block
with a line feed at its end and writes the published block as markup. A document hands over the
text as it is, in an element, and takes the published block as an element again. Block by block
both publish the same, and both attach the same assets. -/

namespace CypherPages

/-- A fenced block: what stands behind its fence, and its text, whose last line is not ended. -/
structure FencedBlock where
  info : Text
  text : Text
  unended : text.getLast? ≠ some '\n'

namespace FencedBlock

/-- The block as a code block. -/
def code (block : FencedBlock) : CodeBlock Text := ⟨block.text, block.info.words, [], []⟩

/-- The content that a Markdown document hands over. -/
def content (block : FencedBlock) : Text := block.text ++ ['\n']

end FencedBlock

/-- A code block as a document writes it. -/
def CodeBlock.toJson (block : CodeBlock Text) : CodeBlock Json :=
  { text := block.text
    classes := block.classes.map .string
    attributes := block.attributes.map (Prod.map .string .string)
    identifier := .string block.identifier }

namespace FencedBlock

/-- The block as an element of a document. -/
def element (block : FencedBlock) : Json := block.code.toJson.toElement

/-- Whether the block is published in a build for an output format. -/
def qualifies (format : Text) (block : FencedBlock) : Bool :=
  block.info.words.contains CodeBlock.marker && isPageFormat format

/-- What the two hosts make of fenced blocks in a build that published `count` blocks before:
markup on the one side and elements on the other. What does not qualify is code on the one side
and stays as it is on the other; what qualifies is published with its number. -/
inductive Agree (format : Text) (environment : Option Text) :
    (count : ℕ) → List FencedBlock → List Text → List Json → Prop
  | nil (count : ℕ) : Agree format environment count [] [] []
  | left {count : ℕ} {block : FencedBlock} {rest : List FencedBlock} {markups : List Text}
      {elements : List Json} (hblock : block.qualifies format = false)
      (hrest : Agree format environment count rest markups elements) :
      Agree format environment count (block :: rest)
        (Markdown.codeMarkup block.info block.content :: markups) (block.element :: elements)
  | published {count : ℕ} {block : FencedBlock} {rest : List FencedBlock} {markups : List Text}
      {elements : List Json} {out : CodeBlock Text} (hblock : block.qualifies format = true)
      (hout : block.code.publish (count + 1) environment = out)
      (hrest : Agree format environment (count + 1) rest markups elements) :
      Agree format environment count (block :: rest) (out.render :: markups)
        (out.toJson.toElement :: elements)

end FencedBlock

/-- Fenced code that goes through a build block by block, as markup. -/
def Markdown.fences (pass : BuildPass) :
    List FencedBlock → Except AssetError (List Text × BuildPass)
  | [] => .ok ([], pass)
  | block :: rest =>
    match fence pass block.info block.content with
    | .error error => .error error
    | .ok (markup, next) =>
      (fences next rest).map fun (markups, final) => (markup :: markups, final)

/-! ### The line feed behind a block -/

/-- A line feed behind a text that does not end its last line adds no line. -/
theorem Directive.sourceLines_append_newline {source : Text} (h : source.getLast? ≠ some '\n') :
    sourceLines (source ++ ['\n']) = sourceLines source := by
  rw [sourceLines_ended, sourceLines, if_neg h]

/-- Blocks are published alike with and without a line feed behind them. -/
theorem CodeBlock.publish_append_newline {α : Type} [BlockValue α] {source : Text}
    (h : source.getLast? ≠ some '\n') (classes : List α) (attributes : Entries α α)
    (identifier : α) (number : ℕ) (environment : Option Text) :
    CodeBlock.publish ⟨source ++ ['\n'], classes, attributes, identifier⟩ number environment =
      CodeBlock.publish ⟨source, classes, attributes, identifier⟩ number environment := by
  simp only [publish, publishedText, dataAttributes, Directive.residualCode, Directive.byKey,
    Directive.all, Directive.sourceLines_append_newline h]

/-! ### Texts and the values of documents -/

theorem beq_string (a b : Text) : (Json.string a == Json.string b) = (a == b) := rfl

theorem contains_map_string (words : List Text) (word : Text) :
    (words.map Json.string).contains (Json.string word) = words.contains word := by
  rw [List.contains_eq_any_beq, List.contains_eq_any_beq, List.any_map]
  rfl

/-- Publishing commutes with the way in which a document writes a code block. -/
theorem CodeBlock.publish_toJson (block : CodeBlock Text) (number : ℕ)
    (environment : Option Text) :
    block.toJson.publish number environment = (block.publish number environment).toJson := by
  simp only [publish, toJson, CodeBlock.mk.injEq, true_and, and_true]
  generalize dataAttributes number environment block.text = pairs
  refine ⟨rfl, ?_⟩
  change Entries.setAll (block.attributes.map (Prod.map Json.string Json.string))
      (pairs.map (Prod.map Json.string Json.string)) =
    (block.attributes.setAll (pairs.map (Prod.map id id))).map (Prod.map Json.string Json.string)
  rw [Prod.map_id, List.map_id, Entries.setAll_map beq_string]

/-! ### One block -/

namespace FencedBlock

variable {pass : BuildPass} {block : FencedBlock} {dependency : Dependency}

/-- The same blocks qualify on both sides. -/
theorem publishes_eq (pass : BuildPass) (block : FencedBlock) :
    pass.publishes block.code.classes = block.qualifies pass.format ∧
      pass.publishes block.code.toJson.classes = block.qualifies pass.format :=
  ⟨rfl, congrArg (· && isPageFormat pass.format)
    (contains_map_string block.info.words CodeBlock.marker)⟩

theorem fence_of_qualifies (h : block.qualifies pass.format = true)
    (hdependency : Dependency.forQueries pass.timeout pass.environment = .ok dependency) :
    Markdown.fence pass block.info block.content =
      .ok ((block.code.publish (pass.blockCount + 1) pass.environment).render,
        (pass.register dependency).issue) := by
  have hclasses : pass.publishes block.info.words = true := h
  have hprocess : pass.process (⟨block.content, block.info.words, [], []⟩ : CodeBlock Text) = _ :=
    BuildPass.process_of_ok hclasses hdependency
  rw [content, CodeBlock.publish_append_newline block.unended] at hprocess
  simp only [Markdown.fence, hclasses, ite_true, content, hprocess]
  rfl

theorem fence_of_not_qualifies (h : block.qualifies pass.format = false) :
    Markdown.fence pass block.info block.content =
      .ok (Markdown.codeMarkup block.info block.content, pass) := by
  have hclasses : pass.publishes block.info.words = false := h
  simp only [Markdown.fence, hclasses, Bool.false_eq_true, ite_false]

theorem walk_element (pass : BuildPass) (block : FencedBlock) :
    Document.walk block.element pass =
      if pass.publishes block.code.toJson.classes then
        match pass.process block.code.toJson with
        | (.ok out, next) => .ok (out.toElement, next)
        | (.error error, _) => .error (.assets error)
      else .ok (block.element, pass) := rfl

theorem walk_of_qualifies (h : block.qualifies pass.format = true)
    (hdependency : Dependency.forQueries pass.timeout pass.environment = .ok dependency) :
    Document.walk block.element pass =
      .ok ((block.code.publish (pass.blockCount + 1) pass.environment).toJson.toElement,
        (pass.register dependency).issue) := by
  have hclasses := (publishes_eq pass block).2.trans h
  rw [walk_element, if_pos hclasses, BuildPass.process_of_ok hclasses hdependency,
    CodeBlock.publish_toJson]

theorem walk_of_not_qualifies (h : block.qualifies pass.format = false) :
    Document.walk block.element pass = .ok (block.element, pass) := by
  have hclasses := (publishes_eq pass block).2.trans h
  rw [walk_element, if_neg (by rw [hclasses]; exact Bool.false_ne_true)]

/-! ### All blocks -/

/-- Both hosts take fenced blocks through the same build, and neither fails. -/
theorem agree_from (pass : BuildPass) (blocks : List FencedBlock)
    (hdependency : Dependency.forQueries pass.timeout pass.environment = .ok dependency) :
    ∃ markups elements next,
      Agree pass.format pass.environment pass.blockCount blocks markups elements ∧
        Markdown.fences pass blocks = .ok (markups, next) ∧
        Document.walkItems (blocks.map element) pass = .ok (elements, next) ∧
        pass.Advances (blocks.countP (qualifies pass.format)) next := by
  induction blocks generalizing pass with
  | nil => exact ⟨[], [], pass, .nil _, rfl, by rw [List.map_nil, Document.walkItems], .refl pass⟩
  | cons block rest ih =>
      rw [List.map_cons, Document.walkItems, Markdown.fences]
      cases hblock : block.qualifies pass.format with
      | false =>
          obtain ⟨markups, elements, next, hagree, hfences, hwalk, hadvances⟩ := ih pass hdependency
          refine ⟨_, _, next, hagree.left hblock, ?_, ?_, ?_⟩
          · simp only [fence_of_not_qualifies hblock, hfences, Except.map]
          · simp only [walk_of_not_qualifies hblock, hwalk]
          · rwa [List.countP_cons_of_neg (by rw [hblock]; exact Bool.false_ne_true)]
      | true =>
          -- Both hosts go on in the same build, with this block counted and the assets in place.
          have hone := BuildPass.Advances.one hdependency
          obtain ⟨markups, elements, next, hagree, hfences, hwalk, hadvances⟩ :=
            ih (pass.register dependency).issue
              (by rw [hone.timeout, hone.environment, hdependency])
          rw [hone.format, hone.environment, hone.blockCount] at hagree
          refine ⟨_, _, next, hagree.published hblock rfl, ?_, ?_, ?_⟩
          · simp only [fence_of_qualifies hblock hdependency, hfences, Except.map]
          · simp only [walk_of_qualifies hblock hdependency, hwalk]
          · rw [List.countP_cons_of_pos hblock, Nat.add_comm]
            rw [hone.format] at hadvances
            exact hone.trans hadvances

end FencedBlock

/-- The body of a document of fenced blocks is their markup, block after block. -/
theorem Markdown.renderBlocks_fencedCode (definitions : List Definition) (pass : BuildPass)
    (blocks : List FencedBlock) :
    renderBlocks definitions false false pass
        (blocks.map fun block => .fencedCode block.info block.content) =
      (fences pass blocks).map fun (markups, next) => (markups.flatten, next) := by
  induction blocks generalizing pass with
  | nil => rw [List.map_nil, renderBlocks, fences]; rfl
  | cons block rest ih =>
      rw [List.map_cons, renderBlocks, Block.render, fences]
      cases fence pass block.info block.content with
      | error error => rfl
      | ok found =>
          simp only [Block.isParagraph, Block.isDefinition, Block.startsLine, Bool.and_false,
            Bool.or_false, ih]
          cases fences found.2 rest <;> rfl

namespace Document

/-- The assets of a build can be written when they can be described. -/
theorem exists_renderAssets {format : Text} {environment : Option Text} {timeout : Binary64}
    {ms : Int} {count : ℕ} {pass : BuildPass} (hms : milliseconds timeout = .ok ms)
    (hadvances : (BuildPass.start format environment timeout).Advances count pass) :
    ∃ assets, pass.renderAssets = .ok assets := by
  by_cases hcount : count = 0
  · obtain rfl := hadvances.idle hcount
    exact ⟨[], renderAssets_of_dependencies_nil rfl⟩
  · obtain ⟨-, dependency, hown, hdependencies⟩ := hadvances.registered hcount
    obtain rfl := Except.ok.inj (hown.symm.trans (MarkdownPage.forQueries_eq hms environment))
    obtain ⟨assets, hassets, -⟩ :=
      MarkdownPage.render_queryAssets (MarkdownPage.fits_queryConfig hms environment)
    exact ⟨assets, (renderAssets_of_dependencies_singleton hdependencies).trans hassets⟩

/-- A Markdown document and a document that hold the same fenced blocks publish the same: each
block comes out of both with the same text, the same classes, the same attributes in their order
and the same identifier, or of neither, and both have the same assets, which are there if a block
was published. -/
theorem hosts_agree {settings : Settings} {ms : Int} (hms : milliseconds settings.timeout = .ok ms)
    (format : Text) (blocks : List FencedBlock) (definitions : List Markdown.Definition)
    (fieldsBefore fieldsAfter : List (Text × Json)) :
    ∃ markups elements pass assets,
      FencedBlock.Agree format settings.endpoint 0 blocks markups elements ∧
        Markdown.fences (.ofSettings settings format) blocks = .ok (markups, pass) ∧
        Markdown.renderBlocks definitions false false (.ofSettings settings format)
            (blocks.map fun block => .fencedCode block.info block.content) =
          .ok (markups.flatten, pass) ∧
        pass.renderAssets = .ok assets ∧
        publish ⟨fieldsBefore, blocks.map FencedBlock.element, fieldsAfter⟩ format settings =
          .ok ⟨fieldsBefore, if assets = [] then elements else rawBlock assets :: elements,
            fieldsAfter⟩ ∧
        (assets = [] ↔ ∀ block ∈ blocks, block.qualifies format = false) := by
  obtain ⟨markups, elements, next, hagree, hfences, hwalk, hadvances⟩ :=
    FencedBlock.agree_from (.ofSettings settings format) blocks
      (MarkdownPage.forQueries_eq hms settings.endpoint)
  obtain ⟨assets, hassets⟩ := exists_renderAssets hms hadvances
  refine ⟨markups, elements, next, assets, hagree, hfences, ?_, hassets, ?_, ?_⟩
  · rw [Markdown.renderBlocks_fencedCode, hfences]
    rfl
  · have hstart : BuildPass.start format settings.endpoint settings.timeout =
        .ofSettings settings format := rfl
    simp only [publish, hstart, hwalk, hassets, List.isEmpty_iff]
  · have hnone : blocks.countP (FencedBlock.qualifies format) = 0 ↔
        ∀ block ∈ blocks, block.qualifies format = false := by
      simp only [List.countP_eq_zero, Bool.not_eq_true]
    rw [← hnone]
    rcases renderAssets_of_advances hadvances hassets with ⟨hcount, rfl⟩ | ⟨hcount, hne, -⟩
    · exact iff_of_true rfl hcount
    · exact iff_of_false hne hcount

/-- A directive between blank lines, of which one ends with a carriage return, a block that is no
query block, and one without any text. -/
theorem hosts_agree_blank_lines :
    let settings : Settings := ⟨some "http://h/".toList, .ofInt 10, "INFO".toList⟩
    let blocks : List FencedBlock :=
      [⟨"\x7bladybug\x7d wide".toList, "\n//| mode: graph\r\n \nRETURN 1".toList, by decide⟩,
        ⟨"cypher".toList, "RETURN 2".toList, by decide⟩, ⟨CodeBlock.marker, [], by decide⟩]
    milliseconds settings.timeout = .ok 10000 ∧ ∃ markups elements pass assets,
      FencedBlock.Agree "html".toList settings.endpoint 0 blocks markups elements ∧
        Markdown.fences (.ofSettings settings "html".toList) blocks = .ok (markups, pass) ∧
        pass.renderAssets = .ok assets ∧
        publish ⟨[], blocks.map FencedBlock.element, []⟩ "html".toList settings =
          .ok ⟨[], rawBlock assets :: elements, []⟩ := by
  intro settings blocks
  have hms : milliseconds settings.timeout = .ok 10000 := by decide +kernel
  obtain ⟨markups, elements, pass, assets, hagree, hfences, -, hassets, hpublish, hnone⟩ :=
    hosts_agree hms "html".toList blocks [] [] []
  have hquery : FencedBlock.qualifies "html".toList
      ⟨CodeBlock.marker, [], by decide⟩ = true := by decide +kernel
  have hsome : assets ≠ [] := by
    intro hnil
    have hlast := hnone.mp hnil ⟨CodeBlock.marker, [], by decide⟩ (by simp [blocks])
    exact absurd (hlast.symm.trans hquery) Bool.false_ne_true
  rw [if_neg hsome] at hpublish
  exact ⟨hms, markups, elements, pass, assets, hagree, hfences, hassets, hpublish⟩

end Document

end CypherPages

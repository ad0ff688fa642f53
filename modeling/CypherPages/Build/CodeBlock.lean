import CypherPages.Build.Pass
import CypherPages.CellOptions
import CypherPages.DataAttribute
import CypherPages.Directive
import CypherPages.Html.Escape

/-! # Query blocks

A code block whose classes hold the cell marker is a query block. When the output is a page
the block is published: it loses its directive lines, gets the published classes, and carries
its number and its options as data attributes. -/

namespace CypherPages

/-- The values in which a document writes classes, attributes and identifiers. -/
class BlockValue (α : Type) extends BEq α where
  ofText : Text → α

instance : BlockValue Text where
  ofText t := t

/-- A code block of a document. -/
structure CodeBlock (α : Type) where
  text : Text
  classes : List α
  attributes : Entries α α
  identifier : α

namespace CodeBlock

/-- The class that makes a code block a query block. -/
def marker : Text := "\x7bladybug\x7d".toList

/-- The class by which a published block is found on a page. -/
def publishedClass : Text := "ladybug-query".toList

def publishedClasses : List Text :=
  ["cypher".toList, "cell-code".toList, publishedClass, "language-cypher".toList,
    "code-with-copy".toList]

def publishedText (source : Text) : Text := stripLeadingBlankLines (Directive.residualCode source)

/-- The data attributes of a published block, in the order in which they are set. Only the
block's number and its endpoint set the two attributes that are theirs. -/
def dataAttributes (number : Nat) (environment : Option Text) (source : Text) :
    List (Text × Text) :=
  let options := CellOptions.resolve (Directive.byKey source) environment
  let endpoint := (options.get? CellOptions.endpointKey).getD defaultEndpoint
  let others := options.filterMap fun (key, value) =>
    match DataAttribute.name? key with
    | some name =>
      if name == DataAttribute.id || name == DataAttribute.endpoint then none
      else some (name, value)
    | none => none
  (DataAttribute.id, Text.decimal number) :: (DataAttribute.endpoint, endpoint) :: others

variable {α : Type} [BlockValue α]

def publish (block : CodeBlock α) (number : Nat) (environment : Option Text) : CodeBlock α :=
  { text := publishedText block.text
    classes := publishedClasses.map BlockValue.ofText
    attributes := block.attributes.setAll
      ((dataAttributes number environment block.text).map fun (name, value) =>
        (BlockValue.ofText name, BlockValue.ofText value))
    identifier := block.identifier }

def render (block : CodeBlock Text) : Text :=
  let classes := Html.escape ([' '].intercalate block.classes)
  let identifier :=
    if block.identifier.isEmpty then []
    else [("id".toList, Html.escape block.identifier)]
  let attributes := identifier ++ ("class".toList, classes) ::
    block.attributes.map fun (name, value) => (Html.escape name, Html.escape value)
  "<pre ".toList ++
    [' '].intercalate
      (attributes.map fun (name, value) => name ++ "=\"".toList ++ value ++ ['"']) ++
    "><code class=\"language-cypher\">".toList ++ Html.escape block.text ++
    "</code></pre>\n".toList

end CodeBlock

namespace BuildPass

variable {α : Type} [BlockValue α]

def publishes (pass : BuildPass) (classes : List α) : Bool :=
  classes.contains (BlockValue.ofText CodeBlock.marker) && isPageFormat pass.format

/-- Take a block through a build: the block as it goes into the output, and the build after
it. A block that the build does not publish is left alone, and so is the build when the assets
cannot be described. -/
def process (pass : BuildPass) (block : CodeBlock α) :
    Except AssetError (CodeBlock α) × BuildPass :=
  if pass.publishes block.classes then
    match Dependency.forQueries pass.timeout pass.environment with
    | .error error => (.error error, pass)
    | .ok dependency =>
      let next := (pass.register dependency).issue
      (.ok (block.publish next.blockCount next.environment), next)
  else (.ok block, pass)

end BuildPass

end CypherPages

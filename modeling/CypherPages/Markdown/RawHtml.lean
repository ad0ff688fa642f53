import CypherPages.Markdown.OpenTag

/-! # Raw markup in Markdown

Markup passes through Markdown unchanged. In running text that is one tag, comment,
instruction, declaration or section; as a block it goes from a line that starts with certain
markup to a line on which that ends, or to the next blank line. -/

namespace CypherPages.Markdown.RawHtml

/-- What stands after the first occurrence of a pattern. -/
def afterPattern? (pattern : String) (t : Text) : Option Text :=
  (Text.cutAt? pattern.toList t).map (·.2)

/-- What stands after a closing tag. -/
def afterCloseTag? : Text → Option Text
  | '<' :: '/' :: c :: rest =>
    if Html.isLetter c then
      match (rest.dropWhile OpenTag.isNameChar).dropWhile isBlank with
      | '>' :: after => some after
      | _ => none
    else none
  | _ => none

/-- What stands after the body of a comment and its end. -/
def afterCommentBody? : Text → Option Text
  | '-' :: '-' :: '>' :: after => some after
  | '-' :: '-' :: _ :: rest => afterCommentBody? rest
  | '-' :: c :: rest => if c == '-' then none else afterCommentBody? rest
  | ['-'] => none
  | _ :: rest => afterCommentBody? rest
  | [] => none

/-- What stands after a piece of raw markup in running text. -/
def after? (t : Text) : Option Text :=
  match (afterOpenTag? t).or (afterCloseTag? t) with
  | some after => some after
  | none =>
    match t with
    | '<' :: '!' :: '-' :: '-' :: '>' :: after => some after
    | '<' :: '!' :: '-' :: '-' :: '-' :: '>' :: after => some after
    | '<' :: '!' :: '-' :: '-' :: body => afterCommentBody? body
    | '<' :: '?' :: body => afterPattern? "?>" body
    | '<' :: '!' :: c :: body =>
      if Html.isLetter c then afterPattern? ">" body
      else if "[CDATA[".toList.isPrefixOf (c :: body) then afterPattern? "]]>" (body.drop 6)
      else none
    | _ => none

/-- Where a block of raw markup ends. -/
inductive BlockEnd
  /-- On the line on which one of these patterns occurs. -/
  | pattern (patterns : List String)
  /-- Before the next blank line. -/
  | blankLine
  deriving DecidableEq

/-- The elements whose content may hold blank lines. -/
def verbatimNames : List String := ["script", "pre", "style", "textarea"]

/-- The elements that stand on lines of their own. -/
def blockNames : List String := ["address", "article", "aside", "base", "basefont",
  "blockquote", "body", "caption", "center", "col", "colgroup", "dd", "details", "dialog",
  "dir", "div", "dl", "dt", "fieldset", "figcaption", "figure", "footer", "form", "frame",
  "frameset", "h1", "h2", "h3", "h4", "h5", "h6", "head", "header", "hr", "html", "iframe",
  "legend", "li", "link", "main", "menu", "menuitem", "nav", "noframes", "ol", "optgroup",
  "option", "p", "param", "search", "section", "summary", "table", "tbody", "td", "tfoot",
  "th", "thead", "title", "tr", "track", "ul"]

/-- A letter of ASCII in lower case. Four letters beyond ASCII that differ from one of ASCII in
case only count as that one. -/
def plainLetter (c : Char) : Char :=
  if c == '\u0130' || c == '\u0131' then 'i'
  else if c == '\u017f' then 's'
  else if c == '\u212a' then 'k'
  else c.toLower

def plainLower (t : Text) : Text := t.map plainLetter

/-- Whether a text starts with one of the names, in either case, and something may follow the
name that satisfies `follows`. -/
def startsWithName (names : List String) (follows : Text → Bool) (t : Text) : Bool :=
  names.any fun name =>
    match name.toList.isPrefixOf? (plainLower t) with
    | some _ => follows (t.drop name.length)
    | none => false

/-- Whether a text is empty or starts with a blank or a closing bracket. -/
def endsName : Text → Bool
  | [] => true
  | c :: _ => isBlank c || c == '>'

/-- Whether a text starts with what may follow the name of an element. -/
def endsTagName (t : Text) : Bool := endsName t || "/>".toList.isPrefixOf t

/-- Where the block ends that a line opens, and whether such a line ends a paragraph. -/
def blockEnd? (line : Text) : Option (BlockEnd × Bool) :=
  match line with
  | '<' :: rest =>
    let name := match rest with
      | '/' :: name => name
      | _ => rest
    if startsWithName verbatimNames endsName rest then
      some (.pattern ["</script>", "</pre>", "</style>", "</textarea>"], true)
    else if "!--".toList.isPrefixOf rest then some (.pattern ["-->"], true)
    else if "?".toList.isPrefixOf rest then some (.pattern ["?>"], true)
    else if "!".toList.isPrefixOf rest && (rest.drop 1).head?.any Html.isLetter then
      some (.pattern [">"], true)
    else if "![CDATA[".toList.isPrefixOf rest then some (.pattern ["]]>"], true)
    else if startsWithName blockNames endsTagName name then some (.blankLine, true)
    else
      match (afterOpenTag? line).or (afterCloseTag? line) with
      | some after => if after.isBlankText then some (.blankLine, false) else none
      | none => none
  | _ => none

def BlockEnd.isOn (condition : BlockEnd) (line : Text) : Bool :=
  match condition with
  | .pattern patterns => patterns.any fun p => (afterPattern? p (plainLower line)).isSome
  | .blankLine => line.isEmpty

end CypherPages.Markdown.RawHtml

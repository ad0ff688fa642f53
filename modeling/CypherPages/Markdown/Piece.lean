import CypherPages.Markdown.CodeSpan
import CypherPages.Markdown.LinkTarget
import CypherPages.Markdown.RawHtml

/-! # Pieces of running text

Raw markup, addresses in angle brackets, escapes and references are taken whole: nothing within
them is read. -/

namespace CypherPages.Markdown

def isSchemeChar (c : Char) : Bool := isAlphanumeric c || c == '+' || c == '.' || c == '-'

/-- Whether a text is an address with its scheme. -/
def isAbsoluteAddress (t : Text) : Bool :=
  let scheme := t.takeWhile isSchemeChar
  scheme.head?.any Html.isLetter && 2 ≤ scheme.length && scheme.length ≤ 32 &&
    (t.drop scheme.length).head? == some ':' &&
    (t.drop scheme.length).all fun c => !(c == '<' || c == '>' || c.toNat ≤ 0x20)

/-- Whether a character may stand before the at sign of a mail address. -/
def isMailboxChar (c : Char) : Bool :=
  isAlphanumeric c || c == codeMark || ".!#$%&'*+/=?^_\x7b|\x7d~-".toList.contains c

/-- Whether a text is one part of a host's name. -/
def isHostPart (t : Text) : Bool :=
  t.head?.any isAlphanumeric && t.getLast?.any isAlphanumeric && t.length ≤ 63 &&
    t.all fun c => isAlphanumeric c || c == '-'

def isMailAddress (t : Text) : Bool :=
  let mailbox := t.takeWhile isMailboxChar
  match t.drop mailbox.length with
  | '@' :: host => !mailbox.isEmpty && (host.splitOn '.').all isHostPart
  | _ => false

/-- The address in angle brackets that stands behind the opening one. -/
def autolink? (rest : Text) : Option Whole :=
  let inner := rest.takeWhile fun c => !(c == '<' || c == '>')
  if (rest.drop inner.length).head? == some '>' then
    let address? :=
      if isAbsoluteAddress inner then Address.ofText? inner
      else if isMailAddress inner then Address.ofText? ("mailto:".toList ++ inner)
      else none
    address?.map fun address =>
      (.link address [] [.text (Address.display inner)], inner.length + 1)
  else none

/-- What a backslash starts, from the text behind it. -/
def escapeHead? : Text → Option Whole
  | [] => none
  | '\n' :: rest => some (.hardBreak, 1 + (rest.takeWhile isSpace).length)
  | c :: _ => some (.escaped (if isAsciiPunctuation c then [c] else ['\\', c]), 1)

/-- The piece taken whole that starts with `c`, if one does. -/
def whole? (c : Char) (rest : Text) : Option Whole :=
  if c == '\\' then escapeHead? rest
  else if c == '<' then
    match autolink? rest with
    | some piece => some piece
    | none =>
      (RawHtml.after? ('<' :: rest)).map fun after =>
        let length := rest.length - after.length
        (.html ('<' :: rest.take length), length)
  else if c == '&' then
    (runningReference? rest).map fun (characters, length) => (.escaped characters, length)
  else none

end CypherPages.Markdown

import CypherPages.Html.Tag

/-! # Dividing markup into tokens

`tokens` divides a whole page. A token is at least one character long and its lexeme is what
stands before the text that it leaves, so the lexemes of a page make up the page. A construct
that is never closed is text up to the next angle bracket. -/

namespace CypherPages.Html

/-- What follows the first occurrence of a closing sequence, which `closes?` recognises at the
head of a text. -/
def after? (closes? : Text → Option Text) : Text → Option Text
  | [] => none
  | c :: rest => (closes? (c :: rest)).or (after? closes? rest)

/-- What follows a closing angle bracket with blanks before it. -/
def closesAngle? (t : Text) : Option Text :=
  match t.trimLeft with
  | '>' :: rest => some rest
  | _ => none

/-- What follows the end of a comment at the head of a text. -/
def closesComment? : Text → Option Text
  | '-' :: '-' :: rest => closesAngle? rest
  | _ => none

/-- What follows the end of a marked section that two brackets close. -/
def closesSection? : Text → Option Text
  | ']' :: rest =>
    match rest.dropWhile isBlank with
    | ']' :: after => closesAngle? after
    | _ => none
  | _ => none

/-- What follows the end of a conditional section, which one bracket closes. -/
def closesConditional? : Text → Option Text
  | ']' :: rest => closesAngle? rest
  | _ => none

def afterAngle? (t : Text) : Option Text :=
  match t.dropWhile (· ≠ '>') with
  | _ :: rest => some rest
  | [] => none

def isKeywordChar (c : Char) : Bool :=
  isLetter c || Numeral.isDigit c || c == '-' || c == '_' || c == '.'

/-- The keywords of sections that two brackets close. -/
def sectionKeywords : List Text :=
  ["temp".toList, "cdata".toList, "ignore".toList, "include".toList, "rcdata".toList]

def conditionalKeywords : List Text := ["if".toList, "else".toList, "endif".toList]

/-- What follows the marked section that `t` spells behind its `<![`; nothing when it is never
closed. -/
def afterSection (t : Text) : Except Refusal (Option Text) :=
  let keyword : Text := t.takeWhile isKeywordChar
  let afterKeyword := (t.drop keyword.length).dropWhile isBlank
  if t.isEmpty then .ok none
  else if !keyword.head?.any isLetter then .error .markedSection
  else if afterKeyword.isEmpty then .ok none
  else if sectionKeywords.contains keyword.lower then .ok (after? closesSection? t)
  else if conditionalKeywords.contains keyword.lower then .ok (after? closesConditional? t)
  else .error .markedSection

/-- What follows the declaration, comment or section that `t` spells behind its `<!`. -/
def afterDeclaration (t : Text) : Except Refusal (Option Text) :=
  match t with
  | '-' :: '-' :: rest => .ok (after? closesComment? rest)
  | '[' :: rest => afterSection rest
  | _ => .ok (afterAngle? t)

/-- What follows the end tag of a raw element at the head of a text. -/
def closesRaw? (name : Text) : Text → Option Text
  | '<' :: '/' :: rest =>
    let atName := rest.dropWhile isBlank
    if (atName.take name.length).map Char.toLower == name then
      closesAngle? (atName.drop name.length)
    else none
  | _ => none

/-- The content of a raw element up to its end tag, and the text from there on. -/
def rawContent? (name : Text) : Text → Option (Text × Text)
  | [] => none
  | c :: rest =>
    if (closesRaw? name (c :: rest)).isSome then some ([], c :: rest)
    else (rawContent? name rest).map fun (content, after) => (c :: content, after)

/-- What a token tells a reader, and the text that it leaves. -/
abbrev Head := Event × Text

/-- The token of raw content. Content that is never closed is passed over to the end. -/
def rawHead (name : Text) (t : Text) : Head :=
  match closesRaw? name t with
  | some after => (.endTag name, after)
  | none =>
    match rawContent? name t with
    | some (content, after) => (.text content, after)
    | none => (.skipped, [])

/-- The token of an opening bracket whose construct is never closed: text up to and with the
next closing bracket, else up to the next opening bracket, else the bracket alone. -/
def incompleteHead (rest : Text) : Head :=
  match rest.dropWhile (· ≠ '>') with
  | _ :: after => (.text (unescape ('<' :: rest.takeWhile (· ≠ '>') ++ ['>'])), after)
  | [] =>
    match rest.dropWhile (· ≠ '<') with
    | [] => (.text ['<'], rest)
    | after => (.text (unescape ('<' :: rest.takeWhile (· ≠ '<'))), after)

/-- The token of a start tag whose text behind the bracket is `rest`. -/
def startHead (rest : Text) : Head :=
  let tag := StartTag.read rest
  match tag.ending with
  | .closed selfClosing => (.startTag tag.name tag.attributes selfClosing, tag.rest)
  | .incomplete => incompleteHead rest
  | .broken => (.text ('<' :: rest.take (rest.length - tag.rest.length)), tag.rest)

/-- The token at an opening bracket, from the text `rest` behind it. -/
def bracketHead (rest : Text) : Except Refusal Head :=
  match rest with
  | [] => .ok (.text ['<'], [])
  | '/' :: inner =>
    match afterAngle? inner with
    | some after => .ok (endTagEvent (inner.takeWhile (· ≠ '>')), after)
    | none => .ok (incompleteHead rest)
  | '!' :: inner =>
    (afterDeclaration inner).map fun
      | some after => (.skipped, after)
      | none => incompleteHead rest
  | '?' :: inner =>
    match afterAngle? inner with
    | some after => .ok (.skipped, after)
    | none => .ok (incompleteHead rest)
  | c :: _ => .ok (if isLetter c then startHead rest else (.text ['<'], rest))

/-- The token at the head of the text `c :: rest`. -/
def head (openElement : Option Text) (c : Char) (rest : Text) : Except Refusal Head :=
  match openElement with
  | some name => .ok (rawHead name (c :: rest))
  | none =>
    if c = '<' then bracketHead rest
    else .ok (.text (unescape (c :: rest.takeWhile (· ≠ '<'))), rest.dropWhile (· ≠ '<'))

/-- The tokens of a text inside the raw element `openElement`, if one is open. -/
def tokensIn (openElement : Option Text) : Text → Except Refusal (List Token)
  | [] => .ok []
  | c :: rest =>
    match head openElement c rest with
    | .error refusal => .error refusal
    | .ok (event, after) =>
      let length := rest.length - after.length
      match tokensIn (rawAfter openElement event) (rest.drop length) with
      | .error refusal => .error refusal
      | .ok others => .ok (⟨c :: rest.take length, event⟩ :: others)
  termination_by t => t.length
  decreasing_by simp only [List.length_drop, List.length_cons]; omega

def tokens (page : Text) : Except Refusal (List Token) := tokensIn none page

/-- The lexemes of a page's tokens make up the page. -/
theorem lexemes_tokensIn {openElement : Option Text} {page : Text} {found : List Token}
    (h : tokensIn openElement page = .ok found) : found.flatMap Token.lexeme = page := by
  fun_induction tokensIn openElement page generalizing found with
  | case1 => cases h; rfl
  | case2 => cases h
  | case3 => cases h
  | case4 _ c rest event after _ length others ho =>
    rename_i ih
    cases h
    simp [List.flatMap_cons, ih ho]

end CypherPages.Html

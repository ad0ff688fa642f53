import CypherPages.Document.CodeElement
import CypherPages.Settings.Basic

/-! # Publishing a document

The query blocks of a document, wherever they are nested in its blocks, are replaced by their
published form in one build. The walk goes through lists and objects in their order and does
not look inside a code block element; all else stays as it is. -/

namespace CypherPages

/-- Why a document cannot be published. -/
inductive PublishError
  | element (fault : ElementFault)
  | assets (error : AssetError)
  deriving DecidableEq

namespace Document

/-- Take a code block element through a build. The element that comes back is the one that
went in unless the build publishes it. -/
def walkElement (fields : List (Text × Json)) (pass : BuildPass) :
    Except PublishError (Json × BuildPass) :=
  match CodeElement.ofFields fields with
  | .error fault => .error (.element fault)
  | .ok element =>
    if pass.publishes element.classes then
      match element.text with
      | .string text =>
        match pass.process ⟨text, element.classes, element.attributes, element.identifier⟩ with
        | (.ok block, next) => .ok (block.toElement, next)
        | (.error error, _) => .error (.assets error)
      | _ =>
        match Dependency.forQueries pass.timeout pass.environment with
        | .ok _ => .error (.element .textNotString)
        | .error error => .error (.assets error)
    else .ok (.object fields, pass)

mutual

/-- Take every code block element in a value through a build. -/
def walk (value : Json) (pass : BuildPass) : Except PublishError (Json × BuildPass) :=
  match value with
  | .array items =>
    match walkItems items pass with
    | .ok (items, next) => .ok (.array items, next)
    | .error error => .error error
  | .object fields =>
    if CodeElement.isTagged fields then walkElement fields pass
    else
      match walkMembers fields pass with
      | .ok (fields, next) => .ok (.object fields, next)
      | .error error => .error error
  | value => .ok (value, pass)

def walkItems (items : List Json) (pass : BuildPass) :
    Except PublishError (List Json × BuildPass) :=
  match items with
  | [] => .ok ([], pass)
  | item :: rest =>
    match walk item pass with
    | .ok (item, next) =>
      match walkItems rest next with
      | .ok (rest, final) => .ok (item :: rest, final)
      | .error error => .error error
    | .error error => .error error

def walkMembers (fields : List (Text × Json)) (pass : BuildPass) :
    Except PublishError (List (Text × Json) × BuildPass) :=
  match fields with
  | [] => .ok ([], pass)
  | (name, value) :: rest =>
    match walk value pass with
    | .ok (value, next) =>
      match walkMembers rest next with
      | .ok (rest, final) => .ok ((name, value) :: rest, final)
      | .error error => .error error
    | .error error => .error error

end

/-- A block of markup that goes into the output as it is. -/
def rawBlock (markup : Text) : Json :=
  .object [("t".toList, .string "RawBlock".toList),
    ("c".toList, .array [.string "html".toList, .string markup])]

/-- A document published for an output format. When it has assets they lead its blocks. -/
def publish (document : Document) (format : Text) (settings : Settings) :
    Except PublishError Document :=
  match walkItems document.blocks (.start format settings.endpoint settings.timeout) with
  | .error error => .error error
  | .ok (blocks, pass) =>
    match pass.renderAssets with
    | .error error => .error (.assets error)
    | .ok assets =>
      .ok { document with blocks := if assets.isEmpty then blocks else rawBlock assets :: blocks }

def write (document : Document) : Text := document.toJson.write .spaced

end Document

end CypherPages

import CypherPages.Json.Reader
import CypherPages.Query.Error

/-! # Documents

A document is a JSON object with a list of blocks among its fields. The blocks are singled
out; the other fields stay as they are, in their order. -/

namespace CypherPages

/-- A document: its blocks, and the fields that stand before and after them. -/
structure Document where
  fieldsBefore : List (Text × Json)
  blocks : List Json
  fieldsAfter : List (Text × Json)

/-- Why an input is no document. -/
inductive DocumentError
  | unreadable (detail : Text)
  /-- The input is JSON, but not an object with a list of blocks. -/
  | notADocument
  deriving DecidableEq

def DocumentError.message : DocumentError → Text
  | .unreadable detail => "invalid JSON on stdin: ".toList ++ detail
  | .notADocument => "input is not a pandoc JSON document".toList

def DocumentError.report (error : DocumentError) : Report := ⟨documentLabel, error.message⟩

namespace Document

def blocksField : Text := "blocks".toList

/-- The document with these fields, if the first field named for the blocks holds a list. -/
def ofFields? (fields : List (Text × Json)) : Option Document :=
  match fields with
  | [] => none
  | (name, value) :: rest =>
    if name = blocksField then
      match value with
      | .array blocks => some ⟨[], blocks, rest⟩
      | _ => none
    else (ofFields? rest).map fun document =>
      { document with fieldsBefore := (name, value) :: document.fieldsBefore }

def ofJson? : Json → Option Document
  | .object fields => ofFields? fields
  | _ => none

def toJson (document : Document) : Json :=
  .object (document.fieldsBefore ++ (blocksField, .array document.blocks) :: document.fieldsAfter)

/-- Why a document cannot be read. -/
inductive Refusal
  | format (error : DocumentError)
  /-- The input is JSON, and cannot be read. -/
  | json (failure : Json.Failure)
  deriving DecidableEq

def read (source : Text) : Except Refusal Document :=
  match Json.read source with
  | .error (.malformed problem rest) =>
    .error (.format (.unreadable (problem.messageAt source rest)))
  | .error failure => .error (.json failure)
  | .ok value =>
    match ofJson? value with
    | some document => .ok document
    | none => .error (.format .notADocument)

end Document

end CypherPages

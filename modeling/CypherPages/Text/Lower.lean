import CypherPages.Text.CaseTable

/-! # Lower case

Full lower-casing of a text. One character has a lower-case form of two characters, and one
has two forms, the choice of which depends on the letters around it. -/

namespace CypherPages

/-- The lower-case partner of a character, itself when it has none. -/
def lowerSimple (c : Char) : Char :=
  if c.toNat < 0x80 then c.toLower
  else match CaseTable.lowerRuns.find? fun run => run.covers c.toNat with
    | some run => Char.ofNat (c.toNat + run.shift).toNat
    | none => c

/-- Whether the nearest character that is not transparent is a cased letter. -/
def besideLetter (t : Text) : Bool :=
  match t.find? fun c => !CaseTable.within CaseTable.transparentIntervals c.toNat with
  | some c => CaseTable.within CaseTable.casedIntervals c.toNat
  | none => false

/-- The lower-case form of a character between the text before it, nearest character first,
and the text after it. A capital sigma that ends a word becomes a final sigma. -/
def lowerBetween (before : Text) (c : Char) (after : Text) : Text :=
  if c = '\u0130' then ['i', '\u0307']
  else if c = '\u03a3' then
    [if besideLetter before && !besideLetter after then '\u03c2' else '\u03c3']
  else [lowerSimple c]

/-- The lower-case form of a text that follows the characters `before`, nearest first. -/
def lowerAfter (before : Text) : Text → Text
  | [] => []
  | c :: rest => lowerBetween before c rest ++ lowerAfter (c :: before) rest

def Text.lower (t : Text) : Text := lowerAfter [] t

end CypherPages

import CypherPages.Markdown.HostName
import CypherPages.Text.Blank
import CypherPages.Text.Percent

/-! # Link addresses

An address is written with its host name in ASCII and its unusual characters as percent
escapes. Addresses that could run a program are refused. -/

namespace CypherPages.Markdown.Address

/-- The characters besides letters and digits that stand for themselves in an address. -/
def plainMarks : Text := ";/?:@&=+$,-_.!~*'()#".toList

def isPlain (c : Char) : Bool :=
  ('a' ≤ c && c ≤ 'z') || ('A' ≤ c && c ≤ 'Z') || Numeral.isDigit c || plainMarks.contains c

/-- An address as it is written in an attribute. -/
def normalize (t : Text) : Text :=
  (AddressParts.ofText t.trim).inAscii.toText (Percent.encode isPlain)

/-- Whether a link may have an address. -/
def isSafe (address : Text) : Bool :=
  let plain := address.trim.lower
  let starts := fun (scheme : String) => scheme.toList.isPrefixOf plain
  if ["vbscript:", "javascript:", "file:", "data:"].any starts then
    ["data:image/gif;", "data:image/png;", "data:image/jpeg;", "data:image/webp;"].any starts
  else true

/-- The address for a text, if a link may have it. -/
def ofText? (t : Text) : Option Text :=
  let address := normalize t
  if isSafe address then some address else none

/-- The characters that stay escaped when an address is displayed. -/
def reservedMarks : Text := ";/?:@&=+$,#%".toList

/-- The escaped octets in a row that a text starts with. -/
def escapedOctets : Text → List Nat
  | '%' :: a :: b :: rest =>
    match Hexadecimal.digitValue? a, Hexadecimal.digitValue? b with
    | some high, some low => (16 * high + low) :: escapedOctets rest
    | _, _ => []
  | _ => []

/-- The bits of following octets after the leading bits of a character, if that makes a
character that needs this many octets. -/
def continued? (leading least : Nat) (following : List Nat) : Option Char :=
  let n := following.foldl (fun n octet => 64 * n + octet % 64) leading
  if following.all (fun octet => octet / 64 == 2) && least ≤ n &&
      !(0xd800 ≤ n && n ≤ 0xdfff) && n ≤ 0x10ffff then
    some (Char.ofNat n)
  else none

/-- The text that a sequence of octets encodes. Octets that encode nothing become replacement
characters, and reserved marks stay escaped. -/
def decodeOctets : List Nat → Text
  | [] => []
  | n :: rest =>
    let wide := fun (leading least size : Nat) =>
      if rest.length < size then none else continued? leading least (rest.take size)
    if n < 0x80 then
      let c := Char.ofNat n
      (if reservedMarks.contains c then Percent.octet n else [c]) ++ decodeOctets rest
    else
      match
        if n / 32 == 6 then (wide (n % 32) 0x80 1).map fun c => (c, 1)
        else if n / 16 == 14 then (wide (n % 16) 0x800 2).map fun c => (c, 2)
        else if n / 8 == 30 then (wide (n % 8) 0x10000 3).map fun c => (c, 3)
        else none with
      | some (c, size) => c :: decodeOctets (rest.drop size)
      | none => '\ufffd' :: decodeOctets rest
  termination_by octets => octets.length
  decreasing_by all_goals simp only [List.length_drop, List.length_cons]; omega

def unescape (t : Text) : Text :=
  match t with
  | [] => []
  | c :: rest =>
    match escapedOctets (c :: rest) with
    | [] => c :: unescape rest
    | octets => decodeOctets octets ++ unescape (rest.drop (3 * octets.length - 1))
  termination_by t.length
  decreasing_by all_goals simp only [List.length_drop, List.length_cons]; omega

def display (t : Text) : Text := unescape ((AddressParts.ofText t.trim).inScript.toText id)

end CypherPages.Markdown.Address

import CypherPages.Number.Hexadecimal

/-! # Encoded text

Texts encoded as octets. A text without a declared encoding is recognised by its byte order
mark or by where its first octets are zero, then decoded; a failure names the encoding, the
octets at fault and the reason. Half a surrogate pair is decoded too. There is no character for
it, so what stands for it is a parameter. -/

namespace CypherPages

abbrev Octets := List UInt8

namespace Encoding

def utf8 (t : Text) : Octets := (String.ofList t).toUTF8.toList

/-- The encodings of text as octets. -/
inductive Scheme
  | utf8
  | utf16 (littleEndian : Bool)
  | utf32 (littleEndian : Bool)
  deriving DecidableEq

def Scheme.name : Scheme → String
  | .utf8 => "utf-8"
  | .utf16 true => "utf-16-le"
  | .utf16 false => "utf-16-be"
  | .utf32 true => "utf-32-le"
  | .utf32 false => "utf-32-be"

/-- Why octets cannot be decoded. -/
inductive Reason
  | startByte
  | continuationByte
  | endOfData
  | truncated
  | outOfRange
  deriving DecidableEq

def Reason.message : Reason → String
  | .startByte => "invalid start byte"
  | .continuationByte => "invalid continuation byte"
  | .endOfData => "unexpected end of data"
  | .truncated => "truncated data"
  | .outOfRange => "code point not in range(0x110000)"

/-- Octets that cannot be decoded: the first of them, its place, and their number. -/
structure Fault where
  reason : Reason
  octet : UInt8
  offset : Nat
  count : Nat

/-- A character by its code point. Half a surrogate pair has none, and `half` stands for it. -/
def character (half : Char) (n : Nat) : Char :=
  if 0xd800 ≤ n && n ≤ 0xdfff then half else Char.ofNat n

def isContinuation (b : UInt8) : Bool := 0x80 ≤ b && b ≤ 0xbf

/-- The number of octets that follow a first octet, its share of the code point, and the bounds
of the octet after it. -/
def lead? (b : UInt8) : Option (Nat × Nat × UInt8 × UInt8) :=
  if b < 0x80 then some (0, b.toNat, 0x80, 0xbf)
  else if b < 0xc2 then none
  else if b < 0xe0 then some (1, b.toNat - 0xc0, 0x80, 0xbf)
  else if b == 0xe0 then some (2, 0, 0xa0, 0xbf)
  else if b == 0xed then some (2, 0xd, 0x80, 0x9f)
  else if b < 0xf0 then some (2, b.toNat - 0xe0, 0x80, 0xbf)
  else if b == 0xf0 then some (3, 0, 0x90, 0xbf)
  else if b == 0xf4 then some (3, 4, 0x80, 0x8f)
  else if b < 0xf4 then some (3, b.toNat - 0xf0, 0x80, 0xbf)
  else none

/-- Add `count` continuation octets to the code point so far; the first of them has bounds of
its own. Where it fails, the reason and the number of octets that were right. -/
def continuations (lo hi : UInt8) (soFar : Nat) :
    Nat → Octets → Except (Reason × Nat) Nat
  | 0, _ => .ok soFar
  | _ + 1, [] => .error (.endOfData, 0)
  | count + 1, b :: rest =>
    if lo ≤ b && b ≤ hi then
      match continuations 0x80 0xbf (soFar * 64 + (b.toNat - 0x80)) count rest with
      | .ok n => .ok n
      | .error (reason, right) => .error (reason, right + 1)
    else .error (.continuationByte, 0)

/-- Whether octets are the three-octet form of half a surrogate pair. -/
def isSurrogateForm : Octets → Bool
  | b :: c :: d :: _ => b == 0xed && 0xa0 ≤ c && c ≤ 0xbf && isContinuation d
  | _ => false

/-- Decode UTF-8 octets that stand at `offset`. -/
def decodeUtf8 (half : Char) (offset : Nat) (octets : Octets) : Except Fault Text :=
  match octets with
  | [] => .ok []
  | b :: rest =>
    if isSurrogateForm (b :: rest) then
      (decodeUtf8 half (offset + 3) (rest.drop 2)).map (half :: ·)
    else
      match lead? b with
      | none => .error ⟨.startByte, b, offset, 1⟩
      | some (count, share, lo, hi) =>
        match continuations lo hi share count rest with
        | .ok n =>
          (decodeUtf8 half (offset + count + 1) (rest.drop count)).map (character half n :: ·)
        | .error (reason, right) => .error ⟨reason, b, offset, right + 1⟩
  termination_by octets.length
  decreasing_by all_goals simp only [List.length_drop, List.length_cons]; omega

/-- Decode sixteen-bit units that stand at `offset`. -/
def decodeUtf16 (half : Char) (littleEndian : Bool) (offset : Nat) : Octets → Except Fault Text
  | [] => .ok []
  | [b] => .error ⟨.truncated, b, offset, 1⟩
  | a :: b :: rest =>
    let unit := fun (x y : UInt8) =>
      if littleEndian then x.toNat + 256 * y.toNat else 256 * x.toNat + y.toNat
    let n := unit a b
    match rest with
    | c :: d :: rest' =>
      let m := unit c d
      if 0xd800 ≤ n && n ≤ 0xdbff && 0xdc00 ≤ m && m ≤ 0xdfff then
        (decodeUtf16 half littleEndian (offset + 4) rest').map
          (Char.ofNat (0x10000 + (n - 0xd800) * 0x400 + (m - 0xdc00)) :: ·)
      else
        (decodeUtf16 half littleEndian (offset + 2) (c :: d :: rest')).map (character half n :: ·)
    | rest => (decodeUtf16 half littleEndian (offset + 2) rest).map (character half n :: ·)

/-- Decode thirty-two-bit units that stand at `offset`. -/
def decodeUtf32 (half : Char) (littleEndian : Bool) (offset : Nat) : Octets → Except Fault Text
  | [] => .ok []
  | a :: b :: c :: d :: rest =>
    let n :=
      if littleEndian then a.toNat + 256 * (b.toNat + 256 * (c.toNat + 256 * d.toNat))
      else d.toNat + 256 * (c.toNat + 256 * (b.toNat + 256 * a.toNat))
    if n < 0x110000 then
      (decodeUtf32 half littleEndian (offset + 4) rest).map (character half n :: ·)
    else .error ⟨.outOfRange, a, offset, 4⟩
  | b :: rest => .error ⟨.truncated, b, offset, rest.length + 1⟩

def Scheme.decode (scheme : Scheme) (half : Char) (offset : Nat) (octets : Octets) :
    Except Fault Text :=
  match scheme with
  | .utf8 => decodeUtf8 half offset octets
  | .utf16 littleEndian => decodeUtf16 half littleEndian offset octets
  | .utf32 littleEndian => decodeUtf32 half littleEndian offset octets

/-- The encoding of octets without a byte order mark, told from which of the first are zero. -/
def guess : Octets → Scheme
  | [0, _] => .utf16 false
  | [_, 0] => .utf16 true
  | 0 :: b :: _ :: _ :: _ => if b = 0 then .utf32 false else .utf16 false
  | _ :: 0 :: c :: d :: _ => if c = 0 && d = 0 then .utf32 true else .utf16 true
  | _ => .utf8

/-- The encoding of octets, the offset from which places are counted, and the octets after the
byte order mark. Places in UTF-8 are counted from behind the mark, in the others from before
it. -/
def detect (octets : Octets) : Scheme × Nat × Octets :=
  match octets with
  | 0x00 :: 0x00 :: 0xfe :: 0xff :: rest => (.utf32 false, 4, rest)
  | 0xff :: 0xfe :: 0x00 :: 0x00 :: rest => (.utf32 true, 4, rest)
  | 0xfe :: 0xff :: rest => (.utf16 false, 2, rest)
  | 0xff :: 0xfe :: rest => (.utf16 true, 2, rest)
  | 0xef :: 0xbb :: 0xbf :: rest => (.utf8, 0, rest)
  | octets => (guess octets, 0, octets)

def Fault.message (fault : Fault) (scheme : Scheme) : Text :=
  let place :=
    if fault.count = 1 then
      "byte 0x".toList ++ Hexadecimal.toDigits 2 fault.octet.toNat ++ " in position ".toList ++
        Text.decimal fault.offset
    else
      "bytes in position ".toList ++ Text.decimal fault.offset ++ '-' ::
        Text.decimal (fault.offset + fault.count - 1)
  ('\'' :: scheme.name.toList) ++ "' codec can't decode ".toList ++ place ++ ": ".toList ++
    fault.reason.message.toList

/-- The text that octets encode, or the message that says why they encode none. -/
def decode (half : Char) (octets : Octets) : Except Text Text :=
  let (scheme, offset, rest) := detect octets
  match scheme.decode half offset rest with
  | .ok text => .ok text
  | .error fault => .error (fault.message scheme)

end Encoding

end CypherPages

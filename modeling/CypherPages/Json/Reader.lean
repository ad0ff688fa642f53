import CypherPages.Json.Value
import CypherPages.Number.Hexadecimal
import CypherPages.Number.Numeral

/-! # Reading JSON

A reader of JSON text. Every step answers with the text it leaves and the fact that this is
shorter than the text it was given, so reading ends; a failure to make sense of the text carries
the text from its place on, which fixes the place. Beyond the standard the names of the special
numbers are accepted. A text that makes sense is refused all the same if an integer in it has too
many digits, or if it nests more deeply than the reader can follow. -/

namespace CypherPages.Json

/-- What can be wrong with a JSON text. -/
inductive Problem
  | byteOrderMark
  | expectingValue
  | expectingName
  | expectingColon
  | expectingComma
  | unterminatedString
  | controlCharacter
  | badEscape
  | badUnicodeEscape
  | extraData
  deriving DecidableEq

def Problem.message : Problem → String
  | .byteOrderMark => "Unexpected UTF-8 BOM (decode using utf-8-sig)"
  | .expectingValue => "Expecting value"
  | .expectingName => "Expecting property name enclosed in double quotes"
  | .expectingColon => "Expecting ':' delimiter"
  | .expectingComma => "Expecting ',' delimiter"
  | .unterminatedString => "Unterminated string starting at"
  | .controlCharacter => "Invalid control character at"
  | .badEscape => "Invalid \\escape"
  | .badUnicodeEscape => "Invalid \\uXXXX escape"
  | .extraData => "Extra data"

inductive Container
  | array
  | object
  deriving DecidableEq

def Container.name : Container → String
  | .array => "array"
  | .object => "object"

/-- Why there is no value. -/
inductive Failure
  /-- The text is no JSON; `rest` is the text from the place of the problem on. -/
  | malformed (problem : Problem) (rest : Text)
  /-- An integer has so many digits, and may not have them. -/
  | overlong (digits : Nat)
  /-- A container stands in more containers than the reader can follow. -/
  | tooDeep (container : Container)
  deriving DecidableEq

/-- What a reader brings along. -/
structure Decoder where
  /-- How many containers it can follow into each other, if there is a limit. -/
  nesting : Option Nat
  /-- What it reads for half a surrogate pair, for which there is no character. -/
  half : Char
  deriving DecidableEq

namespace Decoder

def standard : Decoder := ⟨none, '\ufffd'⟩

/-- The reader inside a container, if it can follow. -/
def enter? (decoder : Decoder) : Option Decoder :=
  match decoder.nesting with
  | none => some decoder
  | some 0 => none
  | some (n + 1) => some { decoder with nesting := some n }

end Decoder

/-- What a step of reading `source` found, and the shorter text that it left. -/
structure Scanned (α : Type) (source : Text) where
  value : α
  rest : Text
  shorter : rest.length < source.length

def isSpace (c : Char) : Bool := c == ' ' || c == '\t' || c == '\n' || c == '\r'

def skipSpace (t : Text) : Text := t.dropWhile isSpace

theorem length_dropWhile_le (p : Char → Bool) (t : Text) : (t.dropWhile p).length ≤ t.length :=
  (List.dropWhile_sublist p).length_le

theorem length_skipSpace_le (t : Text) : (skipSpace t).length ≤ t.length :=
  length_dropWhile_le isSpace t

/-- The number that four hexadecimal digits denote. -/
def hexUnit? (a b c d : Char) : Option Nat :=
  let digits := [a, b, c, d]
  if digits.all Hexadecimal.isDigit then some (Hexadecimal.ofDigits digits) else none

/-- The character that a backslash and a letter stand for. -/
def namedEscape? : Char → Option Char
  | '"' => some '"'
  | '\\' => some '\\'
  | '/' => some '/'
  | 'b' => some '\x08'
  | 'f' => some '\x0c'
  | 'n' => some '\n'
  | 'r' => some '\r'
  | 't' => some '\t'
  | _ => none

/-- Whether a sixteen-bit unit is the first half of a pair. -/
def isHighUnit (n : Nat) : Bool := 0xd800 ≤ n && n ≤ 0xdbff

/-- Whether a sixteen-bit unit is the second half of a pair. -/
def isLowUnit (n : Nat) : Bool := 0xdc00 ≤ n && n ≤ 0xdfff

/-- The character of a sixteen-bit unit, or what stands for half a pair alone. -/
def ofUnit (half : Char) (n : Nat) : Char :=
  if isHighUnit n || isLowUnit n then half else Char.ofNat n

/-- The second half of a pair after the first, where one stands and something follows it. -/
def lowUnit? (t : Text) : Except Failure (Option (Scanned Nat t)) :=
  match t with
  | '\\' :: 'u' :: a :: b :: c :: d :: next :: rest =>
    match hexUnit? a b c d with
    | none => .error (.malformed .badUnicodeEscape ('u' :: a :: b :: c :: d :: next :: rest))
    | some n =>
      if isLowUnit n then .ok (some ⟨n, next :: rest, by simp only [List.length_cons]; omega⟩)
      else .ok none
  | _ => .ok none

/-- The character that four digits after `\u` stand for. A first half of a pair takes the
second half with it. At least one character has to follow the digits. -/
def readUnicode (half : Char) (digits : Text) : Except Failure (Scanned Char digits) :=
  match digits with
  | a :: b :: c :: d :: next :: rest =>
    match hexUnit? a b c d with
    | none => .error (.malformed .badUnicodeEscape ('u' :: digits))
    | some n =>
      have alone : (next :: rest).length < (a :: b :: c :: d :: next :: rest).length := by
        simp only [List.length_cons]; omega
      if isHighUnit n then
        match lowUnit? (next :: rest) with
        | .error failure => .error failure
        | .ok none => .ok ⟨ofUnit half n, next :: rest, alone⟩
        | .ok (some low) =>
          .ok ⟨Char.ofNat (0x10000 + (n - 0xd800) * 0x400 + (low.value - 0xdc00)), low.rest,
            Nat.lt_trans low.shorter alone⟩
      else .ok ⟨ofUnit half n, next :: rest, alone⟩
  | _ => .error (.malformed .badUnicodeEscape ('u' :: digits))

/-- The characters of a string up to its closing quote. `opening` is the text from the opening
quote on. -/
def readString (half : Char) (opening : Text) (t : Text) : Except Failure (Scanned Text t) :=
  match t with
  | [] => .error (.malformed .unterminatedString opening)
  | '"' :: rest => .ok ⟨[], rest, Nat.lt_succ_self _⟩
  | ['\\'] => .error (.malformed .unterminatedString opening)
  | '\\' :: 'u' :: digits =>
    match readUnicode half digits with
    | .error failure => .error failure
    | .ok unit =>
      have : unit.rest.length < digits.length + 1 + 1 := by have := unit.shorter; omega
      match readString half opening unit.rest with
      | .error failure => .error failure
      | .ok tail => .ok ⟨unit.value :: tail.value, tail.rest, by
          have := tail.shorter; simp only [List.length_cons]; omega⟩
  | '\\' :: letter :: rest =>
    match namedEscape? letter with
    | none => .error (.malformed .badEscape ('\\' :: letter :: rest))
    | some c =>
      match readString half opening rest with
      | .error failure => .error failure
      | .ok tail => .ok ⟨c :: tail.value, tail.rest, by
          have := tail.shorter; simp only [List.length_cons]; omega⟩
  | c :: rest =>
    if c.toNat < 0x20 then .error (.malformed .controlCharacter (c :: rest))
    else
      match readString half opening rest with
      | .error failure => .error failure
      | .ok tail => .ok ⟨c :: tail.value, tail.rest, by
          have := tail.shorter; simp only [List.length_cons]; omega⟩
  termination_by t.length

/-- The digits of a fraction after a point, if there are any. -/
def fractionDigits : Text → Text
  | '.' :: rest => rest.takeWhile Numeral.isDigit
  | _ => []

/-- The letter, sign and digits of an exponent, if it has digits. -/
def exponentPart : Text → Text
  | c :: rest =>
    if c == 'e' || c == 'E' then
      let signPart := match rest with
        | '-' :: _ => ['-']
        | '+' :: _ => ['+']
        | _ => []
      let digits := (rest.drop signPart.length).takeWhile Numeral.isDigit
      if digits.isEmpty then [] else c :: signPart ++ digits
    else []
  | [] => []

/-- The digits of the whole part of a number: a lone zero, or digits that start with another
one. -/
def wholeDigits : Text → Text
  | '0' :: _ => ['0']
  | t => t.takeWhile Numeral.isDigit

/-- The number at the head of a text and the length of its spelling. A fraction and an exponent
belong to it only as far as they are complete; with one of them it is a double. -/
def number? (t : Text) : Option (Json × Nat) :=
  let (negative, unsigned) := match t with
    | '-' :: rest => (true, rest)
    | _ => (false, t)
  let whole := wholeDigits unsigned
  if whole.isEmpty then none
  else
    let afterWhole := unsigned.drop whole.length
    let fraction := fractionDigits afterWhole
    let fractionLength := if fraction.isEmpty then 0 else fraction.length + 1
    let exponent := exponentPart (afterWhole.drop fractionLength)
    let length := (if negative then 1 else 0) + whole.length + fractionLength + exponent.length
    if fraction.isEmpty && exponent.isEmpty then
      let n : Int := Numeral.ofDigits whole
      some (.int (if negative then -n else n), length)
    else
      let power := (Numeral.exponent? exponent).getD 0 - fraction.length
      some (.float (.ofDecimal negative (Numeral.ofDigits (whole ++ fraction)) power), length)

def literals : List (Text × Json) := [
  ("null".toList, .null), ("true".toList, .bool true), ("false".toList, .bool false),
  ("NaN".toList, .float .nan), ("Infinity".toList, .float (.infinite false)),
  ("-Infinity".toList, .float (.infinite true))]

/-- The literal or number at the head of a text and the length of its spelling. -/
def scalar? (t : Text) : Option (Json × Nat) :=
  match literals.find? fun literal => literal.1.isPrefixOf t with
  | some (word, value) => some (value, word.length)
  | none => number? t

mutual

/-- The value at the head of a text. -/
def readValue (decoder : Decoder) (t : Text) : Except Failure (Scanned Json t) :=
  match t with
  | [] => .error (.malformed .expectingValue [])
  | '"' :: rest =>
    match readString decoder.half ('"' :: rest) rest with
    | .error failure => .error failure
    | .ok s => .ok ⟨.string s.value, s.rest, Nat.lt_succ_of_lt s.shorter⟩
  | '[' :: rest =>
    match decoder.enter? with
    | none => .error (.tooDeep .array)
    | some inner =>
      have bound := length_skipSpace_le rest
      match h : skipSpace rest with
      | ']' :: after => .ok ⟨.array [], after, by
          simp only [h, List.length_cons] at bound ⊢; omega⟩
      | _ =>
        match readItems inner (skipSpace rest) with
        | .error failure => .error failure
        | .ok items => .ok ⟨.array items.value, items.rest, by
            have := items.shorter; simp only [List.length_cons]; omega⟩
  | '{' :: rest =>
    match decoder.enter? with
    | none => .error (.tooDeep .object)
    | some inner =>
      have bound := length_skipSpace_le rest
      match h : skipSpace rest with
      | '}' :: after => .ok ⟨.object [], after, by
          simp only [h, List.length_cons] at bound ⊢; omega⟩
      | _ =>
        match readMembers inner (skipSpace rest) with
        | .error failure => .error failure
        | .ok members => .ok ⟨.object (Entries.ofPairs members.value), members.rest, by
            have := members.shorter; simp only [List.length_cons]; omega⟩
  | c :: rest =>
    match scalar? (c :: rest) with
    | none => .error (.malformed .expectingValue (c :: rest))
    | some (value, length) =>
      match value.overlongDigits? with
      | some digits => .error (.overlong digits)
      | none => .ok ⟨value, rest.drop (length - 1), by
          simp only [List.length_drop, List.length_cons]; omega⟩
  termination_by 2 * t.length
  decreasing_by all_goals simp only [List.length_cons]; omega

/-- The items of an array from one of its items on, to the closing bracket. -/
def readItems (decoder : Decoder) (t : Text) : Except Failure (Scanned (List Json) t) :=
  match readValue decoder t with
  | .error failure => .error failure
  | .ok item =>
    have bound := length_skipSpace_le item.rest
    have shorter := item.shorter
    match h : skipSpace item.rest with
    | ']' :: after => .ok ⟨[item.value], after, by
        simp only [h, List.length_cons] at bound; omega⟩
    | ',' :: after =>
      have bound' := length_skipSpace_le after
      have : (skipSpace after).length < t.length := by
        simp only [h, List.length_cons] at bound; omega
      match readItems decoder (skipSpace after) with
      | .error failure => .error failure
      | .ok items => .ok ⟨item.value :: items.value, items.rest, Nat.lt_trans items.shorter this⟩
    | rest => .error (.malformed .expectingComma rest)
  termination_by 2 * t.length + 1
  decreasing_by all_goals omega

/-- The members of an object from one of its names on, to the closing brace. -/
def readMembers (decoder : Decoder) (t : Text) :
    Except Failure (Scanned (List (Text × Json)) t) :=
  match t with
  | '"' :: rest =>
    match readString decoder.half ('"' :: rest) rest with
    | .error failure => .error failure
    | .ok name =>
      have nameShorter := name.shorter
      have bound := length_skipSpace_le name.rest
      match h : skipSpace name.rest with
      | ':' :: afterColon =>
        have boundColon := length_skipSpace_le afterColon
        have valueShorter : (skipSpace afterColon).length < rest.length + 1 := by
          simp only [h, List.length_cons] at bound; omega
        match readValue decoder (skipSpace afterColon) with
        | .error failure => .error failure
        | .ok value =>
          have shorter := value.shorter
          have bound' := length_skipSpace_le value.rest
          match h' : skipSpace value.rest with
          | '}' :: after => .ok ⟨[(name.value, value.value)], after, by
              simp only [h', List.length_cons] at bound' ⊢; omega⟩
          | ',' :: after =>
            have bound'' := length_skipSpace_le after
            have : (skipSpace after).length < rest.length + 1 := by
              simp only [h', List.length_cons] at bound'; omega
            match readMembers decoder (skipSpace after) with
            | .error failure => .error failure
            | .ok members => .ok ⟨(name.value, value.value) :: members.value, members.rest, by
                have := members.shorter; simp only [List.length_cons]; omega⟩
          | rest => .error (.malformed .expectingComma rest)
      | rest => .error (.malformed .expectingColon rest)
  | t => .error (.malformed .expectingName t)
  termination_by 2 * t.length + 1
  decreasing_by all_goals simp only [List.length_cons]; omega

end

/-- The value that a whole text denotes. -/
def readDecoded (decoder : Decoder) (t : Text) : Except Failure Json :=
  match readValue decoder (skipSpace t) with
  | .error failure => .error failure
  | .ok scanned =>
    match skipSpace scanned.rest with
    | [] => .ok scanned.value
    | rest => .error (.malformed .extraData rest)

/-- The value that a whole text denotes; a text may not start with a byte order mark. -/
def read (t : Text) : Except Failure Json :=
  match t with
  | '\ufeff' :: _ => .error (.malformed .byteOrderMark t)
  | _ => readDecoded .standard t

/-- The message of a problem with `source` where `rest` is left: the problem and its place, as
line, column and offset. -/
def Problem.messageAt (problem : Problem) (source rest : Text) : Text :=
  let offset := source.length - rest.length
  let before := source.take offset
  let line := before.count '\n' + 1
  let column := (before.reverse.takeWhile (· ≠ '\n')).length + 1
  problem.message.toList ++ ": line ".toList ++ Text.decimal line ++ " column ".toList ++
    Text.decimal column ++ " (char ".toList ++ Text.decimal offset ++ ")".toList

/-- The message of a failure to read `source`. -/
def Failure.message (source : Text) : Failure → Text
  | .malformed problem rest => problem.messageAt source rest
  | .overlong digits =>
    "Exceeds the limit (".toList ++ Text.decimal digitLimit ++
      " digits) for integer string conversion: value has ".toList ++ Text.decimal digits ++
      " digits; use sys.set_int_max_str_digits() to increase the limit".toList
  | .tooDeep container =>
    "maximum recursion depth exceeded while decoding a JSON ".toList ++ container.name.toList ++
      " from a unicode string".toList

end CypherPages.Json

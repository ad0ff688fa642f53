import CypherPages.Text.DecimalDigit

/-! # Words of a command line

A word that starts with a dash names an option, with a value attached to it or not. A long name
may be cut short as long as it remains unambiguous; a short name has its value attached
directly. Negative numbers, and words with a space that name no option, are plain words, and so
is every word after a word of two dashes. -/

namespace CypherPages.CommandLine

/-- The options that take a value. -/
inductive OptionName
  | output
  | title
  | format
  | timeout
  | endpoint
  deriving DecidableEq

def OptionName.long : OptionName → Text
  | .output => "output".toList
  | .title => "title".toList
  | .format => "format".toList
  | .timeout => "timeout".toList
  | .endpoint => "endpoint".toList

def OptionName.short? : OptionName → Option Char
  | .output => some 'o'
  | _ => none

/-- The long name of the option that asks for help; its first letter is its short name. -/
def helpName : Text := "help".toList

inductive Word
  /-- An operand, or the value of the option before it. -/
  | plain (text : Text)
  /-- Two dashes: all words that follow are plain. -/
  | separator
  | help
  /-- An option, with the value that is attached to it. `afterHelp` says that the word asks for
  help as well. -/
  | option (name : OptionName) (attached : Option Text) (afterHelp : Bool)
  | unknown
  /-- A request for help with something attached to it that makes no sense. -/
  | misused
  /-- A name cut too short to tell which option it is. -/
  | ambiguous
  deriving DecidableEq

def separator : Text := ['-', '-']

/-- Whether what follows a dash makes a negative number in plain decimal notation. -/
def isUnsignedNumber (t : Text) : Bool :=
  let whole := t.takeWhile isDecimalDigit
  match t.dropWhile isDecimalDigit with
  | '.' :: fraction =>
    let rest := fraction.dropWhile isDecimalDigit
    (rest.isEmpty || rest == ['\n']) && rest.length < fraction.length
  | rest => (rest.isEmpty || rest == ['\n']) && !whole.isEmpty

/-- A word that starts with a dash and names no option of the command. -/
def unnamed (afterDash : Text) : Word :=
  if isUnsignedNumber afterDash || afterDash.contains ' ' then .plain ('-' :: afterDash)
  else .unknown

/-- What follows `-h` in a word: further short names, the last of them with its value. -/
def afterHelpLetter (options : List OptionName) : Text → Word
  | [] => .help
  | c :: rest =>
    if helpName.head? = some c then afterHelpLetter options rest
    else
      match options.find? fun name => name.short? = some c with
      | some name => .option name (if rest.isEmpty then none else some rest) true
      | none => .misused

/-- A word of one dash, a letter and what follows the letter. -/
def shortWord (options : List OptionName) (c : Char) (rest : Text) : Word :=
  let attached := match rest with
    | [] => none
    | '=' :: value => some value
    | value => some value
  if helpName.head? = some c then
    match attached with
    | none => .help
    | some [] => .misused
    | some letters => afterHelpLetter options letters
  else
    match options.find? fun name => name.short? = some c with
    | some name => .option name attached false
    | none => unnamed (c :: rest)

/-- A word of two dashes and a text, which may be a name with an equals sign and a value. -/
def longWord (options : List OptionName) (t : Text) : Word :=
  let name := t.takeWhile (· != '=')
  let attached := match t.dropWhile (· != '=') with
    | [] => none
    | _ :: value => some value
  let fits := fun long => if name ∈ helpName :: options.map OptionName.long then name == long
    else name.isPrefixOf long
  let request := if attached.isNone then Word.help else .misused
  match fits helpName, options.filter fun option => fits option.long with
  | true, [] => request
  | false, [option] => .option option attached false
  | false, [] => unnamed ('-' :: t)
  | _, _ => .ambiguous

def wordOf (options : List OptionName) : Text → Word
  | '-' :: '-' :: rest => longWord options rest
  | '-' :: c :: rest => shortWord options c rest
  | t => .plain t

def wordsOf (options : List OptionName) : List Text → List Word
  | [] => []
  | t :: rest =>
    if t = separator then .separator :: rest.map .plain
    else wordOf options t :: wordsOf options rest

end CypherPages.CommandLine

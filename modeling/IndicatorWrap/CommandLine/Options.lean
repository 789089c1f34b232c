import IndicatorWrap.Text.Digit
import IndicatorWrap.Text.Quoted

/-!
The command line: two options with a value each, both required, and a request
for help. An option is written short or long, a long one in any form that no
other long option begins with; a value stands in the same argument or in the
next one. Of several values for an option the last counts.

Two rules are those of argparse 3.11 before 3.11.10: a value that is the terminator leaves
its option with nothing, even where it stands in the argument of the option, as in -o--,
and letters behind a short request for help must be options, so that -hx is a usage error.
Since then -o-- has the value -- and -hx gives help.
-/

namespace IndicatorWrap.CommandLine

inductive Opt where
  | help
  | input
  | output
deriving DecidableEq, Repr

def Opt.all : List Opt :=
  [.help, .input, .output]

def Opt.letter : Opt → Char
  | .help => 'h'
  | .input => 'i'
  | .output => 'o'

def Opt.short (opt : Opt) : String :=
  String.ofList ['-', opt.letter]

def Opt.long : Opt → String
  | .help => "--help"
  | .input => "--input"
  | .output => "--output"

/-- Both names of an option. -/
def Opt.label (opt : Opt) : String :=
  opt.short ++ "/" ++ opt.long

/-- How an option is spelled. -/
inductive Form where
  | short
  | long
deriving DecidableEq, Repr

/-- What one argument is, its neighbours aside. -/
inductive Word where
  | value (text : String)
  /-- The argument behind which everything is a value. -/
  | terminator
  | option (opt : Opt) (form : Form) (attached : Option String)
  /-- What looks like an option and is none. -/
  | unknown (text : String)
deriving DecidableEq, Repr

inductive UsageError where
  | ambiguous (argument : String) (options : List Opt)
  | expectsValue (opt : Opt)
  | ignoredValue (opt : Opt) (text : String)
  | missing (options : List Opt)
  | unrecognized (arguments : List String)
deriving DecidableEq, Repr

def UsageError.message : UsageError → String
  | .ambiguous argument options =>
    "ambiguous option: " ++ argument ++ " could match " ++ ", ".intercalate (options.map Opt.long)
  | .expectsValue opt => "argument " ++ opt.label ++ ": expected one argument"
  | .ignoredValue opt text =>
    "argument " ++ opt.label ++ ": ignored explicit argument " ++ Text.quoted text
  | .missing options =>
    "the following arguments are required: " ++ ", ".intercalate (options.map Opt.label)
  | .unrecognized arguments => "unrecognized arguments: " ++ " ".intercalate arguments

/-- The option with exactly this name. -/
def exactOption? (name : List Char) : Option (Opt × Form) :=
  Opt.all.findSome? fun opt =>
    if name = opt.short.toList then some (opt, .short)
    else if name = opt.long.toList then some (opt, .long)
    else none

def optionWithLetter? (c : Char) : Option Opt :=
  Opt.all.find? fun opt => opt.letter == c

/-- The text up to the first equals sign and the text behind it. -/
def splitAtEquals : List Char → List Char × Option (List Char)
  | [] => ([], none)
  | c :: rest =>
    if c = '=' then
      ([], some rest)
    else
      let (name, value) := splitAtEquals rest
      (c :: name, value)

/-- Whether a text reads as a negative number: a minus sign, digits and perhaps
a point with digits behind it. One line feed may end it. -/
def isNegativeNumber : List Char → Bool
  | '-' :: rest =>
    let body := if rest.getLast? = some '\n' then rest.dropLast else rest
    match body.dropWhile Text.isDecimalDigit with
    | [] => !body.isEmpty
    | '.' :: fraction => !fraction.isEmpty && fraction.all Text.isDecimalDigit
    | _ => false
  | _ => false

/-- An argument that begins with a dash and names no option. -/
def Word.ofOther (argument : List Char) : Word :=
  if isNegativeNumber argument || argument.contains ' ' then
    .value (String.ofList argument)
  else
    .unknown (String.ofList argument)

/-- An argument that begins with two dashes: the long options that begin with
the text up to an equals sign. -/
def Word.ofLong (argument : List Char) : Except UsageError Word :=
  let (name, attached) := splitAtEquals argument
  match Opt.all.filter fun opt => name.isPrefixOf opt.long.toList with
  | [] => .ok (.ofOther argument)
  | [opt] => .ok (.option opt .long (attached.map String.ofList))
  | options => .error (.ambiguous (String.ofList argument) options)

/-- An argument that begins with one dash and a letter: the option with that
letter, the rest being its value. -/
def Word.ofShort (letter : Char) (rest : List Char) : Word :=
  match optionWithLetter? letter with
  | some opt => .option opt .short (some (String.ofList rest))
  | none => .ofOther ('-' :: letter :: rest)

/-- One argument in front of the terminator. -/
def Word.ofArgument (argument : List Char) : Except UsageError Word :=
  match exactOption? argument, splitAtEquals argument with
  | some (opt, form), _ => .ok (.option opt form none)
  | none, (name, attached) =>
    match exactOption? name, attached, argument with
    | some (opt, form), some text, _ => .ok (.option opt form (some (String.ofList text)))
    | _, _, '-' :: '-' :: _ => ofLong argument
    | _, _, '-' :: letter :: rest => .ok (.ofShort letter rest)
    | _, _, _ => .ok (.value (String.ofList argument))

/-- How the terminator is written. -/
def terminatorText : String := "--"

/-- All arguments, word by word. -/
def Word.ofArguments : List String → Except UsageError (List Word)
  | [] => .ok []
  | argument :: rest =>
    if argument = terminatorText then
      .ok (.terminator :: rest.map .value)
    else do
      let word ← ofArgument argument.toList
      let words ← ofArguments rest
      return word :: words

/-- What an option is given. The terminator is no value: written where one is
expected, it leaves the option with nothing. Since 3.11.10 it is a value if it
stands in the argument of its option. -/
inductive Value where
  | text (text : String)
  | nothing
deriving DecidableEq, Repr

def Value.ofText (text : String) : Value :=
  if text = terminatorText then .nothing else .text text

/-- What the command line asks for. -/
inductive Request where
  | help
  | generate (input output : Value)
deriving DecidableEq, Repr

/-- What was found so far, the arguments left over being in reverse. -/
structure Found where
  input : Option Value
  output : Option Value
  extra : List String

def Found.nothing : Found :=
  ⟨none, none, []⟩

def Found.set (found : Found) (opt : Opt) (text : String) : Found :=
  match opt with
  | .help => found
  | .input => { found with input := some (.ofText text) }
  | .output => { found with output := some (.ofText text) }

def Found.addExtra (found : Found) (argument : String) : Found :=
  { found with extra := argument :: found.extra }

/-- The request, once no word is left. -/
def Found.request (found : Found) : Except UsageError Request :=
  match found.input, found.output with
  | none, none => .error (.missing [.input, .output])
  | none, some _ => .error (.missing [.input])
  | some _, none => .error (.missing [.output])
  | some input, some output =>
    if found.extra.isEmpty then .ok (.generate input output)
    else .error (.unrecognized found.extra.reverse)

/-- Help was asked for by a letter with more letters behind it. These must be
options again, of which the last may take its value from the words that
follow; then help is given. Since 3.11.10 it is given at once. -/
def helpCluster (words : List Word) : List Char → Except UsageError Request
  | [] => .ok .help
  | letter :: rest =>
    match optionWithLetter? letter, rest, words with
    | none, _, _ => .error (.ignoredValue .help (String.ofList (letter :: rest)))
    | some .help, _, _ => helpCluster words rest
    | some _, _ :: _, _ => .ok .help
    | some _, [], .value _ :: _ => .ok .help
    | some opt, [], _ => .error (.expectsValue opt)

/-- Goes through the words. Help is given as soon as it is met. -/
def Found.scan (found : Found) : List Word → Except UsageError Request
  | [] => found.request
  | .value text :: rest => (found.addExtra text).scan rest
  | .terminator :: rest => (found.addExtra terminatorText).scan rest
  | .unknown text :: rest => (found.addExtra text).scan rest
  | .option .help _ none :: _ => .ok .help
  | .option .help form (some text) :: rest =>
    if form = .long ∨ text = "" then
      .error (.ignoredValue .help text)
    else
      helpCluster rest text.toList
  | .option opt _ (some text) :: rest => (found.set opt text).scan rest
  | .option opt _ none :: .value text :: rest => (found.set opt text).scan rest
  | .option opt _ none :: _ => .error (.expectsValue opt)

def parse (arguments : List String) : Except UsageError Request := do
  let words ← Word.ofArguments arguments
  Found.nothing.scan words

end IndicatorWrap.CommandLine

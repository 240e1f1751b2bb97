import ChipEight.Command.Switch
import ChipEight.Text.Numeral
import ChipEight.Text.Quoted
set_option autoImplicit false
set_option relaxedAutoImplicit false

/-!
# Arguments

An argument is a value, an option, or the double dash, after which all arguments are values. A long
name may be cut short as long as only one option begins with it. The value of an option may be
attached to it: after an equals sign, or directly behind the short name. What is attached to a short
option without a value are the letters of further short options, and the last of these may have a
value again. A negative number is a value.

## Main definitions

* `ChipEight.UsageError` — the mistakes in a list of arguments, and their wording.
* `ChipEight.Argument` — an argument by its role.
* `ChipEight.Argument.ofTexts` — the roles of a list of arguments.
* `ChipEight.Argument.Meaning` — what a single argument says.
* `ChipEight.Argument.read` — the meaning of an argument.
-/

namespace ChipEight

/-- The mistakes in a list of arguments. -/
inductive UsageError where
  /-- An option lacks its value. -/
  | missingValue (switch : Switch)
  /-- The value of an option is no whole number. -/
  | notANumber (switch : Switch) (value : String)
  /-- An option that has no value is given one. -/
  | extraValue (switch : Switch) (value : String)
  /-- A shortened name fits several options. -/
  | ambiguous (argument : String) (candidates : List Switch)
  /-- An option that has to be there is missing. -/
  | missingOption (switch : Switch)
  /-- There are arguments that nobody wants. -/
  | unrecognized (arguments : List String)
  deriving DecidableEq, Repr

/-- The wording of a mistake. -/
def UsageError.message : UsageError → String
  | missingValue switch => "argument " ++ switch.label ++ ": expected one argument"
  | notANumber switch value =>
    "argument " ++ switch.label ++ ": invalid int value: " ++ Text.quoted value
  | extraValue switch value =>
    "argument " ++ switch.label ++ ": ignored explicit argument " ++ Text.quoted value
  | ambiguous argument candidates =>
    "ambiguous option: " ++ argument ++ " could match " ++
      ", ".intercalate (candidates.map Switch.long)
  | missingOption switch => "the following arguments are required: " ++ switch.label
  | unrecognized arguments => "unrecognized arguments: " ++ " ".intercalate arguments

/-- An argument by its role. -/
inductive Argument where
  /-- A value, or an argument that nobody wants. -/
  | value (text : String)
  /-- The double dash that ends the options. -/
  | dashes
  /-- An option by its long name, and the value attached to it. -/
  | long (switch : Switch) (attached : Option String)
  /-- An option by its letter, and what is attached to it. -/
  | short (switch : Switch) (attached : Option (List Char))
  /-- Something in the form of an option that is none. -/
  | unknown (text : String)
  deriving DecidableEq, Repr

namespace Argument

/-- A text without a line feed at its end. -/
def chomp (cs : List Char) : List Char :=
  if cs.getLast? = some '\n' then cs.dropLast else cs

/-- Whether a text has the form of a negative number: a dash and decimal digits, or a dash and
digits with a point before the last of them. A line feed may stand at the end. -/
def isNegativeNumber (cs : List Char) : Bool :=
  let isDigit := fun c => (Text.digitValue? c).isSome
  match chomp cs with
  | '-' :: rest =>
    let whole := rest.takeWhile isDigit
    match rest.dropWhile isDigit with
    | [] => !whole.isEmpty
    | '.' :: fraction => !fraction.isEmpty && fraction.all isDigit
    | _ => false
  | _ => false

/-- A text cut at its first equals sign. -/
def cutAtEquals? (cs : List Char) : Option (String × String) :=
  match cs.dropWhile (· != '=') with
  | _ :: rest => some (String.ofList (cs.takeWhile (· != '=')), String.ofList rest)
  | [] => none

/-- An argument in the form of a shortened long name, with the value attached to it. -/
def ofShortened? (text : String) (name : String) (attached : Option String) :
    Except UsageError (Option Argument) :=
  match Switch.beginningWith name with
  | [] => .ok none
  | [switch] => .ok (some (.long switch attached))
  | candidates => .error (.ambiguous text candidates)

/-- An argument that begins with a dash and names no option: a negative number or a text with a
blank is a value. -/
def ofOther (text : String) : Argument :=
  if isNegativeNumber text.toList || text.toList.contains ' ' then .value text else .unknown text

/-- What is attached to the letter of an option by the characters behind it. An equals sign behind
the letter only separates. -/
def attachedTo : List Char → Option (List Char)
  | [] => none
  | '=' :: content => some content
  | content => some content

/-- The role of an argument that no double dash precedes. -/
def ofText (text : String) : Except UsageError Argument :=
  match text.toList with
  | ['-', '-'] => .ok .dashes
  | '-' :: '-' :: rest =>
    match Switch.ofLong? text with
    | some switch => .ok (.long switch none)
    | none => do
      let (name, attached) :=
        match cutAtEquals? ('-' :: '-' :: rest) with
        | some (name, content) => (name, some content)
        | none => (text, none)
      match Switch.ofLong? name with
      | some switch => .ok (.long switch attached)
      | none => return (← ofShortened? text name attached).getD (ofOther text)
  | '-' :: letter :: rest =>
    match Switch.ofLetter? letter with
    | some switch => .ok (.short switch (attachedTo rest))
    | none => .ok (ofOther text)
  | _ => .ok (.value text)

/-- The roles of arguments: after the double dash all of them are values. -/
def ofTexts : List String → Except UsageError (List Argument)
  | [] => .ok []
  | text :: rest => do
    let argument ← ofText text
    if argument = dashes then return dashes :: rest.map fun other => value other
    else return argument :: (← ofTexts rest)

/-- What the options in one argument say: those without a value, then possibly one with a value, and
the value if it is attached. -/
structure Reading where
  /-- The options without a value. -/
  flags : List Switch
  /-- The option with a value, and the value if it is attached. -/
  valued : Option (Switch × Option String)
  deriving DecidableEq, Repr

/-- What an option says that has nothing attached to it. -/
def readBare (switch : Switch) : Reading :=
  if switch.takesValue then ⟨[], some (switch, none)⟩ else ⟨[switch], none⟩

/-- What an option says that has a text attached to it as its value. -/
def readAttached (switch : Switch) (content : String) : Except UsageError Reading :=
  if switch.takesValue then .ok ⟨[], some (switch, some content)⟩
  else .error (.extraValue switch content)

/-- What a short option and the characters attached to it say: the value of the option, or, if it
has none, the letters of further options. -/
def readCluster (switch : Switch) (attached : List Char) : Except UsageError Reading :=
  match attached with
  | [] => readAttached switch ""
  | letter :: rest =>
    if switch.takesValue then readAttached switch (String.ofList attached)
    else
      match Switch.ofLetter? letter with
      | none => readAttached switch (String.ofList attached)
      | some next =>
        (if rest = [] then .ok (readBare next) else readCluster next rest).map fun reading =>
          { reading with flags := switch :: reading.flags }

/-- What a single argument says. -/
inductive Meaning where
  /-- Nothing: nobody wants the argument. -/
  | unwanted (text : String)
  /-- What its options say. -/
  | options (reading : Reading)
  deriving DecidableEq, Repr

/-- The meaning of an argument. -/
def read : Argument → Except UsageError Meaning
  | value text | unknown text => .ok (.unwanted text)
  | dashes => .ok (.unwanted "--")
  | long switch none | short switch none => .ok (.options (readBare switch))
  | long switch (some content) => (readAttached switch content).map .options
  | short switch (some content) => (readCluster switch content).map .options

end Argument

end ChipEight

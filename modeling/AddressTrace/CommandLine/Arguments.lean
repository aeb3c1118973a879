import AddressTrace.Text.Split

/-!
# Arguments of the program

What the words behind the program's name ask for.

## Main definitions

* `OptionSpec`, `Words` — the options of a command, and the words sorted into options and others;
* `Words.read?` — sorts the words of a command;
* `Command`, `Command.ofArguments?` — what is asked for.
-/

namespace AddressTrace.CommandLine

open Text

/-- **An option of a command.** -/
structure OptionSpec where
  long : String
  short : Option Char
  takesValue : Bool
deriving Repr, DecidableEq

/-- **The words of a command**: the options given, each with its value, and the other words. -/
structure Words where
  options : List (String × String)
  others : List String
deriving Repr, DecidableEq

namespace Words

/-- One more option in front. -/
def withOption (name value : String) (w : Words) : Words :=
  { w with options := (name, value) :: w.options }

/-- One more word that is no option in front. -/
def withOther (word : String) (w : Words) : Words := { w with others := word :: w.others }

/-- Can a word be the value of an option?  It can unless it looks like an option. -/
def isValue (word : String) : Bool :=
  match word.toList with
  | '-' :: _ :: _ => false
  | _ => true

/-- **Options given by their first letters**, behind the dash: flags, and at the end perhaps one
option with its value.  Gives the flags, and the last option with what stands behind its letter. -/
def readLetters? (specs : List OptionSpec) :
    List Char → Option (List String × Option (String × List Char))
  | [] => some ([], none)
  | c :: cs => do
    let spec ← specs.find? fun s => s.short == some c
    if spec.takesValue then return ([], some (spec.long, cs))
    else
      let (flags, last) ← readLetters? specs cs
      return (spec.long :: flags, last)

/-- The value that stands behind the letter of an option, perhaps with an equals sign between. -/
def attachedValue? : List Char → Option String
  | [] => none
  | '=' :: cs => some (String.ofList cs)
  | cs => some (String.ofList cs)

/-- An option by its name, behind the two dashes, and the value that it is given with an equals
sign. -/
def readName? (specs : List OptionSpec) (cs : List Char) :
    Option (OptionSpec × Option String) := do
  let name := String.ofList (cs.takeWhile (· != '='))
  let spec ← specs.find? fun s => s.long == name
  match cs.dropWhile (· != '=') with
  | [] => return (spec, none)
  | _ :: value =>
    if spec.takesValue then return (spec, some (String.ofList value)) else none

/-- Sorts words; a pending option takes the first of them as its value. -/
def readWith? (specs : List OptionSpec) : Option String → List String → Option Words
  | some _, [] => none
  | none, [] => some ⟨[], []⟩
  | some name, value :: rest =>
    if isValue value then (readWith? specs none rest).map (withOption name value) else none
  | none, word :: rest =>
    match word.toList with
    | ['-', '-'] => some ⟨[], rest⟩
    | '-' :: '-' :: cs => do
      let (spec, value) ← readName? specs cs
      match value with
      | some value => return (← readWith? specs none rest).withOption spec.long value
      | none =>
        if spec.takesValue then readWith? specs (some spec.long) rest
        else return (← readWith? specs none rest).withOption spec.long ""
    | '-' :: c :: cs => do
      let (flags, last) ← readLetters? specs (c :: cs)
      let words ←
        match last with
        | none => readWith? specs none rest
        | some (name, behind) =>
          match attachedValue? behind with
          | some value => (readWith? specs none rest).map (withOption name value)
          | none => readWith? specs (some name) rest
      return flags.foldr (fun name w => w.withOption name "") words
    | _ => return (← readWith? specs none rest).withOther word

/-- **Sorts the words of a command.**  Behind two dashes no word is an option.  An option whose
value is not attached takes the next word. -/
def read? (specs : List OptionSpec) (words : List String) : Option Words :=
  readWith? specs none words

/-- The value of an option. -/
def value? (w : Words) (name : String) : Option String :=
  w.options.lookup name

/-- Is an option given? -/
def has (w : Words) (name : String) : Bool := (w.value? name).isSome

/-- Is no option given twice? -/
def isSettled (w : Words) : Bool :=
  let names := w.options.map Prod.fst
  names.eraseDups.length == names.length

end Words

/-! ### Commands -/

/-- **What is asked for.** -/
inductive Command
  /-- The references of a file, found without a network. -/
  | scan (path : String) (contractName : Option String) (pretty : Bool)
  /-- The references of a deployed contract. -/
  | resolve (address chain : String) (config : Option String) (pretty : Bool)
deriving Repr, DecidableEq

namespace Command

/-- The option for output over several lines. -/
def prettySpec : OptionSpec := ⟨"pretty", none, false⟩

/-- The option for messages on the way, which are not part of the output. -/
def verboseSpec : OptionSpec := ⟨"verbose", some 'v', false⟩

/-- The options of a scan. -/
def scanSpecs : List OptionSpec := [⟨"contract-name", none, true⟩, prettySpec, verboseSpec]

/-- The options of a resolution. -/
def resolveSpecs : List OptionSpec :=
  [⟨"chain", some 'c', true⟩, ⟨"config", none, true⟩, prettySpec, verboseSpec]

/-- The words of a command that has one word besides its options. -/
def single? (specs : List OptionSpec) (arguments : List String) : Option (String × Words) := do
  let words ← Words.read? specs arguments
  match words.others with
  | [word] => if words.isSettled then return (word, words) else none
  | _ => none

/-- **What the arguments ask for.**  The path of a file is never empty. -/
def ofArguments? : List String → Option Command
  | "scan" :: arguments => do
    let (path, words) ← single? scanSpecs arguments
    if path.isEmpty then none
    else return scan path (words.value? "contract-name") (words.has "pretty")
  | "resolve" :: arguments => do
    let (address, words) ← single? resolveSpecs arguments
    let config := words.value? "config"
    if config = some "" then none
    else return resolve address ((words.value? "chain").getD "ethereum") config (words.has "pretty")
  | _ => none

end Command

end AddressTrace.CommandLine

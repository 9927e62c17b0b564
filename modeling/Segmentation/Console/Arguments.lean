import Segmentation.Catalogue
import Segmentation.Number.Integer
import Segmentation.Segment
import Segmentation.Storage.Path

/-!
# Arguments of the command line

A command is named by one or two words, followed by its options and arguments in any order. After two
dashes nothing is an option any more. The value of an option follows it, or is attached to it; short options
without values may share one dash.
-/

namespace Segmentation.Console

/-- A command with its arguments. -/
inductive Command where
  | version
  | init (configDir : Option Path)
  | fields
  | operators (type : Option FieldType)
  | list
  | display (name : String)
  | validate (name : Option String)
  | evaluate (name : String) (contacts : Option Path) (limit : Int) (save : Bool)
  | create (name description : String) (type : SegmentType)
  | addMembers (name : String) (emails : List String)
  | removeMembers (name : String) (emails : List String)

/-- Why there is no command to run. -/
inductive Usage where
  /-- Help is asked for. -/
  | help
  /-- The arguments are not those of a command. -/
  | wrong
deriving DecidableEq

/-- An option: its long name, its short name, and whether a value belongs to it. -/
structure OptionForm where
  long : String
  short : Option Char
  takesValue : Bool

/-- The option that every command has. -/
def OptionForm.help : OptionForm := ⟨"--help", none, false⟩

/-- The options that were found, by their long names, and the other arguments. -/
structure Found where
  options : List (String × String)
  others : List String

/-- The word is an option. -/
def isOption (word : String) : Bool :=
  Text.startsWith word "-" && 1 < word.length

/-- The options in one word: those that are complete, and one whose value has yet to come. -/
structure InWord where
  complete : List (String × String)
  open? : Option String

/-- The options in a word of short ones. The rest of the word after an option with a value is the value. -/
def shortOptions (forms : List OptionForm) : List Char → Option InWord
  | [] => some ⟨[], none⟩
  | c :: cs =>
    match forms.find? (·.short = some c) with
    | none => none
    | some form =>
      if form.takesValue then
        some (if cs.isEmpty then ⟨[], some form.long⟩ else ⟨[(form.long, String.ofList cs)], none⟩)
      else (shortOptions forms cs).map fun w => { w with complete := (form.long, "") :: w.complete }

/-- The options in a word. -/
def optionsIn (forms : List OptionForm) (word : String) : Option InWord :=
  let cs := word.toList
  let name := String.ofList (cs.takeWhile (· ≠ '='))
  match forms.find? (·.long = name), cs.dropWhile (· ≠ '=') with
  | some form, [] => some (if form.takesValue then ⟨[], some form.long⟩ else ⟨[(form.long, "")], none⟩)
  | some form, _ :: value =>
    if form.takesValue then some ⟨[(form.long, String.ofList value)], none⟩ else none
  | none, _ => if Text.startsWith word "--" then none else shortOptions forms cs.tail

/-- Tells options from other arguments. Unless both may be mixed, the first other argument ends the
options. -/
def readOptions (forms : List OptionForm) (mixed : Bool) : List String → Option Found
  | [] => some ⟨[], []⟩
  | word :: rest =>
    if word = "--" then some ⟨[], rest⟩
    else if isOption word then
      match optionsIn forms word with
      | none => none
      | some ⟨complete, none⟩ =>
        (readOptions forms mixed rest).map fun f => { f with options := complete ++ f.options }
      | some ⟨complete, some name⟩ =>
        match rest with
        | [] => none
        | value :: rest =>
          (readOptions forms mixed rest).map fun f =>
            { f with options := complete ++ (name, value) :: f.options }
    else if mixed then
      (readOptions forms mixed rest).map fun f => { f with others := word :: f.others }
    else some ⟨[], word :: rest⟩

namespace Found

/-- Help is asked for. -/
def asksHelp (f : Found) : Bool :=
  f.options.any (·.1 = "--help")

/-- The value of an option; of several the last one. -/
def value? (f : Found) (long : String) : Option String :=
  f.options.reverse.lookup long

/-- The option was given. -/
def has (f : Found) (long : String) : Bool :=
  (f.value? long).isSome

end Found

/-- What can follow the words that name a command. -/
structure Form where
  options : List OptionForm
  read : Found → Option Command

namespace Form

/-- A command without options and arguments. -/
def plain (c : Command) : Form :=
  ⟨[], fun f => if f.others.isEmpty then some c else none⟩

/-- A command with exactly one argument and no options of its own. -/
def ofName (c : String → Command) : Form :=
  ⟨[], fun f => match f.others with
    | [name] => some (c name)
    | _ => none⟩

/-- A command with a name and at least one more argument. -/
def ofNameAndMore (c : String → List String → Command) : Form :=
  ⟨[], fun f => match f.others with
    | name :: one :: more => some (c name (one :: more))
    | _ => none⟩

/-- The command that sets up the configuration. -/
def init : Form :=
  ⟨[⟨"--config-dir", some 'c', true⟩], fun f =>
    if f.others.isEmpty then some (.init ((f.value? "--config-dir").map .ofText)) else none⟩

/-- The command that lists operators, of one type or of all. -/
def operators : Form :=
  ⟨[], fun f => match f.others with
    | [] => some (.operators none)
    | [type] => (FieldType.named? type).map fun t => .operators (some t)
    | _ => none⟩

/-- The command that checks segments, one or all. -/
def validate : Form :=
  ⟨[], fun f => match f.others with
    | [] => some (.validate none)
    | [name] => some (.validate (some name))
    | _ => none⟩

/-- How many e-mails are shown unless another number is given. -/
def defaultLimit : Int := 20

/-- The command that resolves a segment. -/
def evaluate : Form :=
  ⟨[⟨"--contacts", some 'f', true⟩, ⟨"--limit", some 'n', true⟩, ⟨"--save", none, false⟩], fun f =>
    match f.others, (match f.value? "--limit" with
      | none => some defaultLimit
      | some s => Integer.ofText? s) with
    | [name], some limit =>
      some (.evaluate name ((f.value? "--contacts").map .ofText) limit (f.has "--save"))
    | _, _ => none⟩

/-- The command that creates a segment. -/
def create : Form :=
  ⟨[⟨"--description", some 'd', true⟩, ⟨"--static", none, false⟩], fun f =>
    match f.others with
    | [name] => some (.create name ((f.value? "--description").getD "")
        (if f.has "--static" then .static else .dynamic))
    | _ => none⟩

end Form

/-- The commands of one word. -/
def commands : List (String × Form) :=
  [("version", .plain .version), ("init", .init), ("fields", .plain .fields),
    ("operators", .operators)]

/-- The word before the commands about segments. -/
def segmentsWord : String := "segments"

/-- The commands about segments. -/
def segmentCommands : List (String × Form) :=
  [("list", .plain .list), ("show", .ofName .display), ("validate", .validate), ("evaluate", .evaluate),
    ("create", .create), ("add-members", .ofNameAndMore .addMembers),
    ("remove-members", .ofNameAndMore .removeMembers)]

/-- Reads what follows the words that name a command. -/
def Form.command (form : Form) (words : List String) : Except Usage Command :=
  match readOptions (.help :: form.options) true words with
  | none => .error .wrong
  | some f =>
    if f.asksHelp then .error .help
    else match form.read f with
      | some c => .ok c
      | none => .error .wrong

/-- Reads the options before the word that names a command. A word that names none may turn out to be an
option that stands after two dashes. -/
def choose {α : Type} (choices : String → Option α) (words : List String) :
    Except Usage (α × List String) :=
  match readOptions [.help] false words with
  | none => .error .wrong
  | some f =>
    if f.asksHelp then .error .help
    else match f.others with
      | [] => .error .wrong
      | word :: rest =>
        match choices word with
        | some a => .ok (a, rest)
        | none =>
          if (readOptions [.help] false f.others).any (·.asksHelp) then .error .help else .error .wrong

/-- The command that the words of a command line ask for. -/
def readCommand (words : List String) : Except Usage Command := do
  let group (word : String) : Option (Option Form) :=
    if word = segmentsWord then some none else (commands.lookup word).map some
  let (form?, rest) ← choose group words
  match form? with
  | some form => form.command rest
  | none =>
    let (form, rest) ← choose (segmentCommands.lookup ·) rest
    form.command rest

end Segmentation.Console

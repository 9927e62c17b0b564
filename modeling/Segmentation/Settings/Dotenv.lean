import Segmentation.Text.Blank

/-!
# Files of variables

Each line gives a variable a value, possibly after the word `export`. Values may stand in quotes, and then
go on over several lines; a value without quotes ends at a comment. A line that has another form is passed
over. Within a value, a name in braces after a dollar sign stands for the value of the variable of that
name.
-/

namespace Segmentation.Dotenv

/-- A variable with its value; none for a name without an equals sign. -/
structure Binding where
  name : String
  value : Option String
deriving DecidableEq

/-- A blank within a line. -/
def isGap (c : Char) : Bool :=
  Text.isBlank c && c ≠ '\n' && c ≠ '\r'

/-- A character other than a line break. -/
def inLine (c : Char) : Bool :=
  c ≠ '\n' && c ≠ '\r'

/-- A part that has been read, and the rest; or the place from which on the line is passed over. -/
abbrev Read (α : Type) := Except (List Char) (α × List Char)

/-- The rest after the present line. -/
def afterLine (cs : List Char) : List Char :=
  match cs.dropWhile inLine with
  | '\r' :: '\n' :: rest => rest
  | _ :: rest => rest
  | [] => []

/-- Reads a name, or nothing before a comment. -/
def readName (cs : List Char) : Read (Option String) :=
  match cs with
  | '#' :: _ => .ok (none, cs)
  | '\'' :: inner =>
    let name := inner.takeWhile (· ≠ '\'')
    match inner.dropWhile (· ≠ '\'') with
    | _ :: rest => if name.isEmpty then .error cs else .ok (some (String.ofList name), rest)
    | [] => .error cs
  | _ =>
    let isPart (c : Char) : Bool := c ≠ '=' && c ≠ '#' && !Text.isBlank c
    let name := cs.takeWhile isPart
    if name.isEmpty then .error cs else .ok (some (String.ofList name), cs.dropWhile isPart)

/-- The text before the first quote that is not escaped by a backslash, and what follows that quote. If there
is none, the last escaped quote counts. -/
def beforeQuote (quote : Char) : List Char → Option (List Char × List Char)
  | [] => none
  | '\\' :: d :: rest =>
    if d = quote then
      match beforeQuote quote rest with
      | some (inner, after) => some ('\\' :: d :: inner, after)
      | none => some (['\\'], rest)
    else (beforeQuote quote (d :: rest)).map fun (inner, after) => ('\\' :: inner, after)
  | c :: cs =>
    if c = quote then some ([], cs)
    else (beforeQuote quote cs).map fun (inner, after) => (c :: inner, after)

/-- The characters that letters after a backslash stand for between double quotes. -/
def escapes : List (Char × Char) :=
  [('\\', '\\'), ('\'', '\''), ('"', '"'), ('a', '\x07'), ('b', '\x08'), ('f', '\x0c'), ('n', '\n'),
    ('r', '\r'), ('t', '\t'), ('v', '\x0b')]

/-- The escapes that `known` holds, replaced by what they stand for. -/
def unescape (known : List (Char × Char)) : List Char → List Char
  | [] => []
  | '\\' :: c :: cs =>
    match known.lookup c with
    | some d => d :: unescape known cs
    | none => '\\' :: unescape known (c :: cs)
  | c :: cs => c :: unescape known cs

/-- The text without a comment that stands behind a blank, and without blanks at its end. -/
def withoutComment (cs : List Char) : List Char :=
  let rec go : List Char → List Char
    | [] => []
    | c :: cs =>
      if Text.isBlank c && (cs.dropWhile Text.isBlank).head? = some '#' then [] else c :: go cs
  ((go cs).reverse.dropWhile Text.isBlank).reverse

/-- Reads a value. -/
def readValue (cs : List Char) : Read String :=
  match cs with
  | '\'' :: inner =>
    match beforeQuote '\'' inner with
    | some (text, rest) => .ok (String.ofList (unescape (escapes.take 2) text), rest)
    | none => .error cs
  | '"' :: inner =>
    match beforeQuote '"' inner with
    | some (text, rest) => .ok (String.ofList (unescape escapes text), rest)
    | none => .error cs
  | _ => .ok (String.ofList (withoutComment (cs.takeWhile inLine)), cs.dropWhile inLine)

/-- The rest after a comment and the end of the line, if nothing else is left of the line. -/
def readEnd (cs : List Char) : Read Unit :=
  match cs.dropWhile isGap with
  | [] => .ok ((), [])
  | c :: _ => if c = '#' || !inLine c then .ok ((), afterLine cs) else .error cs

/-- The rest after the word `export` and blanks. -/
def afterExport (cs : List Char) : List Char :=
  let word := "export".toList
  if word.isPrefixOf cs && (cs.drop word.length).head?.any isGap then
    (cs.drop word.length).dropWhile isGap
  else cs

/-- Reads a line without blanks before it. -/
def readLine (cs : List Char) : Except (List Char) (Option Binding × List Char) := do
  let (name, rest) ← readName (afterExport cs)
  let (value, rest) ← match rest.dropWhile isGap with
    | '=' :: after => do
      let (value, rest) ← readValue (after.dropWhile isGap)
      pure (some value, rest)
    | rest => pure (none, rest)
  let (_, rest) ← readEnd rest
  return (name.map fun n => ⟨n, value⟩, rest)

/-- The bindings of a text, of which at most `fuel` lines are read. -/
def bindingsFrom : (fuel : Nat) → List Char → List Binding
  | 0, _ => []
  | fuel + 1, cs =>
    match cs.dropWhile Text.isBlank with
    | [] => []
    | cs =>
      match readLine cs with
      | .ok (binding, rest) => binding.toList ++ bindingsFrom fuel rest
      | .error rest => bindingsFrom fuel (afterLine rest)

/-- The bindings of a text; each line takes at least one character. -/
def bindings (s : String) : List Binding :=
  bindingsFrom s.length s.toList

/-- A variable in braces, whose dollar sign and opening brace have been taken: its name, what stands for it
if there is no such variable, and the rest. -/
def reference? (cs : List Char) : Option (String × String × List Char) :=
  let isPart (c : Char) : Bool := c ≠ '\x7d' && c ≠ ':'
  let name := String.ofList (cs.takeWhile isPart)
  match cs.dropWhile isPart with
  | '\x7d' :: rest => some (name, "", rest)
  | ':' :: '-' :: rest =>
    match rest.dropWhile (· ≠ '\x7d') with
    | _ :: after => some (name, String.ofList (rest.takeWhile (· ≠ '\x7d')), after)
    | [] => none
  | _ => none

/-- The text with variables replaced by their values, in at most `fuel` steps. -/
def expandFrom (valueOf : String → Option (Option String)) : (fuel : Nat) → List Char → List Char
  | 0, cs => cs
  | fuel + 1, cs =>
    match cs with
    | [] => []
    | c :: rest =>
      match c, rest with
      | '$', '\x7b' :: inner =>
        match reference? inner with
        | some (name, default, after) =>
          let value := match valueOf name with
            | none => default
            | some found => found.getD ""
          value.toList ++ expandFrom valueOf fuel after
        | none => c :: expandFrom valueOf fuel rest
      | _, _ => c :: expandFrom valueOf fuel rest

/-- The text with variables replaced by their values. -/
def expand (valueOf : String → Option (Option String)) (s : String) : String :=
  String.ofList (expandFrom valueOf s.length s.toList)

/-- Gives a name a value; a name that has one keeps its place. -/
def assign {α : Type} (values : List (String × α)) (name : String) (value : α) : List (String × α) :=
  if values.any (·.1 = name) then values.map fun e => if e.1 = name then (name, value) else e
  else values ++ [(name, value)]

/-- The variables of a text. A value may use the variables before it and those of the environment. -/
def values (environment : List (String × String)) (s : String) : List (String × Option String) :=
  (bindings s).foldl (fun done b =>
    let valueOf (name : String) : Option (Option String) :=
      done.lookup name <|> (environment.lookup name).map some
    assign done b.name (b.value.map (expand valueOf))) []

end Segmentation.Dotenv

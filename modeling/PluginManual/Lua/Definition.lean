import PluginManual.Docs.Basic
import PluginManual.Text.Blank
import PluginManual.Text.Letter

/-! Function definitions of Lua, as far as their first line shows: `function name(args)`, with a table
    before the name or not, and `table.name = function(args)`. A local function is none of these. -/

namespace PluginManual

/-- What a definition says before the body of the function. -/
structure LuaDefinition where
  name : Text
  table : Option Text
  /-- A colon stands between the table and the name. -/
  isMethod : Bool
  /-- The names of the parameters, and `...` for any number of them. -/
  args : List Text
deriving DecidableEq, Repr

namespace LuaDefinition

/-! ### Names -/

def beginsName (c : Char) : Bool := c.isAlpha || c = '_'

/-- Is the text a word that begins as a name does? -/
def isName : Text → Bool
  | [] => false
  | c :: s => beginsName c && s.all isWordChar

/-- Splits off the longest run of word characters and dots, if it begins as a name does. -/
def dottedRun? (s : Text) : Option (Text × Text) :=
  let inRun := fun c => isWordChar c || c = '.'
  match s with
  | [] => none
  | c :: _ => if beginsName c then some (s.takeWhile inRun, s.dropWhile inRun) else none

def splitLastDot? (s : Text) : Option (Text × Text) :=
  match s.reverse.dropWhile (· != '.') with
  | [] => none
  | _ :: front => some (front.reverse, (s.reverse.takeWhile (· != '.')).reverse)

/-! ### Arguments -/

/-- The names between the parentheses: the pieces between commas, without blanks around them and without
    the empty ones. -/
def argNames (s : Text) : List Text := ((s.splitOn ',').map Text.trim).filter (!·.isEmpty)

/-- Reads the arguments, which stand between parentheses after any blanks. What follows does not matter. -/
def args? (s : Text) : Option (List Text) :=
  match s.trimStart with
  | '(' :: rest => if ')' ∈ rest then some (argNames (rest.takeWhile (· != ')'))) else none
  | _ => none

/-! ### Definitions -/

/-- Drops `word` from the beginning of a text that begins with it. -/
def after? (word : String) (s : Text) : Option Text := word.toList.isPrefixOf? s

/-- The part of a definition that names the function, from the run of word characters and dots that it
    begins with. With a colon behind it the whole run is the table, otherwise what stands before its
    last dot. Returns the text behind the name, too. -/
def target? (s : Text) : Option (Option Text × Bool × Text × Text) := do
  let (run, rest) ← dottedRun? s
  match rest with
  | ':' :: rest =>
    let name := rest.takeWhile isWordChar
    guard (isName name)
    return (some run, true, name, rest.dropWhile isWordChar)
  | _ =>
    match splitLastDot? run with
    | some (table, name) =>
      guard (isName name)
      return (some table, false, name, rest)
    | none => return (none, false, run, rest)

def ofFunction? (s : Text) : Option LuaDefinition := do
  let s ← after? "function" s
  guard ((s.head?.map isBlank).getD false)
  let (table, isMethod, name, rest) ← target? s.trimStart
  return ⟨name, table, isMethod, ← args? rest⟩

/-- Reads a definition that assigns a function to a field of a table. -/
def ofAssignment? (s : Text) : Option LuaDefinition := do
  let (run, rest) ← dottedRun? s
  let (table, name) ← splitLastDot? run
  guard (isName name)
  let rest ← after? "=" rest.trimStart
  let rest ← after? "function" rest.trimStart
  return ⟨name, some table, false, ← args? rest⟩

/-- Reads a definition, which begins with the first character of the text. -/
def ofText? (s : Text) : Option LuaDefinition := (ofFunction? s).or (ofAssignment? s)

/-- The function that is defined, with nothing known of it but what the definition says. -/
def function (d : LuaDefinition) : FunctionDoc where
  name := d.name
  table := d.table
  isMethod := d.isMethod
  params := d.args.map fun name => { name, type := "any" }

/-- The text of the definition that begins with `line`. A list of parameters that the line opens and does
    not close goes on over the following lines, up to one with a closing parenthesis. -/
def wrapped (line : Text) (following : List Text) : Text :=
  let first := line.trimStart
  if '(' ∈ first ∧ ')' ∉ first then first ++ continuation following else first
where
  /-- The following lines as far as they belong to the definition, joined by blanks. -/
  continuation : List Text → Text
    | [] => []
    | line :: rest => ' ' :: line.trim ++ (if ')' ∈ line then [] else continuation rest)

end LuaDefinition
end PluginManual

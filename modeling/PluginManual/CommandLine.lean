import PluginManual.Update

/-! The command line: which words it takes, and what a run prints. Words are taken from left to right, and
    the first that decides something does: help, the version, or a mistake. -/

namespace PluginManual

inductive Command where
  | help
  | version
  /-- Update the documents of the plugin in a directory, by default the working directory. -/
  | update (root : Option Path)
deriving DecidableEq, Repr

namespace Command

/-! ### Words -/

structure Options where
  verbose : Bool := false
  root : Option Path := none

/-- The result of a word: it decides what to do, or the words after it still count. `none` in its place is
    a mistake. -/
inductive Verdict where
  | decided (c : Command)
  | more (o : Options)

/-- Takes the option for a log with more lines, which may be given once. The log is left out here, so that the
    option has no effect. -/
def takeVerbose? (o : Options) : Option Options :=
  if o.verbose then none else some { o with verbose := true }

/-- Takes the directory of the plugin, which may be given once and has some text. -/
def takeRoot? (o : Options) (value : Text) : Option Options :=
  if o.root.isSome || value.isEmpty then none else some { o with root := some ⟨value⟩ }

/-- Takes the letters of a word of options. Returns `none` for a mistake; with a verdict comes whether the
    next word is the directory. -/
def takeLetters? (o : Options) : Text → Option (Verdict × Bool)
  | [] => some (.more o, false)
  | 'h' :: _ => some (.decided .help, false)
  | 'V' :: _ => some (.decided .version, false)
  | 'v' :: rest => do takeLetters? (← takeVerbose? o) rest
  | ['r'] => some (.more o, true)
  | 'r' :: '=' :: value => do return (.more (← takeRoot? o value), false)
  | 'r' :: value => do return (.more (← takeRoot? o value), false)
  | _ => none

def takeLong? (o : Options) (word : Text) : Option (Verdict × Bool) :=
  let (name, value) := match word.splitOnce? '=' with
    | some (name, value) => (name, some value)
    | none => (word, none)
  if name = ("root" : Text) then
    match value with
    | some value => do return (.more (← takeRoot? o value), false)
    | none => some (.more o, true)
  else if value.isSome then none
  else if name = ("help" : Text) then some (.decided .help, false)
  else if name = ("version" : Text) then some (.decided .version, false)
  else if name = ("verbose" : Text) then do return (.more (← takeVerbose? o), false)
  else none

/-- Takes one word. Only options are words of their own. -/
def takeWord? (o : Options) : Text → Option (Verdict × Bool)
  | '-' :: '-' :: name => takeLong? o name
  | '-' :: c :: letters => takeLetters? o (c :: letters)
  | _ => none

/-- Can the word be a value? A hyphen at its beginning makes it an option, unless it is all. -/
def isValue (word : Text) : Bool := word.head? != some '-' || word = ['-']

/-- Takes words after those that came to `o`. `wantsRoot` tells that the next word is the directory. -/
def ofWordsFrom? (o : Options) (wantsRoot : Bool) : List Text → Option Command
  | [] => if wantsRoot then none else some (.update o.root)
  | word :: rest =>
    if wantsRoot then
      if isValue word then
        match takeRoot? o word with
        | some o => ofWordsFrom? o false rest
        | none => none
      else none
    else if word = ("--" : Text) then if rest.isEmpty then some (.update o.root) else none
    else
      match takeWord? o word with
      | some (.decided c, _) => some c
      | some (.more o, wantsRoot) => ofWordsFrom? o wantsRoot rest
      | none => none

/-- What the words of a command line ask for. There is no answer to a mistake. -/
def ofWords? (words : List Text) : Option Command := ofWordsFrom? {} false words

/-! ### Output -/

/-- What a run leaves: its exit code and what it prints. -/
structure Result where
  code : Nat
  out : Text := []
  err : Text := []
deriving DecidableEq, Repr

def helpText : Text := Text.join "\n" [
  "Command-line documentation generator for Neovim Lua plugins",
  "",
  "Usage: docgen [OPTIONS]",
  "",
  "Options:",
  "  -v, --verbose     Enable verbose output",
  "  -r, --root <DIR>  Plugin root directory (defaults to the current directory)",
  "  -h, --help        Print help",
  "  -V, --version     Print version",
  ""]

def versionText : Text := "docgen 0.1.0\n"

def usageText : Text :=
  "error: unexpected arguments\n\nUsage: docgen [OPTIONS]\n\nFor more information, try '--help'.\n"

/-- The line about a step. The path is given as seen from the directory of the plugin. -/
def outcomeLine (root : Path) (o : Outcome) : Text :=
  let status : Text := if o.changed then "updated" else "unchanged"
  let path := (o.path.relativeTo? root).getD o.path
  Text.padStart 10 status ++ ' ' :: path.text ++ " (" ++ o.step.name ++ ")\n"

/-! ### Running -/

def updateAt (root : Path) : UpdateAction Text := do
  let root ← (Action.allow root (Session.call (.resolve root))).mapError .file
  let s ← Update.resolve root
  return ((← Update.run s).map (outcomeLine root)).flatten

def run : Command → Session Result
  | help => return ⟨0, helpText, []⟩
  | version => return ⟨0, versionText, []⟩
  | update root => do
    match ← (updateAt (root.getD ⟨['.']⟩)).run with
    | .ok out => return ⟨0, out, []⟩
    | .error e => return ⟨1, [], "error: " ++ e.message ++ ['\n']⟩

def runWords (words : List Text) : Session Result :=
  match ofWords? words with
  | some c => c.run
  | none => return ⟨2, [], usageText⟩

end Command
end PluginManual

import PluginManual.Document.Basic
import PluginManual.Help.File
import PluginManual.Help.Reference
import PluginManual.Lua.Directory
import PluginManual.Markdown.Contents
import PluginManual.Markdown.Reference
import PluginManual.Settings

/-! Bringing the documents of a plugin up to date, in four steps: the reference of functions, the default
    options and the table of contents in the readme file, and the help file. Each step reads anew what it
    needs and writes one file at most. A run takes the steps in order, up to the first that fails. The
    lines that it logs are left out. -/

namespace PluginManual

/-! ### Steps and their errors -/

inductive UpdateStep where
  | api
  | options
  | contents
  | help
deriving DecidableEq, Repr

/-- All steps in their order. -/
def UpdateStep.all : List UpdateStep := [.api, .options, .contents, .help]

def UpdateStep.name : UpdateStep → Text
  | api => "README API update"
  | options => "README options update"
  | contents => "README table of contents update"
  | help => "vimdoc generation"

inductive UpdateError where
  | file (e : FileError)
  | document (e : DocumentError)
  | source (e : SourceError)
  /-- The table of default options has no such line in its file. -/
  | malformedDefaults (p : Path) (missing : MarkerKind)
  | mainSourceNotFound (name : Text) (luaDir : Path)
  | settings (fault : SettingsFault)
  /-- A step of a run failed. -/
  | step (s : UpdateStep) (e : UpdateError)
deriving DecidableEq, Repr

namespace UpdateError

def message : UpdateError → Text
  | file e => e.message
  | document e => e.message
  | source e => e.message
  | malformedDefaults p .opening =>
    "Malformed config block in " ++ p.text ++ ": no \x60local default_config =\x60 line"
  | malformedDefaults p .closing =>
    "Malformed config block in " ++ p.text ++ ": defaults table is not closed by a \x60\x7d\x60 line"
  | mainSourceNotFound name luaDir => "Module " ++ name ++ " not found under " ++ luaDir.text
  | settings fault => fault.message
  | step s e => s.name ++ " failed: " ++ e.message

/-- The error itself, whichever step it stopped. -/
def cause : UpdateError → UpdateError
  | step _ e => e.cause
  | e => e

end UpdateError

abbrev UpdateAction := Action UpdateError

/-- What a step did: the file that it keeps, and whether that changed. -/
structure Outcome where
  step : UpdateStep
  path : Path
  changed : Bool
deriving DecidableEq, Repr

namespace Update

/-! ### Markers -/

def apiOpening : Text := "^<!-- API -->$"
def apiClosing : Text := "^<!-- /API -->$"
def optionsOpening : Text := "^<!-- OPTIONS -->$"
def optionsClosing : Text := "^<!-- /OPTIONS -->$"
def contentsOpening : Text := "^<!-- TOC -->$"
def contentsClosing : Text := "^<!-- /TOC -->$"

def defaultsOpening : Text := "^\\s*local default_config ="

/-- The line that closes the table of default options: the first brace that is not indented. -/
def defaultsClosing : Text := "^\x7d$"

/-! ### Sources -/

/-- The catalog of the plugin's sources, and the functions of its main source. -/
def reference (s : Settings) : UpdateAction (Catalog × List FunctionDoc) := do
  let c ← (Catalog.ofDirectory s.luaDir).mapError .source
  match c.functions? s.mainSource with
  | some fs => return (c, fs)
  | none => throw (.mainSourceNotFound s.mainSource s.luaDir)

/-- What a failure to find the default options means. -/
def defaultsError (p : Path) : DocumentError → UpdateError
  | .markerNotFound _ k _ => .malformedDefaults p k
  | e => .document e

/-- The lines inside the table of default options. -/
def defaultOptions (s : Settings) : UpdateAction (List Text) :=
  (Document.readSection s.configFile defaultsOpening defaultsClosing).mapError
    (defaultsError s.configFile)

/-! ### Generated lines -/

/-- The lines of the reference in the readme file. The blank line after the last function is dropped. -/
def apiLines (s : Settings) (c : Catalog) (fs : List FunctionDoc) : List Text :=
  ['\n'] :: (Reference.lines c s.apiHeadingLevel fs).dropLast

/-- The lines of Lua that set the plugin up with its default options. -/
def setupLines (plugin : Text) (defaults : List Text) : List Text :=
  ("require(\"" ++ plugin ++ "\").setup(\x7b\n" : Text) :: (defaults ++ ["\x7d)\n".toList])

def optionsLines (s : Settings) (defaults : List Text) : List Text :=
  "\x60\x60\x60lua\n".toList ::
    (setupLines s.plugin defaults ++ ["\x60\x60\x60\n".toList, ['\n']])

def contentsLines (s : Settings) (readme : List Text) : List Text :=
  ['\n'] :: (Contents.ofLines readme s.tocMaxLevel true ++ [['\n']])

def optionsSection (s : Settings) (defaults : List Text) : HelpSection where
  name := "Options"
  tag := s.plugin ++ "-options"
  body := [['\n'], ">lua\n"] ++ Help.indent (setupLines s.plugin defaults) 4 ++ ["<\n".toList]

def apiSection (s : Settings) (c : Catalog) (fs : List FunctionDoc) : HelpSection where
  name := "API"
  tag := s.plugin ++ "-api"
  body := Help.referenceLines c s.plugin fs

def helpFile (s : Settings) (defaults : List Text) (c : Catalog) (fs : List FunctionDoc) : HelpFile where
  fileName := s.helpFileName
  plugin := s.plugin
  sections := [optionsSection s defaults, apiSection s c fs]

/-! ### Steps -/

/-- Replaces the lines between two markers in the readme file, and tells whether the file changed. -/
def replaceInReadme (s : Settings) (opening closing : Text) (lines : List Text) : UpdateAction Bool :=
  (Document.replaceSection s.readme opening closing lines .unique).mapError .document

def updateApi (s : Settings) : UpdateAction Bool := do
  let (c, fs) ← reference s
  replaceInReadme s apiOpening apiClosing (apiLines s c fs)

def updateOptions (s : Settings) : UpdateAction Bool := do
  let defaults ← defaultOptions s
  replaceInReadme s optionsOpening optionsClosing (optionsLines s defaults)

def updateContents (s : Settings) : UpdateAction Bool := do
  let readme ← (Document.load s.readme).mapError .document
  replaceInReadme s contentsOpening contentsClosing (contentsLines s readme.lines)

def updateHelp (s : Settings) : UpdateAction Bool := do
  let (c, fs) ← reference s
  let defaults ← defaultOptions s
  (Files.writeIfChanged s.helpFile (helpFile s defaults c fs).lines.flatten).mapError .file

def target (s : Settings) : UpdateStep → Path
  | .api | .options | .contents => s.readme
  | .help => s.helpFile

/-- Takes one step, and tells whether the file changed. -/
def perform (s : Settings) : UpdateStep → UpdateAction Bool
  | .api => updateApi s
  | .options => updateOptions s
  | .contents => updateContents s
  | .help => updateHelp s

def runStep (s : Settings) (step : UpdateStep) : UpdateAction Outcome := do
  return ⟨step, target s step, ← perform s step⟩

/-- Takes the given steps in order, up to the first that fails. -/
def runSteps (s : Settings) : List UpdateStep → UpdateAction (List Outcome)
  | [] => return []
  | step :: rest => do
    let outcome ← (runStep s step).mapError (.step step)
    return outcome :: (← runSteps s rest)

/-- Takes all steps in order, up to the first that fails. -/
def run (s : Settings) : UpdateAction (List Outcome) := runSteps s UpdateStep.all

/-! ### Settings -/

def resolve (root : Path) : UpdateAction Settings := do
  let found ← (Files.loadTomlIfPresent (root.child Settings.fileName)
    Settings.Overrides.read?).mapError .file
  match Settings.withOverrides root (found.getD {}) with
  | .ok s => return s
  | .error fault => throw (.settings fault)

end Update
end PluginManual

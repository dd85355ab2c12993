import PluginManual.Files.Access
import PluginManual.Text.Blank
import PluginManual.Text.Casing
import PluginManual.Toml.Parser

/-! The settings of one plugin: where its sources and documents are, and how they are to look. What is
    not set follows from the name of the plugin and from the usual layout of a plugin's directory. -/

namespace PluginManual

/-! ### Files with settings -/

namespace Files

/-- Reads settings from a file, which must have the extension of the only known format. -/
def loadToml {α : Type} (p : Path) (read : Toml.Entries → Option α) : Action FileError α := do
  let extension := (p.extension?.getD []).lower
  if extension = ("toml" : Text) then
    match Toml.ofText (← readText p) with
    | .error place => throw (.malformed p place)
    | .ok es =>
      match read es with
      | some a => return a
      | none => throw (.malformed p ⟨1, 1⟩)
  else throw (.unsupported extension)

def loadTomlIfPresent {α : Type} (p : Path) (read : Toml.Entries → Option α) :
    Action FileError (Option α) := do
  if ← Action.call (.isFile p) then return some (← loadToml p read) else return none

end Files

/-! ### Settings -/

/-- Where the sources and documents of a plugin are. -/
structure Settings where
  /-- The directory of the plugin. -/
  root : Path
  /-- The name of the plugin, with which its help tags begin. -/
  plugin : Text
  readme : Path
  luaDir : Path
  /-- The source whose functions are documented, as seen from the directory of sources. -/
  mainSource : Text
  /-- The source that holds the table of default options. -/
  configFile : Path
  helpFile : Path
  /-- The deepest headings that the table of contents lists. -/
  tocMaxLevel : Nat
  /-- The level of the heading of each function. -/
  apiHeadingLevel : Nat
deriving DecidableEq, Repr

inductive SettingsFault where
  /-- The name of the directory gives no name for the plugin. -/
  | noPluginName (root : Path)
  | emptyPluginName
  | headingLevel (n : Nat)
deriving DecidableEq, Repr

namespace Settings

def fileName : Text := "docgen.toml"

/-- The settings of a plugin with the usual layout. -/
def forPlugin (root : Path) (plugin : Text) : Settings where
  root := root
  plugin := plugin
  readme := root.child "README.md"
  luaDir := root.child "lua"
  mainSource := plugin ++ "/init.lua"
  configFile := ((root.child "lua").child plugin).child "config.lua"
  helpFile := (root.child "doc").child (plugin ++ ".txt")
  tocMaxLevel := 2
  apiHeadingLevel := 3

def helpFileName (s : Settings) : Text := s.helpFile.fileName?.getD (s.plugin ++ ".txt")

def withoutEnding? (ending : String) (s : Text) : Option Text :=
  (ending.toList.reverse.isPrefixOf? s.reverse).map List.reverse

/-- The name of a plugin by that of its directory: without the ornaments that tell it for a plugin. -/
def pluginName? (root : Path) : Option Text := do
  let dir ← root.fileName?
  let bare := (((withoutEnding? ".nvim" dir).or (withoutEnding? "-nvim" dir)).or
    (withoutEnding? ".lua" dir)).getD dir
  let bare := ("nvim-".toList.isPrefixOf? bare).getD bare
  if bare.isEmpty then none else some bare

/-- What a file with settings may set. -/
structure Overrides where
  plugin : Option Text := none
  readme : Option Text := none
  luaDir : Option Text := none
  mainSource : Option Text := none
  configFile : Option Text := none
  helpFile : Option Text := none
  tocMaxLevel : Option Nat := none
  apiHeadingLevel : Option Nat := none
deriving DecidableEq, Repr

namespace Overrides

def keys : List String :=
  ["plugin", "readme", "lua_dir", "module", "config_file", "vimdoc", "toc_max_level", "api_heading_level"]

/-- Reads what a file sets. It may not set anything else. -/
def read? (es : Toml.Entries) : Option Overrides := do
  guard (es.all fun (key, _) => keys.any fun k => k.toList = key)
  return {
    plugin := ← Toml.optional? es "plugin" Toml.string?
    readme := ← Toml.optional? es "readme" Toml.string?
    luaDir := ← Toml.optional? es "lua_dir" Toml.string?
    mainSource := ← Toml.optional? es "module" Toml.string?
    configFile := ← Toml.optional? es "config_file" Toml.string?
    helpFile := ← Toml.optional? es "vimdoc" Toml.string?
    tocMaxLevel := ← Toml.optional? es "toc_max_level" Toml.nat?
    apiHeadingLevel := ← Toml.optional? es "api_heading_level" Toml.nat? }

end Overrides

/-- The settings of the plugin in a directory, for which a file sets some. -/
def withOverrides (root : Path) (o : Overrides) : Except SettingsFault Settings := do
  let plugin ← match o.plugin.or (pluginName? root) with
    | some plugin => pure plugin
    | none => throw (.noPluginName root)
  if plugin.isBlank then throw .emptyPluginName
  let usual := forPlugin root plugin
  let level := o.apiHeadingLevel.getD usual.apiHeadingLevel
  unless 1 ≤ level && level ≤ 6 do throw (.headingLevel level)
  return { usual with
    readme := (o.readme.map root.child).getD usual.readme
    luaDir := (o.luaDir.map root.child).getD usual.luaDir
    mainSource := o.mainSource.getD usual.mainSource
    configFile := (o.configFile.map root.child).getD usual.configFile
    helpFile := (o.helpFile.map root.child).getD usual.helpFile
    tocMaxLevel := o.tocMaxLevel.getD usual.tocMaxLevel
    apiHeadingLevel := level }

end Settings

def SettingsFault.message : SettingsFault → Text
  | noPluginName root =>
    "Configuration error: cannot derive a plugin name from " ++ root.text ++
      "; set \x60plugin\x60 in " ++ Settings.fileName
  | emptyPluginName => "Configuration error: \x60plugin\x60 must not be empty"
  | headingLevel n =>
    "Configuration error: \x60api_heading_level\x60 must be between 1 and 6, got " ++ Text.ofNat n

end PluginManual

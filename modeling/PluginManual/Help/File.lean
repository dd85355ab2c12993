import PluginManual.Help.Layout
import PluginManual.Text.Casing

/-! Help files: a header, a table of contents, and sections. -/

namespace PluginManual

structure HelpSection where
  name : Text
  tag : Text
  body : List Text
deriving DecidableEq, Repr

structure HelpFile where
  fileName : Text
  plugin : Text
  sections : List HelpSection := []
deriving DecidableEq, Repr

namespace HelpFile

open Help

/-- The lines that define the tags of the whole file. -/
def header (h : HelpFile) : List Text :=
  [tagDefinition h.fileName ++ ['\n'],
   Text.join " " [tagDefinition h.plugin.capitalize, tagDefinition h.plugin,
    tagDefinition (h.plugin ++ ".nvim")] ++ ['\n']]

/-- The entries of the table of contents, the first of them with the number `n`. -/
def contentsEntries (n : Nat) : List HelpSection → List Text
  | [] => []
  | s :: rest =>
    tagged ("  " ++ Text.ofNat n ++ ". " ++ s.name) (tagReference s.tag) ++ contentsEntries (n + 1) rest

def sectionLines (s : HelpSection) : List Text :=
  rule '-' :: tagged s.name.upper (tagDefinition s.tag) ++ s.body ++ [['\n']]

def lines (h : HelpFile) : List Text :=
  h.header ++ [rule '-'] ++
    tagged "CONTENTS" (tagDefinition (h.plugin ++ "-contents")) ++ [['\n']] ++
    contentsEntries 1 h.sections ++ [['\n']] ++
    h.sections.flatMap sectionLines ++
    [rule '=', "vim:tw=80:ts=2:ft=help:norl:syntax=help:\n".toList]

end HelpFile
end PluginManual

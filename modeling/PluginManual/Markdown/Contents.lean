import PluginManual.Markdown.Heading

/-! Tables of contents: a list of links to the headings of a text, deeper headings further to the right. -/

namespace PluginManual
namespace Contents

/-- The headings that a table of contents lists: down to a level, and without the title if the text
    begins with one. -/
def listed (maxLevel : Nat) (skipTitle : Bool) (hs : List Heading) : List Heading :=
  let hs := match hs with
    | h :: rest => if skipTitle && h.level = 1 then rest else hs
    | [] => []
  hs.filter (·.level ≤ maxLevel)

/-- The line for a heading, if the headings of level `base` stand at the left. -/
def entry (base : Nat) (h : Heading) : Text :=
  Text.spaces (2 * (h.level - base)) ++ "- [" ++ h.text ++ "](#" ++ h.anchor ++ ")\n"

def ofLines (lines : List Text) (maxLevel : Nat) (skipTitle : Bool) : List Text :=
  let hs := listed maxLevel skipTitle (Heading.ofLines lines)
  match (hs.map (·.level)).min? with
  | some base => hs.map (entry base)
  | none => []

end Contents
end PluginManual

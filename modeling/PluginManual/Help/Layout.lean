import PluginManual.Text.Blank

/-! The layout of a help file, which is 80 characters wide. -/

namespace PluginManual
namespace Help

def width : Nat := 80

/-- Moves the lines to the right. Blank lines stay as they are. -/
def indent (lines : List Text) (n : Nat) : List Text :=
  lines.map fun line => if line.isBlank then line else Text.spaces n ++ line

/-- A line with a text at its left and a tag at its right. If the two do not fit with a space between
    them, the tag comes first, on a line of its own. -/
def tagged (left tag : Text) : List Text :=
  if left.length + tag.length < width then
    [left ++ Text.spaces (width - (left.length + tag.length)) ++ tag ++ ['\n']]
  else [Text.padStart width tag ++ ['\n'], left ++ ['\n']]

def rule (mark : Char) : Text := List.replicate width mark ++ ['\n']

def tagDefinition (tag : Text) : Text := '*' :: tag ++ ['*']

def tagReference (tag : Text) : Text := '|' :: tag ++ ['|']

end Help
end PluginManual

import PluginManual.Pattern.Meaning
import PluginManual.Text.Lines

/-! Markers: patterns that tell the lines around a managed region from all others. A marker matches at
    the beginning of a line, and it does not see the end of the line. -/

namespace PluginManual

/-- A marker: the pattern as written, and its regular expression. -/
structure Marker where
  source : Text
  regex : Regex

namespace Marker

def ofPattern? (pattern : Text) : Option Marker := do return ⟨pattern, ← Regex.ofPattern? pattern⟩

def isAt (m : Marker) (line : Text) : Bool := m.regex.matchesStart line.dropTerminator

end Marker
end PluginManual

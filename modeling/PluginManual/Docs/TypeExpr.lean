import PluginManual.Text.Blank

/-! Type expressions at the beginning of a text. A type ends at the first blank that stands outside of
    all brackets, unless the type goes on behind the blank: a bar, a colon or a comma comes before it,
    or a bar after it. -/

namespace PluginManual
namespace TypeExpr

/-- The depth of brackets after a character. A closing bracket without an opening one counts for nothing. -/
def depthAfter (depth : Nat) (c : Char) : Nat :=
  if c ∈ ['(', '<', '[', '{'] then depth + 1
  else if c ∈ [')', '>', ']', '}'] then depth - 1
  else depth

/-- Does a type go on across blanks, with `before` and `after` the characters next to them? -/
def joins (before after : Option Char) : Bool :=
  before == some '|' || before == some ':' || before == some ',' || after == some '|'

/-- Splits a text that continues a type. `depth` is the depth of brackets so far, and `before` the last
    character that is not blank. -/
def splitFrom (depth : Nat) (before : Option Char) : Text → Text × Text
  | [] => ([], [])
  | c :: s =>
    if depth = 0 ∧ isAsciiBlank c ∧ !joins before (Text.trimStart s).head? then ([], Text.trimStart s)
    else
      let (type, rest) := splitFrom (depthAfter depth c) (if isBlank c then before else some c) s
      (c :: type, rest)

/-- The type at the beginning of a text, and what follows it, without the blanks before the two. -/
def split (s : Text) : Text × Text := splitFrom 0 none s.trimStart

end TypeExpr
end PluginManual

import PluginManual.Text.Basic

/-! Positions in a text as people count them: lines and columns, both from one. -/

namespace PluginManual

structure TextPosition where
  line : Nat
  column : Nat
deriving DecidableEq, Repr

namespace TextPosition

def next (p : TextPosition) (c : Char) : TextPosition :=
  if c = '\n' then ⟨p.line + 1, 1⟩ else ⟨p.line, p.column + 1⟩

/-- The position after a text. -/
def after (s : Text) : TextPosition := s.foldl next ⟨1, 1⟩

def message (p : TextPosition) : Text :=
  "line " ++ Text.ofNat p.line ++ ", column " ++ Text.ofNat p.column

end TextPosition
end PluginManual

import PluginManual.Text.Basic

/-! Markdown tables whose columns line up. -/

namespace PluginManual
namespace Table

/-- The widths of the columns when a row is added: each is as wide as its widest cell. -/
def widen (widths : List Nat) (row : List Text) : List Nat :=
  List.zipWith (fun w (cell : Text) => max w cell.length) widths row

def widths (header : List Text) (rows : List (List Text)) : List Nat :=
  rows.foldl widen (header.map List.length)

def line (widths : List Nat) (row : List Text) : Text :=
  "| " ++ Text.join " | " (List.zipWith Text.padEnd widths row) ++ " |\n"

def rule (widths : List Nat) : Text := line widths (widths.map (List.replicate · '-'))

def lines (header : List Text) (rows : List (List Text)) : List Text :=
  let ws := widths header rows
  line ws header :: rule ws :: rows.map (line ws)

/-- The text of a cell: a bar would end the cell, so a backslash comes before it. -/
def escape (s : Text) : Text := Text.replaceChar '|' "\\|" s

end Table
end PluginManual

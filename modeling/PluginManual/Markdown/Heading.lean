import PluginManual.Markdown.Slug

/-! Headings of a Markdown text: lines that begin with number signs, outside of fenced code. -/

namespace PluginManual

structure Heading where
  level : Nat
  text : Text
  anchor : Text
deriving DecidableEq, Repr

/-- A line of grave accents or tildes that begins or ends fenced code. -/
structure Fence where
  mark : Char
  length : Nat
deriving DecidableEq, Repr

namespace Heading

/-! ### Lines -/

/-- The line without the line feeds and carriage returns at its end. -/
def withoutEnd (line : Text) : Text := Text.dropEndWhile (fun c => c = '\n' || c = '\r') line

/-- The line without the spaces at its beginning, if there are at most three. -/
def withoutIndent? (line : Text) : Option Text :=
  let rest := line.dropWhile (· = ' ')
  if line.length - rest.length ≤ 3 then some rest else none

/-- The fence that the line is, if it is one: at least three grave accents or tildes. -/
def fence? (line : Text) : Option Fence := do
  let rest ← withoutIndent? line
  let mark ← rest.head?
  guard (mark = '\x60' || mark = '~')
  let length := (rest.takeWhile (· = mark)).length
  guard (3 ≤ length)
  return ⟨mark, length⟩

/-- The text without number signs at its end, if nothing but blanks comes before them in the text, or a
    blank comes before them; the blanks before them go, too. -/
def withoutClosing (s : Text) : Text :=
  let back := s.reverse.dropWhile (· = '#')
  match back with
  | [] => []
  | c :: _ =>
    if back.length < s.length ∧ isSpaceOrTab c then (back.dropWhile isSpaceOrTab).reverse else s

/-- Reads a heading line: its level and its text. A heading needs some text. -/
def parse? (line : Text) : Option (Nat × Text) := do
  let rest ← withoutIndent? line
  let level := (rest.takeWhile (· = '#')).length
  let rest := rest.dropWhile (· = '#')
  guard (1 ≤ level && level ≤ 6 && '\n' ∉ rest)
  guard ((rest.head?.map isSpaceOrTab).getD true)
  let raw := Text.dropEndWhile isSpaceOrTab (rest.dropWhile isSpaceOrTab)
  let text := (withoutClosing raw).trim
  guard (!text.isEmpty)
  return (level, text)

/-! ### Texts -/

/-- The fence that is open after a fence line: the first one opens, and one that is made of the same
    marks and at least as long closes it. -/
def openAfter (state : Option Fence) (f : Fence) : Option Fence :=
  match state with
  | none => some f
  | some g => if f.mark = g.mark ∧ g.length ≤ f.length then none else some g

/-- The headings in lines that follow an open fence, if one is open: level and text. -/
def outline (state : Option Fence) : List Text → List (Nat × Text)
  | [] => []
  | line :: rest =>
    let line := withoutEnd line
    match fence? line, state with
    | some f, _ => outline (openAfter state f) rest
    | none, some g => outline (some g) rest
    | none, none => (parse? line).toList ++ outline none rest

/-- The headings of a text, given by its lines, with an anchor for each. -/
def ofLines (lines : List Text) : List Heading :=
  let found := outline none lines
  List.zipWith (fun (level, text) anchor => ⟨level, text, anchor⟩) found
    (Slugger.anchors {} (found.map (·.2)))

end Heading
end PluginManual

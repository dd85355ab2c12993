import PluginManual.Text.Basic

/-! Lines of a text. A line ends with its line feed, which belongs to it; the last line may lack one.
    Read with their terminators the lines concatenate to the text; read bare, a line loses its line
    feed and a carriage return before it. -/

namespace PluginManual
namespace Text

/-- The lines of a text, each with its line feed. -/
def lines : Text → List Text
  | [] => []
  | c :: s =>
    if c = '\n' then [c] :: lines s
    else
      match lines s with
      | [] => [[c]]
      | line :: rest => (c :: line) :: rest

/-- The line without a line feed at its end and, before that, a carriage return. A line without a
    line feed stays as it is. -/
def bareLine (line : Text) : Text :=
  match line.reverse with
  | '\n' :: '\r' :: s => s.reverse
  | '\n' :: s => s.reverse
  | _ => line

/-- The lines of a text without their terminators. -/
def bareLines (s : Text) : List Text := s.lines.map bareLine

/-- The line without a line feed at its end and then without a carriage return at its end, whether or
    not there was a line feed. -/
def dropTerminator (line : Text) : Text :=
  let line := if line.getLast? = some '\n' then line.dropLast else line
  if line.getLast? = some '\r' then line.dropLast else line

/-- The line with a line feed at its end: added where it lacks one. -/
def terminate (line : Text) : Text := if line.getLast? = some '\n' then line else line ++ ['\n']

/-- Nothing is lost: the lines concatenate to the text. -/
@[simp] theorem flatten_lines (s : Text) : s.lines.flatten = s := by
  induction s with
  | nil => rfl
  | cons c s ih =>
    simp only [lines]
    split
    · simp [ih]
    · cases hs : lines s with
      | nil => rw [hs] at ih; simp [← ih]
      | cons line rest => rw [hs] at ih; simpa using ih

end Text
end PluginManual

import PluginManual.Text.Lines

/-! Managed regions: the lines between a line that opens the region and a line that closes it. What
    opens and what closes is given by two predicates on lines. -/

namespace PluginManual

/-- What to do when several lines open the region. -/
inductive Multiplicity where
  /-- There must be one only. -/
  | unique
  /-- The first one counts. -/
  | first
deriving DecidableEq, Repr

/-- The indices of the lines around a region, counted from zero. -/
structure Region where
  opening : Nat
  closing : Nat
deriving DecidableEq, Repr

namespace Region

/-- The index of the first line inside, and the index after the last one. -/
def interior (r : Region) : Nat × Nat := (r.opening + 1, r.closing)

def inside {α : Type} (r : Region) (lines : List α) : List α :=
  (lines.take r.closing).drop (r.opening + 1)

end Region

/-- Which of the two lines around a region. -/
inductive MarkerKind where
  | opening
  | closing
deriving DecidableEq, Repr

inductive RegionFault where
  | missing (k : MarkerKind)
  /-- Several lines open the region; their numbers count from one. -/
  | ambiguous (lineNumbers : List Nat)
deriving DecidableEq, Repr

namespace Region

/-- The indices of the members of a list that satisfy `p`, the first member having the index `i`. -/
def indicesFrom {α : Type} (p : α → Bool) (i : Nat) : List α → List Nat
  | [] => []
  | a :: as => if p a then i :: indicesFrom p (i + 1) as else indicesFrom p (i + 1) as

def indices {α : Type} (p : α → Bool) (as : List α) : List Nat := indicesFrom p 0 as

/-- Finds a region: the first line that opens it, and the first line after that which closes it. -/
def locate (opens closes : Text → Bool) (m : Multiplicity) (lines : List Text) :
    Except RegionFault Region :=
  match indices opens lines with
  | [] => .error (.missing .opening)
  | i :: more =>
    if m = .unique ∧ more ≠ [] then .error (.ambiguous ((i :: more).map (· + 1)))
    else
      match indicesFrom closes (i + 1) (lines.drop (i + 1)) with
      | [] => .error (.missing .closing)
      | j :: _ => .ok ⟨i, j⟩

/-! ### Replacing -/

/-- The lines that an element of new text makes: its own lines, each with a line feed at its end. An
    empty element makes an empty line. -/
def linesOfElement (s : Text) : List Text :=
  (if s = [] then [[]] else s.lines).map Text.terminate

def normalLines (new : List Text) : List Text := new.flatMap linesOfElement

/-- The lines with those inside the region replaced by `new`. -/
def splice {α : Type} (r : Region) (new lines : List α) : List α :=
  lines.take (r.opening + 1) ++ new ++ lines.drop r.closing

/-- Finds a region and replaces the lines inside. Returns the region as it now stands and all lines. -/
def replace (opens closes : Text → Bool) (m : Multiplicity) (new lines : List Text) :
    Except RegionFault (Region × List Text) := do
  let r ← locate opens closes m lines
  let new := normalLines new
  return (⟨r.opening, r.opening + 1 + new.length⟩, r.splice new lines)

/-- Finds a region and returns the lines inside. If several lines open it, the first one counts. -/
def sectionLines (opens closes : Text → Bool) (lines : List Text) : Except RegionFault (List Text) := do
  let r ← locate opens closes .first lines
  return r.inside lines

end Region
end PluginManual

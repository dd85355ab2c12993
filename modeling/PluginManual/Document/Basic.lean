import PluginManual.Document.Region
import PluginManual.Files.Access
import PluginManual.Pattern.Marker

/-! Documents: the lines of a file with its path, and the regions in them that markers describe. The
    lines keep their terminators, so together they are the text. -/

namespace PluginManual

/-! ### Errors -/

inductive DocumentError where
  | file (e : FileError)
  /-- The text of a marker is not a pattern. -/
  | invalidPattern (pattern : Text)
  | markerNotFound (p : Path) (k : MarkerKind) (pattern : Text)
  /-- Several lines open the region; their numbers count from one. -/
  | ambiguousRegion (p : Path) (pattern : Text) (lineNumbers : List Nat)
deriving DecidableEq, Repr

def MarkerKind.name : MarkerKind → Text
  | opening => "start"
  | closing => "end"

/-- A pattern between two grave accents. -/
def quotedPattern (pattern : Text) : Text := '\x60' :: pattern ++ ['\x60']

namespace DocumentError

def message : DocumentError → Text
  | file e => "Filesystem error: " ++ e.message
  | invalidPattern pattern => "Invalid marker pattern " ++ quotedPattern pattern
  | markerNotFound p k pattern =>
    k.name ++ " marker " ++ quotedPattern pattern ++ " not found in " ++ p.text
  | ambiguousRegion p pattern lineNumbers =>
    "Ambiguous region in " ++ p.text ++ ": start marker " ++ quotedPattern pattern ++
      " matches lines [" ++ Text.join ", " (lineNumbers.map Text.ofNat) ++ "]"

end DocumentError

/-! ### Documents -/

structure Document where
  path : Path
  lines : List Text := []
deriving DecidableEq, Repr

namespace Document

def ofText (p : Path) (s : Text) : Document := ⟨p, s.lines⟩

def text (d : Document) : Text := d.lines.flatten

/-- Names the markers and the document that a fault is about. -/
def explain (d : Document) (opening closing : Marker) : RegionFault → DocumentError
  | .missing .opening => .markerNotFound d.path .opening opening.source
  | .missing .closing => .markerNotFound d.path .closing closing.source
  | .ambiguous lineNumbers => .ambiguousRegion d.path opening.source lineNumbers

def locate (d : Document) (opening closing : Marker) (m : Multiplicity) : Except DocumentError Region :=
  (Region.locate opening.isAt closing.isAt m d.lines).mapError (d.explain opening closing)

/-- The lines between two markers. If several lines match the first, the first of them counts. -/
def sectionLines (d : Document) (opening closing : Marker) : Except DocumentError (List Text) :=
  (Region.sectionLines opening.isAt closing.isAt d.lines).mapError (d.explain opening closing)

/-- Replaces the lines between two markers. Returns the region as it now stands and the document. -/
def replace (d : Document) (opening closing : Marker) (new : List Text) (m : Multiplicity) :
    Except DocumentError (Region × Document) :=
  match Region.replace opening.isAt closing.isAt m new d.lines with
  | .ok (r, lines) => .ok (r, { d with lines })
  | .error fault => .error (d.explain opening closing fault)

/-! ### Documents in files -/

def load (p : Path) : Action DocumentError Document := do
  return ofText p (← (Files.readText p).mapError .file)

/-- Writes a document to its file, unless the file holds it already, and tells whether it did. -/
def save (d : Document) : Action DocumentError Bool :=
  Action.mapError .file (Files.writeIfChanged d.path d.text)

def marker (pattern : Text) : Except DocumentError Marker :=
  match Marker.ofPattern? pattern with
  | some m => .ok m
  | none => .error (.invalidPattern pattern)

/-- The lines between two markers in a file. -/
def readSection (p : Path) (opening closing : Text) : Action DocumentError (List Text) := do
  let opening ← ExceptT.mk (pure (marker opening))
  let closing ← ExceptT.mk (pure (marker closing))
  let d ← load p
  ExceptT.mk (pure (d.sectionLines opening closing))

/-- Replaces the lines between two markers in a file, and tells whether the file changed. -/
def replaceSection (p : Path) (opening closing : Text) (new : List Text) (m : Multiplicity) :
    Action DocumentError Bool := do
  let opening ← ExceptT.mk (pure (marker opening))
  let closing ← ExceptT.mk (pure (marker closing))
  let d ← load p
  let (_, d) ← ExceptT.mk (pure (d.replace opening closing new m))
  d.save

end Document
end PluginManual

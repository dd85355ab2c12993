import PluginManual.Text.Basic

/-! Paths of files. A path is kept as it was written; what it names is read off its pieces, the texts
    between its slashes. An empty piece or a dot leads nowhere and counts for nothing, except for a
    slash or a dot at the beginning.

    Paths and names are texts. Names whose bytes encode no text are left out: turned into texts two of them can
    become the same, so that two files would share one part, or two sources one key. -/

namespace PluginManual

/-- A path whose bytes encode a text. -/
structure Path where
  text : Text
deriving DecidableEq, Repr, Inhabited

inductive PathStep where
  /-- To the top of the file tree. -/
  | root
  /-- To the working directory. -/
  | here
  /-- To the directory above. -/
  | up
  | name (s : Text)
deriving DecidableEq, Repr

namespace Path

def ofString (s : String) : Path := ⟨s.toList⟩

def pieces (p : Path) : List Text := p.text.splitOn '/'

/-- Does the path begin at the top of the file tree? -/
def isAbsolute (p : Path) : Bool := p.text.head? = some '/'

/-- Does the path name the working directory at its beginning? -/
def beginsHere (p : Path) : Bool := p.pieces.head? = some ['.']

/-- Does the piece count for nothing? -/
def isIdle (piece : Text) : Bool := piece = [] || piece = ['.']

/-- What a piece that counts says. -/
def stepOf? (piece : Text) : Option PathStep :=
  if isIdle piece then none else if piece = ['.', '.'] then some .up else some (.name piece)

def steps (p : Path) : List PathStep :=
  (if p.isAbsolute then [.root] else if p.beginsHere then [.here] else []) ++ p.pieces.filterMap stepOf?

/-- The path `q` as seen from the directory `p`. An absolute path looks the same from everywhere. -/
def join (p q : Path) : Path :=
  if q.isAbsolute then q
  else if p.text = [] || p.text.getLast? = some '/' then ⟨p.text ++ q.text⟩
  else ⟨p.text ++ '/' :: q.text⟩

def child (p : Path) (name : Text) : Path := p.join ⟨name⟩

/-- The pieces from the last one that counts back to the first. -/
def piecesBack (p : Path) : List Text := p.pieces.reverse.dropWhile isIdle

/-- The path without its last step, if it has one that is not the top of the tree. -/
def parent? (p : Path) : Option Path :=
  match p.piecesBack with
  | [] => if p.isAbsolute || p.text = [] then none else some ⟨[]⟩
  | _ :: before =>
    match before.dropWhile isIdle with
    | [] => some ⟨if p.isAbsolute then ['/'] else if p.beginsHere then ['.'] else []⟩
    | kept => some ⟨Text.join ['/'] kept.reverse⟩

/-- The name that the path ends with. A path that ends by going up has none. -/
def fileName? (p : Path) : Option Text :=
  match p.piecesBack with
  | [] => none
  | last :: _ => if last = ['.', '.'] then none else some last

/-- The path of a neighbour of the file: its name exchanged, or added where there is none. -/
def withFileName (p : Path) (name : Text) : Path :=
  match p.fileName? with
  | some _ => (p.parent?.getD ⟨[]⟩).child name
  | none => p.child name

/-- The end of the file name behind its last dot. A dot at the beginning of the name does not count. -/
def extension? (p : Path) : Option Text := do
  let name ← p.fileName?
  let back := name.reverse
  let stem := (back.dropWhile (· != '.')).tail
  if stem.isEmpty then none else return (back.takeWhile (· != '.')).reverse

/-- Drops pieces up to and including the `n`-th that counts. -/
def dropPieces : Nat → List Text → List Text
  | 0, ps => ps
  | _ + 1, [] => []
  | n + 1, p :: ps => if isIdle p then dropPieces (n + 1) ps else dropPieces n ps

/-- The path as seen from the directory `base`, if it says first what `base` says. -/
def relativeTo? (p base : Path) : Option Path :=
  if base.steps.isPrefixOf p.steps then
    let rest := dropPieces (base.pieces.filterMap stepOf?).length p.pieces
    let rest := ((rest.dropWhile isIdle).reverse.dropWhile isIdle).reverse
    some ⟨Text.join ['/'] rest⟩
  else none

/-- The path, its parent, the parent of that, and so on, `n` of them at most. -/
def lineage : Nat → Path → List Path
  | 0, _ => []
  | n + 1, p =>
    match p.parent? with
    | some q => p :: lineage n q
    | none => [p]

/-- The path and all that lie above it, nearest first. -/
def ancestors (p : Path) : List Path := lineage (p.text.length + 1) p

end Path
end PluginManual

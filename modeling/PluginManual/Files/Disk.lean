import PluginManual.Files.Call

/-! A model of a disk: a tree of directories and files without links, kept as a flat list of what is
    where, and the answer to every call with the disk after it. Paths are followed piece by piece, and
    only a directory can be followed further. There are no permissions, and no one holds a lock. What a
    system may refuse beyond that is in `PluginManual.Files.Mishaps`. -/

namespace PluginManual

/-- A place in the file tree: the names on the way there from the top. -/
abbrev Location := List Text

inductive Entry where
  | dir
  | file (c : Content)
deriving DecidableEq, Repr

def Entry.content? : Entry → Option Content
  | dir => none
  | file c => some c

/-- Who makes a call. -/
structure Caller where
  /-- The working directory. -/
  workDir : Location
  id : Nat
deriving Repr

/-- A file tree. The top is always a directory; of two entries for one place the first counts. -/
structure Disk where
  entries : List (Location × Entry) := []
deriving Repr, Inhabited

/-- The length of a text in its encoding. -/
def Text.byteLength (s : Text) : Nat := s.foldl (fun n c => n + c.utf8Size) 0

namespace Disk

/-! ### Entries -/

def get? (d : Disk) (l : Location) : Option Entry := if l = [] then some .dir else d.entries.lookup l

def content? (d : Disk) (l : Location) : Option Content := (d.get? l).bind Entry.content?

/-- Puts something at a place, whatever was there. -/
def put (d : Disk) (l : Location) (e : Entry) : Disk :=
  { entries := (l, e) :: d.entries.filter (·.1 ≠ l) }

def drop (d : Disk) (l : Location) : Disk := { entries := d.entries.filter (·.1 ≠ l) }

/-- Takes away what is at a place and everything below it. -/
def dropTree (d : Disk) (l : Location) : Disk := { entries := d.entries.filter (!l.isPrefixOf ·.1) }

/-- The names of the entries of a directory. -/
def names (d : Disk) (l : Location) : List Text :=
  d.entries.filterMap fun (m, _) => if m ≠ [] ∧ m.dropLast = l then m.getLast? else none

/-! ### Following paths -/

/-- The most bytes that a name can have. -/
def maxName : Nat := 255

/-- The least number of bytes of a path that is too long. -/
def pathLimit : Nat := 4096

/-- The steps along a path. A slash at the end asks for a directory, as a dot does. -/
def walkSteps (p : Path) : List Text :=
  p.pieces.filter (· ≠ []) ++ (if p.text.getLast? = some '/' then [['.']] else [])

def step (d : Disk) (l : Location) (piece : Text) : Except OsError Location :=
  match d.get? l with
  | none => .error .noEntry
  | some (.file _) => .error .notDirectory
  | some .dir =>
    if piece = ['.'] then .ok l
    else if piece = ['.', '.'] then .ok l.dropLast
    else if maxName < piece.byteLength then .error .nameTooLong
    else if (d.get? (l ++ [piece])).isSome then .ok (l ++ [piece])
    else .error .noEntry

def walk (d : Disk) (l : Location) (pieces : List Text) : Except OsError Location :=
  pieces.foldlM d.step l

def start (by' : Caller) (p : Path) : Location := if p.isAbsolute then [] else by'.workDir

/-- Refuses a path without any text and one that is too long. -/
def checkPath (p : Path) : Except OsError Unit :=
  if p.text = [] then .error .noEntry
  else if pathLimit ≤ p.text.byteLength then .error .nameTooLong
  else .ok ()

/-- Where a path leads, if something is there. -/
def locate (d : Disk) (by' : Caller) (p : Path) : Except OsError Location := do
  checkPath p
  d.walk (start by' p) (walkSteps p)

def find? (d : Disk) (by' : Caller) (p : Path) : Option Entry :=
  match d.locate by' p with
  | .ok l => d.get? l
  | .error _ => none

/-- The place that a path names in a directory, whether or not something is there. -/
structure Spot where
  dir : Location
  last : Text
  /-- A slash follows the name. -/
  slash : Bool

/-- Does the last piece say where to go instead of naming an entry? -/
def Spot.isDots (s : Spot) : Bool := s.last = ['.'] || s.last = ['.', '.']

def Spot.location (s : Spot) : Location := s.dir ++ [s.last]

/-- The place that a path names. The path without any piece names the top by a dot. -/
def spot (d : Disk) (by' : Caller) (p : Path) : Except OsError Spot := do
  checkPath p
  let pieces := p.pieces.filter (· ≠ [])
  let dir ← d.walk (start by' p) pieces.dropLast
  match d.get? dir with
  | some .dir => return ⟨dir, pieces.getLast?.getD ['.'], p.text.getLast? = some '/'⟩
  | some (.file _) => throw .notDirectory
  | none => throw .noEntry

/-- The place that a path names, with a name that is not too long. -/
def spotNamed (d : Disk) (by' : Caller) (p : Path) (dots : OsError) : Except OsError Spot := do
  let s ← d.spot by' p
  if s.isDots then throw dots
  if maxName < s.last.byteLength then throw .nameTooLong
  return s

/-! ### Calls -/

def read (d : Disk) (by' : Caller) (p : Path) : Except OsError Content := do
  let l ← d.locate by' p
  match d.get? l with
  | some (.file c) => return c
  | some .dir => throw .isDirectory
  | none => throw .noEntry

def list (d : Disk) (by' : Caller) (p : Path) : Except OsError (List Text) := do
  let l ← d.locate by' p
  match d.get? l with
  | some .dir => return d.names l
  | some (.file _) => throw .notDirectory
  | none => throw .noEntry

def makeDir (d : Disk) (by' : Caller) (p : Path) : Except OsError Disk := do
  let s ← d.spotNamed by' p .alreadyExists
  match d.get? s.location with
  | some _ => throw .alreadyExists
  | none => return d.put s.location .dir

def create (d : Disk) (by' : Caller) (p : Path) : Except OsError Disk := do
  let s ← d.spotNamed by' p .isDirectory
  if s.slash then throw .isDirectory
  match d.get? s.location with
  | some .dir => throw .isDirectory
  | _ => return d.put s.location (.file (.text []))

/-- The disk with content in a file that is there. -/
def write (d : Disk) (by' : Caller) (p : Path) (c : Content) : Except OsError Disk := do
  let l ← d.locate by' p
  match d.get? l with
  | some (.file _) => return d.put l (.file c)
  | some .dir => throw .isDirectory
  | none => throw .noEntry

def rename (d : Disk) (by' : Caller) (p q : Path) : Except OsError Disk := do
  let s ← d.spotNamed by' p .busy
  let t ← d.spotNamed by' q .busy
  match d.get? s.location with
  | none => throw .noEntry
  | some .dir => throw .isDirectory
  | some (.file c) =>
    if s.slash || t.slash then throw .notDirectory
    match d.get? t.location with
    | some .dir => throw .isDirectory
    | _ => return (d.drop s.location).put t.location (.file c)

def remove (d : Disk) (by' : Caller) (p : Path) : Except OsError Disk := do
  let s ← d.spotNamed by' p .isDirectory
  match d.get? s.location with
  | none => throw .noEntry
  | some .dir => throw .isDirectory
  | some (.file _) => if s.slash then throw .notDirectory else return d.drop s.location

def straightPath (l : Location) : Path := ⟨'/' :: Text.join ['/'] l⟩

/-- The disk after a change that may fail, and whether it did. -/
def settle (d : Disk) : Except OsError Disk → Except OsError Unit × Disk
  | .ok after => (.ok (), after)
  | .error e => (.error e, d)

def answer (by' : Caller) (d : Disk) : (c : Call) → c.Answer × Disk
  | .read p => (d.read by' p, d)
  | .isDir p => (d.find? by' p = some .dir, d)
  | .isFile p => (((d.find? by' p).bind Entry.content?).isSome, d)
  | .list p => (d.list by' p, d)
  | .makeDir p => d.settle (d.makeDir by' p)
  | .create p => d.settle (d.create by' p)
  | .write p c => d.settle (d.write by' p c)
  | .upkeep _ _ => (.ok (), d)
  | .rename p q => d.settle (d.rename by' p q)
  | .remove p => d.settle (d.remove by' p)
  | .resolve p => ((d.locate by' p).map straightPath, d)
  | .callerId => (by'.id, d)

/-! ### What changes keep -/

@[simp] theorem get?_nil (d : Disk) : d.get? [] = some .dir := rfl

theorem lookup_filter_ne {l m : Location} (h : m ≠ l) (es : List (Location × Entry)) :
    (es.filter (·.1 ≠ l)).lookup m = es.lookup m := by
  induction es with
  | nil => rfl
  | cons e es ih =>
    obtain ⟨k, v⟩ := e
    by_cases hk : k = l
    · subst hk
      have hm : (m == k) = false := by simpa using h
      simpa [List.filter_cons, List.lookup_cons, hm] using ih
    · simp only [List.filter_cons, ne_eq, hk, not_false_eq_true, decide_true, if_true, List.lookup_cons, ih]

theorem get?_put_self {d : Disk} {l : Location} (h : l ≠ []) (e : Entry) :
    (d.put l e).get? l = some e := by
  rw [get?, if_neg h]
  exact List.lookup_cons_self

/-- Putting something at a place changes nothing elsewhere. -/
theorem get?_put_of_ne {d : Disk} {l m : Location} (h : m ≠ l) (e : Entry) :
    (d.put l e).get? m = d.get? m := by
  simp only [get?, put]
  split
  · rfl
  · have hm : (m == l) = false := by simpa using h
    simp only [List.lookup_cons, hm]
    exact lookup_filter_ne h d.entries

/-- Taking something away changes nothing elsewhere. -/
theorem get?_drop_of_ne {d : Disk} {l m : Location} (h : m ≠ l) : (d.drop l).get? m = d.get? m := by
  simp only [get?, drop]
  split
  · rfl
  · exact lookup_filter_ne h d.entries

theorem get?_drop_self {d : Disk} {l : Location} (h : l ≠ []) : (d.drop l).get? l = none := by
  rw [get?, if_neg h, drop, List.lookup_eq_none_iff]
  intro e he
  have hne : e.1 ≠ l := of_decide_eq_true (List.mem_filter.mp he).2
  exact bne_iff_ne.mpr (Ne.symm hne)

end Disk

namespace Session

def run {α : Type} (by' : Caller) : Session α → Disk → α × Disk
  | done a, d => (a, d)
  | ask c next, d =>
    let (answer, d) := d.answer by' c
    (next answer).run by' d

@[simp] theorem run_done {α : Type} (by' : Caller) (a : α) (d : Disk) : (done a).run by' d = (a, d) := rfl

@[simp] theorem run_ask {α : Type} (by' : Caller) (c : Call) (next : c.Answer → Session α) (d : Disk) :
    (ask c next).run by' d = (next (d.answer by' c).1).run by' (d.answer by' c).2 := rfl

/-- A program goes on where the one before it stopped. -/
@[simp] theorem run_bind {α β : Type} (by' : Caller) (s : Session α) (f : α → Session β) (d : Disk) :
    (s.bind f).run by' d = (f (s.run by' d).1).run by' (s.run by' d).2 := by
  induction s generalizing d with
  | done a => rfl
  | ask c next ih => simp only [bind, run_ask, ih]

end Session
end PluginManual

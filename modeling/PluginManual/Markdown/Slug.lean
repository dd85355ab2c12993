import PluginManual.Text.Blank
import PluginManual.Text.Casing
import PluginManual.Text.Letter

/-! Anchors of headings: the words of the heading in lower case with hyphens between them, and a number
    where an anchor is taken already. -/

namespace PluginManual

namespace Text

def isSlugChar (c : Char) : Bool := isAlphanumeric c || c = '-' || c = '_'

/-- The words of a text in lower case, without the characters that cannot stand in an anchor, and with a
    hyphen between each two. -/
def slug (s : Text) : Text :=
  join "-" (words (s.lower.filter fun c => isSlugChar c || PluginManual.isBlank c))

end Text

/-- The anchors that have been given so far, each with the number to try next when it is wanted again. -/
structure Slugger where
  seen : List (Text × Nat) := []
deriving Repr

namespace Slugger

def numbered (base : Text) (n : Nat) : Text := base ++ '-' :: Text.ofNat n

def hasSeen (g : Slugger) (anchor : Text) : Bool := (g.seen.lookup anchor).isSome

/-- The least number from `n` on with which the anchor is free, among the next `fuel` numbers. -/
def freeNumber (g : Slugger) (base : Text) : Nat → Nat → Nat
  | 0, n => n
  | fuel + 1, n => if g.hasSeen (numbered base n) then g.freeNumber base fuel (n + 1) else n

/-- Remembers the number to try next for an anchor that has been given. -/
def advance (g : Slugger) (base : Text) (n : Nat) : Slugger :=
  { seen := g.seen.map fun (anchor, m) => if anchor = base then (anchor, n) else (anchor, m) }

def give (g : Slugger) (anchor : Text) : Slugger :=
  if g.hasSeen anchor then g else { seen := (anchor, 1) :: g.seen }

/-- The anchor for a text, different from all that have been given. Not more numbers can be taken than
    anchors have been given, so that many trials suffice. -/
def anchor (g : Slugger) (text : Text) : Text × Slugger :=
  let base := text.slug
  match g.seen.lookup base with
  | none => (base, g.give base)
  | some first =>
    let n := g.freeNumber base (g.seen.length + 1) first
    (numbered base n, (g.advance base (n + 1)).give (numbered base n))

def anchors (g : Slugger) : List Text → List Text
  | [] => []
  | text :: rest =>
    let (anchor, g) := g.anchor text
    anchor :: g.anchors rest

end Slugger
end PluginManual

import PluginManual.Pattern.Parser
import PluginManual.Pattern.Property

/-! What a pattern means: the regular expression that it stands for, if it stands for one. A flag holds
    from the place where it is set to the end of the group around it, also across alternatives.

    Without the flag `unicode` a pattern speaks of bytes. Since lines are texts, it may then not be able
    to match a part of a character that is more than one byte long: all sets must be within ASCII. -/

namespace PluginManual

/-- The flags that decide what the parts of a pattern mean. -/
structure PatternFlags where
  ignoreCase : Bool := false
  multiLine : Bool := false
  dotAll : Bool := false
  unicode : Bool := true
  crlf : Bool := false
deriving DecidableEq, Repr

namespace PatternFlags

def change (f : PatternFlags) (d : FlagChange) : PatternFlags where
  ignoreCase := d.apply .ignoreCase f.ignoreCase
  multiLine := d.apply .multiLine f.multiLine
  dotAll := d.apply .dotAll f.dotAll
  unicode := d.apply .unicode f.unicode
  crlf := d.apply .crlf f.crlf

/-- Adds the members in other case where case is ignored. -/
def fold (f : PatternFlags) (s : CharSet) : CharSet :=
  if f.ignoreCase then (if f.unicode then .folded s else .foldedAscii s) else s

/-- The complement: of all characters, or of the bytes. -/
def complement (f : PatternFlags) (s : CharSet) : CharSet :=
  if f.unicode then .compl s else .inter .bytes (.compl s)

def wholeChars? (f : PatternFlags) (s : CharSet) : Option CharSet :=
  if f.unicode || s.isAscii then some s else none

/-- What a set in brackets comes to: members in other case are added, then the complement is taken. -/
def close? (f : PatternFlags) (negated : Bool) (s : CharSet) : Option CharSet :=
  let s := f.fold s
  f.wholeChars? (if negated then f.complement s else s)

/-- The code point that a single character stands for. A byte beyond ASCII is no character. -/
def charCode? (f : PatternFlags) (c : PatternChar) : Option Nat :=
  if !f.unicode && c.byte && c.char.toNat > 0x7F then none else some c.char.toNat

def memberCode? (f : PatternFlags) (c : PatternChar) : Option Nat := do
  let n ← f.charCode? c
  guard (f.unicode || n ≤ 0x7F)
  return n

/-- The set of a class of one letter, which contains every case of its members as it is. -/
def shorthand (f : PatternFlags) : Shorthand → CharSet
  | .digit => if f.unicode then .digit else .asciiDigit
  | .blank => if f.unicode then .blank else .asciiBlank
  | .word => if f.unicode then .word else .asciiWord

end PatternFlags

def ClassExpr.set? (f : PatternFlags) : ClassExpr → Option CharSet
  | empty => some .none
  | char c => do return .ranges [.single (← f.memberCode? c)]
  | range a b => do return .ranges [⟨← f.memberCode? a, ← f.memberCode? b⟩]
  | ascii negated rs => f.close? negated (.ranges rs)
  | shorthand negated k =>
    let s := f.shorthand k
    f.wholeChars? (if negated then f.complement s else s)
  | property negated name value => do
    guard f.unicode
    let s ← match value with
      | some value => Property.setOfValue? name value
      | none => Property.set? name
    f.close? negated s
  | bracket negated e => do f.close? negated (← e.set? f)
  | union a b => do return .union (← a.set? f) (← b.set? f)
  | op o a b => do
    let l := f.fold (← a.set? f)
    let r := f.fold (← b.set? f)
    match o with
    | .inter => return .inter l r
    | .diff => return .diff l r
    | .symmDiff => return .symmDiff l r

def LookExpr.look (f : PatternFlags) : LookExpr → Look
  | lineStart => if f.multiLine then .lineStart f.crlf else .textStart
  | lineEnd => if f.multiLine then .lineEnd f.crlf else .textEnd
  | textStart => .textStart
  | textEnd => .textEnd
  | wordBoundary => .wordBoundary !f.unicode
  | notWordBoundary => .notWordBoundary !f.unicode
  | wordStart => .wordStart !f.unicode
  | wordEnd => .wordEnd !f.unicode
  | wordStartHalf => .wordStartHalf !f.unicode
  | wordEndHalf => .wordEndHalf !f.unicode

/-- The characters that the dot matches. -/
def PatternFlags.dot (f : PatternFlags) : CharSet :=
  if f.dotAll then .all
  else if f.crlf then .compl (.ranges [.single 0x0A, .single 0x0D])
  else .compl (.single '\n')

/-- The regular expression that a pattern stands for, and the flags that hold after it. -/
def PatternExpr.regex? (f : PatternFlags) : PatternExpr → Option (Regex × PatternFlags)
  | empty => some (.empty, f)
  | char c => do
    let n ← f.charCode? c
    return (.char (f.fold (.ranges [.single n])), f)
  | dot => do
    guard f.unicode
    return (.char f.dot, f)
  | look l => some (.look (l.look f), f)
  | class_ e => do return (.char (← e.set? f), f)
  | flags d => some (.empty, f.change d)
  | group d e => do return ((← e.regex? (f.change d)).1, f)
  | rep e least most => do
    let (r, f) ← e.regex? f
    return (.rep r least most, f)
  | seq a b => do
    let (r, f) ← a.regex? f
    let (s, f) ← b.regex? f
    return (.seq r s, f)
  | alt a b => do
    let (r, f) ← a.regex? f
    let (s, f) ← b.regex? f
    return (.alt r s, f)

/-- How large the machine for a pattern may become, in bytes. -/
def Regex.maxWeight : Nat := 10 * 1024 * 1024

/-- The regular expression of a pattern. There is none if the text is not a pattern, if it names a class
    or a property that does not exist, or if it grows too large. -/
def Regex.ofPattern? (pattern : Text) : Option Regex := do
  let e ← PatternExpr.parse? pattern
  let (r, _) ← e.regex? {}
  guard (r.weight ≤ maxWeight)
  return r

end PluginManual

import PluginManual.Pattern.Regex

/-! Patterns as written: what the parser of patterns reads, before flags and names get their meaning. -/

namespace PluginManual

/-- A flag that a pattern can set or clear for the rest of the group it stands in. -/
inductive PatternFlag where
  | ignoreCase
  | multiLine
  /-- The dot matches a line feed too. -/
  | dotAll
  /-- Exchanges the meaning of `*` and `*?` and their like, which makes no difference to whether a
      line matches. -/
  | swapGreed
  | unicode
  /-- A carriage return ends lines too. -/
  | crlf
  /-- White space and comments in the pattern count for nothing. -/
  | spaced
deriving DecidableEq, Repr

/-- The flags that a group or a flag item sets and those that it clears. -/
structure FlagChange where
  on : List PatternFlag := []
  off : List PatternFlag := []
deriving DecidableEq, Repr

def FlagChange.apply (d : FlagChange) (f : PatternFlag) (old : Bool) : Bool :=
  if f ∈ d.on then true else if f ∈ d.off then false else old

/-- A single character of a pattern. One that is written as two hexadecimal digits counts as a byte
    where the pattern works on bytes. -/
structure PatternChar where
  char : Char
  byte : Bool := false
deriving DecidableEq, Repr

inductive Shorthand where
  | digit
  | blank
  | word
deriving DecidableEq, Repr

inductive SetOp where
  | inter
  | diff
  | symmDiff
deriving DecidableEq, Repr

inductive ClassExpr where
  | empty
  | char (c : PatternChar)
  | range (a b : PatternChar)
  /-- A named set of ASCII characters, as in `[:alpha:]`. -/
  | ascii (negated : Bool) (rs : List CodeRange)
  | shorthand (negated : Bool) (k : Shorthand)
  /-- A property, given by one name or by a name and a value. -/
  | property (negated : Bool) (name : Text) (value : Option Text)
  | bracket (negated : Bool) (e : ClassExpr)
  | union (a b : ClassExpr)
  | op (o : SetOp) (a b : ClassExpr)
deriving Repr

/-- A condition on a position as written; what `^` and `$` say depends on the flags. -/
inductive LookExpr where
  | lineStart
  | lineEnd
  | textStart
  | textEnd
  | wordBoundary
  | notWordBoundary
  | wordStart
  | wordEnd
  | wordStartHalf
  | wordEndHalf
deriving DecidableEq, Repr

inductive PatternExpr where
  | empty
  | char (c : PatternChar)
  | dot
  | look (l : LookExpr)
  | class_ (e : ClassExpr)
  /-- Changes flags up to the end of the group. -/
  | flags (d : FlagChange)
  | group (d : FlagChange) (e : PatternExpr)
  | rep (e : PatternExpr) (least : Nat) (most : Option Nat)
  | seq (a b : PatternExpr)
  | alt (a b : PatternExpr)
deriving Repr

/-- How deep brackets and operations of a class are nested; a union of several parts counts once.
    `inUnion` tells that the class is itself part of a union. -/
def ClassExpr.depth (inUnion : Bool) : ClassExpr → Nat
  | bracket _ e => 1 + e.depth false
  | union a b => (if inUnion then 0 else 1) + max (a.depth true) (b.depth false)
  | op _ a b => 1 + max (a.depth false) (b.depth false)
  | _ => 0

/-- The nodes whose further parts count as the same level. -/
inductive PatternExpr.Spine where
  | none
  | seq
  | alt
deriving DecidableEq

/-- How deep the parts of a pattern are nested; a sequence of several parts counts once, and so do
    several alternatives. -/
def PatternExpr.depth (spine : Spine) : PatternExpr → Nat
  | class_ e => e.depth false
  | group _ e => 1 + e.depth .none
  | rep e _ _ => 1 + e.depth .none
  | seq a b => (if spine = .seq then 0 else 1) + max (a.depth .seq) (b.depth .none)
  | alt a b => (if spine = .alt then 0 else 1) + max (a.depth .alt) (b.depth .none)
  | _ => 0

end PluginManual

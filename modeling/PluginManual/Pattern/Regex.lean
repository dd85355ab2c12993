import PluginManual.Pattern.CharSet

/-! Regular expressions over characters, and which parts of a line they match.

    An expression relates positions of a line: it leads from a position to every position where a
    match that begins there can end. A set of positions is a list of truth values, one for each place
    before, between and after the characters, and each kind of expression maps sets to sets. Nothing
    is tried and taken back, so the work does not depend on how often the expression is ambiguous. -/

namespace PluginManual

/-- A condition on a position, decided by the characters on its two sides. -/
inductive Look where
  | textStart
  | textEnd
  /-- After a line end; with `crlf`, a carriage return ends lines too, and the pair of both is one end. -/
  | lineStart (crlf : Bool)
  | lineEnd (crlf : Bool)
  /-- Between a word character and another one or none. With `ascii`, only ASCII has word characters. -/
  | wordBoundary (ascii : Bool)
  | notWordBoundary (ascii : Bool)
  | wordStart (ascii : Bool)
  | wordEnd (ascii : Bool)
  /-- Not after a word character. -/
  | wordStartHalf (ascii : Bool)
  /-- Not before a word character. -/
  | wordEndHalf (ascii : Bool)
deriving DecidableEq, Repr

namespace Look

def inWord (ascii : Bool) : Option Char → Bool
  | none => false
  | some c => if ascii then CharSet.asciiWord.has c.toNat else isWordChar c

/-- Does the condition hold between `before` and `after`, where `none` is the end of the text? -/
def holds (before after : Option Char) : Look → Bool
  | textStart => before.isNone
  | textEnd => after.isNone
  | lineStart false => before.isNone || before == some '\n'
  | lineStart true =>
    before.isNone || before == some '\n' || before == some '\r' && after != some '\n'
  | lineEnd false => after.isNone || after == some '\n'
  | lineEnd true =>
    after.isNone || after == some '\r' || after == some '\n' && before != some '\r'
  | wordBoundary a => inWord a before != inWord a after
  | notWordBoundary a => inWord a before == inWord a after
  | wordStart a => !inWord a before && inWord a after
  | wordEnd a => inWord a before && !inWord a after
  | wordStartHalf a => !inWord a before
  | wordEndHalf a => !inWord a after

end Look

inductive Regex where
  /-- Matches without reading anything. -/
  | empty
  /-- Reads one character of the set. -/
  | char (s : CharSet)
  | look (l : Look)
  | seq (a b : Regex)
  | alt (a b : Regex)
  /-- At least `least` matches of `r` in a row, and at most `most` if there is a bound. -/
  | rep (r : Regex) (least : Nat) (most : Option Nat)
deriving Repr

namespace Regex

/-- A set of positions of a line: entry `i` belongs to the place before character `i`, the last entry
    to the end. -/
abbrev Positions := List Bool

/-- The positions where a condition holds, in a text that follows `before`. -/
def lookPositions (l : Look) (before : Option Char) : Text → Positions
  | [] => [l.holds before none]
  | c :: s => l.holds before (some c) :: lookPositions l (some c) s

/-- Applies `f` over and over, up to `n` times, and stops when nothing changes any more. -/
def times (f : Positions → Positions) : Nat → Positions → Positions
  | 0, ps => ps
  | n + 1, ps =>
    let next := f ps
    if next = ps then ps else times f n next

/-- Adds what `f` leads to, up to `n` times, and stops when nothing new comes. -/
def grow (f : Positions → Positions) : Nat → Positions → Positions
  | 0, ps => ps
  | n + 1, ps =>
    let next := List.zipWith or ps (f ps)
    if next = ps then ps else grow f n next

/-- The positions where a match of the expression can end that begins at one of the given positions.
    A match never ends before it begins, so repetitions beyond the number of positions lead nowhere new. -/
def ends (line : Text) : Regex → Positions → Positions
  | empty, ps => ps
  | char s, ps => false :: List.zipWith (fun c p => p && s.has c.toNat) line ps
  | look l, ps => List.zipWith and ps (lookPositions l none line)
  | seq a b, ps => ends line b (ends line a ps)
  | alt a b, ps => List.zipWith or (ends line a ps) (ends line b ps)
  | rep r least most, ps =>
    let bound := line.length + 1
    let more := match most with
      | some n => min (n - least) bound
      | none => bound
    grow (ends line r) more (times (ends line r) (min least bound) ps)

/-- Does some match begin at the start of the line? -/
def matchesStart (r : Regex) (line : Text) : Bool :=
  (r.ends line (true :: List.replicate line.length false)).any id

/-- The size of the machine that the expression unfolds into, in bytes: what a repetition counts is
    laid out as often as it says. -/
def weight : Regex → Nat
  | empty | look _ => 32
  | char s => if s.size ≤ 1 then 32 else 60 * s.size
  | seq a b => a.weight + b.weight
  | alt a b => 40 + a.weight + b.weight
  | rep r least most => 40 + r.weight * max 1 (most.getD least)

end Regex
end PluginManual

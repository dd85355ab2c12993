import PluginManual.Pattern.Expr

/-! Reading a pattern. The reader keeps what is left of the pattern, whether white space counts, and
    the names that groups have taken; it fails on anything that is not a pattern. -/

namespace PluginManual
namespace PatternExpr

/-- What the reader knows. -/
structure ReadState where
  rest : Text
  /-- White space and comments are skipped. -/
  spaced : Bool := false
  /-- The names of the groups so far. -/
  names : List Text := []

abbrev Read := StateT ReadState Option

namespace Read

/-! ### Characters -/

def peek? : Read (Option Char) := do return (← get).rest.head?

/-- The next character. Fails at the end. -/
def peek : Read Char := do
  match ← peek? with
  | some c => return c
  | none => failure

def bump : Read Unit := modify fun s => { s with rest := s.rest.tail }

/-- The text after the white space and comments at its beginning. A comment runs from `#` to the end
    of the line. -/
def afterSpace (inComment : Bool) : Text → Text
  | [] => []
  | c :: s =>
    if inComment then afterSpace (c != '\n') s
    else if isBlank c then afterSpace false s
    else if c = '#' then afterSpace true s
    else c :: s

/-- Skips white space and comments where they do not count. -/
def skipSpace : Read Unit :=
  modify fun s => if s.spaced then { s with rest := afterSpace false s.rest } else s

def next : Read Unit := do bump; skipSpace

/-- Skips white space, whether it counts or not. -/
def skipBlanks : Read Unit := modify fun s => { s with rest := s.rest.dropWhile isBlank }

/-- Drops `word` if it comes next, and tells whether it did. -/
def takeIf (word : Text) : Read Bool := do
  match word.isPrefixOf? (← get).rest with
  | some rest => modify fun s => { s with rest }; return true
  | none => return false

/-- Reads the characters that satisfy `p`, up to the first that does not. Between two of them white
    space is skipped where it does not count. -/
def takeWhile (p : Char → Bool) : Read Text := do
  go (← get).rest.length
where
  go : Nat → Read Text
    | 0 => return []
    | n + 1 => do
      match ← peek? with
      | some c => if p c then next; return c :: (← go n) else return []
      | none => return []

/-! ### Escapes -/

/-- Does the character mean something in a pattern, so that a backslash takes its meaning away? -/
def isMeta (c : Char) : Bool :=
  c ∈ ['\\', '.', '+', '*', '?', '(', ')', '|', '[', ']', '{', '}', '^', '$', '#', '&', '-', '~']

/-- Can the character follow a backslash and stand for itself? Letters and digits cannot, nor the two
    angle brackets, nor anything beyond ASCII. -/
def isEscapable (c : Char) : Bool :=
  isMeta c || (c.toNat < 0x80 && !c.isAlphanum && c != '<' && c != '>')

def hexDigits : Nat → Read Text
  | 0 => return []
  | n + 1 => do
    let c ← peek
    guard (Text.hexDigit? c).isSome
    next
    return c :: (← hexDigits n)

/-- The character with a code point given in hexadecimal. -/
def charOfHex (digits : Text) : Read Char := do
  match digits.hex? with
  | some n => if n.isValidChar then return Char.ofNat n else failure
  | none => failure

/-- Reads what follows `\x`, `\u` or `\U`: a fixed number of hexadecimal digits, or any number of them
    in braces. -/
def hexChar (letter : Char) : Read PatternChar := do
  next
  if (← peek) = '{' then
    next
    let digits ← takeWhile (· != '}')
    guard ((← peek) = '}')
    next
    return { char := ← charOfHex digits }
  else
    let count := if letter = 'x' then 2 else if letter = 'u' then 4 else 8
    return { char := ← charOfHex (← hexDigits count), byte := letter = 'x' }

/-- The text before the first occurrence of `!=`, and the text after it. -/
def splitUnequal? : Text → Option (Text × Text)
  | '!' :: '=' :: s => some ([], s)
  | c :: s => (splitUnequal? s).map fun (l, r) => (c :: l, r)
  | [] => none

/-- Reads what follows `\p` or `\P`: one letter, or a name in braces, or a name and a value. -/
def property (negated : Bool) : Read ClassExpr := do
  next
  if (← peek) = '{' then
    next
    let body ← takeWhile (· != '}')
    guard ((← peek) = '}')
    bump
    match splitUnequal? body, body.splitOnce? ':', body.splitOnce? '=' with
    | some (name, value), _, _ => return .property (!negated) name value
    | none, some (name, value), _ => return .property negated name value
    | none, none, some (name, value) => return .property negated name value
    | none, none, none => return .property negated body none
  else
    let c ← peek
    guard (c != '\\')
    bump
    return .property negated [c] none

/-- Reads what may follow `\b`: the kind of word boundary in braces. Braces with anything but letters
    and hyphens are left for a repetition. -/
def boundary : Read LookExpr := do
  let start ← get
  if start.rest.head? != some '{' then return .wordBoundary
  next
  let isNameChar := fun c : Char => c.isAlpha || c = '-'
  if !isNameChar (← peek) then
    set start
    return .wordBoundary
  let name ← takeWhile isNameChar
  guard ((← peek) = '}')
  bump
  if name = "start" then return .wordStart
  else if name = "end" then return .wordEnd
  else if name = "start-half" then return .wordStartHalf
  else if name = "end-half" then return .wordEndHalf
  else failure

def escape : Read PatternExpr := do
  bump
  let c ← peek
  match c with
  | 'x' | 'u' | 'U' => return .char (← hexChar c)
  | 'p' => return .class_ (← property false)
  | 'P' => return .class_ (← property true)
  | _ =>
    bump
    if isEscapable c then return .char { char := c }
    match c with
    | 'd' => return .class_ (.shorthand false .digit)
    | 'D' => return .class_ (.shorthand true .digit)
    | 's' => return .class_ (.shorthand false .blank)
    | 'S' => return .class_ (.shorthand true .blank)
    | 'w' => return .class_ (.shorthand false .word)
    | 'W' => return .class_ (.shorthand true .word)
    | 'a' => return .char { char := '\x07' }
    | 'f' => return .char { char := '\x0c' }
    | 't' => return .char { char := '\t' }
    | 'n' => return .char { char := '\n' }
    | 'r' => return .char { char := '\r' }
    | 'v' => return .char { char := '\x0b' }
    | 'A' => return .look .textStart
    | 'z' => return .look .textEnd
    | 'b' => return .look (← boundary)
    | 'B' => return .look .notWordBoundary
    | '<' => return .look .wordStart
    | '>' => return .look .wordEnd
    | _ => failure

/-! ### Classes in brackets -/

/-- The named sets of ASCII characters. -/
def asciiRanges? (name : Text) : Option (List CodeRange) :=
  if name = "alnum" then some [⟨0x30, 0x39⟩, ⟨0x41, 0x5A⟩, ⟨0x61, 0x7A⟩]
  else if name = "alpha" then some [⟨0x41, 0x5A⟩, ⟨0x61, 0x7A⟩]
  else if name = "ascii" then some [⟨0, 0x7F⟩]
  else if name = "blank" then some [.single 0x09, .single 0x20]
  else if name = "cntrl" then some [⟨0, 0x1F⟩, .single 0x7F]
  else if name = "digit" then some [⟨0x30, 0x39⟩]
  else if name = "graph" then some [⟨0x21, 0x7E⟩]
  else if name = "lower" then some [⟨0x61, 0x7A⟩]
  else if name = "print" then some [⟨0x20, 0x7E⟩]
  else if name = "punct" then some [⟨0x21, 0x2F⟩, ⟨0x3A, 0x40⟩, ⟨0x5B, 0x60⟩, ⟨0x7B, 0x7E⟩]
  else if name = "space" then some [⟨0x09, 0x0D⟩, .single 0x20]
  else if name = "upper" then some [⟨0x41, 0x5A⟩]
  else if name = "word" then some [⟨0x30, 0x39⟩, ⟨0x41, 0x5A⟩, .single 0x5F, ⟨0x61, 0x7A⟩]
  else if name = "xdigit" then some [⟨0x30, 0x39⟩, ⟨0x41, 0x46⟩, ⟨0x61, 0x66⟩]
  else none

/-- Reads a named set such as `[:alpha:]` or `[:^alpha:]`. Anything else is left unread. -/
def asciiClass? : Read (Option ClassExpr) := do
  let s ← get
  match s.rest with
  | '[' :: ':' :: body =>
    let (negated, body) := match body with
      | '^' :: body => (true, body)
      | _ => (false, body)
    let name := body.takeWhile (· != ':')
    match body.dropWhile (· != ':'), asciiRanges? name with
    | ':' :: ']' :: rest, some rs =>
      set { s with rest }
      return some (.ascii negated rs)
    | _, _ => return none
  | _ => return none

def classItem : Read ClassExpr := do
  let c ← peek
  if c = '\\' then
    match ← escape with
    | .char c => return .char c
    | .class_ e => return e
    | _ => failure
  else
    bump
    return .char { char := c }

/-- Reads one member of a class or a range. A hyphen before `]` or another hyphen makes no range. -/
def classRange : Read ClassExpr := do
  let first ← classItem
  skipSpace
  let s ← get
  let after := if s.spaced then afterSpace false s.rest.tail else s.rest.tail
  if (← peek) != '-' || after.head? = some ']' || after.head? = some '-' then return first
  next
  let last ← classItem
  match first, last with
  | .char a, .char b => if a.char ≤ b.char then return .range a b else failure
  | _, _ => failure

def addPart (e part : ClassExpr) : ClassExpr :=
  match e with
  | .empty => part
  | _ => .union e part

/-- Closes the operation that waits for its right side, if one does. -/
def closeOp (pending : Option (SetOp × ClassExpr)) (e : ClassExpr) : ClassExpr :=
  match pending with
  | some (o, left) => .op o left e
  | none => e

/-- Reads the hyphens at the beginning of a class, which stand for themselves. -/
def leadingHyphens : Nat → ClassExpr → Read ClassExpr
  | 0, e => return e
  | n + 1, e => do
    if (← peek) = '-' then
      next
      leadingHyphens n (addPart e (.char { char := '-' }))
    else return e

mutual

/-- Reads a class in brackets. Each call takes a character, so `fuel` is the length of the text. -/
def bracket (fuel : Nat) : Read ClassExpr :=
  match fuel with
  | 0 => failure
  | n + 1 => do
    next
    let negated := (← peek) = '^'
    if negated then next
    let hyphens ← leadingHyphens (← get).rest.length .empty
    let c ← peek
    let start ← match hyphens, c with
      | .empty, ']' => next; pure (.char { char := ']' })
      | _, _ => pure hyphens
    return .bracket negated (← classItems n none start)

/-- Reads the parts of a class up to the bracket that closes it. -/
def classItems (fuel : Nat) (pending : Option (SetOp × ClassExpr)) (e : ClassExpr) : Read ClassExpr :=
  match fuel with
  | 0 => failure
  | n + 1 => do
    skipSpace
    match ← peek with
    | '[' =>
      match ← asciiClass? with
      | some part => classItems n pending (addPart e part)
      | none => do
        let part ← bracket n
        classItems n pending (addPart e part)
    | ']' => do
      bump
      return closeOp pending e
    | _ =>
      if ← takeIf "&&" then classItems n (some (.inter, closeOp pending e)) .empty
      else if ← takeIf "--" then classItems n (some (.diff, closeOp pending e)) .empty
      else if ← takeIf "~~" then classItems n (some (.symmDiff, closeOp pending e)) .empty
      else do
        let part ← classRange
        classItems n pending (addPart e part)

end

/-! ### Repetitions -/

/-- Reads a count, with white space around it allowed. It fits into 32 bits. -/
def count : Read (Option Nat) := do
  skipBlanks
  let digits ← takeWhile fun c => (Text.digit? c).isSome
  skipBlanks
  match Text.numeral? 10 Text.digit? digits with
  | some n => if n < 0x100000000 then return some n else failure
  | none => return none

/-- Skips the question mark that makes a repetition lazy. -/
def lazyMark : Read Unit := do
  let _ ← takeIf "?"

def bounds : Read (Nat × Option Nat) := do
  next
  let least ← count
  let c ← peek
  let result ←
    if c = ',' then
      next
      if (← peek) = '}' then
        match least with
        | some n => pure (n, none)
        | none => failure
      else
        match least, ← count with
        | some n, some m => if n ≤ m then pure (n, some m) else failure
        | _, _ => failure
    else
      match least with
      | some n => pure (n, some n)
      | none => failure
  guard ((← peek) = '}')
  next
  lazyMark
  return result

/-! ### Groups -/

def flag? : Char → Option PatternFlag
  | 'i' => some .ignoreCase
  | 'm' => some .multiLine
  | 's' => some .dotAll
  | 'U' => some .swapGreed
  | 'u' => some .unicode
  | 'R' => some .crlf
  | 'x' => some .spaced
  | _ => none

/-- Reads flags up to `:` or `)`. Each may occur once, and one hyphen comes before those to clear. -/
def flagChange (fuel : Nat) (negated : Bool) (d : FlagChange) : Read FlagChange :=
  match fuel with
  | 0 => failure
  | n + 1 => do
    match ← peek with
    | ':' | ')' => return d
    | '-' => do
      guard !negated
      bump
      guard ((← peek) != ':' && (← peek) != ')')
      flagChange n true d
    | c => do
      match flag? c with
      | some f =>
        guard (f ∉ d.on && f ∉ d.off)
        bump
        flagChange n negated (if negated then { d with off := f :: d.off } else { d with on := f :: d.on })
      | none => failure

def isNameChar (first : Bool) (c : Char) : Bool :=
  if first then c = '_' || isAlphabeticCode c.toNat
  else c = '_' || c = '.' || c = '[' || c = ']' || isAlphanumeric c

/-- Reads the name of a group up to the angle bracket. No two groups share a name. -/
def groupName : Read Unit := do
  let s ← get
  let name := s.rest.takeWhile (· != '>')
  guard ((s.rest.dropWhile (· != '>')).head? = some '>')
  match name with
  | [] => failure
  | c :: cs => guard (isNameChar true c && cs.all (isNameChar false))
  guard (name ∉ s.names)
  set { s with rest := (s.rest.dropWhile (· != '>')).tail, names := name :: s.names }

/-- What an opening parenthesis begins. -/
inductive Opening where
  /-- Flags for the rest of the group outside. -/
  | flags (d : FlagChange)
  /-- A group with flags of its own. -/
  | group (d : FlagChange)

/-- Reads an opening parenthesis and what belongs to it. Conditions that look ahead or back by a
    pattern are refused. -/
def opening : Read Opening := do
  bump
  skipSpace
  let rest := (← get).rest
  if ["?=", "?!", "?<=", "?<!"].any fun mark : String => mark.toList.isPrefixOf rest then
    failure
  else if (← takeIf "?P<") then
    groupName
    return .group {}
  else if (← takeIf "?<") then
    groupName
    return .group {}
  else if (← takeIf "?") then
    let d ← flagChange ((← get).rest.length + 1) false {}
    if (← peek) = ')' then
      bump
      guard (d.on ≠ [] || d.off ≠ [])
      return .flags d
    else
      bump
      return .group d
  else return .group {}

/-! ### Patterns -/

/-- The sequence of the given parts, last part first. -/
def sequence : List PatternExpr → PatternExpr
  | [] => .empty
  | [e] => e
  | e :: rest => .seq (sequence rest) e

def addBranch (before : Option PatternExpr) (parts : List PatternExpr) : PatternExpr :=
  match before with
  | some e => .alt e (sequence parts)
  | none => sequence parts

/-- Repeats the last part. There has to be one, and flags are none. -/
def repeatLast (least : Nat) (most : Option Nat) : List PatternExpr → Read (List PatternExpr)
  | [] | .flags _ :: _ | .empty :: _ => failure
  | e :: rest => return .rep e least most :: rest

/-- Reads alternatives up to the end or a closing parenthesis, which is left unread. `before` holds the
    alternatives read so far and `parts` the parts of the current one, last part first. Each call takes
    a character, so `fuel` is the length of the text. -/
def alternatives (fuel : Nat) (before : Option PatternExpr) (parts : List PatternExpr) :
    Read PatternExpr :=
  match fuel with
  | 0 => failure
  | n + 1 => do
    skipSpace
    match ← peek? with
    | none | some ')' => return addBranch before parts
    | some '|' => do
      bump
      alternatives n (some (addBranch before parts)) []
    | some '(' => do
      let spaced := (← get).spaced
      match ← opening with
      | .flags d =>
        modify fun s => { s with spaced := d.apply .spaced s.spaced }
        alternatives n before (.flags d :: parts)
      | .group d =>
        modify fun s => { s with spaced := d.apply .spaced s.spaced }
        let e ← alternatives n none []
        guard ((← peek) = ')')
        modify fun s => { s with spaced }
        bump
        alternatives n before (.group d e :: parts)
    | some '[' => do
      let e ← bracket n
      alternatives n before (.class_ e :: parts)
    | some '?' => do
      bump
      lazyMark
      alternatives n before (← repeatLast 0 (some 1) parts)
    | some '*' => do
      bump
      lazyMark
      alternatives n before (← repeatLast 0 none parts)
    | some '+' => do
      bump
      lazyMark
      alternatives n before (← repeatLast 1 none parts)
    | some '{' => do
      let (least, most) ← bounds
      alternatives n before (← repeatLast least most parts)
    | some '\\' => do
      let e ← escape
      alternatives n before (e :: parts)
    | some '.' => do
      bump
      alternatives n before (.dot :: parts)
    | some '^' => do
      bump
      alternatives n before (.look .lineStart :: parts)
    | some '$' => do
      bump
      alternatives n before (.look .lineEnd :: parts)
    | some c => do
      bump
      alternatives n before (.char { char := c } :: parts)

end Read

/-- How deep a pattern may be nested. -/
def maxDepth : Nat := 250

def parse? (pattern : Text) : Option PatternExpr := do
  let (e, s) ← (Read.alternatives (pattern.length + 1) none []).run { rest := pattern }
  guard s.rest.isEmpty
  guard (e.depth .none ≤ maxDepth)
  return e

end PatternExpr
end PluginManual

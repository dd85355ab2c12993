import PluginManual.Toml.Literal
import PluginManual.Text.Position

/-! Reading TOML. A file is a list of lines: headers of tables, and keys with values. Values that span
    several lines are texts between three quotation marks, and arrays. -/

namespace PluginManual
namespace Toml

/-! ### Characters -/

/-- Can the character stand in a comment and, if it has no meaning there, in a text? -/
def isPlain (c : Char) : Bool := c = '\t' || (' ' ≤ c && c ≤ '~') || 0x80 ≤ c.toNat

/-- Can the character stand in a key without quotation marks? -/
def isBareKeyChar (c : Char) : Bool := c.isAlphanum || c = '_' || c = '-'

/-- Can the character stand in a number, a date, a time or a truth value? -/
def isLiteralChar (c : Char) : Bool := isBareKeyChar c || c = '+' || c = '.' || c = ':'

def afterNewline? : Text → Option Text
  | '\n' :: s => some s
  | '\r' :: '\n' :: s => some s
  | _ => none

/-! ### Texts in quotation marks -/

/-- Reads what follows a backslash: the character that is meant. -/
def escape? : Text → Option (Char × Text)
  | 'b' :: s => some ('\x08', s)
  | 't' :: s => some ('\t', s)
  | 'n' :: s => some ('\n', s)
  | 'f' :: s => some ('\x0c', s)
  | 'r' :: s => some ('\r', s)
  | '"' :: s => some ('"', s)
  | '\\' :: s => some ('\\', s)
  | 'u' :: s => ofCode 4 s
  | 'U' :: s => ofCode 8 s
  | _ => none
where
  /-- Reads the code point of a character. -/
  ofCode (digits : Nat) (s : Text) : Option (Char × Text) := do
    guard (digits ≤ s.length)
    let n ← Text.hex? (s.take digits)
    guard n.isValidChar
    return (Char.ofNat n, s.drop digits)

/-- Reads a text up to the quotation mark that ends it. Each step takes a character, so `fuel` is the
    length of the text. -/
def basicText? (fuel : Nat) (s : Text) : Option (Text × Text) :=
  match fuel, s with
  | _, '"' :: s => some ([], s)
  | n + 1, '\\' :: s => do
    let (c, s) ← escape? s
    let (t, s) ← basicText? n s
    return (c :: t, s)
  | n + 1, c :: s => do
    guard (isPlain c)
    let (t, s) ← basicText? n s
    return (c :: t, s)
  | _, _ => none

/-- Reads a text without escapes up to the apostrophe that ends it. -/
def rawText? : Text → Option (Text × Text)
  | [] => none
  | c :: s =>
    if c = '\x27' then some ([], s)
    else if isPlain c then (rawText? s).map fun (t, rest) => (c :: t, rest)
    else none

/-- Reads what follows three marks at the end of a text of several lines. Up to two more of them belong
    to the text. -/
def closing (mark : Char) (s : Text) : Text × Text :=
  let extra := min 2 (s.takeWhile (· = mark)).length
  (List.replicate extra mark, s.drop extra)

def threeMarks? (mark : Char) : Text → Option Text
  | a :: b :: c :: s => if a = mark ∧ b = mark ∧ c = mark then some s else none
  | _ => none

/-- The text without white space and line ends at its beginning. -/
def skipLines : Text → Text
  | [] => []
  | '\r' :: '\n' :: s => skipLines s
  | c :: s => if c = ' ' ∨ c = '\t' ∨ c = '\n' then skipLines s else c :: s

/-- Reads a text of several lines. A backslash at the end of a line takes away the line end and all white
    space after it. -/
def longBasicText? (fuel : Nat) (s : Text) : Option (Text × Text) :=
  match fuel with
  | 0 => none
  | n + 1 =>
    match threeMarks? '"' s with
    | some rest => some (closing '"' rest)
    | none =>
      match afterNewline? s, s with
      | some rest, _ => (longBasicText? n rest).map fun (t, rest) => ('\n' :: t, rest)
      | none, '\\' :: rest =>
        let blanks := rest.dropWhile fun c => c = ' ' || c = '\t'
        if (afterNewline? blanks).isSome then longBasicText? n (skipLines blanks)
        else do
          let (c, rest) ← escape? rest
          let (t, rest) ← longBasicText? n rest
          return (c :: t, rest)
      | none, c :: rest => do
        guard (isPlain c)
        let (t, rest) ← longBasicText? n rest
        return (c :: t, rest)
      | none, [] => none

/-- Reads a text of several lines without escapes. -/
def longRawText? (fuel : Nat) (s : Text) : Option (Text × Text) :=
  match fuel with
  | 0 => none
  | n + 1 =>
    match threeMarks? '\x27' s with
    | some rest => some (closing '\x27' rest)
    | none =>
      match afterNewline? s, s with
      | some rest, _ => (longRawText? n rest).map fun (t, rest) => ('\n' :: t, rest)
      | none, c :: rest => do
        guard (isPlain c)
        let (t, rest) ← longRawText? n rest
        return (c :: t, rest)
      | none, [] => none

/-! ### The reader -/

abbrev Read := StateT Text Option

namespace Read

def peek? : Read (Option Char) := do return (← get).head?

/-- Drops `word` if it comes next, and tells whether it did. -/
def takeIf (word : String) : Read Bool := do
  match word.toList.isPrefixOf? (← get) with
  | some rest => set rest; return true
  | none => return false

/-- Drops `word`, which must come next. -/
def expect (word : String) : Read Unit := do guard (← takeIf word)

def takeWhile (p : Char → Bool) : Read Text := do
  let s ← get
  set (s.dropWhile p)
  return s.takeWhile p

def skipBlanks : Read Unit := do
  let _ ← takeWhile fun c => c = ' ' || c = '\t'

def skipComment : Read Unit := do
  if (← peek?) = some '#' then
    let _ ← takeWhile isPlain

/-- Skips a line end, if one comes next, and tells whether it did. -/
def newline : Read Bool := do
  match afterNewline? (← get) with
  | some rest => set rest; return true
  | none => return false

/-- Skips what may stand at the end of a line, and the end of the line. -/
def endLine : Read Unit := do
  skipBlanks
  skipComment
  unless ← newline do guard (← get).isEmpty

/-- Skips white space, line ends and comments. -/
def skipSpace : Nat → Read Unit
  | 0 => return ()
  | n + 1 => do
    skipBlanks
    skipComment
    if ← newline then skipSpace n

/-- Skips white space, line ends and comments, however many. -/
def skipAllSpace : Read Unit := do skipSpace ((← get).length + 1)

/-! ### Texts and keys -/

def readWith {α : Type} (f : Text → Option (α × Text)) : Read α := fun s => f s

/-- Reads a text of one line in quotation marks or apostrophes. -/
def shortText : Read Text := do
  if ← takeIf "\"" then readWith fun s => basicText? (s.length + 1) s
  else
    expect "'"
    readWith rawText?

/-- Reads any text. A line end right after the three marks does not count. -/
def anyText : Read Text := do
  if ← takeIf "\"\"\"" then
    let _ ← newline
    readWith fun s => longBasicText? (s.length + 1) s
  else if ← takeIf "'''" then
    let _ ← newline
    readWith fun s => longRawText? (s.length + 1) s
  else shortText

def simpleKey : Read Text := do
  match ← peek? with
  | some '"' | some '\x27' => shortText
  | _ =>
    let key ← takeWhile isBareKeyChar
    guard !key.isEmpty
    return key

/-- The least number of parts of a key that are too many, and the least depth of values that is too deep. -/
def maxDepth : Nat := 80

def keyParts : Nat → Read (List Text)
  | 0 => failure
  | n + 1 => do
    skipBlanks
    let part ← simpleKey
    skipBlanks
    if ← takeIf "." then return part :: (← keyParts n) else return [part]

/-- Reads a key: parts with dots between them. -/
def key : Read (List Text) := do
  let parts ← keyParts ((← get).length + 1)
  guard (parts.length < maxDepth)
  return parts

/-! ### Values -/

/-- Reads a number, a date, a time or a truth value. A date and a time may have a space between them. -/
def literal : Read Toml := do
  let word ← takeWhile isLiteralChar
  let rest ← get
  match rest with
  | ' ' :: c :: _ =>
    if isDate word && c.isDigit then
      set rest.tail
      let time ← takeWhile isLiteralChar
      StateT.lift (ofLiteral? (word ++ ' ' :: time))
    else StateT.lift (ofLiteral? word)
  | _ => StateT.lift (ofLiteral? word)

/-- Reads the values of an array up to its closing bracket. -/
def arrayItems (item : Read Toml) : Nat → Read (List Toml)
  | 0 => failure
  | n + 1 => do
    skipAllSpace
    if ← takeIf "]" then return []
    let v ← item
    skipAllSpace
    if ← takeIf "," then return v :: (← arrayItems item n)
    expect "]"
    return [v]

def assignment (value : Read Toml) : Read (List Text × Toml) := do
  let path ← key
  expect "="
  skipBlanks
  return (path, ← value)

/-- Reads the entries of a table in braces up to its closing brace, after those that are there. -/
def inlineEntries (value : Read Toml) : Nat → Entries → Read Entries
  | 0, _ => failure
  | n + 1, es => do
    let (path, v) ← assignment value
    let es ← StateT.lift (assignInline? path v es)
    skipBlanks
    if ← takeIf "," then inlineEntries value n es
    else
      expect "\x7d"
      return es

/-- Reads a value. Arrays and tables may be nested to a depth below `depth`. -/
def value : Nat → Read Toml
  | 0 => failure
  | depth + 1 => do
    match ← peek? with
    | some '"' | some '\x27' => return .string (← anyText)
    | some '[' =>
      guard (depth != 0)
      expect "["
      return .array (← arrayItems (value depth) ((← get).length + 1))
    | some '\x7b' =>
      guard (depth != 0)
      expect "\x7b"
      skipBlanks
      if ← takeIf "\x7d" then return .table .inline []
      return .table .inline (← inlineEntries (value depth) ((← get).length + 1) [])
    | _ => literal

/-! ### Lines -/

def statement : Read Statement := do
  if ← takeIf "[[" then
    let path ← key
    expect "]]"
    endLine
    return .arrayHeader path
  else if ← takeIf "[" then
    let path ← key
    expect "]"
    endLine
    return .header path
  else
    let (path, v) ← assignment (value maxDepth)
    endLine
    return .assignment path v

end Read

/-! ### Files -/

/-- Reads the rest of a file. Returns what is left where a line is not what it should be. -/
def readLines : Nat → Draft → Text → Except Text Entries
  | 0, _, s => .error s
  | n + 1, d, s =>
    match (Read.skipAllSpace).run s with
    | some (_, []) => .ok d.root
    | some (_, s) =>
      match (Read.statement).run s with
      | some (line, rest) =>
        match d.add? line with
        | some d => readLines n d rest
        | none => .error s
      | none => .error s
    | none => .error s

/-- Reads a file. Of a file that is not TOML the position of the first wrong line is returned. -/
def ofText (s : Text) : Except TextPosition Entries :=
  let body := match s with
    | '\ufeff' :: rest => rest
    | _ => s
  match readLines (body.length + 1) {} body with
  | .ok es => .ok es
  | .error left => .error (TextPosition.after (s.take (s.length - left.length)))

end Toml
end PluginManual

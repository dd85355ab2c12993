import PluginManual.Text.CodeRange

/-! Blank characters, and the cuts that are made at them. Blank is the Unicode property
    `White_Space`; a narrower set, the blanks of a line in ASCII, has its own name. -/

namespace PluginManual

/-- The 25 code points with the property `White_Space`. -/
def blankRanges : List CodeRange :=
  [⟨0x09, 0x0D⟩, .single 0x20, .single 0x85, .single 0xA0, .single 0x1680, ⟨0x2000, 0x200A⟩,
   ⟨0x2028, 0x2029⟩, .single 0x202F, .single 0x205F, .single 0x3000]

/-- Is the character white space? -/
def isBlank (c : Char) : Bool := CodeRange.covers blankRanges c.toNat

/-- Is the character one of the five blanks of ASCII text: space, tab, line feed, form feed and
    carriage return? The vertical tab is not among them. -/
def isAsciiBlank (c : Char) : Bool :=
  c == ' ' || c == '\t' || c == '\n' || c == '\x0c' || c == '\r'

def isSpaceOrTab (c : Char) : Bool := c == ' ' || c == '\t'

namespace Text

def trimStart (s : Text) : Text := s.dropWhile isBlank

def trimEnd (s : Text) : Text := dropEndWhile isBlank s

def trim (s : Text) : Text := s.trimStart.trimEnd

def isBlank (s : Text) : Bool := s.all PluginManual.isBlank

/-- The first word of a text and what follows it, with the blanks around the word gone. -/
def splitWord (s : Text) : Text × Text :=
  let s := s.trimStart
  (s.takeWhile (!PluginManual.isBlank ·), trimStart (s.dropWhile (!PluginManual.isBlank ·)))

/-- The words of a text: its longest runs without a blank. -/
def words (s : Text) : List Text := go [] s
where
  /-- The words that follow when `word` is the word begun, last character first. -/
  go (word : Text) : Text → List Text
    | [] => if word.isEmpty then [] else [word.reverse]
    | c :: s =>
      if PluginManual.isBlank c then
        if word.isEmpty then go [] s else word.reverse :: go [] s
      else go (c :: word) s

end Text

theorem ascending_blankRanges : CodeRange.Ascending blankRanges := by decide

theorem isBlank_of_isAsciiBlank {c : Char} (h : isAsciiBlank c = true) : isBlank c = true := by
  simp only [isAsciiBlank, Bool.or_eq_true, beq_iff_eq] at h
  rcases h with (((rfl | rfl) | rfl) | rfl) | rfl <;> decide

theorem isAsciiBlank_of_isSpaceOrTab {c : Char} (h : isSpaceOrTab c = true) : isAsciiBlank c = true := by
  simp only [isSpaceOrTab, Bool.or_eq_true, beq_iff_eq] at h
  rcases h with rfl | rfl <;> decide

end PluginManual

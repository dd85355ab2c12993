import PluginManual.Document.Region

/-! Lines as a text has them. A whole line has one line feed, at its end; in a text all lines are
    whole, except that the last one may have no line feed at all. New text for a region is made of
    whole lines, so the lines of a document stay the lines of its text. -/

namespace PluginManual
namespace Text

/-! ### Whole lines -/

/-- One line with its line feed. -/
def IsWhole (line : Text) : Prop := ∃ s : Text, '\n' ∉ s ∧ line = s ++ ['\n']

theorem isWhole_append {s : Text} (h : '\n' ∉ s) : IsWhole (s ++ ['\n']) := ⟨s, h, rfl⟩

theorem isWhole_append_feed_iff {s : Text} : IsWhole (s ++ ['\n']) ↔ '\n' ∉ s := by
  constructor
  · rintro ⟨t, ht, hst⟩
    exact List.append_cancel_right hst ▸ ht
  · exact isWhole_append

theorem isWhole_feed : IsWhole ['\n'] := isWhole_append (s := []) (by simp)

theorem IsWhole.getLast? {line : Text} (h : IsWhole line) : line.getLast? = some '\n' := by
  obtain ⟨s, -, rfl⟩ := h
  simp

@[simp] theorem lines_nil : lines [] = [] := rfl

theorem lines_append_feed {s : Text} (h : '\n' ∉ s) (t : Text) :
    lines (s ++ '\n' :: t) = (s ++ ['\n']) :: lines t := by
  induction s with
  | nil => simp [lines]
  | cons c s ih =>
    obtain ⟨hc, hs⟩ : '\n' ≠ c ∧ '\n' ∉ s := by simpa using h
    rw [List.cons_append, lines, if_neg (Ne.symm hc), ih hs]
    rfl

theorem lines_append_of_isWhole {line : Text} (h : IsWhole line) (t : Text) :
    lines (line ++ t) = line :: lines t := by
  obtain ⟨s, hs, rfl⟩ := h
  rw [List.append_assoc, List.singleton_append, lines_append_feed hs]

theorem lines_flatten_append {ls : List Text} (h : ∀ l ∈ ls, IsWhole l) (t : Text) :
    lines (ls.flatten ++ t) = ls ++ lines t := by
  induction ls with
  | nil => rfl
  | cons l ls ih =>
    rw [List.flatten_cons, List.append_assoc, lines_append_of_isWhole (h l List.mem_cons_self),
      ih fun k hk => h k (List.mem_cons_of_mem l hk)]
    rfl

theorem lines_flatten {ls : List Text} (h : ∀ l ∈ ls, IsWhole l) : lines ls.flatten = ls := by
  have := lines_flatten_append h []
  simpa using this

theorem lines_of_not_mem {s : Text} (hne : s ≠ []) (h : '\n' ∉ s) : lines s = [s] := by
  induction s with
  | nil => exact absurd rfl hne
  | cons c s ih =>
    obtain ⟨hc, hs⟩ : '\n' ≠ c ∧ '\n' ∉ s := by simpa using h
    rw [lines, if_neg (Ne.symm hc)]
    cases s with
    | nil => rfl
    | cons d s => rw [ih (by simp) hs]

/-- What holds of the text without lines, of a line without line feed, and of a text that a whole line
    is put before, holds of every text. -/
@[elab_as_elim]
theorem lines_induction {motive : Text → Prop} (nil : motive [])
    (last : ∀ s, s ≠ [] → '\n' ∉ s → motive s)
    (append : ∀ line t, IsWhole line → motive t → motive (line ++ t)) (s : Text) : motive s := by
  by_cases hmem : '\n' ∈ s
  · obtain ⟨a, t, hs, ha⟩ := List.eq_append_cons_of_mem hmem
    have hlen : t.length < s.length := by
      rw [hs, List.length_append, List.length_cons]
      omega
    have hst : s = (a ++ ['\n']) ++ t := by simp [hs]
    rw [hst]
    exact append _ t (isWhole_append ha) (lines_induction nil last append t)
  · by_cases hs : s = []
    · exact hs ▸ nil
    · exact last s hs hmem
termination_by s.length

/-! ### The lines of a text -/

/-- The list is that of the lines of a text. -/
def AreLines (ls : List Text) : Prop := lines ls.flatten = ls

theorem areLines_lines (s : Text) : AreLines (lines s) := by
  rw [AreLines, flatten_lines]

theorem areLines_cons_iff {l : Text} {ls : List Text} :
    AreLines (l :: ls) ↔ (IsWhole l ∧ AreLines ls) ∨ (ls = [] ∧ l ≠ [] ∧ '\n' ∉ l) := by
  constructor
  · intro h
    -- By cases on the text, since its lines tell how it begins.
    generalize hs : (l :: ls).flatten = s
    rw [AreLines, hs] at h
    cases s using lines_induction with
    | nil => cases h
    | last s hne hmem =>
      rw [lines_of_not_mem hne hmem] at h
      obtain ⟨rfl, rfl⟩ := List.cons.inj h
      exact Or.inr ⟨rfl, hne, hmem⟩
    | append line t hline _ =>
      rw [lines_append_of_isWhole hline] at h
      obtain ⟨rfl, rfl⟩ := List.cons.inj h
      exact Or.inl ⟨hline, areLines_lines t⟩
  · rintro (⟨hl, hls⟩ | ⟨rfl, hne, hmem⟩)
    · rw [AreLines, List.flatten_cons, lines_append_of_isWhole hl, hls]
    · rw [AreLines, List.flatten_cons, List.flatten_nil, List.append_nil, lines_of_not_mem hne hmem]

/-- All lines of a text but the last are whole. -/
theorem AreLines.isWhole {as bs : List Text} (h : AreLines (as ++ bs)) (hbs : bs ≠ []) :
    ∀ l ∈ as, IsWhole l := by
  induction as with
  | nil => intro l hl; cases hl
  | cons a as ih =>
    rcases areLines_cons_iff.mp h with ⟨ha, has⟩ | ⟨hnil, -⟩
    · intro l hl
      rcases List.mem_cons.mp hl with rfl | hl
      · exact ha
      · exact ih has l hl
    · exact absurd (List.append_eq_nil_iff.mp hnil).2 hbs

theorem AreLines.right {as bs : List Text} (h : AreLines (as ++ bs)) : AreLines bs := by
  induction as with
  | nil => exact h
  | cons a as ih =>
    rcases areLines_cons_iff.mp h with ⟨-, has⟩ | ⟨hnil, -⟩
    · exact ih has
    · rw [(List.append_eq_nil_iff.mp hnil).2]
      rfl

theorem AreLines.append {as bs : List Text} (has : ∀ l ∈ as, IsWhole l) (hbs : AreLines bs) :
    AreLines (as ++ bs) := by
  rw [AreLines, List.flatten_append, lines_flatten_append has, hbs]

/-- A text is known by its lines. -/
theorem AreLines.flatten_inj {as bs : List Text} (has : AreLines as) (hbs : AreLines bs) :
    as.flatten = bs.flatten ↔ as = bs := by
  constructor
  · intro h
    rw [← has, ← hbs, h]
  · rintro rfl
    rfl

theorem isWhole_of_mem_lines {s : Text} (h : s.getLast? = some '\n') : ∀ l ∈ lines s, IsWhole l := by
  induction s using lines_induction with
  | nil => cases h
  | last s _ hmem => exact absurd (List.mem_of_getLast? h) hmem
  | append line t hline ih =>
    intro l hl
    rw [lines_append_of_isWhole hline] at hl
    rcases List.mem_cons.mp hl with rfl | hl
    · exact hline
    · have ht : t ≠ [] := by
        rintro rfl
        cases hl
      rw [List.getLast?_append, List.getLast?_eq_some_getLast ht, Option.some_or,
        ← List.getLast?_eq_some_getLast ht] at h
      exact ih h l hl

theorem lines_append {a : Text} (h : a = [] ∨ a.getLast? = some '\n') (b : Text) : lines (a ++ b) = lines a ++ lines b := by
  have hwhole : ∀ l ∈ lines a, IsWhole l := by
    rcases h with rfl | hlast
    · simp
    · exact isWhole_of_mem_lines hlast
  have hlines := lines_flatten_append hwhole b
  rwa [flatten_lines] at hlines

end Text

namespace Region
open Text

/-! ### New lines -/

theorem terminate_of_getLast? {s : Text} (h : s.getLast? = some '\n') : terminate s = s := if_pos h

theorem terminate_of_not_mem {s : Text} (h : '\n' ∉ s) : terminate s = s ++ ['\n'] :=
  if_neg fun hl => h (List.mem_of_getLast? hl)

theorem terminate_append (line : Text) {t : Text} (h : t ≠ []) : terminate (line ++ t) = line ++ terminate t := by
  have hlast : (line ++ t).getLast? = t.getLast? := by
    rw [List.getLast?_append, List.getLast?_eq_some_getLast h, Option.some_or]
  rw [terminate, terminate, hlast]
  split
  · rfl
  · rw [List.append_assoc]

theorem map_terminate_lines {s : Text} (hne : s ≠ []) : (lines s).map terminate = lines (terminate s) := by
  induction s using lines_induction with
  | nil => exact absurd rfl hne
  | last s _ hmem =>
    rw [lines_of_not_mem hne hmem, terminate_of_not_mem hmem, lines_append_feed hmem, List.map_cons,
      terminate_of_not_mem hmem]
    rfl
  | append line t hline ih =>
    rw [lines_append_of_isWhole hline, List.map_cons, terminate_of_getLast? hline.getLast?]
    by_cases ht : t = []
    · rw [ht, List.append_nil, terminate_of_getLast? hline.getLast?]
      have := lines_append_of_isWhole hline []
      simpa using this.symm
    · rw [ih ht, terminate_append line ht, lines_append_of_isWhole hline]

/-- An element of new text makes the lines that it has once it ends with a line feed. -/
theorem linesOfElement_eq (s : Text) : linesOfElement s = lines (terminate s) := by
  rw [linesOfElement]
  split
  · next h => subst h; rfl
  · next h => rw [map_terminate_lines h]

theorem getLast?_terminate (s : Text) : (terminate s).getLast? = some '\n' := by
  rw [terminate]
  split
  · assumption
  · simp

theorem isWhole_of_mem_normalLines {new : List Text} : ∀ l ∈ normalLines new, IsWhole l := by
  intro l hl
  obtain ⟨s, -, hl⟩ := List.mem_flatMap.mp hl
  rw [linesOfElement_eq] at hl
  exact isWhole_of_mem_lines (getLast?_terminate s) l hl

/-- New lines are the lines of the text that the elements make, each with a line feed at its end. -/
theorem normalLines_eq_lines (new : List Text) : normalLines new = lines (new.map terminate).flatten := by
  induction new with
  | nil => rfl
  | cons s new ih =>
    rw [List.map_cons, List.flatten_cons, lines_append (.inr (getLast?_terminate s)), ← ih, ← linesOfElement_eq]
    rfl

/-- Whole lines are stored as they are. -/
theorem normalLines_of_isWhole {new : List Text} (h : ∀ l ∈ new, IsWhole l) : normalLines new = new := by
  have hmap : new.map terminate = new.map id :=
    List.map_congr_left fun l hl => terminate_of_getLast? (h l hl).getLast?
  rw [normalLines_eq_lines, hmap, List.map_id, lines_flatten h]

example : normalLines ["a\nb".toList, [], "c\r\n".toList] =
    ["a\n".toList, "b\n".toList, "\n".toList, "c\r\n".toList] := by decide

end Region
end PluginManual

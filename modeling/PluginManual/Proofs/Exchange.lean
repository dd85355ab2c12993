import PluginManual.Proofs.Splice

/-! Two regions of a document, the second of which begins where the first ends or after that. Neither
    replacement touches what the search for the other region looks at, apart from the new lines; so the two
    can be made in either order, even if one line closes the first region and opens the second. -/

namespace PluginManual
namespace Enclosure

/-- Lines with two enclosures among them. The lines from the end of the first to the beginning of the second
    are at least one: it may close the one and open the other. -/
structure Pair where
  before : List Text
  opening : Text
  first : List Text
  between : List Text
  second : List Text
  closing : Text
  after : List Text
  between_ne_nil : between ≠ []

namespace Pair

variable {opens closes : Text → Bool} {m : Multiplicity} {new new' : List Text}

def lines (q : Pair) : List Text :=
  q.before ++ q.opening :: (q.first ++ (q.between ++ (q.second ++ q.closing :: q.after)))

def left (q : Pair) : Enclosure :=
  ⟨q.before, q.opening, q.first, q.between.head q.between_ne_nil,
    q.between.tail ++ (q.second ++ q.closing :: q.after)⟩

def right (q : Pair) : Enclosure :=
  ⟨q.before ++ q.opening :: (q.first ++ q.between.dropLast), q.between.getLast q.between_ne_nil, q.second,
    q.closing, q.after⟩

def fillLeft (q : Pair) (new : List Text) : Pair := { q with first := new }

def fillRight (q : Pair) (new : List Text) : Pair := { q with second := new }

theorem lines_left (q : Pair) : q.left.lines = q.lines := by
  have hlines : q.left.lines = q.before ++ q.opening :: (q.first ++
      ((q.between.head q.between_ne_nil :: q.between.tail) ++ (q.second ++ q.closing :: q.after))) := rfl
  rw [hlines, List.cons_head_tail]
  rfl

/-- What stands before the inside of the second enclosure. -/
theorem before_right (q : Pair) :
    q.right.before ++ [q.right.opening] = q.before ++ q.opening :: (q.first ++ q.between) := by
  have hbetween : q.between.dropLast ++ [q.between.getLast q.between_ne_nil] = q.between :=
    List.dropLast_concat_getLast _
  simp only [right]
  rw [List.append_assoc, List.cons_append, List.append_assoc, hbetween]

theorem lines_right (q : Pair) : q.right.lines = q.lines := by
  have hlines : q.right.lines = (q.right.before ++ [q.right.opening]) ++ (q.second ++ q.closing :: q.after) := by
    simp [Enclosure.lines, right]
  rw [hlines, before_right]
  simp [lines]

/-- The lines between are those from the end of the first region to the beginning of the second. -/
theorem drop_take_lines (q : Pair) :
    (q.lines.take (q.right.region.opening + 1)).drop q.left.region.closing = q.between := by
  rw [← lines_right, take_opening, before_right]
  have hlines : q.before ++ q.opening :: (q.first ++ q.between) =
      (q.before ++ q.opening :: q.first) ++ q.between := by
    simp
  rw [hlines]
  exact List.drop_left' (by simp [left, region]; omega)

theorem fill_left (q : Pair) (new : List Text) : q.left.fill new = (q.fillLeft new).left := rfl

theorem fill_right (q : Pair) (new : List Text) : q.right.fill new = (q.fillRight new).right := rfl

/-- Two enclosures of the same lines are such a pair if one does not begin before the other ends. -/
theorem exists_pair {e f : Enclosure} (hl : e.lines = f.lines) (h : e.region.closing ≤ f.region.opening) :
    ∃ q : Pair, q.left = e ∧ q.right = f := by
  obtain ⟨before, opening, first, closing, after⟩ := e
  obtain ⟨before', opening', second, closing', after'⟩ := f
  have hprefix : before ++ opening :: first <+: before' ++ opening' :: (second ++ closing' :: after') :=
    ⟨closing :: after, by simpa [Enclosure.lines] using hl⟩
  have hlength : (before ++ opening :: first).length ≤ before'.length := by
    simp only [region] at h
    simp only [List.length_append, List.length_cons]
    omega
  -- The second opening line stands after some lines that begin with the first closing line, or it is that.
  obtain ⟨mid, rfl⟩ := List.prefix_of_prefix_length_le hprefix (List.prefix_append _ _) hlength
  have hrest : closing :: after = mid ++ opening' :: (second ++ closing' :: after') := by
    simpa [Enclosure.lines] using hl
  refine ⟨⟨before, opening, first, mid ++ [opening'], second, closing', after', by simp⟩, ?_, by simp [right]⟩
  cases mid with
  | nil =>
    obtain ⟨rfl, rfl⟩ := List.cons.inj hrest
    rfl
  | cons line mid =>
    obtain ⟨rfl, rfl⟩ := List.cons.inj hrest
    simp [left]

/-- New lines in the second region that do not open the first one are not seen by a search for that. -/
theorem found_left {q : Pair} (f : q.left.Found opens closes m) (hnew : ∀ l ∈ new, opens l = false) :
    (q.fillRight new).left.Found opens closes m where
  before := f.before
  opening := f.opening
  inside := f.inside
  closing := f.closing
  single hm l hl := by
    have hsingle := f.single hm
    simp only [left, fillRight, List.mem_append, List.mem_cons] at hl hsingle
    rcases hl with hl | hl | hl | hl | hl
    · exact hsingle l (.inl hl)
    · exact hsingle l (.inr (.inl hl))
    · exact hsingle l (.inr (.inr (.inl hl)))
    · exact hnew l hl
    · exact hsingle l (.inr (.inr (.inr (.inr hl))))

/-- Nor are new lines in the first region that do not open the second one by a search for the second. -/
theorem found_right {q : Pair} (f : q.right.Found opens closes m) (hnew : ∀ l ∈ new, opens l = false) :
    (q.fillLeft new).right.Found opens closes m where
  before l hl := by
    have hbefore := f.before
    simp only [right, fillLeft, List.mem_append, List.mem_cons] at hl hbefore
    rcases hl with hl | hl | hl | hl
    · exact hbefore l (.inl hl)
    · exact hbefore l (.inr (.inl hl))
    · exact hnew l hl
    · exact hbefore l (.inr (.inr (.inr hl)))
  opening := f.opening
  inside := f.inside
  closing := f.closing
  single := f.single

end Pair
end Enclosure

namespace Document

variable {d : Document} {opening opening' closing closing' : Marker} {m m' : Multiplicity} {new new' : List Text}
  {r r' : Region}

theorem replace_of_found {e : Enclosure} (hl : e.lines = d.lines) (f : e.Found opening.isAt closing.isAt m)
    (new : List Text) : d.replace opening closing new m =
      .ok ((e.fill (Region.normalLines new)).region, { d with lines := (e.fill (Region.normalLines new)).lines }) :=
  replace_eq_ok_iff.mpr ⟨e, hl, f, rfl, rfl⟩

/-- Whichever of the two regions is replaced first, both replacements succeed, and the document comes out the
    same. -/
theorem replace_comm (h : d.locate opening closing m = .ok r) (h' : d.locate opening' closing' m' = .ok r')
    (hle : r.closing ≤ r'.opening) (hnew : ∀ l ∈ Region.normalLines new, opening'.isAt l = false)
    (hnew' : ∀ l ∈ Region.normalLines new', opening.isAt l = false) :
    let final := { d with lines := d.lines.take (r.opening + 1) ++ Region.normalLines new ++
      (d.lines.take (r'.opening + 1)).drop r.closing ++ Region.normalLines new' ++ d.lines.drop r'.closing }
    (∃ s₁ d₁ s₂, d.replace opening closing new m = .ok (s₁, d₁) ∧
      d₁.replace opening' closing' new' m' = .ok (s₂, final)) ∧
    ∃ t₁ d₁ t₂, d.replace opening' closing' new' m' = .ok (t₁, d₁) ∧
      d₁.replace opening closing new m = .ok (t₂, final) := by
  obtain ⟨e, hl, rfl, f⟩ := Enclosure.locate_eq_ok_iff.mp (locate_eq_ok_iff.mp h)
  obtain ⟨e', hl', rfl, f'⟩ := Enclosure.locate_eq_ok_iff.mp (locate_eq_ok_iff.mp h')
  obtain ⟨q, rfl, rfl⟩ := Enclosure.Pair.exists_pair (hl.trans hl'.symm) hle
  have hq : q.lines = d.lines := q.lines_left.symm.trans hl
  have hlines : d.lines.take (q.left.region.opening + 1) ++ Region.normalLines new ++
      (d.lines.take (q.right.region.opening + 1)).drop q.left.region.closing ++ Region.normalLines new' ++
      d.lines.drop q.right.region.closing =
        ((q.fillLeft (Region.normalLines new)).fillRight (Region.normalLines new')).lines := by
    have htake := q.left.take_opening
    have hdrop := q.right.drop_closing
    rw [q.lines_left] at htake
    rw [q.lines_right] at hdrop
    rw [← hq, q.drop_take_lines, htake, hdrop]
    simp [Enclosure.Pair.lines, Enclosure.Pair.left, Enclosure.Pair.right, Enclosure.Pair.fillLeft,
      Enclosure.Pair.fillRight]
  simp only [hlines]
  constructor
  · have hfirst := replace_of_found hl f new
    have hsecond := replace_of_found (d := { d with lines := (q.fillLeft (Region.normalLines new)).lines })
      (Enclosure.Pair.lines_right _) (Enclosure.Pair.found_right f' hnew) new'
    rw [Enclosure.Pair.fill_left, Enclosure.Pair.lines_left] at hfirst
    rw [Enclosure.Pair.fill_right, Enclosure.Pair.lines_right] at hsecond
    exact ⟨_, _, _, hfirst, hsecond⟩
  · have hfirst := replace_of_found hl' f' new'
    have hsecond := replace_of_found (d := { d with lines := (q.fillRight (Region.normalLines new')).lines })
      (Enclosure.Pair.lines_left _) (Enclosure.Pair.found_left f hnew') new
    rw [Enclosure.Pair.fill_right, Enclosure.Pair.lines_right] at hfirst
    rw [Enclosure.Pair.fill_left, Enclosure.Pair.lines_left] at hsecond
    exact ⟨_, _, _, hfirst, hsecond⟩

/-- One line closes the first region and opens the second, which reaches to the end of a text without a last
    line feed; and each region is given a line that closes the other one. -/
theorem replace_comm_of_shared_line :
    let d : Document := ⟨⟨"a.md"⟩, ["<\n".toList, "old\n".toList, "-\n".toList, ">".toList]⟩
    let final : Document := ⟨⟨"a.md"⟩, ["<\n".toList, ">\n".toList, "-\n".toList, "-\n".toList, ">".toList]⟩
    d.locate (.exactly "<") (.exactly "-") .unique = .ok ⟨0, 2⟩ ∧
      d.locate (.exactly "-") (.exactly ">") .unique = .ok ⟨2, 3⟩ ∧
      (∃ s₁ d₁ s₂, d.replace (.exactly "<") (.exactly "-") [">"] .unique = .ok (s₁, d₁) ∧
        d₁.replace (.exactly "-") (.exactly ">") ["-"] .unique = .ok (s₂, final)) ∧
      ∃ t₁ d₁ t₂, d.replace (.exactly "-") (.exactly ">") ["-"] .unique = .ok (t₁, d₁) ∧
        d₁.replace (.exactly "<") (.exactly "-") [">"] .unique = .ok (t₂, final) := by
  intro d final
  have h : d.locate (.exactly "<") (.exactly "-") .unique = .ok ⟨0, 2⟩ := rfl
  have h' : d.locate (.exactly "-") (.exactly ">") .unique = .ok ⟨2, 3⟩ := rfl
  exact ⟨h, h', replace_comm h h' (by decide) (by decide) (by decide)⟩

end Document
end PluginManual

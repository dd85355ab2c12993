import PluginManual.Proofs.Lines

/-! Lines cut at the two marker lines of a region. A search that succeeds is such a cut in which the
    markers are the first that can be; replacing the lines inside changes one part of the cut and
    leaves the four others alone. So what is found after a replacement depends on the new lines only. -/

namespace PluginManual

/-- Lines with two marked lines among them. -/
structure Enclosure where
  before : List Text
  opening : Text
  inside : List Text
  closing : Text
  after : List Text
deriving DecidableEq, Repr

namespace Enclosure

variable {opens closes : Text → Bool} {m : Multiplicity}

def lines (e : Enclosure) : List Text := e.before ++ e.opening :: (e.inside ++ e.closing :: e.after)

/-- Where the marked lines are. -/
def region (e : Enclosure) : Region := ⟨e.before.length, e.before.length + 1 + e.inside.length⟩

def fill (e : Enclosure) (new : List Text) : Enclosure := { e with inside := new }

@[simp] theorem fill_inside (e : Enclosure) (new : List Text) : (e.fill new).inside = new := rfl
@[simp] theorem fill_before (e : Enclosure) (new : List Text) : (e.fill new).before = e.before := rfl
@[simp] theorem fill_opening (e : Enclosure) (new : List Text) : (e.fill new).opening = e.opening := rfl
@[simp] theorem fill_closing (e : Enclosure) (new : List Text) : (e.fill new).closing = e.closing := rfl
@[simp] theorem fill_after (e : Enclosure) (new : List Text) : (e.fill new).after = e.after := rfl
@[simp] theorem fill_fill (e : Enclosure) (new new' : List Text) : (e.fill new).fill new' = e.fill new' := rfl
@[simp] theorem fill_self (e : Enclosure) : e.fill e.inside = e := rfl

/-- The marked lines are those that a search for the region finds. -/
structure Found (opens closes : Text → Bool) (m : Multiplicity) (e : Enclosure) : Prop where
  before : ∀ l ∈ e.before, opens l = false
  opening : opens e.opening = true
  inside : ∀ l ∈ e.inside, closes l = false
  closing : closes e.closing = true
  single : m = .unique → ∀ l ∈ e.inside ++ e.closing :: e.after, opens l = false

instance (opens closes : Text → Bool) (m : Multiplicity) (e : Enclosure) : Decidable (e.Found opens closes m) :=
  decidable_of_iff ((∀ l ∈ e.before, opens l = false) ∧ opens e.opening = true ∧ (∀ l ∈ e.inside, closes l = false) ∧
      closes e.closing = true ∧ (m = .unique → ∀ l ∈ e.inside ++ e.closing :: e.after, opens l = false))
    ⟨fun ⟨before, opening, inside, closing, single⟩ => ⟨before, opening, inside, closing, single⟩,
      fun h => ⟨h.before, h.opening, h.inside, h.closing, h.single⟩⟩

/-! ### Cuts of the same lines -/

theorem take_opening (e : Enclosure) : e.lines.take (e.region.opening + 1) = e.before ++ [e.opening] := by
  have : e.lines = (e.before ++ [e.opening]) ++ (e.inside ++ e.closing :: e.after) := by simp [lines]
  rw [this]
  exact List.take_left' (by simp [region])

theorem drop_closing (e : Enclosure) : e.lines.drop e.region.closing = e.closing :: e.after := by
  have : e.lines = (e.before ++ e.opening :: e.inside) ++ e.closing :: e.after := by simp [lines]
  rw [this]
  exact List.drop_left' (by simp [region]; omega)

theorem inside_region (e : Enclosure) : e.region.inside e.lines = e.inside := by
  have : e.lines = ((e.before ++ [e.opening]) ++ e.inside) ++ e.closing :: e.after := by simp [lines]
  rw [Region.inside, this, List.take_left' (by simp [region]; omega), List.drop_left' (by simp [region])]

theorem splice_region (e : Enclosure) (new : List Text) :
    e.region.splice new e.lines = (e.fill new).lines := by
  rw [Region.splice, take_opening, drop_closing]
  simp [lines]

theorem getElem?_closing (e : Enclosure) : e.lines[e.region.closing]? = some e.closing := by
  rw [← List.head?_drop, drop_closing]
  rfl

theorem isWhole_of_mem_inside {e : Enclosure} (h : Text.AreLines e.lines) : ∀ l ∈ e.inside, Text.IsWhole l := by
  have : e.lines = (e.before ++ e.opening :: e.inside) ++ e.closing :: e.after := by simp [lines]
  rw [this] at h
  intro l hl
  exact h.isWhole (by simp) l (by simp [hl])

/-- A cut is known by the lines and the places of the marked ones. -/
theorem eq_of_region {e e' : Enclosure} (hl : e.lines = e'.lines) (hr : e.region = e'.region) : e = e' := by
  have hb := take_opening e
  have ha := drop_closing e
  have hi := inside_region e
  rw [hl, hr, take_opening] at hb
  rw [hl, hr, drop_closing] at ha
  rw [hl, hr, inside_region] at hi
  obtain ⟨hb, ho⟩ := List.append_inj' hb rfl
  obtain ⟨hc, ha⟩ := List.cons.inj ha
  cases e
  cases e'
  simp_all

/-! ### Searching -/

theorem indicesFrom_eq_nil_iff {α : Type} {p : α → Bool} {i : Nat} {as : List α} :
    Region.indicesFrom p i as = [] ↔ ∀ a ∈ as, p a = false := by
  induction as generalizing i with
  | nil => simp [Region.indicesFrom]
  | cons a as ih =>
    rw [Region.indicesFrom]
    split
    · next h => simp [h]
    · next h => simp [ih, Bool.not_eq_true _ ▸ h]

/-- The first index belongs to the first member that satisfies the condition. -/
theorem indicesFrom_eq_cons_iff {α : Type} {p : α → Bool} {i j : Nat} {as : List α} {more : List Nat} :
    Region.indicesFrom p i as = j :: more ↔
      ∃ xs a ys, as = xs ++ a :: ys ∧ (∀ x ∈ xs, p x = false) ∧ p a = true ∧ j = i + xs.length ∧
        more = Region.indicesFrom p (j + 1) ys := by
  induction as generalizing i with
  | nil => simp [Region.indicesFrom]
  | cons a as ih =>
    rw [Region.indicesFrom]
    split
    · next ha =>
      -- The first member satisfies the condition, so nothing can stand before it.
      constructor
      · intro h
        obtain ⟨rfl, rfl⟩ := List.cons.inj h
        exact ⟨[], a, as, rfl, by simp, ha, rfl, rfl⟩
      · rintro ⟨xs, b, ys, has, hxs, -, rfl, rfl⟩
        cases xs with
        | nil =>
          obtain ⟨rfl, rfl⟩ := List.cons.inj has
          rfl
        | cons x xs =>
          obtain ⟨rfl, -⟩ := List.cons.inj has
          rw [hxs a List.mem_cons_self] at ha
          cases ha
    · next ha =>
      rw [ih]
      constructor
      · rintro ⟨xs, b, ys, rfl, hxs, hb, rfl, rfl⟩
        refine ⟨a :: xs, b, ys, rfl, fun x hx => ?_, hb, ?_, rfl⟩
        · rcases List.mem_cons.mp hx with rfl | hx
          · exact Bool.not_eq_true _ ▸ ha
          · exact hxs x hx
        · rw [List.length_cons]
          omega
      · rintro ⟨xs, b, ys, has, hxs, hb, rfl, rfl⟩
        cases xs with
        | nil =>
          obtain ⟨rfl, -⟩ := List.cons.inj has
          exact absurd hb ha
        | cons x xs =>
          obtain ⟨rfl, rfl⟩ := List.cons.inj has
          refine ⟨xs, b, ys, rfl, fun x hx => hxs x (List.mem_cons_of_mem _ hx), hb, ?_, rfl⟩
          rw [List.length_cons]
          omega

theorem indices_lines {e : Enclosure} (hbefore : ∀ l ∈ e.before, opens l = false) (hop : opens e.opening = true) :
    Region.indices opens e.lines =
      e.before.length :: Region.indicesFrom opens (e.before.length + 1) (e.inside ++ e.closing :: e.after) :=
  indicesFrom_eq_cons_iff.mpr ⟨e.before, e.opening, _, rfl, hbefore, hop, by simp, rfl⟩

/-- A search succeeds exactly with the cuts whose markers it finds. -/
theorem locate_eq_ok_iff {lines : List Text} {r : Region} :
    Region.locate opens closes m lines = .ok r ↔
      ∃ e : Enclosure, e.lines = lines ∧ e.region = r ∧ e.Found opens closes m := by
  constructor
  · intro h
    unfold Region.locate at h
    split at h
    · cases h
    · next i more hopen =>
      split at h
      · cases h
      · next hm =>
        split at h
        · cases h
        · next j more' hclose =>
          cases h
          obtain ⟨before, opening, rest, rfl, hbefore, hop, hi, hmore⟩ := indicesFrom_eq_cons_iff.mp hopen
          rw [Nat.zero_add] at hi
          subst hi
          -- The end is looked for behind the opening line only.
          have hdrop : (before ++ opening :: rest).drop (before.length + 1) = rest := by
            rw [← List.drop_drop, List.drop_left]
            rfl
          rw [hdrop] at hclose
          obtain ⟨inside, closing, after, rfl, hinside, hcl, rfl, -⟩ := indicesFrom_eq_cons_iff.mp hclose
          refine ⟨⟨before, opening, inside, closing, after⟩, rfl, rfl, hbefore, hop, hinside, hcl, fun hu => ?_⟩
          have hnil : more = [] := Decidable.byContradiction fun hne => hm ⟨hu, hne⟩
          rw [hnil] at hmore
          exact indicesFrom_eq_nil_iff.mp hmore.symm
  · rintro ⟨e, rfl, rfl, f⟩
    have hopen := indices_lines f.before f.opening
    have hdrop : e.lines.drop (e.before.length + 1) = e.inside ++ e.closing :: e.after := by
      rw [lines, ← List.drop_drop, List.drop_left]
      rfl
    have hclose : Region.indicesFrom closes (e.before.length + 1) (e.inside ++ e.closing :: e.after) =
        (e.before.length + 1 + e.inside.length) ::
          Region.indicesFrom closes (e.before.length + 1 + e.inside.length + 1) e.after :=
      indicesFrom_eq_cons_iff.mpr ⟨e.inside, e.closing, e.after, rfl, f.inside, f.closing, rfl, rfl⟩
    have hm : ¬(m = .unique ∧
        Region.indicesFrom opens (e.before.length + 1) (e.inside ++ e.closing :: e.after) ≠ []) :=
      fun h => h.2 (indicesFrom_eq_nil_iff.mpr (f.single h.1))
    unfold Region.locate
    rw [hopen]
    simp only [hm, if_false, hdrop, hclose]
    rfl

/-- One of the cuts of some lines is found, and it is the only one. -/
theorem found_iff {e : Enclosure} :
    e.Found opens closes m ↔ Region.locate opens closes m e.lines = .ok e.region := by
  constructor
  · intro f
    exact locate_eq_ok_iff.mpr ⟨e, rfl, rfl, f⟩
  · intro h
    obtain ⟨e', hl, hr, f⟩ := locate_eq_ok_iff.mp h
    exact eq_of_region hl hr ▸ f

theorem Found.eq {e e' : Enclosure} (f : e.Found opens closes m) (f' : e'.Found opens closes m)
    (hl : e.lines = e'.lines) : e = e' := by
  have h := found_iff.mp f
  rw [hl, found_iff.mp f'] at h
  exact eq_of_region hl (Except.ok.inj h).symm

theorem Found.first {e : Enclosure} (f : e.Found opens closes m) : e.Found opens closes .first :=
  ⟨f.before, f.opening, f.inside, f.closing, fun h => by cases h⟩

theorem sectionLines_eq_ok_iff {lines inside : List Text} :
    Region.sectionLines opens closes lines = .ok inside ↔
      ∃ e : Enclosure, e.lines = lines ∧ e.inside = inside ∧ e.Found opens closes .first := by
  constructor
  · intro h
    unfold Region.sectionLines at h
    cases hr : Region.locate opens closes .first lines with
    | error fault =>
      rw [hr] at h
      cases h
    | ok r =>
      rw [hr] at h
      cases h
      obtain ⟨e, rfl, rfl, f⟩ := locate_eq_ok_iff.mp hr
      exact ⟨e, rfl, (inside_region e).symm, f⟩
  · rintro ⟨e, rfl, rfl, f⟩
    unfold Region.sectionLines
    rw [found_iff.mp f]
    exact congrArg Except.ok (inside_region e)

/-! ### Replacing -/

/-- A replacement finds a cut and fills it with the new lines. -/
theorem replace_eq_ok_iff {new lines lines' : List Text} {r : Region} :
    Region.replace opens closes m new lines = .ok (r, lines') ↔
      ∃ e : Enclosure, e.lines = lines ∧ e.Found opens closes m ∧
        r = (e.fill (Region.normalLines new)).region ∧ lines' = (e.fill (Region.normalLines new)).lines := by
  constructor
  · intro h
    unfold Region.replace at h
    cases hr : Region.locate opens closes m lines with
    | error fault =>
      rw [hr] at h
      cases h
    | ok old =>
      rw [hr] at h
      cases h
      obtain ⟨e, rfl, rfl, f⟩ := locate_eq_ok_iff.mp hr
      exact ⟨e, rfl, f, rfl, splice_region e _⟩
  · rintro ⟨e, rfl, f, rfl, rfl⟩
    unfold Region.replace
    rw [found_iff.mp f, ← splice_region]
    rfl

/-- After new lines have been put in, the same markers are found exactly if none of the new lines
    closes the region and, where there must be one opening line only, none opens it. -/
theorem Found.fill_iff {e : Enclosure} (f : e.Found opens closes m) {new : List Text} :
    (e.fill new).Found opens closes m ↔
      (∀ l ∈ new, closes l = false) ∧ (m = .unique → ∀ l ∈ new, opens l = false) := by
  constructor
  · intro g
    exact ⟨g.inside, fun hm l hl => g.single hm l (List.mem_append_left _ hl)⟩
  · rintro ⟨hclose, hopen⟩
    refine ⟨f.before, f.opening, hclose, f.closing, fun hm l hl => ?_⟩
    rcases List.mem_append.mp hl with hl | hl
    · exact hopen hm l hl
    · exact f.single hm l (List.mem_append_right _ hl)

/-- If a search after that finds just the new lines inside, it has found the same markers. -/
theorem Found.fill_of_inside {e e' : Enclosure} {new : List Text} (f : e.Found opens closes m)
    (f' : e'.Found opens closes m) (hl : e'.lines = (e.fill new).lines) (hin : e'.inside = new) :
    (e.fill new).Found opens closes m := by
  have hbefore := indices_lines (e := e.fill new) f.before f.opening
  rw [← hl, indices_lines f'.before f'.opening] at hbefore
  have hlength : e'.before.length = e.before.length := (List.cons.inj hbefore).1
  have hregion : e'.region = (e.fill new).region := by simp [region, hlength, hin]
  exact eq_of_region hl hregion ▸ f'

theorem fill_lines_inj {e : Enclosure} {new new' : List Text} :
    (e.fill new).lines = (e.fill new').lines ↔ new = new' := by
  simp [lines]

end Enclosure
end PluginManual

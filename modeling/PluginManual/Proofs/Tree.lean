import PluginManual.Proofs.Places

/-! What the calls that change a disk do to it: they put something at one place or take it away, and all
    else is as it was. Whatever is called, every entry keeps lying in a directory, under a proper name. -/

namespace PluginManual
namespace Disk

variable {d d' d'' : Disk} {by' : Caller} {p q : Path} {l m : Location} {S T : List Location}

/-! ### Disks that agree off some places -/

/-- The disks hold the same, in the same order, except at the given places. -/
def AgreeOff (S : List Location) (d d' : Disk) : Prop :=
  d'.entries.filter (·.1 ∉ S) = d.entries.filter (·.1 ∉ S)

theorem AgreeOff.refl (S : List Location) (d : Disk) : AgreeOff S d d := rfl

theorem AgreeOff.trans (h : AgreeOff S d d') (h' : AgreeOff S d' d'') : AgreeOff S d d'' := Eq.trans h' h

theorem AgreeOff.mono (h : AgreeOff S d d') (hST : S ⊆ T) : AgreeOff T d d' := by
  have hfilter : ∀ es : List (Location × Entry),
      es.filter (·.1 ∉ T) = (es.filter (·.1 ∉ S)).filter (·.1 ∉ T) := by
    intro es
    rw [List.filter_filter]
    refine List.filter_congr fun x _ => ?_
    rw [← Bool.decide_and, decide_eq_decide]
    exact ⟨fun hx => ⟨hx, fun hS => hx (hST hS)⟩, fun hx => hx.1⟩
  rw [AgreeOff, hfilter, h, ← hfilter]

theorem agreeOff_put (d : Disk) (l : Location) (e : Entry) : AgreeOff [l] d (d.put l e) := by
  rw [AgreeOff, put, List.filter_cons_of_neg (by simp), List.filter_filter]
  refine List.filter_congr fun x _ => ?_
  simp

theorem agreeOff_drop (d : Disk) (l : Location) : AgreeOff [l] d (d.drop l) := by
  rw [AgreeOff, drop, List.filter_filter]
  refine List.filter_congr fun x _ => ?_
  simp

theorem lookup_filter_notMem (hl : l ∉ S) (es : List (Location × Entry)) :
    (es.filter (·.1 ∉ S)).lookup l = es.lookup l := by
  induction es with
  | nil => rfl
  | cons e es ih =>
    obtain ⟨k, v⟩ := e
    by_cases hk : k ∈ S
    · have hlk : (l == k) = false := by
        rw [beq_eq_false_iff_ne]
        rintro rfl
        exact hl hk
      rw [List.filter_cons_of_neg (by simpa using hk), ih, List.lookup_cons, hlk]
    · rw [List.filter_cons_of_pos (by simpa using hk), List.lookup_cons, List.lookup_cons, ih]

theorem AgreeOff.get?_eq (h : AgreeOff S d d') (hl : l ∉ S) : d'.get? l = d.get? l := by
  rw [get?, get?, ← lookup_filter_notMem hl, h, lookup_filter_notMem hl]

theorem AgreeOff.mem_iff (h : AgreeOff S d d') {x : Location × Entry} (hx : x.1 ∉ S) :
    x ∈ d'.entries ↔ x ∈ d.entries := by
  have hmem : x ∈ d'.entries.filter (·.1 ∉ S) ↔ x ∈ d.entries.filter (·.1 ∉ S) := by rw [h]
  simpa [hx] using hmem

/-! ### Listings -/

/-- The name that an entry has in a directory, if it lies there. -/
def nameIn? (l : Location) (x : Location × Entry) : Option Text :=
  if x.1 ≠ [] ∧ x.1.dropLast = l then x.1.getLast? else none

theorem nameIn?_eq_some_iff {x : Location × Entry} {n : Text} : nameIn? l x = some n ↔ x.1 = l ++ [n] := by
  rw [nameIn?]
  constructor
  · intro h
    split at h
    · next hx =>
      obtain ⟨front, hfront⟩ := List.getLast?_eq_some_iff.mp h
      rw [hfront, List.dropLast_concat] at hx
      rw [hfront, hx.2]
    · cases h
  · intro h
    simp [h]

theorem names_eq (d : Disk) (l : Location) : d.names l = d.entries.filterMap (nameIn? l) := rfl

theorem names_filter (d : Disk) (l : Location) (S : List Location) :
    (d.names l).filter (fun n => l ++ [n] ∉ S) = (d.entries.filter (·.1 ∉ S)).filterMap (nameIn? l) := by
  rw [names_eq]
  induction d.entries with
  | nil => rfl
  | cons x es ih =>
    rw [List.filterMap_cons, List.filter_cons]
    cases hx : nameIn? l x with
    | none =>
      simp only
      rw [ih]
      split
      · rw [List.filterMap_cons, hx]
      · rfl
    | some n =>
      simp only
      rw [List.filter_cons, ih, ← nameIn?_eq_some_iff.mp hx]
      split
      · rw [List.filterMap_cons, hx]
      · rfl

/-- Listings of disks that agree differ only in the names of places where the disks may differ. -/
theorem AgreeOff.names_filter_eq (h : AgreeOff S d d') (l : Location) :
    (d'.names l).filter (fun n => l ++ [n] ∉ S) = (d.names l).filter fun n => l ++ [n] ∉ S := by
  rw [names_filter, names_filter, h]

theorem mem_names_iff {n : Text} : n ∈ d.names l ↔ ∃ e, (l ++ [n], e) ∈ d.entries := by
  rw [names_eq, List.mem_filterMap]
  constructor
  · rintro ⟨⟨k, e⟩, hmem, hk⟩
    obtain rfl := nameIn?_eq_some_iff.mp hk
    exact ⟨e, hmem⟩
  · rintro ⟨e, hmem⟩
    exact ⟨_, hmem, nameIn?_eq_some_iff.mpr rfl⟩

theorem get?_of_mem_names {n : Text} (h : n ∈ d.names l) : (d.get? (l ++ [n])).isSome := by
  obtain ⟨e, he⟩ := mem_names_iff.mp h
  rw [get?, if_neg (by simp), List.lookup_isSome_iff]
  exact ⟨_, he, beq_self_eq_true _⟩

/-! ### Trees -/

/-- Every entry lies in a directory, under a proper name. -/
def IsTree (d : Disk) : Prop :=
  ∀ x ∈ d.entries, x.1.getLast?.any Path.isName = true ∧ d.get? x.1.dropLast = some .dir

instance (d : Disk) : Decidable d.IsTree :=
  inferInstanceAs (Decidable (∀ x ∈ d.entries, x.1.getLast?.any Path.isName = true ∧
    d.get? x.1.dropLast = some .dir))

theorem mem_of_get? {e : Entry} (hl : l ≠ []) (h : d.get? l = some e) : (l, e) ∈ d.entries := by
  rw [get?, if_neg hl] at h
  obtain ⟨as, bs, hes, -⟩ := List.lookup_eq_some_iff.mp h
  rw [hes]
  simp

theorem IsTree.isName {n : Text} (h : d.IsTree) (hn : n ∈ d.names l) : Path.isName n = true := by
  obtain ⟨e, he⟩ := mem_names_iff.mp hn
  have := (h _ he).1
  simpa using this

/-- What there is lies in a directory, under a proper name. -/
theorem IsTree.parent {e : Entry} (h : d.IsTree) (hl : l ≠ []) (he : d.get? l = some e) :
    ∃ dir name, l = dir ++ [name] ∧ Path.isName name = true ∧ d.get? dir = some .dir := by
  obtain ⟨hname, hdir⟩ := h _ (mem_of_get? hl he)
  refine ⟨l.dropLast, l.getLast hl, (List.dropLast_concat_getLast hl).symm, ?_, hdir⟩
  rw [List.getLast?_eq_some_getLast hl] at hname
  exact hname

theorem IsTree.put {n : Text} {e : Entry} (h : d.IsTree) (hn : Path.isName n = true) (hl : d.get? l = some .dir)
    (he : d.get? (l ++ [n]) = some .dir → e = .dir) : (d.put (l ++ [n]) e).IsTree := by
  have hdirs : ∀ m, d.get? m = some .dir → (d.put (l ++ [n]) e).get? m = some .dir := by
    intro m hm
    by_cases hml : m = l ++ [n]
    · subst hml
      rw [get?_put_self (by simp), he hm]
    · rw [get?_put_of_ne hml, hm]
  intro x hx
  rcases List.mem_cons.mp hx with rfl | hx
  · exact ⟨by simpa using hn, by simpa using hdirs l hl⟩
  · obtain ⟨hname, hdir⟩ := h x (List.mem_filter.mp hx).1
    exact ⟨hname, hdirs _ hdir⟩

theorem get?_of_drop {e : Entry} (h : (d.drop m).get? l = some e) : d.get? l = some e := by
  by_cases hl : l = m
  · subst hl
    by_cases hnil : l = []
    · subst hnil
      exact h
    · rw [get?_drop_self hnil] at h
      cases h
  · rw [get?_drop_of_ne hl] at h
    exact h

theorem IsTree.drop (h : d.IsTree) (hl : d.get? l ≠ some .dir) : (d.drop l).IsTree := by
  intro x hx
  obtain ⟨hname, hdir⟩ := h x (List.mem_filter.mp hx).1
  refine ⟨hname, ?_⟩
  rw [get?_drop_of_ne, hdir]
  rintro rfl
  exact hl hdir

/-! ### What calls change -/

theorem makeDir_eq_ok (h : d.makeDir by' p = .ok d') :
    ∃ s : Spot, s.IsNamedBy d by' p ∧ d.get? s.location = none ∧ d' = d.put s.location .dir := by
  obtain ⟨s, hs, h⟩ := bind_eq_ok.mp h
  split at h
  · cases h
  · next hnone =>
    cases h
    exact ⟨s, isNamedBy_of_spotNamed hs, hnone, rfl⟩

theorem create_eq_ok (h : d.create by' p = .ok d') :
    ∃ s : Spot, s.IsNamedBy d by' p ∧ s.slash = false ∧ d.get? s.location ≠ some .dir ∧
      d' = d.put s.location (.file (.text [])) := by
  obtain ⟨s, hs, h⟩ := bind_eq_ok.mp h
  dsimp only at h
  split at h
  · cases h
  next hslash =>
  split at h
  · cases h
  · next hdir =>
    cases h
    exact ⟨s, isNamedBy_of_spotNamed hs, Bool.not_eq_true _ ▸ hslash, hdir, rfl⟩

theorem write_eq_ok {c : Content} (h : d.write by' p c = .ok d') :
    ∃ l c₀, d.locate by' p = .ok l ∧ d.get? l = some (.file c₀) ∧ d' = d.put l (.file c) := by
  obtain ⟨l, hl, h⟩ := bind_eq_ok.mp h
  split at h
  · next c₀ hfile =>
    cases h
    exact ⟨l, c₀, hl, hfile, rfl⟩
  · cases h
  · cases h

theorem rename_eq_ok (h : d.rename by' p q = .ok d') :
    ∃ s t : Spot, ∃ c, s.IsNamedBy d by' p ∧ t.IsNamedBy d by' q ∧ t.slash = false ∧
      d.get? s.location = some (.file c) ∧ d.get? t.location ≠ some .dir ∧
      d' = (d.drop s.location).put t.location (.file c) := by
  obtain ⟨s, hs, h⟩ := bind_eq_ok.mp h
  obtain ⟨t, ht, h⟩ := bind_eq_ok.mp h
  split at h
  · cases h
  · cases h
  next c hfile =>
  dsimp only at h
  split at h
  · cases h
  next hslash =>
  split at h
  · cases h
  · next hdir =>
    cases h
    rw [Bool.not_eq_true, Bool.or_eq_false_iff] at hslash
    exact ⟨s, t, c, isNamedBy_of_spotNamed hs, isNamedBy_of_spotNamed ht, hslash.2, hfile, hdir, rfl⟩

theorem remove_eq_ok (h : d.remove by' p = .ok d') :
    ∃ s : Spot, s.IsNamedBy d by' p ∧ d.get? s.location ≠ some .dir ∧ d' = d.drop s.location := by
  obtain ⟨s, hs, h⟩ := bind_eq_ok.mp h
  split at h
  · cases h
  · cases h
  next c hfile =>
  split at h
  · cases h
  · cases h
    exact ⟨s, isNamedBy_of_spotNamed hs, by simp [hfile], rfl⟩

theorem IsTree.put_spot {s : Spot} {e : Entry} (h : d.IsTree) (hs : s.IsNamedBy d by' p)
    (he : d.get? s.location = some .dir → e = .dir) : (d.put s.location e).IsTree :=
  h.put hs.name hs.dir he

theorem IsTree.settle {x : Except OsError Disk} (h : d.IsTree) (hx : ∀ d', x = .ok d' → d'.IsTree) :
    (d.settle x).2.IsTree := by
  cases x with
  | error e => exact h
  | ok d' => exact hx d' rfl

/-- No call leaves an entry outside of directories. -/
theorem IsTree.answer (h : d.IsTree) (by' : Caller) (c : Call) : (d.answer by' c).2.IsTree := by
  cases c with
  | makeDir p =>
    refine h.settle fun d' hd' => ?_
    obtain ⟨s, hs, -, rfl⟩ := makeDir_eq_ok hd'
    exact h.put_spot hs fun _ => rfl
  | create p =>
    refine h.settle fun d' hd' => ?_
    obtain ⟨s, hs, -, hdir, rfl⟩ := create_eq_ok hd'
    exact h.put_spot hs fun hc => absurd hc hdir
  | write p c =>
    refine h.settle fun d' hd' => ?_
    obtain ⟨l, c₀, -, hfile, rfl⟩ := write_eq_ok hd'
    have hl : l ≠ [] := by
      rintro rfl
      cases hfile
    obtain ⟨dir, name, rfl, hname, hdir⟩ := h.parent hl hfile
    exact h.put hname hdir fun hc => by rw [hfile] at hc; cases hc
  | rename p q =>
    refine h.settle fun d' hd' => ?_
    obtain ⟨s, t, c, -, ht, -, hfile, hdir, rfl⟩ := rename_eq_ok hd'
    -- The directory of the target is not what is taken away, since that is a file.
    have hne : ∀ m, d.get? m = some .dir → m ≠ s.location := by
      rintro m hm rfl
      rw [hm] at hfile
      cases hfile
    refine (h.drop (l := s.location) (by simp [hfile])).put ht.name ?_ fun hc => ?_
    · rw [get?_drop_of_ne (hne _ ht.dir), ht.dir]
    · exact absurd (get?_of_drop hc) hdir
  | remove p =>
    refine h.settle fun d' hd' => ?_
    obtain ⟨s, -, hdir, rfl⟩ := remove_eq_ok hd'
    exact h.drop hdir
  | read p => exact h
  | isDir p => exact h
  | isFile p => exact h
  | list p => exact h
  | upkeep u p => exact h
  | resolve p => exact h
  | callerId => exact h

/-- No program leaves an entry outside of directories. -/
theorem IsTree.run {α : Type} (h : d.IsTree) (by' : Caller) (s : Session α) : (s.run by' d).2.IsTree := by
  induction s generalizing d with
  | done a => exact h
  | ask c next ih => exact ih _ (h.answer by' c)

theorem IsTree.on {ε α : Type} {a : Action ε α} {x : Except ε α} (h : d.IsTree) (ha : a.on by' d = (x, d')) :
    d'.IsTree := by
  have hrun := h.run by' a.run
  rw [show a.run.run by' d = (x, d') from ha] at hrun
  exact hrun

end Disk
end PluginManual

import PluginManual.Proofs.Paths
import PluginManual.Proofs.Runs

/-! Places that paths lead to. Where a path leads can be read off its text alone; the disk decides only
    whether it leads anywhere. All that lies on the way are directories, so a path that leads somewhere
    still does when no directory has gone. -/

namespace PluginManual
namespace Disk

variable {d d' : Disk} {by' : Caller} {p q : Path} {l m : Location}

/-! ### Places -/

/-- Where a piece of a path leads from a place. -/
def follow (l : Location) (piece : Text) : Location :=
  if piece = ['.'] then l else if piece = ['.', '.'] then l.dropLast else l ++ [piece]

/-- The place that a path leads to, if it leads anywhere. -/
def place (by' : Caller) (p : Path) : Location := p.way.foldl follow (start by' p)

theorem follow_of_isName {name : Text} (h : Path.isName name = true) : follow l name = l ++ [name] := by
  obtain ⟨-, -, hdot, hdots⟩ := Path.isName_iff.mp h
  rw [follow, if_neg hdot, if_neg hdots]

theorem place_child {name : Text} (h : Path.isName name = true) :
    place by' (p.child name) = place by' p ++ [name] := by
  rw [place, Path.way_child h, List.foldl_append, start, Path.isAbsolute_child h]
  exact follow_of_isName h

theorem foldl_follow_counted (pieces : List Text) (l : Location) :
    (pieces.filter (· ≠ [])).foldl follow l = (pieces.filter (!Path.isIdle ·)).foldl follow l := by
  induction pieces generalizing l with
  | nil => rfl
  | cons piece pieces ih =>
    by_cases hnil : piece = []
    · rw [List.filter_cons_of_neg (by simpa using hnil), List.filter_cons_of_neg (by simp [hnil, Path.isIdle]), ih]
    · rw [List.filter_cons_of_pos (by simpa using hnil), List.foldl_cons, ih]
      by_cases hdot : piece = ['.']
      · rw [List.filter_cons_of_neg (by simp [hdot, Path.isIdle]), hdot]
        rfl
      · rw [List.filter_cons_of_pos (by simp [hnil, hdot, Path.isIdle]), List.foldl_cons]

/-- A path with a file name leads to the entry of that name in the directory that its parent leads to. -/
theorem place_of_fileName? {name : Text} (h : p.fileName? = some name) :
    place by' p = place by' (p.parent?.getD ⟨[]⟩) ++ [name] := by
  obtain ⟨q, hparent, habs, hcounted⟩ := Path.counted_parent? h
  have hp : place by' p = p.counted.foldl follow (start by' p) := foldl_follow_counted _ _
  have hq : place by' q = q.counted.foldl follow (start by' q) := foldl_follow_counted _ _
  have hstart : start by' q = start by' p := by rw [start, start, habs]
  rw [hparent, Option.getD_some, hp, hq, hstart, hcounted, List.foldl_append]
  exact follow_of_isName (Path.isName_of_fileName? h)

/-! ### Walks -/

/-- What it takes that a step leads somewhere. -/
theorem step_eq_ok_iff {piece : Text} :
    d.step l piece = .ok m ↔
      d.get? l = some .dir ∧ m = follow l piece ∧
        (piece ≠ ['.'] → piece ≠ ['.', '.'] → piece.byteLength ≤ maxName ∧ (d.get? m).isSome) := by
  rw [step, follow]
  constructor
  · intro h
    split at h
    · cases h
    · cases h
    · next hl =>
      refine ⟨hl, ?_⟩
      split at h
      · next hdot =>
        cases h
        exact ⟨by rw [if_pos hdot], fun hne => absurd hdot hne⟩
      · next hdot =>
        rw [if_neg hdot]
        split at h
        · next hdots =>
          cases h
          exact ⟨by rw [if_pos hdots], fun _ hne => absurd hdots hne⟩
        · next hdots =>
          rw [if_neg hdots]
          split at h
          · cases h
          · next hlen =>
            split at h
            · next hsome =>
              cases h
              exact ⟨rfl, fun _ _ => ⟨Nat.le_of_not_lt hlen, hsome⟩⟩
            · cases h
  · rintro ⟨hl, rfl, hname⟩
    rw [hl]
    simp only
    split
    · rfl
    · next hdot =>
      split
      · rfl
      · next hdots =>
        rw [if_neg hdot, if_neg hdots] at hname
        obtain ⟨hlen, hsome⟩ := hname hdot hdots
        rw [if_neg (Nat.not_lt.mpr hlen), if_pos hsome]

theorem walk_cons_eq_ok_iff {piece : Text} {rest : List Text} :
    d.walk l (piece :: rest) = .ok m ↔ ∃ k, d.step l piece = .ok k ∧ d.walk k rest = .ok m := by
  rw [walk, List.foldlM_cons]
  exact bind_eq_ok

theorem walk_append_eq_ok_iff {xs ys : List Text} :
    d.walk l (xs ++ ys) = .ok m ↔ ∃ k, d.walk l xs = .ok k ∧ d.walk k ys = .ok m := by
  rw [walk, List.foldlM_append]
  exact bind_eq_ok

theorem walk_singleton {piece : Text} : d.walk l [piece] = d.step l piece := by
  rw [walk, List.foldlM_cons]
  cases d.step l piece <;> rfl

theorem eq_of_walk {pieces : List Text} (h : d.walk l pieces = .ok m) : m = pieces.foldl follow l := by
  induction pieces generalizing l with
  | nil =>
    cases h
    rfl
  | cons piece rest ih =>
    obtain ⟨k, hk, hrest⟩ := walk_cons_eq_ok_iff.mp h
    obtain ⟨-, rfl, -⟩ := step_eq_ok_iff.mp hk
    exact ih hrest

/-- A walk starts at a directory unless it does not go anywhere. -/
theorem dir_of_walk {pieces : List Text} (hne : pieces ≠ []) (h : d.walk l pieces = .ok m) :
    d.get? l = some .dir := by
  obtain ⟨piece, rest, rfl⟩ := List.exists_cons_of_ne_nil hne
  obtain ⟨k, hk, -⟩ := walk_cons_eq_ok_iff.mp h
  exact (step_eq_ok_iff.mp hk).1

/-- A walk leads where it did as long as the directories on the way and the end are still there. -/
theorem walk_of_dirs {pieces : List Text} (hdirs : ∀ l, d.get? l = some .dir → d'.get? l = some .dir)
    (h : d.walk l pieces = .ok m) (hm : (d'.get? m).isSome) : d'.walk l pieces = .ok m := by
  induction pieces generalizing l with
  | nil => exact h
  | cons piece rest ih =>
    obtain ⟨k, hk, hrest⟩ := walk_cons_eq_ok_iff.mp h
    refine walk_cons_eq_ok_iff.mpr ⟨k, ?_, ih hrest⟩
    obtain ⟨hl, rfl, hname⟩ := step_eq_ok_iff.mp hk
    refine step_eq_ok_iff.mpr ⟨hdirs l hl, rfl, fun hdot hdots => ⟨(hname hdot hdots).1, ?_⟩⟩
    cases rest with
    | nil =>
      cases hrest
      exact hm
    | cons next rest => rw [hdirs _ (dir_of_walk (by simp) hrest), Option.isSome_some]

/-! ### Where paths lead -/

theorem walkSteps_eq (p : Path) :
    walkSteps p = p.way ++ (if p.text.getLast? = some '/' then [['.']] else []) := rfl

theorem checkPath_eq_ok_iff : checkPath p = .ok () ↔ p.text ≠ [] ∧ p.text.byteLength < pathLimit := by
  rw [checkPath]
  split
  · next hnil => simp [hnil]
  · next hne =>
    split
    · next hlong => simp [Nat.not_lt.mpr hlong]
    · next hshort => simp [hne, Nat.not_le.mp hshort]

theorem locate_eq_ok_iff :
    d.locate by' p = .ok l ↔ checkPath p = .ok () ∧ d.walk (start by' p) (walkSteps p) = .ok l := by
  rw [locate, bind_eq_ok]
  constructor
  · rintro ⟨⟨⟩, hp, hw⟩
    exact ⟨hp, hw⟩
  · rintro ⟨hp, hw⟩
    exact ⟨(), hp, hw⟩

theorem eq_place_of_locate (h : d.locate by' p = .ok l) : l = place by' p := by
  rw [eq_of_walk (locate_eq_ok_iff.mp h).2, walkSteps_eq, List.foldl_append]
  split <;> rfl

theorem locate_of_dirs (hdirs : ∀ l, d.get? l = some .dir → d'.get? l = some .dir)
    (h : d.locate by' p = .ok l) (hl : (d'.get? l).isSome) : d'.locate by' p = .ok l := by
  obtain ⟨hp, hw⟩ := locate_eq_ok_iff.mp h
  exact locate_eq_ok_iff.mpr ⟨hp, walk_of_dirs hdirs hw hl⟩

/-- In a directory a path leads to the entries that are there, if they can be named. -/
theorem locate_child_iff {name : Text} (hn : Path.isName name = true) (hl : d.locate by' p = .ok l)
    (hdir : d.get? l = some .dir) :
    d.locate by' (p.child name) = .ok (l ++ [name]) ↔
      checkPath (p.child name) = .ok () ∧ name.byteLength ≤ maxName ∧ (d.get? (l ++ [name])).isSome := by
  obtain ⟨-, hwalk⟩ := locate_eq_ok_iff.mp hl
  obtain ⟨-, -, hdot, hdots⟩ := Path.isName_iff.mp hn
  have hway : d.walk (start by' p) p.way = .ok l := by
    rw [walkSteps_eq] at hwalk
    obtain ⟨k, hk, hend⟩ := walk_append_eq_ok_iff.mp hwalk
    rw [hk]
    split at hend
    · rw [walk_singleton] at hend
      obtain ⟨-, rfl, -⟩ := step_eq_ok_iff.mp hend
      rfl
    · exact hend
  have hstart : start by' (p.child name) = start by' p := by rw [start, start, Path.isAbsolute_child hn]
  rw [locate_eq_ok_iff, walkSteps_eq, if_neg (Path.getLast?_child hn), List.append_nil, Path.way_child hn, hstart]
  have hstep : d.step l name = .ok (l ++ [name]) ↔ name.byteLength ≤ maxName ∧ (d.get? (l ++ [name])).isSome := by
    rw [step_eq_ok_iff, follow_of_isName hn]
    exact ⟨fun h => h.2.2 hdot hdots, fun h => ⟨hdir, rfl, fun _ _ => h⟩⟩
  rw [walk_append_eq_ok_iff, ← hstep]
  constructor
  · rintro ⟨hp, k, hk, hend⟩
    rw [hway] at hk
    cases hk
    exact ⟨hp, walk_singleton ▸ hend⟩
  · rintro ⟨hp, hend⟩
    exact ⟨hp, l, hway, walk_singleton.trans hend⟩

theorem find?_eq_some_iff {e : Entry} :
    d.find? by' p = some e ↔ d.locate by' p = .ok (place by' p) ∧ d.get? (place by' p) = some e := by
  rw [find?]
  constructor
  · intro h
    split at h
    · next l hl =>
      obtain rfl := eq_place_of_locate hl
      exact ⟨hl, h⟩
    · cases h
  · rintro ⟨hl, he⟩
    rw [hl]
    exact he

theorem byteLength_lt_of_find? {e : Entry} (h : d.find? by' p = some e) : p.text.byteLength < pathLimit := by
  obtain ⟨hlocate, -⟩ := find?_eq_some_iff.mp h
  exact (checkPath_eq_ok_iff.mp (locate_eq_ok_iff.mp hlocate).1).2

theorem find?_child {name : Text} {e : Entry} (hp : d.find? by' p = some .dir) (hn : Path.isName name = true)
    (hpath : checkPath (p.child name) = .ok ()) (hlen : name.byteLength ≤ maxName)
    (he : d.get? (place by' p ++ [name]) = some e) : d.find? by' (p.child name) = some e := by
  obtain ⟨hlocate, hdir⟩ := find?_eq_some_iff.mp hp
  rw [find?_eq_some_iff, place_child hn, locate_child_iff hn hlocate hdir, he]
  exact ⟨⟨hpath, hlen, rfl⟩, rfl⟩

/-! ### Entries that paths name -/

/-- The spot is the entry that a path names in a directory. -/
structure Spot.IsNamedBy (s : Spot) (d : Disk) (by' : Caller) (p : Path) : Prop where
  path : checkPath p = .ok ()
  way : ∃ front, p.way = front ++ [s.last] ∧ d.walk (start by' p) front = .ok s.dir
  dir : d.get? s.dir = some .dir
  name : Path.isName s.last = true
  short : s.last.byteLength ≤ maxName
  slash : s.slash = true ↔ p.text.getLast? = some '/'

theorem isNamedBy_of_spotNamed {e : OsError} {s : Spot} (h : d.spotNamed by' p e = .ok s) :
    s.IsNamedBy d by' p := by
  obtain ⟨t, ht, h⟩ := bind_eq_ok.mp h
  dsimp only at h
  split at h
  · cases h
  split at h
  · cases h
  next hdots hlen =>
  cases h
  obtain ⟨⟨⟩, hp, ht⟩ := bind_eq_ok.mp ht
  obtain ⟨dir, hwalk, ht⟩ := bind_eq_ok.mp ht
  split at ht
  · next hdir =>
    cases ht
    have hdots : p.way.getLast?.getD ['.'] ≠ ['.'] ∧ p.way.getLast?.getD ['.'] ≠ ['.', '.'] := by
      rw [Spot.isDots, Bool.or_eq_true, not_or, decide_eq_true_eq, decide_eq_true_eq] at hdots
      exact hdots
    -- A path without pieces stands for a dot, which has been refused.
    have hne : p.way ≠ [] := by
      intro hnil
      rw [hnil] at hdots
      exact hdots.1 rfl
    have hlast : p.way.getLast?.getD ['.'] = p.way.getLast hne := by
      rw [List.getLast?_eq_some_getLast hne, Option.getD_some]
    have hmem := List.getLast_mem hne
    refine ⟨hp, ⟨p.way.dropLast, ?_, hwalk⟩, hdir, ?_, Nat.le_of_not_lt hlen, by simp⟩
    · show p.way = p.way.dropLast ++ [p.way.getLast?.getD ['.']]
      rw [hlast, List.dropLast_concat_getLast]
    · show Path.isName (p.way.getLast?.getD ['.']) = true
      refine Path.isName_iff.mpr ⟨?_, ?_, hdots.1, hdots.2⟩
      · rw [hlast]
        exact of_decide_eq_true (List.mem_filter.mp hmem).2
      · rw [hlast]
        exact Path.not_mem_of_mem_way hmem
  · cases ht
  · cases ht

theorem Spot.IsNamedBy.location_eq {s : Spot} (h : s.IsNamedBy d by' p) : s.location = place by' p := by
  obtain ⟨front, hway, hwalk⟩ := h.way
  rw [place, hway, List.foldl_append, ← eq_of_walk hwalk]
  exact (follow_of_isName h.name).symm

theorem Spot.IsNamedBy.of_dirs {s : Spot} (h : s.IsNamedBy d by' p)
    (hdirs : ∀ l, d.get? l = some .dir → d'.get? l = some .dir) : s.IsNamedBy d' by' p := by
  obtain ⟨front, hway, hwalk⟩ := h.way
  have hdir := hdirs _ h.dir
  exact ⟨h.path, ⟨front, hway, walk_of_dirs hdirs hwalk (by rw [hdir]; rfl)⟩, hdir, h.name, h.short, h.slash⟩

theorem Spot.IsNamedBy.fileName? {s : Spot} (h : s.IsNamedBy d by' p) : p.fileName? = some s.last := by
  obtain ⟨front, hway, -⟩ := h.way
  exact Path.fileName?_of_way h.name hway

/-- A path leads to the file that it names. -/
theorem Spot.IsNamedBy.locate {s : Spot} (h : s.IsNamedBy d by' p) (hslash : s.slash = false)
    (hsome : (d.get? (place by' p)).isSome) : d.locate by' p = .ok (place by' p) := by
  obtain ⟨front, hway, hwalk⟩ := h.way
  refine locate_eq_ok_iff.mpr ⟨h.path, ?_⟩
  have hend : ¬ p.text.getLast? = some '/' := fun hc => by rw [h.slash.mpr hc] at hslash; cases hslash
  rw [walkSteps_eq, if_neg hend, List.append_nil, hway]
  refine walk_append_eq_ok_iff.mpr ⟨_, hwalk, ?_⟩
  rw [walk_singleton, ← h.location_eq] at *
  exact step_eq_ok_iff.mpr ⟨h.dir, (follow_of_isName h.name).symm, fun _ _ => ⟨h.short, hsome⟩⟩

theorem spot_of_walk (hp : checkPath p = .ok ()) (hw : d.walk (start by' p) p.way.dropLast = .ok m)
    (hm : d.get? m = some .dir) :
    d.spot by' p = .ok ⟨m, p.way.getLast?.getD ['.'], p.text.getLast? = some '/'⟩ := by
  refine bind_eq_ok.mpr ⟨(), hp, bind_eq_ok.mpr ⟨m, hw, ?_⟩⟩
  rw [hm]
  rfl

theorem spotNamed_of_spot {s : Spot} (e : OsError) (hs : d.spot by' p = .ok s) :
    d.spotNamed by' p e =
      if s.isDots then .error e else if maxName < s.last.byteLength then .error .nameTooLong else .ok s := by
  rw [spotNamed, hs]
  show (if s.isDots then _ else _) = _
  split
  · rfl
  · show (if maxName < s.last.byteLength then _ else _) = _
    split <;> rfl

/-- The parent of a path that leads somewhere is there, so that it cannot be made. -/
theorem makeDir_parent (hl : d.locate by' p = .ok l) (h : p.parent? = some q) (hq : q.text ≠ []) :
    ∃ e, d.makeDir by' q = .error e ∧ e ≠ .noEntry := by
  obtain ⟨habs, rest, hrest, hway⟩ := Path.way_parent? h hq
  obtain ⟨-, hwalk⟩ := locate_eq_ok_iff.mp hl
  have hstart : start by' p = start by' q := by rw [start, start, habs]
  rw [walkSteps_eq, hway, List.append_assoc, hstart] at hwalk
  obtain ⟨k, hk, hmore⟩ := walk_append_eq_ok_iff.mp hwalk
  have hdir := dir_of_walk (by simp [hrest]) hmore
  cases hp : checkPath q with
  | error e =>
    refine ⟨e, by rw [makeDir, spotNamed, spot, hp]; rfl, ?_⟩
    rw [checkPath, if_neg hq] at hp
    split at hp
    · cases hp
      decide
    · cases hp
  | ok =>
    -- The walk of `p` has come past the last piece of `q`, so something is there.
    rcases List.eq_nil_or_concat q.way with hnil | ⟨front, last, hlast⟩
    · have hspot := spot_of_walk hp (by rw [hnil]; rfl) (by rw [hnil] at hk; cases hk; exact hdir)
      exact ⟨.alreadyExists, by rw [makeDir, spotNamed, hspot, hnil]; rfl, by decide⟩
    · rw [List.concat_eq_append] at hlast
      rw [hlast] at hk
      obtain ⟨k₀, hfront, hstep⟩ := walk_append_eq_ok_iff.mp hk
      rw [walk_singleton] at hstep
      obtain ⟨hk₀, hfollow, hname⟩ := step_eq_ok_iff.mp hstep
      have hspot := spot_of_walk hp (by rw [hlast, List.dropLast_concat]; exact hfront) hk₀
      rw [hlast, List.getLast?_concat, Option.getD_some] at hspot
      have hnamed := spotNamed_of_spot .alreadyExists hspot
      rw [makeDir]
      by_cases hdots : last = ['.'] ∨ last = ['.', '.']
      · rw [if_pos (by simpa [Spot.isDots] using hdots)] at hnamed
        exact ⟨.alreadyExists, by rw [hnamed]; rfl, by decide⟩
      · obtain ⟨hlen, hsome⟩ := hname (fun h => hdots (Or.inl h)) fun h => hdots (Or.inr h)
        rw [if_neg (by simpa [Spot.isDots] using hdots), if_neg (Nat.not_lt.mpr hlen)] at hnamed
        rw [hfollow, follow, if_neg fun h => hdots (Or.inl h), if_neg fun h => hdots (Or.inr h)] at hsome
        obtain ⟨entry, hentry⟩ := Option.isSome_iff_exists.mp hsome
        refine ⟨.alreadyExists, ?_, by decide⟩
        rw [hnamed, ok_bind]
        dsimp only [Spot.location]
        rw [hentry]
        rfl

end Disk
end PluginManual

import PluginManual.Proofs.Stages

/-! What is on the disk after a file has been written: the new content in its place, nothing where the
    part was, perhaps directories where there was nothing, and all else as before. -/

namespace PluginManual
namespace Files
open Disk

variable {d d' d₁ d₂ : Disk} {by' : Caller} {p q : Path} {paths : List Path} {news news' : List Location}

/-! ### Reading -/

theorem read_eq_ok_iff {c : Content} :
    d.read by' p = .ok c ↔ d.locate by' p = .ok (place by' p) ∧ d.get? (place by' p) = some (.file c) := by
  rw [Disk.read, bind_eq_ok]
  constructor
  · rintro ⟨l, hl, h⟩
    obtain rfl := eq_place_of_locate hl
    split at h
    · next c' hfile =>
      cases h
      exact ⟨hl, hfile⟩
    · cases h
    · cases h
  · rintro ⟨hl, hfile⟩
    refine ⟨_, hl, ?_⟩
    rw [hfile]
    rfl

theorem readText_eq_ok_iff {s : Text} :
    (readText p).on by' d = (.ok s, d') ↔ d' = d ∧ d.read by' p = .ok (.text s) := by
  constructor
  · intro h
    obtain ⟨x, d₀, hx, h⟩ := Action.on_bind_eq_ok.mp h
    obtain ⟨hread, rfl⟩ : d.read by' p = x ∧ d = d₀ := Prod.mk.inj (Action.on_call_eq_ok.mp hx)
    split at h
    · cases h
      exact ⟨rfl, hread⟩
    · cases h
    · cases h
  · rintro ⟨rfl, hread⟩
    exact Action.on_bind_eq_ok.mpr ⟨.ok (.text s), d', Action.on_call_eq_ok.mpr (Prod.ext hread rfl), rfl⟩

/-! ### Making directories -/

/-- Some of the paths have become directories; nothing was there. -/
structure IsGrown (by' : Caller) (paths : List Path) (news : List Location) (d d' : Disk) : Prop where
  agree : AgreeOff news d d'
  none : ∀ m ∈ news, d.get? m = none
  dir : ∀ m ∈ news, d'.get? m = some .dir
  named : ∀ m ∈ news, ∃ dir name, m = dir ++ [name] ∧ name.byteLength ≤ maxName
  path : ∀ m ∈ news, ∃ q ∈ paths, m = place by' q

theorem IsGrown.refl (by' : Caller) (paths : List Path) (d : Disk) : IsGrown by' paths [] d d :=
  ⟨.refl _ d, by simp, by simp, by simp, by simp⟩

theorem IsGrown.trans (h : IsGrown by' paths news d d₁) (h' : IsGrown by' paths news' d₁ d₂) :
    IsGrown by' paths (news ++ news') d d₂ where
  agree := (h.agree.mono (List.subset_append_left _ _)).trans (h'.agree.mono (List.subset_append_right _ _))
  none m hm := by
    rcases List.mem_append.mp hm with hm | hm
    · exact h.none m hm
    · -- What the second growth finds missing was not made by the first.
      have hnone := h'.none m hm
      rw [← hnone, h.agree.get?_eq]
      intro hm'
      rw [h.dir m hm'] at hnone
      cases hnone
  dir m hm := by
    rcases List.mem_append.mp hm with hm | hm
    · have hdir := h.dir m hm
      rw [← hdir, h'.agree.get?_eq]
      intro hm'
      rw [h'.none m hm'] at hdir
      cases hdir
    · exact h'.dir m hm
  named m hm := (List.mem_append.mp hm).elim (h.named m) (h'.named m)
  path m hm := (List.mem_append.mp hm).elim (h.path m) (h'.path m)

theorem IsGrown.mono {paths' : List Path} (h : IsGrown by' paths news d d') (hsub : paths ⊆ paths') :
    IsGrown by' paths' news d d' :=
  ⟨h.agree, h.none, h.dir, h.named, fun m hm =>
    let ⟨q, hq, hm⟩ := h.path m hm
    ⟨q, hsub hq, hm⟩⟩

theorem IsGrown.dirs (h : IsGrown by' paths news d d') (l : Location) (hl : d.get? l = some .dir) :
    d'.get? l = some .dir := by
  by_cases hm : l ∈ news
  · exact h.dir l hm
  · rw [h.agree.get?_eq hm, hl]

theorem isGrown_makeDir (h : d.makeDir by' p = .ok d') : ∃ news, IsGrown by' [p] news d d' := by
  obtain ⟨s, hs, hnone, rfl⟩ := makeDir_eq_ok h
  refine ⟨[s.location], agreeOff_put d _ _, by simpa using hnone, ?_, ?_, ?_⟩
  · have hne : s.location ≠ [] := by simp [Spot.location]
    simpa using get?_put_self hne _
  · simpa using ⟨_, _, rfl, hs.short⟩
  · simpa using hs.location_eq

theorem settle_leaves {p : Path} {x : Except OsError Unit} :
    ((makeDirs.settle p x).run by' d).2 = d := by
  cases x <;> rfl

theorem isGrown_answer (p : Path) (d : Disk) :
    ∃ news, IsGrown by' [p] news d (d.answer by' (.makeDir p)).2 := by
  show ∃ news, IsGrown by' [p] news d (d.settle (d.makeDir by' p)).2
  cases h : d.makeDir by' p with
  | error e => exact ⟨[], .refl _ _ d⟩
  | ok d' => exact isGrown_makeDir h

theorem run_makeDirs_cons (hp : p.text ≠ []) (above : List Path) :
    (makeDirs (p :: above)).run by' d =
      match d.makeDir by' p with
      | .ok d₁ => (.ok (), d₁)
      | .error e =>
        if e = .noEntry then
          match (makeDirs above).run by' d with
          | (.error e, d₁) => (.error e, d₁)
          | (.ok (), d₁) =>
            (makeDirs.settle p (d₁.answer by' (.makeDir p)).1).run by' (d₁.answer by' (.makeDir p)).2
        else (makeDirs.settle p (.error e)).run by' d := by
  rw [makeDirs, if_neg hp]
  show (Session.bind (Session.call (.makeDir p)) _).run by' d = _
  rw [Session.run_bind]
  have hcall : (Session.call (.makeDir p)).run by' d = d.settle (d.makeDir by' p) := rfl
  rw [hcall]
  cases hd : d.makeDir by' p with
  | ok d₁ => rfl
  | error e =>
    simp only [Disk.settle]
    by_cases he : e = .noEntry
    · rw [if_pos he, if_pos he]
      show (Session.bind (makeDirs above) _).run by' d = _
      rw [Session.run_bind]
      cases hrec : (makeDirs above).run by' d with
      | mk x d₁ =>
        cases x with
        | error e => rfl
        | ok => rfl
    · rw [if_neg he, if_neg he]

/-- Whatever comes of it, an attempt to make directories has made some of them. -/
theorem isGrown_makeDirs (paths : List Path) (d : Disk) :
    ∃ news, IsGrown by' paths news d ((makeDirs paths).run by' d).2 := by
  induction paths generalizing d with
  | nil => exact ⟨[], .refl _ _ d⟩
  | cons p above ih =>
    by_cases hp : p.text = []
    · rw [makeDirs, if_pos hp]
      exact ⟨[], .refl _ _ d⟩
    rw [run_makeDirs_cons hp]
    cases hd : d.makeDir by' p with
    | ok d₁ =>
      obtain ⟨news, h⟩ := isGrown_makeDir hd
      exact ⟨news, h.mono (by simp)⟩
    | error e =>
      simp only
      split
      · -- The directories above are made first, then this one is tried again.
        obtain ⟨news, h⟩ := ih d
        have h := h.mono (List.subset_cons_self p above)
        cases hrec : (makeDirs above).run by' d with
        | mk x d₁ =>
          rw [hrec] at h
          cases x with
          | error e => exact ⟨news, h⟩
          | ok =>
            simp only [settle_leaves]
            obtain ⟨news', h'⟩ := isGrown_answer p d₁
            exact ⟨news ++ news', h.trans (h'.mono (by simp))⟩
      · rw [settle_leaves]
        exact ⟨[], .refl _ _ d⟩

/-- Above a path that leads somewhere there are no directories to make. -/
theorem makeDirs_of_locate {l : Location} {x : Except OsError Unit} (hl : d.locate by' p = .ok l)
    (h : (makeDirs (p.parent?.elim [] Path.ancestors)).CanEnd .mild by' d x d') : d' = d := by
  cases hparent : p.parent? with
  | none =>
    rw [hparent] at h
    exact (Session.canEnd_done_iff.mp h).2
  | some q =>
  obtain ⟨above, habove⟩ := q.exists_ancestors
  rw [hparent, Option.elim_some, habove, makeDirs] at h
  split at h
  · exact (Session.canEnd_done_iff.mp h).2
  next hq =>
  obtain ⟨made, d₁, hmade, hrest⟩ := Session.canEnd_ask_iff.mp h
  obtain ⟨e, he, hne⟩ := makeDir_parent hl hparent hq
  -- It is refused, and not because anything is missing above it.
  obtain ⟨e', rfl, rfl, hne'⟩ : ∃ e', made = .error e' ∧ d₁ = d ∧ e' ≠ .noEntry := by
    rcases hmade.makeDir with ⟨-, hd₁⟩ | ⟨e', rfl, rfl, herror | hmishap⟩
    · rw [he] at hd₁
      cases hd₁
    · rw [he] at herror
      cases herror
      exact ⟨_, rfl, rfl, hne⟩
    · exact ⟨e', rfl, rfl, hmishap.1⟩
  replace hrest : Session.CanEnd .mild by' (if e' = .noEntry then _ else makeDirs.settle q (.error e')) d₁ x d' := hrest
  rw [if_neg hne'] at hrest
  obtain ⟨y, d₂, hy, hend⟩ := Session.canEnd_ask_iff.mp hrest
  obtain rfl := hy.isDir
  exact (Session.canEnd_done_iff.mp hend).2

/-! ### Writing -/

/-- A file has been put in its place by way of a part beside it, which is gone. -/
structure IsPut (by' : Caller) (p : Path) (c : Content) (d d' : Disk) : Prop where
  agree : AgreeOff [place by' p, place by' (partPath by'.id p)] d d'
  read : d'.read by' p = .ok c
  named : ∃ dir name, place by' p = dir ++ [name] ∧ p.fileName? = some name ∧ Path.isName name = true
  target : d.get? (place by' p) ≠ some .dir
  part : d'.get? (place by' (partPath by'.id p)) = none
  part_ne : d.get? (place by' (partPath by'.id p)) ≠ some .dir

theorem IsPut.file {c : Content} (h : IsPut by' p c d d') : d'.get? (place by' p) = some (.file c) :=
  (read_eq_ok_iff.mp h.read).2

theorem IsPut.get?_eq {c : Content} {l : Location} (h : IsPut by' p c d d') (hp : l ≠ place by' p)
    (hpart : l ≠ place by' (partPath by'.id p)) : d'.get? l = d.get? l :=
  h.agree.get?_eq (by simp [hp, hpart])

theorem IsPut.dir_iff {c : Content} {l : Location} (h : IsPut by' p c d d') :
    d'.get? l = some .dir ↔ d.get? l = some .dir := by
  by_cases hp : l = place by' p
  · subst hp
    simp [h.file, h.target]
  by_cases hpart : l = place by' (partPath by'.id p)
  · subst hpart
    simp [h.part, h.part_ne]
  · rw [h.get?_eq hp hpart]

/-- The part is not in the place of the file, whatever the path is. -/
theorem place_partPath_ne (by' : Caller) (id : Nat) (p : Path) : place by' (partPath id p) ≠ place by' p := by
  cases hp : p.fileName? with
  | some name =>
    rw [Path.partPath_of_fileName? hp, place_child (Path.isName_partName (Path.slash_not_mem_fileName hp)),
      place_of_fileName? hp]
    intro h
    exact Path.partName_ne id name (List.singleton_inj.mp (List.append_cancel_left h))
  | none =>
    have hpart : partPath id p = p.child (Path.partName id []) := by
      rw [partPath, Path.withFileName, hp]
      rfl
    rw [hpart, place_child (Path.isName_partName (by simp))]
    simp

theorem isPut_of_calls {c : Content} (hcreate : d.create by' (partPath by'.id p) = .ok d₁)
    (hwrite : d₁.write by' (partPath by'.id p) c = .ok d₂)
    (hrename : d₂.rename by' (partPath by'.id p) p = .ok d') : IsPut by' p c d d' := by
  obtain ⟨hcreated, -, hagree₁⟩ := get?_of_create hcreate
  obtain ⟨-, hpart, hagree₂⟩ := get?_of_write hwrite
  obtain ⟨s, t, c', hs, ht, hslash, -, htdir, -⟩ := rename_eq_ok hrename
  have hne : place by' (partPath by'.id p) ≠ place by' p := place_partPath_ne by' by'.id p
  obtain ⟨hgone, hfile, hagree₃⟩ := get?_of_rename hrename hne
  rw [hpart] at hfile
  rw [ht.location_eq] at htdir
  -- Directories stay, so that a path that led to `p` before leads there still.
  have hdirs : ∀ m, d₂.get? m = some .dir → d'.get? m = some .dir := by
    intro m hm
    rw [hagree₃.get?_eq, hm]
    intro hmem
    rcases List.mem_cons.mp hmem with rfl | hmem
    · rw [hpart] at hm
      cases hm
    · obtain rfl := List.mem_singleton.mp hmem
      exact htdir hm
  have hagree : AgreeOff [place by' p, place by' (partPath by'.id p)] d d' :=
    (hagree₁.mono (by simp)).trans ((hagree₂.mono (by simp)).trans (hagree₃.mono (by simp)))
  refine ⟨hagree, ?_, ⟨t.dir, t.last, ht.location_eq.symm, ht.fileName?, ht.name⟩, ?_, hgone, hcreated⟩
  · refine read_eq_ok_iff.mpr ⟨(ht.of_dirs hdirs).locate hslash ?_, hfile⟩
    rw [hfile]
    rfl
  · rw [← hagree₁.get?_of_ne hne.symm, ← hagree₂.get?_of_ne hne.symm]
    exact htdir

theorem isPut_of_creating {c : Content} {mishaps : Mishaps}
    (h : (creating p (partPath by'.id p) c).CanEnd mishaps by' d (.ok ()) d') : IsPut by' p c d d' := by
  obtain ⟨d₁, d₂, hcreate, hwrite, hrename⟩ := calls_of_creating h
  exact isPut_of_calls hcreate hwrite hrename

/-- A file that is written is put in its place once the directories above it are there; if it was there
    before, so were they. -/
theorem writeAtomic_isPut {c : Content} (h : (writeAtomic p c).on by' d = (.ok (), d')) :
    ∃ news d₁, IsGrown by' (p.parent?.elim [] Path.ancestors) news d d₁ ∧ IsPut by' p c d₁ d' ∧
      (d.IsTree → d₁.IsTree) ∧ ∀ l, d.locate by' p = .ok l → d₁ = d := by
  generalize hpaths : p.parent?.elim [] Path.ancestors = paths
  obtain ⟨news, hnews⟩ := @isGrown_makeDirs by' paths d
  have htree : d.IsTree → ((makeDirs paths).run by' d).2.IsTree := fun ht => ht.run by' (makeDirs paths)
  have hmade := Session.canEnd_run .mild by' (makeDirs paths) d
  rw [Action.on, run_writeAtomic, hpaths, Session.run_bind] at h
  cases hrun : (makeDirs paths).run by' d with
  | mk made d₁ =>
    rw [hrun] at h hnews htree hmade
    rcases made with e | ⟨⟩
    · cases h
    · have hend := Session.canEnd_run .any by' (creating p (partPath by'.id p) c) d₁
      rw [show (creating p (partPath by'.id p) c).run by' d₁ = (.ok (), d') from h] at hend
      refine ⟨news, d₁, hnews, isPut_of_creating hend, htree, fun l hl => ?_⟩
      subst hpaths
      exact makeDirs_of_locate hl hmade

/-- Nothing is written if the file holds the text already. -/
theorem writeIfChanged_same {s : Text} (h : d.read by' p = .ok (.text s)) :
    (writeIfChanged p s).on by' d = (.ok false, d) := by
  refine Action.on_bind_eq_ok.mpr ⟨.ok (.text s), d, ?_, ?_⟩
  · exact Action.on_call_eq_ok.mpr (Prod.ext h rfl)
  · simp

theorem writeIfChanged_eq_ok {s : Text} {changed : Bool} (h : (writeIfChanged p s).on by' d = (.ok changed, d')) :
    (changed = false ∧ d' = d ∧ d.read by' p = .ok (.text s)) ∨
      (changed = true ∧ d.read by' p ≠ .ok (.text s) ∧ (writeAtomic p (.text s)).on by' d = (.ok (), d')) := by
  obtain ⟨x, d₀, hx, h⟩ := Action.on_bind_eq_ok.mp h
  obtain ⟨hread, rfl⟩ : d.read by' p = x ∧ d = d₀ := Prod.mk.inj (Action.on_call_eq_ok.mp hx)
  rw [hread]
  cases x with
  | ok c =>
    dsimp only at h
    split at h
    · next hc =>
      cases h
      exact Or.inl ⟨rfl, rfl, congrArg _ hc⟩
    · next hc =>
      obtain ⟨⟨⟩, d₁, hwrite, h⟩ := Action.on_bind_eq_ok.mp h
      cases h
      exact Or.inr ⟨rfl, by simpa using hc, hwrite⟩
  | error e =>
    dsimp only at h
    split at h
    · obtain ⟨⟨⟩, d₁, hwrite, h⟩ := Action.on_bind_eq_ok.mp h
      cases h
      exact Or.inr ⟨rfl, by simp, hwrite⟩
    · cases h

/-- Whether or not it has been written, the file holds the text. -/
theorem writeIfChanged_read (h : (writeIfChanged p s).on by' d = (.ok changed, d')) :
    d'.read by' p = .ok (.text s) := by
  rcases writeIfChanged_eq_ok h with ⟨-, rfl, hread⟩ | ⟨-, -, hwrite⟩
  · exact hread
  · obtain ⟨-, d₁, -, hput, -⟩ := writeAtomic_isPut hwrite
    exact hput.read

end Files
end PluginManual

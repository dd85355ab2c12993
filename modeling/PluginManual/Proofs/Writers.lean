import PluginManual.Proofs.Stages

/-! Several programs that write one file at the same time. Each goes by a part of its own, which no other
    touches, and the file changes only when a part that is complete takes its place. Any call may fail, and
    any of the programs may stop at any time. -/

namespace PluginManual
open Disk

/-! ### Programs that make directories -/

namespace Session

variable {α β : Type} {paths paths' : List Path}

/-- All that the program does is to make directories at some of the paths and to look at them. -/
inductive OnlyMakes (paths : List Path) : Session α → Prop where
  | done (a : α) : OnlyMakes paths (.done a)
  | makeDir {q : Path} {next : Except OsError Unit → Session α} (hq : q ∈ paths)
    (h : ∀ x, OnlyMakes paths (next x)) : OnlyMakes paths (.ask (.makeDir q) next)
  | isDir {q : Path} {next : Bool → Session α} (h : ∀ x, OnlyMakes paths (next x)) :
    OnlyMakes paths (.ask (.isDir q) next)

theorem OnlyMakes.mono {s : Session α} (h : s.OnlyMakes paths) (hsub : paths ⊆ paths') : s.OnlyMakes paths' := by
  induction h with
  | done a => exact .done a
  | makeDir hq _ ih => exact .makeDir (hsub hq) ih
  | isDir _ ih => exact .isDir ih

theorem OnlyMakes.bind {s : Session α} {f : α → Session β} (h : s.OnlyMakes paths) (hf : ∀ a, (f a).OnlyMakes paths) :
    (s.bind f).OnlyMakes paths := by
  induction h with
  | done a => exact hf a
  | makeDir hq _ ih => exact .makeDir hq ih
  | isDir _ ih => exact .isDir ih

end Session

namespace Files
open Session

theorem onlyMakes_settle (paths : List Path) (p : Path) (x : Except OsError Unit) :
    (makeDirs.settle p x).OnlyMakes paths := by
  cases x with
  | error e => exact .isDir fun _ => .done _
  | ok => exact .done _

theorem onlyMakes_makeDirs (paths : List Path) : (makeDirs paths).OnlyMakes paths := by
  induction paths with
  | nil => exact .done _
  | cons p above ih =>
    rw [makeDirs]
    split
    · exact .done _
    refine .makeDir List.mem_cons_self fun made => ?_
    rcases made with e | ⟨⟩
    · show OnlyMakes _ (if e = .noEntry then _ else _)
      split
      · refine (ih.mono (List.subset_cons_self p above)).bind fun made => ?_
        rcases made with e | ⟨⟩
        · exact .done _
        · exact .makeDir List.mem_cons_self fun x => onlyMakes_settle _ p x
      · exact onlyMakes_settle _ p _
    · exact .done _

end Files

/-! ### Writers -/

inductive Event.IsRemoval {ι : Type} : Event ι → Prop where
  | intro (who : ι) (p : Path) (before after : Disk) : IsRemoval ⟨who, .remove p, some (.ok ()), before, after⟩

/-- Programs that write a file each, by paths that all lead to the same place. -/
structure Writers (ι : Type) where
  caller : ι → Caller
  path : ι → Path
  content : ι → Content
  target : Location
  leads : ∀ i, place (caller i) (path i) = target
  named : ∀ i, (path i).fileName?.isSome
  /-- The numbers tell the callers apart. -/
  distinct : ∀ i j, (caller i).id = (caller j).id → i = j

namespace Writers

variable {ι : Type} (W : Writers ι)

def start (d : Disk) : Processes ι (Except FileError Unit) :=
  ⟨d, fun i => (Files.writeAtomic (W.path i) (W.content i)).run⟩

def partPath (i : ι) : Path := Files.partPath (W.caller i).id (W.path i)

def part (i : ι) : Location := place (W.caller i) (W.partPath i)

/-- The directories that a writer makes, from the nearest one on. -/
def above (i : ι) : List Path := (W.path i).parent?.elim [] Path.ancestors

/-- The path of a writer leads through a place on its way. -/
def LeadsThrough (i : ι) (l : Location) : Prop := ∃ q ∈ W.above i, place (W.caller i) q = l

/-- What is at a place stays, or a writer makes a directory there on its way. -/
def Keeps (i : ι) (l : Location) (d d' : Disk) : Prop :=
  d'.get? l = d.get? l ∨ (W.LeadsThrough i l ∧ d.get? l = none ∧ d'.get? l = some .dir)

variable {W} {i j : ι} {d d' : Disk} {l : Location} {s : Session (Except FileError Unit)}

/-! ### Parts -/

/-- The part lies beside the target, under a name made of the name of the target and the number of the caller. -/
theorem part_eq (W : Writers ι) (i : ι) :
    ∃ dir name, (W.path i).fileName? = some name ∧ W.target = dir ++ [name] ∧
      W.part i = dir ++ [Path.partName (W.caller i).id name] := by
  obtain ⟨name, hname⟩ := Option.isSome_iff_exists.mp (W.named i)
  refine ⟨_, name, hname, (W.leads i).symm.trans (place_of_fileName? hname), ?_⟩
  rw [part, partPath, Path.partPath_of_fileName? hname,
    place_child (Path.isName_partName (Path.slash_not_mem_fileName hname))]

theorem part_ne_target (W : Writers ι) (i : ι) : W.part i ≠ W.target := by
  obtain ⟨dir, name, -, htarget, hpart⟩ := W.part_eq i
  rw [htarget, hpart]
  intro h
  exact Path.partName_ne _ _ (List.singleton_inj.mp (List.append_cancel_left h))

theorem part_inj (h : W.part i = W.part j) : i = j := by
  obtain ⟨dir, name, -, htarget, hpart⟩ := W.part_eq i
  obtain ⟨dir', name', -, htarget', hpart'⟩ := W.part_eq j
  obtain ⟨rfl, -⟩ := List.append_inj' (htarget.symm.trans htarget') rfl
  rw [hpart, hpart'] at h
  exact W.distinct i j (Path.partName_inj (List.singleton_inj.mp (List.append_cancel_left h))).2

/-! ### Stages -/

/-- How far a writer has come, and what is then known of its part. -/
inductive Stage (W : Writers ι) (i : ι) (d : Disk) (s : Session (Except FileError Unit)) : Prop where
  | making {m : Session (Except OsError Unit)} (hm : m.OnlyMakes (W.above i))
    (hs : s = m.bind (Files.afterDirs (W.path i) (W.content i)))
  | creating (hs : s = Files.creating (W.path i) (W.partPath i) (W.content i))
  | locking (hpart : (d.content? (W.part i)).isSome)
    (hs : s = Files.locking (W.path i) (W.partPath i) (W.content i))
  | filling (hpart : (d.content? (W.part i)).isSome)
    (hs : s = Files.filling (W.path i) (W.partPath i) (W.content i))
  | syncing (hpart : d.content? (W.part i) = some (W.content i)) (hs : s = Files.syncing (W.path i) (W.partPath i))
  | unlocking (hpart : d.content? (W.part i) = some (W.content i)) (hs : s = Files.unlocking (W.path i) (W.partPath i))
  | moving (hpart : d.content? (W.part i) = some (W.content i)) (hs : s = Files.moving (W.path i) (W.partPath i))
  | removing (e : FileError) (hs : s = Files.removing (W.partPath i) e)
  | failed (e : FileError) (hs : s = .done (.error e))

/-- What comes of one step of a writer. Either its part is all that changes, and perhaps there is a new
    directory on its way; or its part becomes the target, and it is done. -/
inductive Outcome (W : Writers ι) (ev : Event ι) (s : Session (Except FileError Unit)) : Prop where
  | aside (stage : W.Stage ev.who ev.after s) (keeps : ∀ l, l ≠ W.part ev.who → W.Keeps ev.who l ev.before ev.after)
    (removed : ev.IsRemoval → ev.after.get? (W.part ev.who) = none ∧ ∃ e, s = .done (.error e))
  | moved (hs : s = .done (.ok ()))
    (renamed : ev = ⟨ev.who, .rename (W.partPath ev.who) (W.path ev.who), some (.ok ()), ev.before, ev.after⟩)
    (target : ev.after.get? W.target = some (.file (W.content ev.who)))
    (gone : ev.after.get? (W.part ev.who) = none)
    (keeps : ∀ l, l ≠ W.target → l ≠ W.part ev.who → ev.after.get? l = ev.before.get? l)

theorem Keeps.content?_eq (h : W.Keeps i l d d') : d'.content? l = d.content? l := by
  rcases h with h | ⟨-, hnone, hdir⟩
  · rw [content?, h, content?]
  · rw [content?, hdir, content?, hnone]
    rfl

theorem keeps_of_agree (h : AgreeOff [W.part i] d d') (l : Location) (hl : l ≠ W.part i) : W.Keeps i l d d' :=
  .inl (h.get?_of_ne hl)

theorem isSome_of_file {c : Content} (h : d.get? (W.part i) = some (.file c)) : (d.content? (W.part i)).isSome := by
  rw [content?_eq_some_iff.mpr h, Option.isSome_some]

theorem stage_start (W : Writers ι) (i : ι) (d : Disk) : W.Stage i d ((W.start d).program i) :=
  .making (Files.onlyMakes_makeDirs _) (Files.run_writeAtomic (W.path i) (W.content i))

theorem Stage.ne_done (h : W.Stage i d s) : s ≠ .done (.ok ()) := by
  rintro rfl
  cases h with
  | making hm hs =>
    cases hm with
    | done made => rcases made with e | ⟨⟩ <;> cases hs
    | makeDir _ _ => cases hs
    | isDir _ => cases hs
  | creating hs => cases hs
  | locking _ hs => cases hs
  | filling _ hs => cases hs
  | syncing _ hs => cases hs
  | unlocking _ hs => cases hs
  | moving _ hs => cases hs
  | removing _ hs => cases hs
  | failed _ hs => cases hs

/-- While others work elsewhere, a writer is where it was. -/
theorem Stage.frame (h : W.Stage i d s) (hpart : d'.content? (W.part i) = d.content? (W.part i)) :
    W.Stage i d' s := by
  cases h with
  | making hm hs => exact .making hm hs
  | creating hs => exact .creating hs
  | locking hfile hs => exact .locking (hpart ▸ hfile) hs
  | filling hfile hs => exact .filling (hpart ▸ hfile) hs
  | syncing hfile hs => exact .syncing (hpart.trans hfile) hs
  | unlocking hfile hs => exact .unlocking (hpart.trans hfile) hs
  | moving hfile hs => exact .moving (hpart.trans hfile) hs
  | removing e hs => exact .removing e hs
  | failed e hs => exact .failed e hs

theorem outcome_making {c : Call} {next : c.Answer → Session (Except FileError Unit)} {x : c.Answer}
    {m : Session (Except OsError Unit)} (hm : m.OnlyMakes (W.above i))
    (hs : .ask c next = m.bind (Files.afterDirs (W.path i) (W.content i)))
    (hx : d.CanAnswer .any (W.caller i) c x d') : W.Outcome ⟨i, c, some x, d, d'⟩ (next x) := by
  cases hm with
  | done made =>
    rcases made with e | ⟨⟩
    · cases hs
    · cases hs
      obtain ⟨rfl, rfl⟩ := hx.callerId
      exact .aside (.creating rfl) (fun _ _ => .inl rfl) nofun
  | @makeDir q _ hq h =>
    cases hs
    refine .aside (.making (h x) rfl) (fun l _ => ?_) nofun
    rcases hx.makeDir with ⟨-, hmade⟩ | ⟨e, -, rfl, -⟩
    · obtain ⟨hnone, hdir, hagree⟩ := get?_of_makeDir hmade
      by_cases hl : l = place (W.caller i) q
      · subst hl
        exact .inr ⟨⟨q, hq, rfl⟩, hnone, hdir⟩
      · exact .inl (hagree.get?_of_ne hl)
    · exact .inl rfl
  | isDir h =>
    cases hs
    obtain rfl := hx.isDir
    exact .aside (.making (h x) rfl) (fun _ _ => .inl rfl) nofun

/-- What keeps the disk as it is leads to the next stage or to the removal of the part. -/
theorem outcome_keeping {c : Call} {next : c.Answer → Session (Except FileError Unit)} {x : c.Answer} {u : Upkeep}
    {rest : Session (Except FileError Unit)} (hs : .ask c next = Files.keeping u (W.path i) (W.partPath i) rest)
    (hrest : W.Stage i d rest) (hx : d.CanAnswer .any (W.caller i) c x d') : W.Outcome ⟨i, c, some x, d, d'⟩ (next x) := by
  cases hs
  obtain rfl := hx.upkeep
  refine .aside ?_ (fun _ _ => .inl rfl) nofun
  rcases x with e | ⟨⟩
  · exact .removing _ rfl
  · exact hrest

theorem outcome_of_answer {c : Call} {next : c.Answer → Session (Except FileError Unit)} {x : c.Answer}
    (h : W.Stage i d (.ask c next)) (hx : d.CanAnswer .any (W.caller i) c x d') :
    W.Outcome ⟨i, c, some x, d, d'⟩ (next x) := by
  cases h with
  | making hm hs => exact outcome_making hm hs hx
  | creating hs =>
    cases hs
    rcases hx.create with ⟨rfl, hcreate⟩ | ⟨e, rfl, rfl, -⟩
    · obtain ⟨-, hfile, hagree⟩ := get?_of_create hcreate
      exact .aside (.locking (isSome_of_file hfile) rfl) (keeps_of_agree hagree) nofun
    · exact .aside (.removing _ rfl) (fun _ _ => .inl rfl) nofun
  | locking hfile hs => exact outcome_keeping hs (.filling hfile rfl) hx
  | filling hfile hs =>
    cases hs
    rcases hx.write with (⟨rfl, hwrite⟩ | ⟨e, rfl, rfl, -⟩) | ⟨e, c', rfl, hwrite⟩
    · obtain ⟨-, hfile', hagree⟩ := get?_of_write hwrite
      exact .aside (.syncing (content?_eq_some_iff.mpr hfile') rfl) (keeps_of_agree hagree) nofun
    · exact .aside (.removing _ rfl) (fun _ _ => .inl rfl) nofun
    · exact .aside (.removing _ rfl) (keeps_of_agree (get?_of_write hwrite).2.2) nofun
  | syncing hfile hs => exact outcome_keeping hs (.unlocking hfile rfl) hx
  | unlocking hfile hs => exact outcome_keeping hs (.moving hfile rfl) hx
  | moving hfile hs =>
    cases hs
    rcases hx.rename with ⟨rfl, hrename⟩ | ⟨e, rfl, rfl, -⟩
    · have hne : place (W.caller i) (W.partPath i) ≠ place (W.caller i) (W.path i) := by
        rw [W.leads i]
        exact W.part_ne_target i
      obtain ⟨hgone, htarget, hagree⟩ := get?_of_rename hrename hne
      rw [W.leads i] at htarget hagree
      have hkeeps : ∀ l, l ≠ W.target → l ≠ W.part i → d'.get? l = d.get? l := fun l hl hpart =>
        hagree.get?_eq (List.not_mem_cons_of_ne_of_not_mem hpart (by simpa using hl))
      exact .moved rfl rfl (htarget.trans (content?_eq_some_iff.mp hfile)) hgone hkeeps
    · exact .aside (.removing _ rfl) (fun _ _ => .inl rfl) nofun
  | removing e hs =>
    cases hs
    rcases hx.remove with ⟨-, hremove⟩ | ⟨e', rfl, rfl, -⟩
    · obtain ⟨-, hnone, hagree⟩ := get?_of_remove hremove
      exact .aside (.failed e rfl) (keeps_of_agree hagree) fun _ => ⟨hnone, e, rfl⟩
    · exact .aside (.failed e rfl) (fun _ _ => .inl rfl) nofun
  | failed e hs => cases hs

theorem outcome_of_writing {p : Path} {c c' : Content} {next : Except OsError Unit → Session (Except FileError Unit)}
    (h : W.Stage i d (.ask (.write p c) next)) (hwrite : d.write (W.caller i) p c' = .ok d') :
    W.Outcome ⟨i, .write p c, none, d, d'⟩ (.ask (.write p c) next) := by
  cases h with
  | making hm hs =>
    cases hm with
    | done made => rcases made with e | ⟨⟩ <;> cases hs
    | makeDir _ _ => cases hs
    | isDir _ => cases hs
  | creating hs => cases hs
  | locking _ hs => cases hs
  | filling hfile hs =>
    cases hs
    obtain ⟨-, hfile', hagree⟩ := get?_of_write hwrite
    exact .aside (.filling (isSome_of_file hfile') rfl) (keeps_of_agree hagree) nofun
  | syncing _ hs => cases hs
  | unlocking _ hs => cases hs
  | moving _ hs => cases hs
  | removing _ hs => cases hs
  | failed _ hs => cases hs

/-! ### Steps -/

variable {w w' : Processes ι (Except FileError Unit)} {ev : Event ι} {es : List (Event ι)} {d₀ : Disk}

/-- What a step of one writer does to all of them. -/
structure Advance (W : Writers ι) (w : Processes ι (Except FileError Unit)) (ev : Event ι)
    (w' : Processes ι (Except FileError Unit)) : Prop where
  before : ev.before = w.disk
  after : ev.after = w'.disk
  busy : ∃ c next, w.program ev.who = .ask c next
  outcome : W.Outcome ev (w'.program ev.who)
  others : ∀ j, j ≠ ev.who → w'.program j = w.program j

theorem Advance.keeps (a : W.Advance w ev w') (htarget : l ≠ W.target) (hpart : l ≠ W.part ev.who) :
    W.Keeps ev.who l w.disk w'.disk := by
  rw [← a.before, ← a.after]
  cases a.outcome with
  | aside _ hkeeps _ => exact hkeeps l hpart
  | moved _ _ _ _ hkeeps => exact .inl (hkeeps l htarget hpart)

/-- No writer touches the part of another one. -/
theorem Advance.content?_part (a : W.Advance w ev w') (hj : j ≠ ev.who) :
    w'.disk.content? (W.part j) = w.disk.content? (W.part j) :=
  (a.keeps (W.part_ne_target j) fun h => hj (part_inj h)).content?_eq

theorem Advance.target (a : W.Advance w ev w') :
    W.Keeps ev.who W.target w.disk w'.disk ∨
      w'.program ev.who = .done (.ok ()) ∧ w'.disk.get? W.target = some (.file (W.content ev.who)) := by
  rw [← a.before, ← a.after]
  cases a.outcome with
  | aside _ hkeeps _ => exact .inl (hkeeps _ (W.part_ne_target _).symm)
  | moved hs _ htarget _ _ => exact .inr ⟨hs, htarget⟩

/-- A writer that is done does nothing more. -/
theorem Advance.ne_who {r : Except FileError Unit} (a : W.Advance w ev w') (hi : w.program i = .done r) : i ≠ ev.who := by
  rintro rfl
  obtain ⟨c, next, hask⟩ := a.busy
  rw [hi] at hask
  cases hask

/-! ### Runs -/

/-- What is to hold of writers at any time, wherever any of them has stopped or failed. -/
structure IsAtomic (W : Writers ι) (d₀ : Disk) (es : List (Event ι)) (w : Processes ι (Except FileError Unit)) :
    Prop where
  /-- The target is as it was, or it holds the whole content of one of the writers. Where the path of a writer
      leads through the target and nothing was there, there may be a directory. -/
  target : w.disk.get? W.target = d₀.get? W.target ∨
    (∃ i, w.disk.get? W.target = some (.file (W.content i))) ∨
    ((∃ i, W.LeadsThrough i W.target) ∧ d₀.get? W.target = none ∧ w.disk.get? W.target = some .dir)
  /-- A writer that has succeeded has put its part in the place of the target, and the part is gone. -/
  succeeds : ∀ i, w.program i = .done (.ok ()) → w.disk.content? (W.part i) = none ∧
    ∃ before after, ⟨i, .rename (W.partPath i) (W.path i), some (.ok ()), before, after⟩ ∈ es ∧
      after.get? W.target = some (.file (W.content i))
  /-- A writer that has not succeeded has not changed the target. -/
  fails : ∀ i, w.program i ≠ .done (.ok ()) → ∀ ev ∈ es, ev.who = i → W.Keeps i W.target ev.before ev.after
  /-- A writer that could remove its part has left none. -/
  removes : ∀ ev ∈ es, ev.IsRemoval → w.disk.content? (W.part ev.who) = none
  touches : ∀ ev ∈ es, ∀ l, l ≠ W.target → l ≠ W.part ev.who → W.Keeps ev.who l ev.before ev.after

/-- What carries the proof over a run: how far each of the writers has come. -/
structure Invariant (W : Writers ι) (d₀ : Disk) (es : List (Event ι)) (w : Processes ι (Except FileError Unit)) :
    Prop extends W.IsAtomic d₀ es w where
  stages : ∀ i, W.Stage i w.disk (w.program i) ∨ w.program i = .done (.ok ())
  idle : ∀ ev ∈ es, ev.IsRemoval → ∃ e, w.program ev.who = .done (.error e)

theorem invariant_start (W : Writers ι) (d₀ : Disk) : W.Invariant d₀ [] (W.start d₀) where
  target := .inl rfl
  succeeds i hi := absurd hi (W.stage_start i d₀).ne_done
  fails := by simp
  removes := by simp
  touches := by simp
  stages i := .inl (W.stage_start i d₀)
  idle := by simp

theorem Invariant.target_step (h : W.Invariant d₀ es w) (a : W.Advance w ev w') :
    w'.disk.get? W.target = d₀.get? W.target ∨ (∃ i, w'.disk.get? W.target = some (.file (W.content i))) ∨
      ((∃ i, W.LeadsThrough i W.target) ∧ d₀.get? W.target = none ∧ w'.disk.get? W.target = some .dir) := by
  rcases a.target with (hsame | ⟨hthrough, hnone, hdir⟩) | ⟨-, hfile⟩
  · rw [hsame]
    exact h.target
  · -- Nothing is there yet, so nothing was there at the start.
    rcases h.target with hsame | ⟨i, hfile⟩ | ⟨-, -, hdir'⟩
    · exact .inr (.inr ⟨⟨_, hthrough⟩, hsame.symm.trans hnone, hdir⟩)
    · rw [hnone] at hfile
      cases hfile
    · rw [hnone] at hdir'
      cases hdir'
  · exact .inr (.inl ⟨_, hfile⟩)

theorem Invariant.succeeds_step (h : W.Invariant d₀ es w) (a : W.Advance w ev w') (hi : w'.program i = .done (.ok ())) :
    w'.disk.content? (W.part i) = none ∧
      ∃ before after, ⟨i, .rename (W.partPath i) (W.path i), some (.ok ()), before, after⟩ ∈ es ++ [ev] ∧
        after.get? W.target = some (.file (W.content i)) := by
  by_cases hwho : i = ev.who
  · subst hwho
    cases a.outcome with
    | aside hstage _ _ => exact absurd hi hstage.ne_done
    | moved _ hrenamed htarget hgone _ =>
      refine ⟨content?_eq_none_iff.mpr (.inl (a.after ▸ hgone)), ev.before, ev.after, ?_, htarget⟩
      exact List.mem_append_right _ (List.mem_singleton.mpr hrenamed.symm)
  · rw [a.others i hwho] at hi
    obtain ⟨hgone, before, after, hmem, htarget⟩ := h.succeeds i hi
    exact ⟨(a.content?_part hwho).trans hgone, before, after, List.mem_append_left _ hmem, htarget⟩

theorem Invariant.fails_step (h : W.Invariant d₀ es w) (a : W.Advance w ev w') (hi : w'.program i ≠ .done (.ok ())) :
    ∀ ev' ∈ es ++ [ev], ev'.who = i → W.Keeps i W.target ev'.before ev'.after := by
  intro ev' hev' hwho
  rcases List.mem_append.mp hev' with hev' | hev'
  · -- A writer that was done would have taken no step, so it was not done before either.
    refine h.fails i (fun hdone => hi ?_) ev' hev' hwho
    rw [a.others i (a.ne_who hdone), hdone]
  · obtain rfl := List.mem_singleton.mp hev'
    subst hwho
    cases a.outcome with
    | aside _ hkeeps _ => exact hkeeps _ (W.part_ne_target _).symm
    | moved hs _ _ _ _ => exact absurd hs hi

theorem Invariant.idle_step (h : W.Invariant d₀ es w) (a : W.Advance w ev w') :
    ∀ ev' ∈ es ++ [ev], ev'.IsRemoval →
      w'.disk.content? (W.part ev'.who) = none ∧ ∃ e, w'.program ev'.who = .done (.error e) := by
  intro ev' hev' hremoval
  rcases List.mem_append.mp hev' with hev' | hev'
  · obtain ⟨e, he⟩ := h.idle ev' hev' hremoval
    have hwho := a.ne_who he
    exact ⟨(a.content?_part hwho).trans (h.removes ev' hev' hremoval), e, (a.others _ hwho).trans he⟩
  · obtain rfl := List.mem_singleton.mp hev'
    cases a.outcome with
    | aside _ _ hremoved =>
      obtain ⟨hnone, hdone⟩ := hremoved hremoval
      exact ⟨content?_eq_none_iff.mpr (.inl (a.after ▸ hnone)), hdone⟩
    | moved _ hrenamed _ _ _ =>
      rw [hrenamed] at hremoval
      cases hremoval

variable [DecidableEq ι]

theorem advance_of_step (hw : ∀ i, W.Stage i w.disk (w.program i) ∨ w.program i = .done (.ok ()))
    (h : w.Step W.caller ev w') : W.Advance w ev w' := by
  have hstage : ∀ {i c next}, w.program i = .ask c next → W.Stage i w.disk (.ask c next) := by
    intro i c next hi
    rcases hw i with hstage | hdone
    · exact hi ▸ hstage
    · rw [hi] at hdone
      cases hdone
  cases h with
  | @ended i c next x d hi hx =>
    refine ⟨rfl, rfl, ⟨c, next, hi⟩, ?_, fun j hj => if_neg hj⟩
    rw [Processes.program_proceed_self]
    exact outcome_of_answer (hstage hi) hx
  | @writing i p c part next d hi hpart hd =>
    refine ⟨rfl, rfl, ⟨.write p c, next, hi⟩, ?_, fun _ _ => rfl⟩
    show W.Outcome _ (w.program i)
    rw [hi]
    exact outcome_of_writing (hstage hi) hd

theorem Invariant.step (h : W.Invariant d₀ es w) (hev : w.Step W.caller ev w') : W.Invariant d₀ (es ++ [ev]) w' := by
  -- All but the writer that takes the step are where they were, and so are their parts.
  have a := advance_of_step h.stages hev
  refine ⟨⟨h.target_step a, fun i => h.succeeds_step a, fun i => h.fails_step a,
    fun ev' hev' hr => (h.idle_step a ev' hev' hr).1, ?_⟩, fun i => ?_, fun ev' hev' hr => (h.idle_step a ev' hev' hr).2⟩
  · intro ev' hev' l htarget hpart
    rcases List.mem_append.mp hev' with hev' | hev'
    · exact h.touches ev' hev' l htarget hpart
    · obtain rfl := List.mem_singleton.mp hev'
      rw [a.before, a.after]
      exact a.keeps htarget hpart
  · by_cases hwho : i = ev.who
    · subst hwho
      cases a.outcome with
      | aside hstage _ _ => exact .inl (a.after ▸ hstage)
      | moved hs _ _ _ _ => exact .inr hs
    · rw [a.others i hwho]
      exact (h.stages i).imp_left fun hstage => hstage.frame (a.content?_part hwho)

theorem invariant_of_run (h : Processes.Run W.caller (W.start d₀) es w) : W.Invariant d₀ es w := by
  induction h with
  | start => exact W.invariant_start d₀
  | step _ hev ih => exact ih.step hev

/-- Whatever fails and wherever any of the writers stops, the target is as it was or holds what one of them
    writes; and no part is the target, or that of another name or another caller. -/
theorem run_isAtomic (h : Processes.Run W.caller (W.start d₀) es w) :
    W.IsAtomic d₀ es w ∧
      (∀ i, W.part i ≠ W.target ∧ ∃ dir name, (W.path i).fileName? = some name ∧ W.target = dir ++ [name] ∧
        W.part i = dir ++ [Path.partName (W.caller i).id name]) ∧
      ∀ id id' name name', Path.partName id name = Path.partName id' name' → name = name' ∧ id = id' :=
  ⟨(invariant_of_run h).toIsAtomic, fun i => ⟨W.part_ne_target i, W.part_eq i⟩, fun _ _ _ _ => Path.partName_inj⟩

/-- One after the other, two programs in different directories write the same file. -/
theorem run_isAtomic_of_two :
    let W : Writers Bool := ⟨fun i => if i then ⟨["d".toList], 2⟩ else ⟨[], 1⟩, fun i => if i then ⟨"../a.md"⟩ else ⟨"a.md"⟩,
      fun i => if i then .text "two" else .text "one", ["a.md".toList], by decide, by decide, by decide⟩
    let d₀ : Disk := ⟨[(["a.md".toList], .file (.text "old")), (["d".toList], .dir)]⟩
    ∃ es w, Processes.Run W.caller (W.start d₀) es w ∧ (∀ i, w.program i = .done (.ok ())) ∧ W.IsAtomic d₀ es w := by
  intro W d₀
  let d₁ : Disk := ⟨[(["a.md".toList], .file (.text "one")), (["d".toList], .dir)]⟩
  let d₂ : Disk := ⟨[(["a.md".toList], .file (.text "two")), (["d".toList], .dir)]⟩
  have hfirst : (Files.writeAtomic ⟨"a.md"⟩ (.text "one")).on ⟨[], 1⟩ d₀ = (.ok (), d₁) := rfl
  have hsecond : (Files.writeAtomic ⟨"../a.md"⟩ (.text "two")).on ⟨["d".toList], 2⟩ d₁ = (.ok (), d₂) := rfl
  obtain ⟨es, hrun⟩ := Processes.run_alone W.caller (w := W.start d₀) (i := false) rfl hfirst
  obtain ⟨es', hrun'⟩ := Processes.run_alone W.caller (w := (W.start d₀).proceed false (.done (.ok ())) d₁)
    (i := true) rfl hsecond
  refine ⟨_, _, hrun.trans hrun', fun i => ?_, (run_isAtomic (hrun.trans hrun')).1⟩
  cases i <;> rfl

/-- The path leads through its own end, where nothing is. The writer makes a directory there on its way and
    then fails to put a file in its place. -/
theorem not_same_of_path_through_target :
    let W : Writers Unit := ⟨fun _ => ⟨[], 1⟩, fun _ => ⟨"a/../a"⟩, fun _ => .text "x", ["a".toList], fun _ => by decide,
      fun _ => by decide, fun _ _ _ => rfl⟩
    ∃ es w, Processes.Run W.caller (W.start {}) es w ∧
      w.program () = .done (.error (.refused ⟨"a/../a"⟩ .isDirectory)) ∧
      w.disk.get? W.target ≠ Disk.get? {} W.target ∧ w.disk.get? W.target ≠ some (.file (W.content ())) := by
  intro W
  have hend : (Files.writeAtomic ⟨"a/../a"⟩ (.text "x")).on ⟨[], 1⟩ {} =
    (.error (.refused ⟨"a/../a"⟩ .isDirectory), ⟨[(["a".toList], .dir)]⟩) := rfl
  obtain ⟨es, hrun⟩ := Processes.run_alone W.caller (w := W.start {}) (i := ()) rfl hend
  exact ⟨es, _, hrun, rfl, by decide, by decide⟩

end Writers
end PluginManual

import PluginManual.Files.Mishaps
import PluginManual.Proofs.Tree

/-! Writing a file, call by call. First the directories above it are made, then the part is created, filled,
    synced and renamed, locked from when it is there until it is safe, and it is removed after any failure on the way. Each call either does its work or
    leaves the disk as it is, except for a write that breaks off. -/

namespace PluginManual

/-! ### Calls -/

namespace Disk

variable {mishaps : Mishaps} {d d' : Disk} {by' : Caller} {p q : Path} {c : Content} {x : Except OsError Unit}

/-- A call to change the disk succeeds, or it fails and has changed nothing. -/
def Settles (mishaps : Mishaps) (d : Disk) (c : Call) (change : Except OsError Disk) (x : Except OsError Unit)
    (d' : Disk) : Prop :=
  (x = .ok () ∧ change = .ok d') ∨ ∃ e, x = .error e ∧ d' = d ∧ (change = .error e ∨ mishaps c e)

theorem settles_of_settle {c : Call} {change : Except OsError Disk} (h : (x, d') = d.settle change) :
    d.Settles mishaps c change x d' := by
  cases change with
  | ok d₁ =>
    cases h
    exact .inl ⟨rfl, rfl⟩
  | error e =>
    cases h
    exact .inr ⟨e, rfl, rfl, .inl rfl⟩

theorem settles_of_mishap {c : Call} {change : Except OsError Disk} {e : OsError} (h : mishaps c e)
    (hx : some (.error e) = some x) : d.Settles mishaps c change x d :=
  .inr ⟨e, (Option.some.inj hx).symm, rfl, .inr h⟩

namespace CanAnswer

theorem read {x : Except OsError Content} (h : d.CanAnswer mishaps by' (.read p) x d') :
    d' = d ∧ (x = d.read by' p ∨ ∃ e, x = .error e ∧ mishaps (.read p) e) := by
  cases h with
  | answered => exact ⟨rfl, .inl rfl⟩
  | refused h hx => exact ⟨rfl, .inr ⟨_, (Option.some.inj hx).symm, h⟩⟩

theorem isDir {x : Bool} (h : d.CanAnswer mishaps by' (.isDir p) x d') : d' = d := by
  cases h <;> rfl

theorem callerId {x : Nat} (h : d.CanAnswer mishaps by' .callerId x d') : x = by'.id ∧ d' = d := by
  cases h with
  | answered => exact ⟨rfl, rfl⟩
  | refused h hx => cases hx

theorem upkeep {u : Upkeep} (h : d.CanAnswer mishaps by' (.upkeep u p) x d') : d' = d := by
  cases h <;> rfl

theorem makeDir (h : d.CanAnswer mishaps by' (.makeDir p) x d') :
    d.Settles mishaps (.makeDir p) (d.makeDir by' p) x d' := by
  cases h with
  | answered => exact settles_of_settle rfl
  | refused h hx => exact settles_of_mishap h hx

theorem create (h : d.CanAnswer mishaps by' (.create p) x d') :
    d.Settles mishaps (.create p) (d.create by' p) x d' := by
  cases h with
  | answered => exact settles_of_settle rfl
  | refused h hx => exact settles_of_mishap h hx

theorem rename (h : d.CanAnswer mishaps by' (.rename p q) x d') :
    d.Settles mishaps (.rename p q) (d.rename by' p q) x d' := by
  cases h with
  | answered => exact settles_of_settle rfl
  | refused h hx => exact settles_of_mishap h hx

theorem remove (h : d.CanAnswer mishaps by' (.remove p) x d') :
    d.Settles mishaps (.remove p) (d.remove by' p) x d' := by
  cases h with
  | answered => exact settles_of_settle rfl
  | refused h hx => exact settles_of_mishap h hx

/-- A write that fails may have written something. -/
theorem write (h : d.CanAnswer mishaps by' (.write p c) x d') :
    d.Settles mishaps (.write p c) (d.write by' p c) x d' ∨
      ∃ e c', x = .error e ∧ d.write by' p c' = .ok d' := by
  cases h with
  | answered => exact .inl (settles_of_settle rfl)
  | refused h hx => exact .inl (settles_of_mishap h hx)
  | brokenOff _ _ hd => exact .inr ⟨_, _, rfl, hd⟩

end CanAnswer

theorem ne_nil_of_get? {l : Location} (h : d.get? l ≠ some .dir) : l ≠ [] := by
  rintro rfl
  exact h rfl

theorem content?_eq_some_iff {l : Location} : d.content? l = some c ↔ d.get? l = some (.file c) := by
  rw [content?]
  rcases d.get? l with _ | _ | c' <;> simp [Entry.content?]

theorem content?_eq_none_iff {l : Location} : d.content? l = none ↔ d.get? l = none ∨ d.get? l = some .dir := by
  rw [content?]
  rcases d.get? l with _ | _ | c' <;> simp [Entry.content?]

theorem AgreeOff.get?_of_ne {l m : Location} (h : AgreeOff [m] d d') (hl : l ≠ m) : d'.get? l = d.get? l :=
  h.get?_eq (by simpa using hl)

/-- Where no directory was, no directory has gone. -/
theorem AgreeOff.dirs {m : Location} (h : AgreeOff [m] d d') (hm : d.get? m ≠ some .dir) (l : Location)
    (hl : d.get? l = some .dir) : d'.get? l = some .dir := by
  rw [h.get?_of_ne, hl]
  rintro rfl
  exact hm hl

theorem get?_of_makeDir (h : d.makeDir by' p = .ok d') :
    d.get? (place by' p) = none ∧ d'.get? (place by' p) = some .dir ∧ AgreeOff [place by' p] d d' := by
  obtain ⟨s, hs, hnone, rfl⟩ := makeDir_eq_ok h
  rw [hs.location_eq] at *
  exact ⟨hnone, get?_put_self (ne_nil_of_get? (d := d) (by simp [hnone])) _, agreeOff_put _ _ _⟩

theorem get?_of_create (h : d.create by' p = .ok d') :
    d.get? (place by' p) ≠ some .dir ∧ d'.get? (place by' p) = some (.file (.text [])) ∧
      AgreeOff [place by' p] d d' := by
  obtain ⟨s, hs, -, hdir, rfl⟩ := create_eq_ok h
  rw [hs.location_eq] at *
  exact ⟨hdir, get?_put_self (ne_nil_of_get? hdir) _, agreeOff_put _ _ _⟩

theorem get?_of_write (h : d.write by' p c = .ok d') :
    (∃ c₀, d.get? (place by' p) = some (.file c₀)) ∧ d'.get? (place by' p) = some (.file c) ∧
      AgreeOff [place by' p] d d' := by
  obtain ⟨l, c₀, hl, hfile, rfl⟩ := write_eq_ok h
  obtain rfl := eq_place_of_locate hl
  exact ⟨⟨c₀, hfile⟩, get?_put_self (ne_nil_of_get? (d := d) (by simp [hfile])) _, agreeOff_put _ _ _⟩

theorem get?_of_rename (h : d.rename by' p q = .ok d') (hne : place by' p ≠ place by' q) :
    d'.get? (place by' p) = none ∧ d'.get? (place by' q) = d.get? (place by' p) ∧
      AgreeOff [place by' p, place by' q] d d' := by
  obtain ⟨s, t, c, hs, ht, -, hfile, hdir, rfl⟩ := rename_eq_ok h
  rw [hs.location_eq] at *
  rw [ht.location_eq] at *
  refine ⟨?_, ?_, ?_⟩
  · rw [get?_put_of_ne hne, get?_drop_self (ne_nil_of_get? (d := d) (by simp [hfile]))]
  · rw [get?_put_self (ne_nil_of_get? hdir), hfile]
  · exact ((agreeOff_drop _ _).mono (by simp)).trans ((agreeOff_put _ _ _).mono (by simp))

theorem get?_of_remove (h : d.remove by' p = .ok d') :
    d.get? (place by' p) ≠ some .dir ∧ d'.get? (place by' p) = none ∧ AgreeOff [place by' p] d d' := by
  obtain ⟨s, hs, hdir, rfl⟩ := remove_eq_ok h
  rw [hs.location_eq] at *
  exact ⟨hdir, get?_drop_self (ne_nil_of_get? hdir), agreeOff_drop _ _⟩

end Disk

/-! ### Stages -/

namespace Files
open Disk Session

def removing (part : Path) (e : FileError) : Session (Except FileError Unit) :=
  .ask (.remove part) fun _ => .done (.error e)

/-- Goes on after a call that has succeeded. -/
def orRemove (part : Path) (fault : OsError → FileError) (next : Session (Except FileError Unit)) :
    Except OsError Unit → Session (Except FileError Unit)
  | .ok () => next
  | .error e => removing part (fault e)

def moving (p part : Path) : Session (Except FileError Unit) :=
  .ask (.rename part p) (orRemove part (.refused p) (.done (.ok ())))

def keeping (u : Upkeep) (p part : Path) (next : Session (Except FileError Unit)) : Session (Except FileError Unit) :=
  .ask (.upkeep u part) (orRemove part (.ofUpkeep p part u) next)

def unlocking (p part : Path) : Session (Except FileError Unit) := keeping .unlock p part (moving p part)

def syncing (p part : Path) : Session (Except FileError Unit) := keeping .sync p part (unlocking p part)

def filling (p part : Path) (c : Content) : Session (Except FileError Unit) :=
  .ask (.write part c) (orRemove part (.refused part) (syncing p part))

def locking (p part : Path) (c : Content) : Session (Except FileError Unit) := keeping .lock p part (filling p part c)

def creating (p part : Path) (c : Content) : Session (Except FileError Unit) :=
  .ask (.create part) (orRemove part (.refused part) (locking p part c))

/-- What is left to do when the directories have been made. -/
def afterDirs (p : Path) (c : Content) : Except OsError Unit → Session (Except FileError Unit)
  | .ok () => .ask .callerId fun id => creating p (partPath id p) c
  | .error e => .done (.error (.refused (p.parent?.getD ⟨[]⟩) e))

/-- What is left to do when the directories are there. -/
def writeThrough (p : Path) (c : Content) : Action FileError Unit := do
  let part := partPath (← Action.call .callerId) p
  let written : Action FileError Unit := do
    writePart p part c
    Action.allow p (Session.call (.rename part p))
  match ← ExceptT.lift written.run with
  | .ok () => return ()
  | .error e =>
    let _ ← Action.call (.remove part)
    throw e

theorem writeAtomic_eq (p : Path) (c : Content) :
    writeAtomic p c =
      match p.parent? with
      | some parent => Action.allow parent (makeDirs parent.ancestors) >>= fun _ => writeThrough p c
      | none => writeThrough p c := by
  rw [writeAtomic]
  cases p.parent? <;> rfl

theorem ask_congr {α : Type} {c : Call} {next next' : c.Answer → Session α} (h : ∀ x, next x = next' x) :
    Session.ask c next = .ask c next' := congrArg _ (funext h)

theorem run_writeThrough (p : Path) (c : Content) : (writeThrough p c).run = afterDirs p c (.ok ()) := by
  refine ask_congr fun id => ask_congr fun created => ?_
  rcases created with e | ⟨⟩
  · rfl
  refine ask_congr fun locked => ?_
  rcases locked with e | ⟨⟩
  · rfl
  refine ask_congr fun filled => ?_
  rcases filled with e | ⟨⟩
  · rfl
  refine ask_congr fun synced => ?_
  rcases synced with e | ⟨⟩
  · rfl
  refine ask_congr fun unlocked => ?_
  rcases unlocked with e | ⟨⟩
  · rfl
  refine ask_congr fun moved => ?_
  rcases moved with e | ⟨⟩ <;> rfl

theorem run_writeAtomic (p : Path) (c : Content) :
    (writeAtomic p c).run = (makeDirs (p.parent?.elim [] Path.ancestors)).bind (afterDirs p c) := by
  have hok := run_writeThrough p c
  rw [writeAtomic_eq]
  cases hp : p.parent? with
  | none => exact hok
  | some q =>
    show ((makeDirs q.ancestors).bind _).bind _ = _
    rw [bind_assoc]
    refine congrArg _ (funext fun made => ?_)
    rcases made with e | ⟨⟩
    · rw [afterDirs, hp]
      rfl
    · exact hok

/-! ### Ends -/

variable {mishaps : Mishaps} {d d' : Disk} {by' : Caller} {p part : Path} {c : Content} {e : FileError}
  {r : Except FileError Unit}

theorem canEnd_removing (h : (removing part e).CanEnd mishaps by' d r d') :
    r = .error e ∧ ∃ x, d.CanAnswer mishaps by' (.remove part) x d' := by
  obtain ⟨x, d₁, hx, hr⟩ := Session.canEnd_ask_iff.mp h
  obtain ⟨rfl, rfl⟩ := Session.canEnd_done_iff.mp hr
  exact ⟨rfl, x, hx⟩

theorem canEnd_orRemove_ok {next : Session (Except FileError Unit)} {fault : OsError → FileError} {x : Except OsError Unit}
    (h : (orRemove part fault next x).CanEnd mishaps by' d (.ok ()) d') :
    x = .ok () ∧ next.CanEnd mishaps by' d (.ok ()) d' := by
  cases x with
  | error e => cases (canEnd_removing h).1
  | ok => exact ⟨rfl, h⟩

theorem canEnd_keeping_ok {u : Upkeep} {next : Session (Except FileError Unit)}
    (h : (keeping u p part next).CanEnd mishaps by' d (.ok ()) d') : next.CanEnd mishaps by' d (.ok ()) d' := by
  obtain ⟨x, d₁, hx, hrest⟩ := Session.canEnd_ask_iff.mp h
  obtain rfl := hx.upkeep
  exact (canEnd_orRemove_ok hrest).2

/-- If all goes well, each of the calls has done its work. -/
theorem calls_of_creating (h : (creating p part c).CanEnd mishaps by' d (.ok ()) d') :
    ∃ d₁ d₂, d.create by' part = .ok d₁ ∧ d₁.write by' part c = .ok d₂ ∧ d₂.rename by' part p = .ok d' := by
  obtain ⟨x, d₁, hcreate, h₁⟩ := Session.canEnd_ask_iff.mp h
  obtain ⟨rfl, h₁⟩ := canEnd_orRemove_ok h₁
  obtain ⟨x, d₂, hwrite, h₂⟩ := Session.canEnd_ask_iff.mp (canEnd_keeping_ok h₁)
  obtain ⟨rfl, h₂⟩ := canEnd_orRemove_ok h₂
  obtain ⟨x, d₃, hrename, h₃⟩ := Session.canEnd_ask_iff.mp (canEnd_keeping_ok (canEnd_keeping_ok h₂))
  obtain ⟨rfl, h₃⟩ := canEnd_orRemove_ok h₃
  obtain ⟨-, rfl⟩ := Session.canEnd_done_iff.mp h₃
  have hcreate : d.create by' part = .ok d₁ := by simpa [Settles] using hcreate.create
  have hwrite : d₁.write by' part c = .ok d₂ := by simpa [Settles] using hwrite.write
  have hrename : d₂.rename by' part p = .ok d' := by simpa [Settles] using hrename.rename
  exact ⟨d₁, d₂, hcreate, hwrite, hrename⟩

end Files
end PluginManual

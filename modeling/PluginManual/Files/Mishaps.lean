import PluginManual.Files.Disk

/-! What can go wrong while programs run on a disk. A call can be refused for a reason that the disk knows
    nothing of, and a write can break off; and several programs can run side by side, each of which may
    stop for good between any two of its calls or in the middle of a write. -/

namespace PluginManual

/-! ### Refusals -/

/-- The answer to a call that is refused: what is asked for is not there. Only the number of the caller can
    always be told. -/
def Call.refusal (e : OsError) : (c : Call) → Option c.Answer
  | .read _ | .list _ | .resolve _ => some (.error e)
  | .makeDir _ | .create _ | .write _ _ | .upkeep _ _ | .rename _ _ | .remove _ => some (.error e)
  | .isDir _ | .isFile _ => some false
  | .callerId => none

/-- Which calls may be refused, and for which reasons. -/
abbrev Mishaps := Call → OsError → Prop

namespace Mishaps

def any : Mishaps := fun _ _ => True

/-- What is there is not reported missing, and what can be removed is removed. So a program that cleans up after a
    failure can do so. -/
def mild : Mishaps := fun c e => e ≠ .noEntry ∧ ∀ p, c ≠ .remove p

end Mishaps

/-- Of some content, only the first bytes have been written. -/
def Content.IsBeginningOf (c whole : Content) : Prop := c.bytes.data.toList <+: whole.bytes.data.toList

/-- What can come of a call: it is answered, or it is refused and changes nothing, or it is a write that
    breaks off. -/
inductive Disk.CanAnswer (mishaps : Mishaps) (by' : Caller) (d : Disk) : (c : Call) → c.Answer → Disk → Prop where
  | answered (c : Call) : CanAnswer mishaps by' d c (d.answer by' c).1 (d.answer by' c).2
  | refused {c : Call} {e : OsError} {x : c.Answer} (h : mishaps c e) (hx : c.refusal e = some x) :
    CanAnswer mishaps by' d c x d
  | brokenOff {p : Path} {c part : Content} {e : OsError} {d' : Disk} (h : mishaps (.write p c) e)
    (hpart : part.IsBeginningOf c) (hd : d.write by' p part = .ok d') :
    CanAnswer mishaps by' d (.write p c) (.error e) d'

namespace Session

variable {α β : Type} {mishaps : Mishaps} {by' : Caller} {d d' : Disk} {a : α} {b : β}

/-- What a program can come to on a disk. -/
inductive CanEnd (mishaps : Mishaps) (by' : Caller) : Session α → Disk → α → Disk → Prop where
  | done (a : α) (d : Disk) : CanEnd mishaps by' (done a) d a d
  | ask {c : Call} {next : c.Answer → Session α} {d d₁ d' : Disk} {x : c.Answer} {a : α}
    (hx : d.CanAnswer mishaps by' c x d₁) (h : CanEnd mishaps by' (next x) d₁ a d') :
    CanEnd mishaps by' (ask c next) d a d'

theorem canEnd_run (mishaps : Mishaps) (by' : Caller) (s : Session α) (d : Disk) :
    s.CanEnd mishaps by' d (s.run by' d).1 (s.run by' d).2 := by
  induction s generalizing d with
  | done a => exact .done a d
  | ask c next ih => exact .ask (.answered c) (ih _ _)

theorem canEnd_done_iff {a' : α} : (done a).CanEnd mishaps by' d a' d' ↔ a' = a ∧ d' = d := by
  constructor
  · intro h
    cases h
    exact ⟨rfl, rfl⟩
  · rintro ⟨rfl, rfl⟩
    exact .done _ _

theorem canEnd_ask_iff {c : Call} {next : c.Answer → Session α} :
    (ask c next).CanEnd mishaps by' d a d' ↔
      ∃ x d₁, d.CanAnswer mishaps by' c x d₁ ∧ (next x).CanEnd mishaps by' d₁ a d' := by
  constructor
  · intro h
    cases h with
    | ask hx h => exact ⟨_, _, hx, h⟩
  · rintro ⟨x, d₁, hx, h⟩
    exact .ask hx h

theorem canEnd_bind_iff {s : Session α} {f : α → Session β} :
    (s.bind f).CanEnd mishaps by' d b d' ↔
      ∃ a d₁, s.CanEnd mishaps by' d a d₁ ∧ (f a).CanEnd mishaps by' d₁ b d' := by
  induction s generalizing d with
  | done a =>
    constructor
    · intro h
      exact ⟨a, d, .done a d, h⟩
    · rintro ⟨a', d₁, ha, h⟩
      obtain ⟨rfl, rfl⟩ := canEnd_done_iff.mp ha
      exact h
  | ask c next ih =>
    rw [bind, canEnd_ask_iff]
    constructor
    · rintro ⟨x, d₁, hx, h⟩
      obtain ⟨a, d₂, ha, h⟩ := (ih x).mp h
      exact ⟨a, d₂, .ask hx ha, h⟩
    · rintro ⟨a, d₂, ha, h⟩
      obtain ⟨x, d₁, hx, ha⟩ := canEnd_ask_iff.mp ha
      exact ⟨x, d₁, hx, (ih x).mpr ⟨a, d₂, ha, h⟩⟩

end Session

/-! ### Programs side by side -/

/-- Several programs on one disk, as far as each of them has come. -/
structure Processes (ι α : Type) where
  disk : Disk
  program : ι → Session α

/-- What one of the programs has done to the disk. -/
structure Event (ι : Type) where
  who : ι
  call : Call
  /-- There is none while the call is under way. -/
  answer : Option call.Answer
  before : Disk
  after : Disk

namespace Processes

variable {ι α : Type} [DecidableEq ι]

def proceed (w : Processes ι α) (i : ι) (s : Session α) (d : Disk) : Processes ι α :=
  ⟨d, fun j => if j = i then s else w.program j⟩

/-- One of the programs takes a step: its call comes to an end, or it has written a part of what it
    writes. -/
inductive Step (callers : ι → Caller) (w : Processes ι α) : Event ι → Processes ι α → Prop where
  | ended {i : ι} {c : Call} {next : c.Answer → Session α} {x : c.Answer} {d : Disk}
    (hi : w.program i = .ask c next) (hx : w.disk.CanAnswer .any (callers i) c x d) :
    Step callers w ⟨i, c, some x, w.disk, d⟩ (w.proceed i (next x) d)
  | writing {i : ι} {p : Path} {c part : Content} {next : Except OsError Unit → Session α} {d : Disk}
    (hi : w.program i = .ask (.write p c) next) (hpart : part.IsBeginningOf c)
    (hd : w.disk.write (callers i) p part = .ok d) :
    Step callers w ⟨i, .write p c, none, w.disk, d⟩ { w with disk := d }

/-- Steps one after the other, in any order of the programs. Where the last of a program's steps is not the
    end of the program, the program has stopped there. -/
inductive Run (callers : ι → Caller) (w : Processes ι α) : List (Event ι) → Processes ι α → Prop where
  | start : Run callers w [] w
  | step {es : List (Event ι)} {ev : Event ι} {w' w'' : Processes ι α} (h : Run callers w es w')
    (hev : w'.Step callers ev w'') : Run callers w (es ++ [ev]) w''

variable {callers : ι → Caller} {w w' w'' : Processes ι α} {es es' : List (Event ι)}

theorem Run.trans (h : Run callers w es w') (h' : Run callers w' es' w'') : Run callers w (es ++ es') w'' := by
  induction h' with
  | start =>
    rw [List.append_nil]
    exact h
  | step _ hev ih =>
    rw [← List.append_assoc]
    exact .step ih hev

theorem program_proceed_self (w : Processes ι α) (i : ι) (s : Session α) (d : Disk) :
    (w.proceed i s d).program i = s := if_pos rfl

theorem proceed_proceed (w : Processes ι α) (i : ι) (s s' : Session α) (d d' : Disk) :
    (w.proceed i s d).proceed i s' d' = w.proceed i s' d' := by
  simp only [proceed]
  congr 1
  funext j
  split <;> rfl

theorem proceed_self {i : ι} {s : Session α} (h : w.program i = s) : w.proceed i s w.disk = w := by
  subst h
  obtain ⟨d, program⟩ := w
  simp only [proceed]
  congr 1
  funext j
  split
  · next hj => rw [hj]
  · rfl

/-- One of the programs can come to its result while the others wait. -/
theorem run_alone (callers : ι → Caller) {i : ι} {s : Session α} {a : α} {d : Disk} (h : w.program i = s)
    (hrun : s.run (callers i) w.disk = (a, d)) : ∃ es, Run callers w es (w.proceed i (.done a) d) := by
  induction s generalizing w with
  | done a' =>
    cases hrun
    refine ⟨[], ?_⟩
    rw [proceed_self h]
    exact .start
  | ask c next ih =>
    have hanswer : w.disk.CanAnswer .any (callers i) c _ _ := .answered c
    have hfirst := Run.step .start (.ended h hanswer)
    obtain ⟨es, hrest⟩ := ih _ (program_proceed_self w i _ (w.disk.answer (callers i) c).2) hrun
    rw [proceed_proceed] at hrest
    exact ⟨_, hfirst.trans hrest⟩

end Processes
end PluginManual

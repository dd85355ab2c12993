import PluginManual.Files.Access
import PluginManual.Files.Disk

/-! Programs that may fail, run on a disk. A program that runs to the end has run each of its parts to the
    end, one on the disk that the other left; most parts only look at the disk. -/

namespace PluginManual

/-! ### Results -/

instance decidableEqExcept {ε α : Type} [DecidableEq ε] [DecidableEq α] : DecidableEq (Except ε α)
  | .ok a, .ok b => decidable_of_iff (a = b) ⟨congrArg _, Except.ok.inj⟩
  | .error e, .error f => decidable_of_iff (e = f) ⟨congrArg _, Except.error.inj⟩
  | .ok _, .error _ => .isFalse nofun
  | .error _, .ok _ => .isFalse nofun

theorem bind_eq_ok {ε α β : Type} {x : Except ε α} {f : α → Except ε β} {b : β} :
    x >>= f = .ok b ↔ ∃ a, x = .ok a ∧ f a = .ok b := by
  cases x with
  | error e =>
    constructor
    · intro h
      cases h
    · rintro ⟨a, h, -⟩
      cases h
  | ok a =>
    constructor
    · intro h
      exact ⟨a, rfl, h⟩
    · rintro ⟨a', h, hf⟩
      cases h
      exact hf

theorem ok_bind {ε α β : Type} (a : α) (f : α → Except ε β) : Except.ok a >>= f = f a := rfl

theorem mapError_eq_ok {ε ε' α : Type} {f : ε → ε'} {x : Except ε α} {a : α} :
    x.mapError f = .ok a ↔ x = .ok a := by
  cases x with
  | error e =>
    constructor
    · intro h
      cases h
    · intro h
      cases h
  | ok b =>
    show (Except.ok b : Except ε' α) = .ok a ↔ (Except.ok b : Except ε α) = .ok a
    rw [Except.ok.injEq, Except.ok.injEq]

/-! ### Callers -/

namespace Disk

variable {by' by'' : Caller} {d : Disk} {p : Path}

/-- Where a path leads depends on the working directory of the caller only. -/
theorem locate_congr (h : by''.workDir = by'.workDir) : d.locate by'' p = d.locate by' p := by
  rw [locate, locate, start, start, h]

theorem read_congr (h : by''.workDir = by'.workDir) : d.read by'' p = d.read by' p := by
  rw [read, read, locate_congr h]

theorem find?_congr (h : by''.workDir = by'.workDir) : d.find? by'' p = d.find? by' p := by
  rw [find?, find?, locate_congr h]

theorem list_congr (h : by''.workDir = by'.workDir) : d.list by'' p = d.list by' p := by
  rw [list, list, locate_congr h]

end Disk

/-! ### Programs that only look -/

/-- The call asks what is on the disk, and changes nothing there. -/
def Call.looks : Call → Bool
  | .read _ | .isDir _ | .isFile _ | .list _ | .resolve _ => true
  | _ => false

theorem Disk.answer_leaves {c : Call} (hc : c.looks = true) (by' : Caller) (d : Disk) : (d.answer by' c).2 = d := by
  cases c <;> first | rfl | cases hc

theorem Disk.answer_congr {c : Call} (hc : c.looks = true) {by' by'' : Caller} (h : by''.workDir = by'.workDir)
    (d : Disk) : d.answer by'' c = d.answer by' c := by
  cases c with
  | read p => simp only [answer, read_congr h]
  | isDir p | isFile p => simp only [answer, find?_congr h]
  | list p => simp only [answer, list_congr h]
  | resolve p => simp only [answer, locate_congr h]
  | _ => cases hc

namespace Session

variable {α β : Type} {s : Session α}

/-- All that the program does is to look at the disk. -/
inductive OnlyLooks : Session α → Prop where
  | done (a : α) : OnlyLooks (.done a)
  | ask {c : Call} {next : c.Answer → Session α} (hc : c.looks = true) (h : ∀ x, OnlyLooks (next x)) :
    OnlyLooks (.ask c next)

theorem OnlyLooks.bind {f : α → Session β} (h : s.OnlyLooks) (hf : ∀ a, (f a).OnlyLooks) : (s.bind f).OnlyLooks := by
  induction h with
  | done a => exact hf a
  | ask hc _ ih => exact .ask hc ih

theorem OnlyLooks.run_leaves (h : s.OnlyLooks) (by' : Caller) (d : Disk) : (s.run by' d).2 = d := by
  induction h with
  | done a => rfl
  | ask hc _ ih => rw [run_ask, Disk.answer_leaves hc, ih]

theorem OnlyLooks.run_congr (h : s.OnlyLooks) {by' by'' : Caller} (hby : by''.workDir = by'.workDir) (d : Disk) :
    s.run by'' d = s.run by' d := by
  induction h with
  | done a => rfl
  | ask hc _ ih => rw [run_ask, run_ask, Disk.answer_congr hc hby, Disk.answer_leaves hc, ih]

end Session

namespace Action

variable {ε ε' α β : Type} {by' : Caller} {d d' : Disk}

/-! ### Running -/

def on (by' : Caller) (a : Action ε α) (d : Disk) : Except ε α × Disk := Session.run by' a.run d

@[simp] theorem on_pure (a : α) : (pure a : Action ε α).on by' d = (.ok a, d) := rfl

@[simp] theorem on_throw (e : ε) : (throw e : Action ε α).on by' d = (.error e, d) := rfl

@[simp] theorem on_call (c : Call) : (call c : Action ε c.Answer).on by' d =
    (.ok (d.answer by' c).1, (d.answer by' c).2) := rfl

@[simp] theorem on_result (x : Except ε α) : on by' (ExceptT.mk (pure x)) d = (x, d) := rfl

theorem on_bind (a : Action ε α) (f : α → Action ε β) :
    (a >>= f).on by' d =
      match a.on by' d with
      | (.ok x, d') => (f x).on by' d'
      | (.error e, d') => (.error e, d') := by
  show Session.run by' (Session.bind a.run (ExceptT.bindCont f)) d = _
  rw [Session.run_bind, on]
  cases h : Session.run by' a.run d with
  | mk x d' => cases x <;> rfl

@[simp] theorem on_mapError (f : ε → ε') (a : Action ε α) :
    (a.mapError f).on by' d = ((a.on by' d).1.mapError f, (a.on by' d).2) := by
  show Session.run by' (Session.bind a.run fun x => pure (x.mapError f)) d = _
  rw [Session.run_bind]
  rfl

theorem on_allow (p : Path) (s : Session (Except OsError α)) :
    (allow p s).on by' d = ((s.run by' d).1.mapError (FileError.refused p), (s.run by' d).2) := by
  show Session.run by' (Session.bind s fun x => pure (x.mapError (FileError.refused p))) d = _
  rw [Session.run_bind]
  rfl

/-- A program that comes to a result has come to the results of its parts. -/
theorem on_bind_eq_ok {a : Action ε α} {f : α → Action ε β} {b : β} :
    (a >>= f).on by' d = (.ok b, d') ↔ ∃ x d₁, a.on by' d = (.ok x, d₁) ∧ (f x).on by' d₁ = (.ok b, d') := by
  rw [on_bind]
  constructor
  · intro h
    split at h
    · next x d₁ ha => exact ⟨x, d₁, ha, h⟩
    · cases h
  · rintro ⟨x, d₁, ha, hf⟩
    rw [ha]
    exact hf

theorem on_result_eq_ok {x : Except ε α} {y : α} :
    on by' (ExceptT.mk (pure x)) d = (.ok y, d') ↔ x = .ok y ∧ d' = d := by
  rw [on_result, Prod.mk.injEq, eq_comm (b := d')]

theorem on_call_eq_ok {c : Call} {x : c.Answer} :
    (call c : Action ε c.Answer).on by' d = (.ok x, d') ↔ d.answer by' c = (x, d') := by
  rw [on_call, Prod.mk.injEq, Except.ok.injEq, Prod.ext_iff]

theorem on_allow_eq_ok {p : Path} {s : Session (Except OsError α)} {x : α} :
    (allow p s).on by' d = (.ok x, d') ↔ s.run by' d = (.ok x, d') := by
  rw [on_allow, Prod.mk.injEq, mapError_eq_ok, Prod.ext_iff]

theorem on_mapError_eq_ok {f : ε → ε'} {a : Action ε α} {x : α} :
    (a.mapError f).on by' d = (.ok x, d') ↔ a.on by' d = (.ok x, d') := by
  rw [on_mapError, Prod.mk.injEq, mapError_eq_ok, Prod.ext_iff]

/-- The result of a program on a disk, if it comes to one. -/
def value? (by' : Caller) (a : Action ε α) (d : Disk) : Option α := (a.on by' d).1.toOption

theorem exists_on_of_value? {a : Action ε α} {x : α} (h : a.value? by' d = some x) :
    ∃ d', a.on by' d = (.ok x, d') := by
  rw [value?] at h
  cases hx : a.on by' d with
  | mk y d' =>
    rw [hx] at h
    cases y with
    | error e => cases h
    | ok y =>
      cases h
      exact ⟨d', rfl⟩

theorem on_mapM {γ : Type} {f : γ → Action ε α} {g : γ → α} {xs : List γ}
    (h : ∀ x ∈ xs, (f x).on by' d = (.ok (g x), d)) : (xs.mapM f).on by' d = (.ok (xs.map g), d) := by
  induction xs with
  | nil => rfl
  | cons x xs ih =>
    rw [List.mapM_cons, on_bind, h x List.mem_cons_self]
    simp only
    rw [on_bind, ih fun y hy => h y (List.mem_cons_of_mem x hy)]
    rfl

/-! ### Programs that leave the disk alone -/

/-- The program leaves every disk as it is, and comes to the same result whoever runs it there. -/
structure ReadsOnly (a : Action ε α) : Prop where
  leaves : ∀ by' d, (a.on by' d).2 = d
  again : ∀ by' by'' d, by''.workDir = by'.workDir → a.on by'' d = a.on by' d

/-- The program makes no calls but those that look at the disk. -/
def OnlyLooks (a : Action ε α) : Prop := Session.OnlyLooks a.run

theorem OnlyLooks.readsOnly {a : Action ε α} (h : a.OnlyLooks) : a.ReadsOnly where
  leaves by' d := Session.OnlyLooks.run_leaves h by' d
  again _ _ d hby := Session.OnlyLooks.run_congr h hby d

theorem OnlyLooks.result (x : Except ε α) : OnlyLooks (ExceptT.mk (Pure.pure x)) := .done x

theorem OnlyLooks.pure (a : α) : OnlyLooks (pure a : Action ε α) := .done _

theorem OnlyLooks.throw (e : ε) : OnlyLooks (throw e : Action ε α) := .done _

theorem OnlyLooks.call {c : Call} (hc : c.looks = true) : OnlyLooks (call c : Action ε c.Answer) :=
  .ask hc fun _ => .done _

theorem OnlyLooks.bind {a : Action ε α} {f : α → Action ε β} (ha : a.OnlyLooks) (hf : ∀ x, (f x).OnlyLooks) :
    (a >>= f).OnlyLooks := by
  refine Session.OnlyLooks.bind ha fun x => ?_
  cases x with
  | ok x => exact hf x
  | error e => exact .done _

theorem OnlyLooks.mapError {a : Action ε α} (ha : a.OnlyLooks) (f : ε → ε') : (a.mapError f).OnlyLooks :=
  Session.OnlyLooks.bind ha fun _ => .done _

theorem OnlyLooks.mapM {γ : Type} {f : γ → Action ε α} (hf : ∀ x, (f x).OnlyLooks) (xs : List γ) :
    (xs.mapM f).OnlyLooks := by
  induction xs with
  | nil =>
    rw [List.mapM_nil]
    exact .pure _
  | cons x xs ih =>
    rw [List.mapM_cons]
    exact (hf x).bind fun y => ih.bind fun ys => .pure _

/-- A part that only looks at the disk comes to its result where the whole begins. -/
theorem ReadsOnly.on_bind_eq_ok {a : Action ε α} (ha : a.ReadsOnly) {f : α → Action ε β} {b : β} :
    (a >>= f).on by' d = (.ok b, d') ↔ ∃ x, a.on by' d = (.ok x, d) ∧ (f x).on by' d = (.ok b, d') := by
  rw [Action.on_bind_eq_ok]
  constructor
  · rintro ⟨x, d₁, hx, hf⟩
    have hd := ha.leaves by' d
    rw [hx] at hd
    obtain rfl : d₁ = d := hd
    exact ⟨x, hx, hf⟩
  · rintro ⟨x, hx, hf⟩
    exact ⟨x, d, hx, hf⟩

theorem ReadsOnly.on_again {a : Action ε α} (ha : a.ReadsOnly) {by'' : Caller} {r : Except ε α × Disk}
    (h : by''.workDir = by'.workDir) (hr : a.on by' d = r) : a.on by'' d = r :=
  (ha.again by' by'' d h).trans hr

theorem ReadsOnly.on_of_value? {a : Action ε α} (ha : a.ReadsOnly) {x : α} (h : a.value? by' d = some x) :
    a.on by' d = (.ok x, d) := by
  obtain ⟨d', hd'⟩ := exists_on_of_value? h
  have hd := ha.leaves by' d
  rw [hd'] at hd
  rw [hd', show d' = d from hd]

/-- Each member of a list has come to its result where the whole list begins. -/
theorem OnlyLooks.on_mapM_eq_ok {γ : Type} [Inhabited α] {f : γ → Action ε α} (hf : ∀ x, (f x).OnlyLooks)
    {xs : List γ} {ys : List α} (h : (xs.mapM f).on by' d = (.ok ys, d')) :
    ∃ g : γ → α, (∀ x ∈ xs, (f x).on by' d = (.ok (g x), d)) ∧ ys = xs.map g := by
  refine ⟨fun x => ((f x).value? by' d).getD default, ?_⟩
  induction xs generalizing ys with
  | nil =>
    cases h
    simp
  | cons x xs ih =>
    rw [List.mapM_cons] at h
    obtain ⟨y, hy, hbind⟩ := (hf x).readsOnly.on_bind_eq_ok.mp h
    obtain ⟨rest, hrest, hret⟩ := (OnlyLooks.mapM hf xs).readsOnly.on_bind_eq_ok.mp hbind
    cases hret
    obtain ⟨hall, hmap⟩ := ih hrest
    have hvalue : ((f x).value? by' d).getD default = y := by
      rw [value?, hy]
      rfl
    refine ⟨fun z hz => ?_, by rw [List.map_cons, hvalue, ← hmap]⟩
    rcases List.mem_cons.mp hz with rfl | hz
    · rw [hy]
      exact congrArg (fun v => (Except.ok v, d)) hvalue.symm
    · exact hall z hz

end Action
end PluginManual

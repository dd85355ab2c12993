import Mathlib.Data.Option.Basic
import PluginManual.Lua.Definition
import PluginManual.Proofs.Cuts

/-! How the definition of a function is written. The reader of definitions takes exactly the texts of two forms:
    the word `function`, what names the function and its arguments; and a field of a table, an equals sign, the
    word `function` and the arguments. -/

namespace PluginManual
namespace LuaDefinition
open Text

variable {d : LuaDefinition} {s run rest name table : Text}

/-! ### Names -/

/-- A character of a name, or a dot between two names. -/
def inRun (c : Char) : Bool := isWordChar c || c = '.'

theorem toNat_of_beginsName {c : Char} (h : beginsName c = true) :
    c = '_' ∨ (65 ≤ c.toNat ∧ c.toNat ≤ 90) ∨ (97 ≤ c.toNat ∧ c.toNat ≤ 122) := by
  simp only [beginsName, Bool.or_eq_true, decide_eq_true_eq] at h
  rcases h with h | h
  · have hletter : (decide ('A'.val ≤ c.val ∧ c.val ≤ 'Z'.val) || (decide ('a'.val ≤ c.val) && decide (c.val ≤ 'z'.val))) = true := h
    simp only [Bool.or_eq_true, Bool.and_eq_true, decide_eq_true_eq] at hletter
    exact .inr hletter
  · exact .inl h

theorem isWordChar_of_beginsName {c : Char} (h : beginsName c = true) : isWordChar c = true := by
  rcases toNat_of_beginsName h with rfl | hc
  · decide
  · rw [isWordChar, if_pos (by omega), Bool.or_eq_true]
    simp only [beginsName, Bool.or_eq_true] at h
    exact h.imp_left fun hc => Bool.or_eq_true_iff.mpr (.inl hc)

theorem not_isBlank_of_beginsName {c : Char} (h : beginsName c = true) : isBlank c = false := by
  simp only [beginsName, Bool.or_eq_true, decide_eq_true_eq] at h
  rcases h with hc | rfl
  · exact not_isBlank_of_isAlphanum (Bool.or_eq_true_iff.mpr (.inl hc))
  · decide

/-- Names with dots before, between and behind them. -/
def IsRun (s : Text) : Prop := (∃ c ∈ s.head?, beginsName c = true) ∧ ∀ c ∈ s, inRun c = true

theorem dottedRun?_eq_some_iff : dottedRun? s = some (run, rest) ↔ s = run ++ rest ∧ IsRun run ∧ Avoids inRun rest := by
  have hspan : ∀ c t, dottedRun? (c :: t) = if beginsName c then some ((c :: t).takeWhile inRun, (c :: t).dropWhile inRun)
      else none := fun _ _ => rfl
  constructor
  · intro h
    cases s with
    | nil => cases h
    | cons c t =>
      rw [hspan] at h
      split at h
      · next hc =>
        obtain ⟨rfl, rfl⟩ := Prod.mk.inj (Option.some.inj h)
        obtain ⟨hs, hrun, hrest⟩ := (span_eq_iff (p := inRun) (s := c :: t)).mp ⟨rfl, rfl⟩
        have hin : inRun c = true := by simp [inRun, isWordChar_of_beginsName hc]
        exact ⟨hs, ⟨⟨c, by rw [List.takeWhile_cons_of_pos hin]; rfl, hc⟩, hrun⟩, hrest⟩
      · cases h
  · rintro ⟨rfl, ⟨⟨c, hc, hbegins⟩, hrun⟩, hrest⟩
    obtain ⟨t, rfl⟩ := List.head?_eq_some_iff.mp hc
    rw [List.cons_append, hspan, if_pos hbegins, ← List.cons_append]
    obtain ⟨h₁, h₂⟩ := span_eq_iff.mpr ⟨rfl, hrun, hrest⟩
    rw [h₁, h₂]

theorem inRun_eq_true_iff {c : Char} : inRun c = true ↔ isWordChar c = true ∨ c = '.' := by simp [inRun]

theorem isName_iff : isName s = true ↔ IsRun s ∧ '.' ∉ s := by
  have hdot : isWordChar '.' = false := by decide
  cases s with
  | nil => simp [isName, IsRun]
  | cons c t =>
    simp only [isName, IsRun, Bool.and_eq_true, List.all_eq_true, List.head?_cons, Option.mem_some_iff,
      exists_eq_left', List.forall_mem_cons, inRun_eq_true_iff]
    constructor
    · rintro ⟨hc, ht⟩
      have hword : ∀ x ∈ c :: t, isWordChar x = true := List.forall_mem_cons.mpr ⟨isWordChar_of_beginsName hc, ht⟩
      refine ⟨⟨hc, .inl (isWordChar_of_beginsName hc), fun x hx => .inl (ht x hx)⟩, fun hmem => ?_⟩
      rw [hword '.' hmem] at hdot
      cases hdot
    · rintro ⟨⟨hc, -, ht⟩, hmem⟩
      refine ⟨hc, fun x hx => (ht x hx).resolve_right ?_⟩
      rintro rfl
      exact hmem (List.mem_cons_of_mem _ hx)

theorem splitLastDot?_eq_some_iff : splitLastDot? s = some (table, name) ↔ s = table ++ '.' :: name ∧ '.' ∉ name := by
  constructor
  · intro h
    rw [splitLastDot?] at h
    split at h
    · cases h
    · next c front hdrop =>
      cases h
      obtain ⟨hs, hname, hdot⟩ := span_eq_iff.mp ⟨rfl, hdrop⟩
      obtain rfl : c = '.' := by simpa using avoids_cons.mp hdot
      have hs := congrArg List.reverse hs
      rw [List.reverse_reverse] at hs
      exact ⟨by simpa using hs, fun hmem => by simpa using hname '.' (List.mem_reverse.mp hmem)⟩
  · rintro ⟨rfl, hname⟩
    have hne : ∀ c ∈ name.reverse, (c != '.') = true := fun c hc => by
      simpa using ne_of_mem_of_not_mem (List.mem_reverse.mp hc) hname
    have hspan := span_eq_iff (p := (· != '.')) (s := (table ++ '.' :: name).reverse) (a := name.reverse)
      (b := '.' :: table.reverse)
    obtain ⟨htake, hdrop⟩ := hspan.mpr ⟨by simp, hne, avoids_cons.mpr (by simp)⟩
    rw [splitLastDot?, hdrop, htake, List.reverse_reverse]
    show some (table.reverse.reverse, name) = _
    rw [List.reverse_reverse]

theorem splitLastDot?_eq_none_iff : splitLastDot? s = none ↔ '.' ∉ s := by
  have hnil : splitLastDot? s = none ↔ s.reverse.dropWhile (· != '.') = [] := by
    rw [splitLastDot?]
    split <;> simp_all
  rw [hnil, List.dropWhile_eq_nil_iff]
  constructor
  · intro h hmem
    simpa using h '.' (List.mem_reverse.mpr hmem)
  · intro h c hc
    simpa using ne_of_mem_of_not_mem (List.mem_reverse.mp hc) h

/-! ### What a definition names -/

/-- The text names a function: by a name alone, by a table and a field of it, or by a table and a method. -/
inductive IsTarget : (table : Option Text) → (isMethod : Bool) → (name : Text) → Text → Prop where
  | plain {name : Text} (hn : isName name = true) : IsTarget none false name name
  | field {table name : Text} (ht : IsRun table) (hn : isName name = true) :
    IsTarget (some table) false name (table ++ '.' :: name)
  | method {table name : Text} (ht : IsRun table) (hn : isName name = true) :
    IsTarget (some table) true name (table ++ ':' :: name)

theorem isRun_append_iff (hn : isName name = true) : IsRun (table ++ '.' :: name) ↔ IsRun table := by
  have hname : ∀ c ∈ name, inRun c = true := (isName_iff.mp hn).1.2
  cases table with
  | nil => simp [IsRun, beginsName]
  | cons c t =>
    simp only [IsRun, List.cons_append, List.head?_cons, List.forall_mem_cons, List.forall_mem_append]
    constructor
    · rintro ⟨hbegins, hc, ht, -⟩
      exact ⟨hbegins, hc, ht⟩
    · rintro ⟨hbegins, hc, ht⟩
      exact ⟨hbegins, hc, ht, by decide, hname⟩

theorem avoids_inRun_iff : Avoids inRun s ↔ Avoids isWordChar s ∧ s.head? ≠ some '.' := by
  cases s with
  | nil => simp [Avoids]
  | cons c s => simp [avoids_cons, inRun]

/-- What a definition names is read off a text that goes on with something else than a name, a dot or a colon. -/
theorem target?_eq_some_iff {table : Option Text} {isMethod : Bool} (hrest : ∀ c ∈ rest.head?, c ≠ '.' ∧ c ≠ ':') :
    target? s = some (table, isMethod, name, rest) ↔
      ∃ t, s = t ++ rest ∧ IsTarget table isMethod name t ∧ Avoids inRun rest := by
  constructor
  · intro h
    obtain ⟨⟨run, after⟩, hcut, hread⟩ := Option.bind_eq_some_iff.mp h
    obtain ⟨rfl, hrun, hafter⟩ := dottedRun?_eq_some_iff.mp hcut
    dsimp only at hread
    split at hread
    · next after =>
      obtain ⟨⟨⟩, hname, hend⟩ := Option.bind_eq_some_iff.mp hread
      cases hend
      obtain ⟨hafter, -, havoids⟩ := (span_eq_iff (p := isWordChar)).mp ⟨rfl, rfl⟩
      refine ⟨_, ?_, .method hrun (by simpa using hname), avoids_inRun_iff.mpr ⟨havoids, fun hdot => ?_⟩⟩
      · rw [List.append_assoc, List.cons_append, ← hafter]
      · exact (hrest '.' hdot).1 rfl
    · split at hread
      · next hsplit =>
        obtain ⟨⟨⟩, hguard, hend⟩ := Option.bind_eq_some_iff.mp hread
        cases hend
        obtain ⟨rfl, -⟩ := splitLastDot?_eq_some_iff.mp hsplit
        have hname : isName name = true := by simpa using hguard
        exact ⟨_, rfl, .field ((isRun_append_iff hname).mp hrun) hname, hafter⟩
      · next hsplit =>
        cases hread
        exact ⟨_, rfl, .plain (isName_iff.mpr ⟨hrun, splitLastDot?_eq_none_iff.mp hsplit⟩), hafter⟩
  · rintro ⟨t, rfl, ht, havoids⟩
    -- The longest run is the whole name with its table, or the table alone if a colon follows it.
    cases ht with
    | plain hn =>
      obtain ⟨hrun, hdot⟩ := isName_iff.mp hn
      refine Option.bind_eq_some_iff.mpr ⟨_, dottedRun?_eq_some_iff.mpr ⟨rfl, hrun, havoids⟩, ?_⟩
      dsimp only
      split
      · exact absurd rfl (hrest ':' rfl).2
      · rw [splitLastDot?_eq_none_iff.mpr hdot]
        rfl
    | @field table _ ht hn =>
      have hrun := (isRun_append_iff hn).mpr ht
      have hsplit : splitLastDot? (table ++ '.' :: name) = some (table, name) :=
        splitLastDot?_eq_some_iff.mpr ⟨rfl, (isName_iff.mp hn).2⟩
      refine Option.bind_eq_some_iff.mpr ⟨_, dottedRun?_eq_some_iff.mpr ⟨rfl, hrun, havoids⟩, ?_⟩
      dsimp only
      split
      · exact absurd rfl (hrest ':' rfl).2
      · rw [hsplit]
        exact Option.bind_eq_some_iff.mpr ⟨(), by simpa using hn, rfl⟩
    | @method table _ ht hn =>
      have hcolon : Avoids inRun (':' :: (name ++ rest)) := avoids_cons.mpr (by decide)
      rw [List.append_assoc, List.cons_append]
      refine Option.bind_eq_some_iff.mpr ⟨_, dottedRun?_eq_some_iff.mpr ⟨rfl, ht, hcolon⟩, ?_⟩
      have hword : ∀ c ∈ name, isWordChar c = true := by
        intro c hc
        obtain ⟨hrun, hdot⟩ := isName_iff.mp hn
        exact (inRun_eq_true_iff.mp (hrun.2 c hc)).resolve_right (ne_of_mem_of_not_mem hc hdot)
      obtain ⟨htake, hdrop⟩ := span_eq_iff.mpr ⟨rfl, hword, (avoids_inRun_iff.mp havoids).1⟩
      refine Option.bind_eq_some_iff.mpr ⟨(), by simpa [htake] using hn, ?_⟩
      rw [htake, hdrop]
      rfl

/-! ### Arguments -/

theorem forall_ne_of_notMem {c : Char} (h : c ∉ s) : ∀ x ∈ s, (x != c) = true := fun x hx => by
  simpa using ne_of_mem_of_not_mem hx h

/-- Arguments are names between parentheses. Blanks may stand before them and anything after them. -/
inductive IsArgs (args : List Text) : Text → Prop where
  | intro {blanks inner after : Text} (hblanks : ∀ c ∈ blanks, isBlank c = true) (hinner : ')' ∉ inner)
    (hargs : args = argNames inner) : IsArgs args (blanks ++ '(' :: (inner ++ ')' :: after))

theorem args?_eq_some_iff {args : List Text} : args? s = some args ↔ IsArgs args s := by
  constructor
  · intro h
    rw [args?] at h
    split at h
    · next rest htrim =>
      split at h
      · next hmem =>
        cases h
        obtain ⟨blanks, rfl, hblanks, -⟩ := trimStart_eq_iff.mp htrim
        obtain ⟨inner, after, rfl, hinner⟩ := List.eq_append_cons_of_mem hmem
        refine .intro hblanks hinner ?_
        rw [(span_eq_iff.mpr ⟨rfl, forall_ne_of_notMem hinner, avoids_cons.mpr (by simp)⟩).1]
      · cases h
    · cases h
  · rintro ⟨hblanks, hinner, rfl⟩
    rename_i blanks inner after
    have htrim : Text.trimStart (blanks ++ '(' :: (inner ++ ')' :: after)) = '(' :: (inner ++ ')' :: after) :=
      trimStart_eq_iff.mpr ⟨_, rfl, hblanks, avoids_cons.mpr (by decide)⟩
    have hmem : ')' ∈ inner ++ ')' :: after := by simp
    rw [args?, htrim]
    simp only [if_pos hmem]
    rw [(span_eq_iff.mpr ⟨rfl, forall_ne_of_notMem hinner, avoids_cons.mpr (by simp)⟩).1]

theorem IsArgs.head {args : List Text} (h : IsArgs args s) : ∀ c ∈ s.head?, c ≠ '.' ∧ c ≠ ':' := by
  obtain ⟨hblanks, -, -⟩ := h
  rename_i blanks _ _
  cases blanks with
  | nil => simp
  | cons b blanks =>
    have hb := hblanks b List.mem_cons_self
    simp only [List.cons_append, List.head?_cons, Option.mem_some_iff, forall_eq']
    constructor <;> rintro rfl <;> cases hb

/-! ### Definitions -/

/-- The text of a definition. The name is a whole word of it, and what follows the arguments does not matter. -/
inductive IsWritten (d : LuaDefinition) : Text → Prop where
  | function {blanks target args : Text} (hne : blanks ≠ []) (hblanks : ∀ c ∈ blanks, isBlank c = true)
    (htarget : IsTarget d.table d.isMethod d.name target) (hend : Avoids inRun args) (hargs : IsArgs d.args args) :
    IsWritten d ("function".toList ++ (blanks ++ (target ++ args)))
  | assignment {table blanks blanks' args : Text} (htable : d.table = some table) (hmethod : d.isMethod = false)
    (hrun : IsRun table) (hname : isName d.name = true) (hend : Avoids inRun blanks)
    (hblanks : ∀ c ∈ blanks, isBlank c = true) (hblanks' : ∀ c ∈ blanks', isBlank c = true) (hargs : IsArgs d.args args) :
    IsWritten d (table ++ '.' :: d.name ++ (blanks ++ '=' :: (blanks' ++ ("function".toList ++ args))))

theorem after?_eq_some_iff {word : String} : after? word s = some rest ↔ word.toList ++ rest = s :=
  List.isPrefixOf?_eq_some_iff_append_eq

theorem IsTarget.avoids {table : Option Text} {isMethod : Bool} {t : Text} (h : IsTarget table isMethod name t)
    (args : Text) : Avoids isBlank (t ++ args) := by
  have hrun : ∀ {run : Text} (more : Text), IsRun run → Avoids isBlank (run ++ more) := by
    rintro run more ⟨⟨c, hc, hbegins⟩, -⟩
    obtain ⟨t, rfl⟩ := List.head?_eq_some_iff.mp hc
    exact avoids_cons.mpr (not_isBlank_of_beginsName hbegins)
  cases h with
  | plain hn => exact hrun _ (isName_iff.mp hn).1
  | field ht hn => exact hrun _ ((isRun_append_iff hn).mpr ht)
  | method ht hn =>
    rw [List.append_assoc]
    exact hrun _ ht

theorem isWritten_of_ofFunction? (h : ofFunction? s = some d) : IsWritten d s := by
  obtain ⟨s', hs', h⟩ := Option.bind_eq_some_iff.mp h
  obtain ⟨⟨⟩, hblank, h⟩ := Option.bind_eq_some_iff.mp h
  obtain ⟨⟨table, isMethod, name, rest⟩, htarget, h⟩ := Option.bind_eq_some_iff.mp h
  obtain ⟨args, hargs, h⟩ := Option.bind_eq_some_iff.mp h
  cases h
  have hargs := args?_eq_some_iff.mp hargs
  obtain ⟨t, ht, htarget, hend⟩ := (target?_eq_some_iff hargs.head).mp htarget
  obtain ⟨blanks, hcut, hblanks, -⟩ := trimStart_eq_iff.mp ht
  rw [← after?_eq_some_iff.mp hs', hcut]
  refine .function ?_ hblanks htarget hend hargs
  rintro rfl
  -- Then the word would be followed by the name and not by a blank.
  rw [hcut, List.nil_append] at hblank
  cases hhead : (t ++ rest).head? with
  | none => simp [hhead] at hblank
  | some c => simp [hhead, htarget.avoids rest c hhead] at hblank

theorem isWritten_of_ofAssignment? (h : ofAssignment? s = some d) : IsWritten d s := by
  obtain ⟨⟨run, rest⟩, hcut, h⟩ := Option.bind_eq_some_iff.mp h
  obtain ⟨⟨table, name⟩, hdot, h⟩ := Option.bind_eq_some_iff.mp h
  obtain ⟨⟨⟩, hname, h⟩ := Option.bind_eq_some_iff.mp h
  obtain ⟨rest₁, hrest₁, h⟩ := Option.bind_eq_some_iff.mp h
  obtain ⟨rest₂, hrest₂, h⟩ := Option.bind_eq_some_iff.mp h
  obtain ⟨args, hargs, h⟩ := Option.bind_eq_some_iff.mp h
  cases h
  obtain ⟨rfl, hrun, hend⟩ := dottedRun?_eq_some_iff.mp hcut
  obtain ⟨rfl, -⟩ := splitLastDot?_eq_some_iff.mp hdot
  obtain ⟨blanks, rfl, hblanks, -⟩ := trimStart_eq_iff.mp (after?_eq_some_iff.mp hrest₁).symm
  obtain ⟨blanks', rfl, hblanks', -⟩ := trimStart_eq_iff.mp (after?_eq_some_iff.mp hrest₂).symm
  have hname : isName name = true := by simpa using hname
  exact .assignment rfl rfl ((isRun_append_iff hname).mp hrun) hname hend.left hblanks hblanks'
    (args?_eq_some_iff.mp hargs)

theorem ofFunction?_of_isTarget {blanks target args : Text} (hne : blanks ≠ []) (hblanks : ∀ c ∈ blanks, isBlank c = true)
    (htarget : IsTarget d.table d.isMethod d.name target) (hend : Avoids inRun args) (hargs : IsArgs d.args args) :
    ofFunction? ("function".toList ++ (blanks ++ (target ++ args))) = some d := by
  obtain ⟨b, blanks, rfl⟩ := List.exists_cons_of_ne_nil hne
  have htrim : Text.trimStart (b :: blanks ++ (target ++ args)) = target ++ args :=
    trimStart_eq_iff.mpr ⟨_, rfl, hblanks, htarget.avoids args⟩
  have hword : after? "function" ("function".toList ++ (b :: blanks ++ (target ++ args))) = some _ :=
    after?_eq_some_iff.mpr rfl
  rw [ofFunction?, hword]
  refine Option.bind_eq_some_iff.mpr ⟨_, rfl, ?_⟩
  refine Option.bind_eq_some_iff.mpr ⟨(), by simp [hblanks b List.mem_cons_self], ?_⟩
  refine Option.bind_eq_some_iff.mpr ⟨(d.table, d.isMethod, d.name, args), ?_, ?_⟩
  · rw [htrim, target?_eq_some_iff hargs.head]
    exact ⟨target, rfl, htarget, hend⟩
  · exact Option.bind_eq_some_iff.mpr ⟨_, args?_eq_some_iff.mpr hargs, rfl⟩

theorem ofAssignment?_of_isRun {table blanks blanks' args : Text} (htable : d.table = some table)
    (hmethod : d.isMethod = false) (hrun : IsRun table) (hname : isName d.name = true) (hend : Avoids inRun blanks)
    (hblanks : ∀ c ∈ blanks, isBlank c = true) (hblanks' : ∀ c ∈ blanks', isBlank c = true) (hargs : IsArgs d.args args) :
    ofAssignment? (table ++ '.' :: d.name ++ (blanks ++ '=' :: (blanks' ++ ("function".toList ++ args)))) = some d := by
  have hend' : Avoids inRun (blanks ++ '=' :: (blanks' ++ ("function".toList ++ args))) :=
    hend.append (avoids_cons.mpr (by decide))
  have htrim : Text.trimStart (blanks ++ '=' :: (blanks' ++ ("function".toList ++ args))) = _ :=
    trimStart_eq_iff.mpr ⟨_, rfl, hblanks, avoids_cons.mpr (by decide)⟩
  have htrim' : Text.trimStart (blanks' ++ ("function".toList ++ args)) = _ :=
    trimStart_eq_iff.mpr ⟨_, rfl, hblanks', avoids_cons.mpr (by decide)⟩
  refine Option.bind_eq_some_iff.mpr
    ⟨_, dottedRun?_eq_some_iff.mpr ⟨rfl, (isRun_append_iff hname).mpr hrun, hend'⟩, ?_⟩
  refine Option.bind_eq_some_iff.mpr ⟨_, splitLastDot?_eq_some_iff.mpr ⟨rfl, (isName_iff.mp hname).2⟩, ?_⟩
  refine Option.bind_eq_some_iff.mpr ⟨(), by simpa using hname, ?_⟩
  refine Option.bind_eq_some_iff.mpr ⟨_, after?_eq_some_iff.mpr htrim.symm, ?_⟩
  refine Option.bind_eq_some_iff.mpr ⟨_, after?_eq_some_iff.mpr htrim'.symm, ?_⟩
  refine Option.bind_eq_some_iff.mpr ⟨_, args?_eq_some_iff.mpr hargs, ?_⟩
  obtain ⟨name, _, _, _⟩ := d
  subst htable hmethod
  rfl

theorem isWritten_of_ofText? (h : ofText? s = some d) : IsWritten d s := by
  rcases Option.or_eq_some_iff.mp h with h | ⟨-, h⟩
  · exact isWritten_of_ofFunction? h
  · exact isWritten_of_ofAssignment? h

/-- The texts that are read as definitions are those that are written as such. -/
theorem isSome_ofText?_iff : (ofText? s).isSome ↔ ∃ d, IsWritten d s := by
  constructor
  · intro h
    obtain ⟨d, hd⟩ := Option.isSome_iff_exists.mp h
    exact ⟨d, isWritten_of_ofText? hd⟩
  · rintro ⟨d, h⟩
    rw [ofText?, Option.isSome_or, Bool.or_eq_true]
    cases h with
    | function hne hblanks htarget hend hargs =>
      exact .inl (Option.isSome_of_eq_some (ofFunction?_of_isTarget hne hblanks htarget hend hargs))
    | assignment htable hmethod hrun hname hend hblanks hblanks' hargs =>
      exact .inr (Option.isSome_of_eq_some
        (ofAssignment?_of_isRun htable hmethod hrun hname hend hblanks hblanks' hargs))

/-- The text begins with the word `local` and, after blanks, with `function`. -/
def IsLocal (s : Text) : Prop :=
  ∃ rest, s = "local".toList ++ rest ∧ Avoids inRun rest ∧ "function".toList <+: rest.trimStart

theorem IsWritten.not_isLocal (h : IsWritten d s) : ¬ IsLocal s := by
  rintro ⟨rest, hs, hrest, -⟩
  cases h with
  | function => simp at hs
  | @assignment table blanks blanks' args _ _ hrun hname =>
    have hin := ((isRun_append_iff hname).mpr hrun).2
    have hdot : '.' ∉ "local".toList := by decide
    rcases List.append_eq_append_iff.mp hs with ⟨more, hlocal, -⟩ | ⟨more, hlocal, rfl⟩
    · exact hdot (hlocal ▸ by simp)
    · -- The run goes on behind the word, which ends there.
      cases more with
      | nil =>
        rw [List.append_nil] at hlocal
        exact hdot (hlocal ▸ by simp)
      | cons c more =>
        have hc := hin c (hlocal ▸ by simp)
        rw [avoids_cons.mp hrest] at hc
        cases hc

end LuaDefinition
end PluginManual

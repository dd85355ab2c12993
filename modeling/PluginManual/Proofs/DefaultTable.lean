import PluginManual.Proofs.Frames
import PluginManual.Proofs.Indented
import PluginManual.Proofs.Location

/-! The default options are the lines between two marked lines, however the table is written. They are those of the
    table if the line that closes the region is also the one that closes the table; else they are too few of them, or
    other lines follow them. -/

namespace PluginManual

/-! ### Braces -/

namespace Braces

variable {line l : Text} {lines ls as bs t : List Text} {n : Int}

/-- How many more braces the line opens than it closes. -/
def balance (line : Text) : Int := line.count '\x7b' - line.count '\x7d'

theorem balance_concat {c : Char} (hopen : c ≠ '\x7b') (hclose : c ≠ '\x7d') (line : Text) :
    balance (line ++ [c]) = balance line := by
  rw [balance, balance, List.count_append, List.count_append, List.count_singleton, List.count_singleton]
  simp [hopen, hclose]

theorem balance_dropTerminator (line : Text) : balance line.dropTerminator = balance line := by
  have hdrop : ∀ (s : Text) (c : Char), c ≠ '\x7b' → c ≠ '\x7d' →
      balance (if s.getLast? = some c then s.dropLast else s) = balance s := by
    intro s c hopen hclose
    split
    · next h =>
      conv_rhs => rw [← List.dropLast_append_getLast? c h]
      rw [balance_concat hopen hclose]
    · rfl
  rw [Text.dropTerminator, hdrop _ _ (by decide) (by decide), hdrop _ _ (by decide) (by decide)]

/-- How many braces the lines leave open. -/
def depth : List Text → Int
  | [] => 0
  | l :: ls => balance l + depth ls

@[simp] theorem depth_nil : depth [] = 0 := rfl

@[simp] theorem depth_cons (l : Text) (ls : List Text) : depth (l :: ls) = balance l + depth ls := rfl

@[simp] theorem depth_append (as bs : List Text) : depth (as ++ bs) = depth as + depth bs := by
  induction as with
  | nil => exact (Int.zero_add _).symm
  | cons a as ih => rw [List.cons_append, depth_cons, depth_cons, ih, Int.add_assoc]

/-- The lines up to the first one behind which no brace is open, where `n` are open before the lines. -/
def upToClosed? (n : Int) : List Text → Option (List Text)
  | [] => none
  | l :: ls => if n + balance l ≤ 0 then some [l] else (upToClosed? (n + balance l) ls).map (l :: ·)

/-- A brace is open behind each of the lines, where `n` are open before them. -/
def StaysOpen (n : Int) (lines : List Text) : Prop := ∀ p, p <+: lines → p ≠ [] → 1 ≤ n + depth p

theorem staysOpen_cons : StaysOpen n (l :: ls) ↔ 1 ≤ n + balance l ∧ StaysOpen (n + balance l) ls := by
  constructor
  · intro h
    refine ⟨by simpa using h [l] ⟨ls, rfl⟩ (by simp), fun p hp _ => ?_⟩
    have := h (l :: p) (List.cons_prefix_cons.mpr ⟨rfl, hp⟩) (by simp)
    rwa [depth_cons, ← Int.add_assoc] at this
  · rintro ⟨hfirst, hrest⟩ p hp hne
    obtain ⟨a, p, rfl⟩ := List.exists_cons_of_ne_nil hne
    obtain ⟨rfl, htail⟩ := List.cons_prefix_cons.mp hp
    rw [depth_cons, ← Int.add_assoc]
    cases p with
    | nil => simpa using hfirst
    | cons b p => exact hrest _ htail (by simp)

theorem upToClosed?_eq_none_iff : upToClosed? n ls = none ↔ StaysOpen n ls := by
  induction ls generalizing n with
  | nil => simp [upToClosed?, StaysOpen]
  | cons l ls ih =>
    rw [upToClosed?, staysOpen_cons, ← ih]
    split
    · next h => simpa using fun hn => by omega
    · next h => simpa using fun _ => by omega

theorem upToClosed?_append (as bs : List Text) :
    upToClosed? n (as ++ bs) = (upToClosed? n as).or ((upToClosed? (n + depth as) bs).map (as ++ ·)) := by
  induction as generalizing n with
  | nil => simp [upToClosed?]
  | cons a as ih =>
    rw [List.cons_append, upToClosed?, upToClosed?, depth_cons, ← Int.add_assoc]
    split
    · rfl
    · rw [ih]
      cases upToClosed? (n + balance a) as <;> simp [Function.comp_def]

theorem of_upToClosed?_eq_some (h : upToClosed? n ls = some t) : t <+: ls ∧ t ≠ [] ∧ n + depth t ≤ 0 := by
  induction ls generalizing n t with
  | nil => cases h
  | cons l ls ih =>
    rw [upToClosed?] at h
    split at h
    · next hclosed =>
      cases h
      exact ⟨⟨ls, rfl⟩, by simp, by simpa using hclosed⟩
    · obtain ⟨t, ht, rfl⟩ := Option.map_eq_some_iff.mp h
      obtain ⟨hbegin, -, hdepth⟩ := ih ht
      exact ⟨List.cons_prefix_cons.mpr ⟨rfl, hbegin⟩, by simp, by rw [depth_cons]; omega⟩

end Braces

/-! ### Tables -/

namespace Enclosure
open Braces

variable {e : Enclosure}

/-- The lines inside are those of a table that the first marked line opens and the second one closes. -/
structure IsTable (e : Enclosure) : Prop where
  /-- A brace is open behind the first marked line and behind each line inside. -/
  opened : ∀ n, 1 ≤ depth (e.opening :: e.inside.take n)
  closed : depth (e.opening :: (e.inside ++ [e.closing])) = 0

/-- The lines of the table by its braces, from the first marked line on. -/
def table? (e : Enclosure) : Option (List Text) := upToClosed? 0 (e.opening :: (e.inside ++ e.closing :: e.after))

/-- Where the table ends, if it does. -/
inductive Extent (e : Enclosure) : Option (List Text) → Prop where
  /-- It ends with the second marked line. -/
  | same (h : e.IsTable) : Extent e (some (e.opening :: (e.inside ++ [e.closing])))
  /-- It ends before, and lines of other code may be inside. -/
  | before (table other : List Text) (h : e.opening :: e.inside = table ++ other) (hne : table ≠ [])
      (hclosed : depth table ≤ 0) : Extent e (some table)
  /-- It goes on behind the second marked line. -/
  | behind (more : Option (List Text)) (h : ∀ n, 1 ≤ depth (e.opening :: (e.inside ++ [e.closing]).take n)) :
      Extent e (more.map (e.opening :: (e.inside ++ [e.closing]) ++ ·))

theorem staysOpen_iff {l : Text} {ls : List Text} : StaysOpen 0 (l :: ls) ↔ ∀ n, 1 ≤ depth (l :: ls.take n) := by
  constructor
  · intro h n
    simpa using h (l :: ls.take n) (List.cons_prefix_cons.mpr ⟨rfl, List.take_prefix n ls⟩) (by simp)
  · intro h p hp hne
    obtain ⟨a, p, rfl⟩ := List.exists_cons_of_ne_nil hne
    obtain ⟨rfl, htail⟩ := List.cons_prefix_cons.mp hp
    rw [List.prefix_iff_eq_take.mp htail, Int.zero_add]
    exact h p.length

theorem extent (hclosing : balance e.closing = -1) : e.Extent e.table? := by
  have hcut : e.opening :: (e.inside ++ e.closing :: e.after) = (e.opening :: e.inside) ++ e.closing :: e.after := rfl
  rw [table?, hcut, upToClosed?_append]
  cases htable : upToClosed? 0 (e.opening :: e.inside) with
  | some table =>
    obtain ⟨⟨other, hother⟩, hne, hclosed⟩ := of_upToClosed?_eq_some htable
    exact .before table other hother.symm hne (by simpa using hclosed)
  | none =>
    have hopen := staysOpen_iff.mp (upToClosed?_eq_none_iff.mp htable)
    have hinside : 1 ≤ depth (e.opening :: e.inside) := by simpa using hopen e.inside.length
    rw [Option.none_or, upToClosed?, Int.zero_add, hclosing]
    split
    · next h =>
      refine .same ⟨hopen, ?_⟩
      rw [depth_cons] at h hinside
      rw [depth_cons, depth_append, depth_cons, depth_nil, hclosing]
      omega
    · next h =>
      have hbehind : ∀ n, 1 ≤ depth (e.opening :: (e.inside ++ [e.closing]).take n) := by
        intro n
        rcases Nat.lt_or_ge e.inside.length n with hn | hn
        · rw [List.take_of_length_le (by rw [List.length_append, List.length_singleton]; omega), depth_cons, depth_append,
            depth_cons, depth_nil, hclosing]
          rw [depth_cons] at h
          omega
        · rw [List.take_append_of_le_length hn]
          exact hopen n
      have := Extent.behind (upToClosed? (depth (e.opening :: e.inside) + -1) e.after) hbehind
      simpa [Function.comp_def] using this

/-- The lines inside are those of the table exactly if its braces end it with the second marked line. -/
theorem isTable_iff (hclosing : balance e.closing = -1) :
    e.IsTable ↔ e.table? = some (e.opening :: (e.inside ++ [e.closing])) := by
  constructor
  · rintro ⟨hopen, hclosed⟩
    have hcut : e.opening :: (e.inside ++ e.closing :: e.after) = (e.opening :: e.inside) ++ e.closing :: e.after := rfl
    have hnone := upToClosed?_eq_none_iff.mpr (staysOpen_iff.mpr hopen)
    rw [table?, hcut, upToClosed?_append, hnone, Option.none_or, upToClosed?, if_pos]
    · simp
    · simp only [depth_cons, depth_append, depth_nil] at hclosed ⊢
      omega
  · intro h
    obtain ⟨-, -, hclosed⟩ := of_upToClosed?_eq_some h
    have hextent := extent hclosing
    generalize e.table? = table at h hextent
    cases hextent with
    | same htable => exact htable
    | before table other hcut =>
      -- The table ends inside, so it is too short.
      have hlength := congrArg List.length hcut
      rw [Option.some.inj h] at hlength
      simp only [List.length_cons, List.length_append, List.length_nil] at hlength
      omega
    | behind more hopen =>
      have := hopen (e.inside ++ [e.closing]).length
      rw [List.take_length] at this
      omega

end Enclosure

/-! ### Searching -/

namespace Region
open Enclosure

variable {opens closes : Text → Bool} {lines : List Text}

theorem sectionLines_of_none (h : ∀ l ∈ lines, opens l = false) :
    sectionLines opens closes lines = .error (.missing .opening) := by
  have hindices : indices opens lines = [] := indicesFrom_eq_nil_iff.mpr h
  rw [sectionLines, locate, hindices]
  rfl

theorem sectionLines_of_open {before after : List Text} {l : Text} (hbefore : ∀ l ∈ before, opens l = false)
    (hl : opens l = true) (hafter : ∀ l ∈ after, closes l = false) :
    sectionLines opens closes (before ++ l :: after) = .error (.missing .closing) := by
  have hindices : indices opens (before ++ l :: after) = before.length :: indicesFrom opens (before.length + 1) after :=
    indicesFrom_eq_cons_iff.mpr ⟨before, l, after, rfl, hbefore, hl, by simp, rfl⟩
  have hdrop : (before ++ l :: after).drop (before.length + 1) = after := by
    rw [← List.drop_drop, List.drop_left]
    rfl
  have hcloses : indicesFrom closes (before.length + 1) after = [] := indicesFrom_eq_nil_iff.mpr hafter
  rw [sectionLines, locate, hindices]
  simp only [reduceCtorEq, false_and, if_false, hdrop, hcloses]
  rfl

/-- The first line that satisfies the condition, if there is one. -/
theorem exists_first (p : Text → Bool) (lines : List Text) : (∀ l ∈ lines, p l = false) ∨
    ∃ before l after, lines = before ++ l :: after ∧ (∀ l ∈ before, p l = false) ∧ p l = true := by
  cases h : lines.find? p with
  | none => exact .inl (by simpa using List.find?_eq_none.mp h)
  | some l =>
    obtain ⟨hl, before, after, rfl, hbefore⟩ := List.find?_eq_some_iff_append.mp h
    exact .inr ⟨before, l, after, rfl, by simpa using hbefore, hl⟩

theorem sectionLines_of_found {e : Enclosure} (h : e.Found opens closes .first) :
    sectionLines opens closes e.lines = .ok e.inside := Enclosure.sectionLines_eq_ok_iff.mpr ⟨e, rfl, rfl, h⟩

end Region

/-! ### Default options -/

namespace Update
open Files Disk

variable {s : Settings} {by' : Caller} {d d' : Disk} {ls : List Text} {answer : Except UpdateError (List Text)}

/-- Blanks may stand before the words. -/
def beginsDefaults (line : Text) : Bool := "local default_config =".toList.isPrefixOf line.dropTerminator.trimStart

/-- The line is a closing brace that is not indented and has nothing behind it. -/
def isBareBrace (line : Text) : Bool := line.dropTerminator = ['\x7d']

/-- What the lines of a file say about the default options. -/
inductive IsDefaults (p : Path) (lines : List Text) : Except UpdateError (List Text) → Prop where
  | noTable (h : ∀ l ∈ lines, beginsDefaults l = false) : IsDefaults p lines (.error (.malformedDefaults p .opening))
  | notClosed (before : List Text) (opening : Text) (after : List Text) (h : lines = before ++ opening :: after)
      (hbefore : ∀ l ∈ before, beginsDefaults l = false) (hopening : beginsDefaults opening = true)
      (hafter : ∀ l ∈ after, isBareBrace l = false) : IsDefaults p lines (.error (.malformedDefaults p .closing))
  | found (e : Enclosure) (h : lines = e.lines) (hfound : e.Found beginsDefaults isBareBrace .first)
      (hextent : e.Extent e.table?) (htable : e.IsTable ↔ e.table? = some (e.opening :: (e.inside ++ [e.closing]))) :
      IsDefaults p lines (.ok e.inside)

theorem balance_of_isBareBrace {line : Text} (h : isBareBrace line = true) : Braces.balance line = -1 := by
  rw [← Braces.balance_dropTerminator, of_decide_eq_true h]
  rfl

theorem isAt_defaultsOpening : (Marker.indented "local default_config =").isAt = beginsDefaults := by
  have hword : Text.Avoids isBlank "local default_config =".toList :=
    Text.avoids_cons (c := 'l').mpr (by decide)
  funext line
  rw [Bool.eq_iff_iff, Marker.isAt_indented hword (by decide), beginsDefaults, List.isPrefixOf_iff_prefix]

theorem isAt_defaultsClosing : (Marker.exactly "\x7d").isAt = isBareBrace := by
  funext line
  rw [Bool.eq_iff_iff, Marker.isAt_exactly, isBareBrace, decide_eq_true_eq]
  rfl

/-- The lines of the file decide. -/
theorem defaultOptions_on (h : HasLines by' s.configFile ls d) : (defaultOptions s).on by' d =
    ((Region.sectionLines beginsDefaults isBareBrace ls).mapError fun
      | .missing k => .malformedDefaults s.configFile k
      | .ambiguous ns => .document (.ambiguousRegion s.configFile defaultsOpening ns), d) := by
  have ho : Document.marker defaultsOpening = .ok (.indented "local default_config =") := rfl
  have hc : Document.marker defaultsClosing = .ok (.exactly "\x7d") := rfl
  have hload : (Document.load s.configFile).on by' d = (.ok ⟨s.configFile, ls⟩, d) :=
    Document.load_eq_ok_iff.mpr ⟨rfl, rfl, h⟩
  have hsection : (Document.readSection s.configFile defaultsOpening defaultsClosing).on by' d =
      (Document.sectionLines ⟨s.configFile, ls⟩ (.indented "local default_config =") (.exactly "\x7d"), d) := by
    rw [Document.readSection, ho, hc]
    simp only [Action.on_bind, Action.on_result, hload]
  rw [defaultOptions, Action.on_mapError, hsection, Document.sectionLines, isAt_defaultsOpening, isAt_defaultsClosing]
  rcases Region.sectionLines beginsDefaults isBareBrace ls with (k | ns) | inside
  · cases k <;> rfl
  · rfl
  · rfl

/-- The default options are the lines between the first line that begins them and the first bare brace behind it. -/
theorem defaultOptions_on_eq_iff (h : HasLines by' s.configFile ls d) :
    (defaultOptions s).on by' d = (answer, d') ↔ d' = d ∧ IsDefaults s.configFile ls answer := by
  rw [defaultOptions_on h, Prod.mk.injEq, and_comm, eq_comm (a := d)]
  refine and_congr_right fun _ => ?_
  constructor
  · rintro rfl
    rcases Region.exists_first beginsDefaults ls with hnone | ⟨before, opening, rest, rfl, hbefore, hopening⟩
    · rw [Region.sectionLines_of_none hnone]
      exact .noTable hnone
    · rcases Region.exists_first isBareBrace rest with hnone | ⟨inside, closing, after, rfl, hinside, hclosing⟩
      · rw [Region.sectionLines_of_open hbefore hopening hnone]
        exact .notClosed before opening rest rfl hbefore hopening hnone
      · have hfound : Enclosure.Found beginsDefaults isBareBrace .first ⟨before, opening, inside, closing, after⟩ :=
          ⟨hbefore, hopening, hinside, hclosing, nofun⟩
        have hbalance := balance_of_isBareBrace hclosing
        have hlines := Region.sectionLines_of_found hfound
        rw [Enclosure.lines] at hlines
        rw [hlines]
        exact .found _ rfl hfound (Enclosure.extent hbalance) (Enclosure.isTable_iff hbalance)
  · intro hanswer
    cases hanswer with
    | noTable h => rw [Region.sectionLines_of_none h]; rfl
    | notClosed before opening after h hbefore hopening hafter =>
      rw [h, Region.sectionLines_of_open hbefore hopening hafter]
      rfl
    | found e h hfound => rw [h, Region.sectionLines_of_found hfound]; rfl

/-- A table that another one stands in. -/
theorem defaultOptions_on_eq_iff_of_nested :
    let s := Settings.forPlugin ⟨"."⟩ "x"
    let by' : Caller := ⟨[], 7⟩
    let text : Text := "  local default_config = \x7b\n  keys = \x7b\n  \x7d,\n\x7d\nreturn M\n"
    let d : Disk := ⟨[(["lua".toList], .dir), (["lua".toList, "x".toList], .dir),
      (["lua".toList, "x".toList, "config.lua".toList], .file (.text text))]⟩
    let inside : List Text := ["  keys = \x7b\n", "  \x7d,\n"]
    HasLines by' s.configFile text.lines d ∧ (defaultOptions s).on by' d = (.ok inside, d) ∧
      IsDefaults s.configFile text.lines (.ok inside) := by
  intro s by' text d inside
  have hlines : HasLines by' s.configFile text.lines d := ⟨text, by decide +kernel, rfl⟩
  have hrun : (defaultOptions s).on by' d = (.ok inside, d) :=
    (ReadmePart.readsOnly_defaultOptions s).on_of_value? (by decide +kernel)
  exact ⟨hlines, hrun, ((defaultOptions_on_eq_iff hlines).mp hrun).2⟩

/-- An empty table is closed where it begins, and so the lines up to the next bare brace are those of other code. -/
theorem not_isTable_of_empty :
    let s := Settings.forPlugin ⟨"."⟩ "x"
    let by' : Caller := ⟨[], 7⟩
    let e : Enclosure := ⟨[], "local default_config = \x7b\x7d\n", ["\n", "local M = \x7b\n", "  a = 1,\n"], "\x7d\n", []⟩
    let d : Disk := ⟨[(["lua".toList], .dir), (["lua".toList, "x".toList], .dir),
      (["lua".toList, "x".toList, "config.lua".toList], .file (.text e.lines.flatten))]⟩
    HasLines by' s.configFile e.lines d ∧ (defaultOptions s).on by' d = (.ok e.inside, d) ∧
      e.Found beginsDefaults isBareBrace .first ∧ Braces.depth [e.opening] = 0 ∧ ¬ e.IsTable := by
  intro s by' e d
  have hlines : HasLines by' s.configFile e.lines d := ⟨e.lines.flatten, by decide +kernel, by decide +kernel⟩
  have hrun : (defaultOptions s).on by' d = (.ok e.inside, d) :=
    (ReadmePart.readsOnly_defaultOptions s).on_of_value? (by decide +kernel)
  have hfound : e.Found beginsDefaults isBareBrace .first := by decide
  have hdepth : Braces.depth [e.opening] = 0 := by decide
  refine ⟨hlines, hrun, hfound, hdepth, fun htable => ?_⟩
  have := htable.opened 0
  rw [List.take_zero, hdepth] at this
  cases this

end Update
end PluginManual

import PluginManual.Proofs.Aliases
import PluginManual.Proofs.Cuts

/-! Marks that a value may be missing: the alternative `nil` before or behind a type, and a question mark at its end.
    In any number and order they leave the class that the type names, unless an alternative comes right behind a
    question mark. The question mark is then inside of the type, where it is taken for the end of a name. -/

namespace PluginManual

/-- What says of a type that a value may be missing. -/
inductive OptionalMark where
  /-- The alternative `nil` before the type. -/
  | nilBefore
  /-- The alternative `nil` behind the type. -/
  | nilBehind
  | question
deriving DecidableEq, Repr

namespace TypeExpr
open Text

variable {type s a b name : Text} {m : OptionalMark} {marks : List OptionalMark}

/-! ### Marks -/

def mark (type : Text) : OptionalMark → Text
  | .nilBefore => "nil|" ++ type
  | .nilBehind => type ++ "|nil"
  | .question => type ++ "?"

/-- The type with one mark after the other. -/
def marked (type : Text) (marks : List OptionalMark) : Text := marks.foldl mark type

/-- No alternative is put right behind a question mark. -/
def IsClear (type : Text) : List OptionalMark → Prop
  | [] => True
  | m :: marks => (m = .nilBehind → type.getLast? ≠ some '?') ∧ IsClear (mark type m) marks

instance : (type : Text) → (marks : List OptionalMark) → Decidable (IsClear type marks)
  | _, [] => .isTrue trivial
  | type, m :: marks =>
    have : Decidable (IsClear (mark type m) marks) := instDecidableIsClear (mark type m) marks
    inferInstanceAs (Decidable (_ ∧ _))

theorem trim_mark (htrim : type.trim = type) (m : OptionalMark) : (mark type m).trim = mark type m := by
  obtain ⟨hfirst, hlast⟩ := trim_eq_self_iff.mp htrim
  refine trim_eq_self_iff.mpr ?_
  cases m with
  | nilBefore =>
    have hnil : IsWord "nil|".toList := by decide
    exact ⟨hnil.avoids type, hnil.endsSolid.avoidsLast.append hlast⟩
  | nilBehind =>
    have hnil : IsWord "|nil".toList := by decide
    exact ⟨hfirst.append (avoids_cons.mpr (by decide)), hlast.append hnil.endsSolid.avoidsLast⟩
  | question =>
    have hquestion : IsWord ['?'] := by decide
    exact ⟨hfirst.append (avoids_cons.mpr (by decide)), hlast.append hquestion.endsSolid.avoidsLast⟩

theorem trim_marked (htrim : type.trim = type) (marks : List OptionalMark) : (marked type marks).trim = marked type marks := by
  induction marks generalizing type with
  | nil => exact htrim
  | cons m marks ih => exact ih (trim_mark htrim m)

/-! ### Alternatives -/

/-- The alternatives of a type other than `nil`. -/
def alternatives (type : Text) : List Text :=
  ((splitOn '|' (dropEndWhile (· = '?') type.trim)).map Text.trim).filter (· ≠ "nil".toList)

theorem single?_eq_some_iff : single? type = some name ↔ alternatives type = [name] := by
  rw [single?]
  split
  · next h =>
    replace h : alternatives type = [_] := h
    simp [h]
  · next h => exact iff_of_false (by simp) fun heq => h name heq

theorem single?_congr {type' : Text} (h : alternatives type = alternatives type') : single? type = single? type' :=
  Option.ext fun name => by rw [single?_eq_some_iff, single?_eq_some_iff, h]

theorem alternatives_mark (htrim : type.trim = type) (hclear : m = .nilBehind → type.getLast? ≠ some '?') :
    alternatives (mark type m) = alternatives type := by
  have hnil : splitOn '|' "nil" = ["nil".toList] := by decide
  rw [alternatives, alternatives, trim_mark htrim, htrim]
  cases m with
  | nilBefore =>
    have hbare : dropEndWhile (· = '?') ("nil|" ++ type) = "nil" ++ '|' :: dropEndWhile (· = '?') type :=
      dropEndWhile_append (avoidsLast_of_forall (by simp)) type
    rw [mark, hbare, splitOn_append_sep, hnil, List.map_append, List.filter_append]
    rfl
  | nilBehind =>
    have hlast : AvoidsLast (· = '?') type := fun c hc => decide_eq_false fun h => hclear rfl (h ▸ hc)
    have hbare : dropEndWhile (· = '?') type = type := dropEndWhile_of_avoidsLast hlast
    have hbare' : dropEndWhile (· = '?') (type ++ "|nil") = type ++ '|' :: "nil" := dropEndWhile_append hlast "|nil"
    rw [mark, hbare', hbare, splitOn_append_sep, hnil, List.map_append, List.filter_append]
    exact List.append_nil _
  | question => rw [mark, dropEndWhile_append_of_forall (by simp)]

/-! ### Question marks inside of a type -/

theorem infix_mark (h : "?|".toList <:+: type) (m : OptionalMark) : "?|".toList <:+: mark type m := by
  cases m with
  | nilBefore => exact h.trans (List.suffix_append _ _).isInfix
  | nilBehind => exact h.trans (List.prefix_append _ _).isInfix
  | question => exact h.trans (List.prefix_append _ _).isInfix

theorem infix_marked (h : "?|".toList <:+: type) (marks : List OptionalMark) : "?|".toList <:+: marked type marks := by
  induction marks generalizing type with
  | nil => exact h
  | cons m marks ih => exact ih (infix_mark h m)

/-- Marks that are not clear leave a question mark right before a bar. -/
theorem infix_marked_of_not_isClear (h : ¬ IsClear type marks) : "?|".toList <:+: marked type marks := by
  induction marks generalizing type with
  | nil => exact absurd trivial h
  | cons m marks ih =>
    by_cases hm : m = .nilBehind → type.getLast? ≠ some '?'
    · exact ih fun hclear => h ⟨hm, hclear⟩
    · rw [Classical.not_imp, not_not] at hm
      obtain ⟨rfl, hlast⟩ := hm
      obtain ⟨bare, rfl⟩ := List.getLast?_eq_some_iff.mp hlast
      exact infix_marked ⟨bare, "nil", by simp [mark]⟩ marks

/-- Then a question mark ends the name that is read. -/
theorem getLast?_of_infix (htrim : type.trim = type) (h : "?|".toList <:+: type) (hname : single? type = some name) :
    name.getLast? = some '?' := by
  obtain ⟨a, b, rfl⟩ := h
  have hbare : dropEndWhile (· = '?') (a ++ "?|" ++ b) = (a ++ ['?']) ++ '|' :: dropEndWhile (· = '?') b := by
    have hbar : AvoidsLast (· = '?') (a ++ "?|") := fun c hc => by
      rw [List.getLast?_append] at hc
      cases hc
      rfl
    rw [dropEndWhile_append hbar]
    simp
  obtain ⟨pieces, piece, hpieces⟩ := splitOn_concat (show '?' ≠ '|' by decide) a
  have hlast : (Text.trim (piece ++ ['?'])).getLast? = some '?' := by
    have hsolid : EndsSolid (piece ++ ['?']) := ⟨'?', by simp, by decide⟩
    rw [hsolid.getLast?_trim]
    simp
  have hmem : Text.trim (piece ++ ['?']) ∈ alternatives (a ++ "?|" ++ b) := by
    rw [alternatives, htrim, hbare, splitOn_append_sep, hpieces]
    refine List.mem_filter.mpr ⟨List.mem_map.mpr ⟨piece ++ ['?'], by simp, rfl⟩, decide_eq_true fun hnil => ?_⟩
    rw [hnil] at hlast
    cases hlast
  rw [single?_eq_some_iff.mp hname] at hmem
  rw [← List.mem_singleton.mp hmem, hlast]

end TypeExpr

namespace Catalog
open TypeExpr

variable {c : Catalog} {type type' : Text} {marks : List OptionalMark}

/-- No class and no other name for a type has a question mark at its end. -/
def NamesAreBare (c : Catalog) : Prop :=
  (∀ name ∈ c.classes.names, name.getLast? ≠ some '?') ∧ ∀ name ∈ c.aliases.names, name.getLast? ≠ some '?'

instance (c : Catalog) : Decidable c.NamesAreBare := inferInstanceAs (Decidable (_ ∧ _))

theorem classFor?_congr (h : single? type = single? type') : c.classFor? type = c.classFor? type' := by
  rw [classFor?, classFor?, follow, follow, h]

theorem classFor?_of_isClear (htrim : type.trim = type) (hclear : IsClear type marks) :
    c.classFor? (marked type marks) = c.classFor? type := by
  induction marks generalizing type with
  | nil => rfl
  | cons m marks ih =>
    obtain ⟨hm, hmarks⟩ := hclear
    exact (ih (trim_mark htrim m) hmarks).trans (classFor?_congr (single?_congr (alternatives_mark htrim hm)))

theorem NamesAreBare.isStuck (h : c.NamesAreBare) (htrim : type.trim = type) (hinside : "?|".toList <:+: type) :
    c.IsStuck type := by
  intro name hname
  have hlast := getLast?_of_infix htrim hinside hname
  exact ⟨Dictionary.get?_eq_none_of_not_mem fun hmem => h.1 name hmem hlast,
    Dictionary.get?_eq_none_of_not_mem fun hmem => h.2 name hmem hlast⟩

/-- Clear marks leave the class that a type refers to. Of the others none does, if the type refers to a class and no
    name ends with a question mark. -/
theorem classFor?_marked_iff (htrim : type.trim = type) (marks : List OptionalMark) :
    (IsClear type marks → ∀ c : Catalog, c.classFor? (marked type marks) = c.classFor? type) ∧
      ∀ c : Catalog, c.NamesAreBare →
        (c.classFor? (marked type marks) = c.classFor? type ↔ IsClear type marks ∨ c.classFor? type = none) := by
  refine ⟨fun hclear c => classFor?_of_isClear htrim hclear, fun c hbare => ?_⟩
  by_cases hclear : IsClear type marks
  · exact iff_of_true (classFor?_of_isClear htrim hclear) (.inl hclear)
  · have hnone : c.classFor? (marked type marks) = none :=
      (hbare.isStuck (trim_marked htrim marks) (infix_marked_of_not_isClear hclear)).follow _
    rw [hnone, or_iff_right hclear, eq_comm]

/-- The same marks in two orders, on another name for a type that is marked itself. -/
theorem classFor?_marked_of_opts :
    let c : Catalog :=
      { classes := ⟨[("quicker.OpenOpts", ⟨"quicker.OpenOpts", none, []⟩)], by decide⟩
        aliases := ⟨[("quicker.Opts", "nil|quicker.OpenOpts?")], by decide⟩ }
    let type : Text := "quicker.Opts"
    type.trim = type ∧ c.NamesAreBare ∧ c.classFor? type = some ⟨"quicker.OpenOpts", none, []⟩ ∧
      marked type [.nilBehind, .question, .nilBefore] = "nil|quicker.Opts|nil?" ∧
      c.classFor? (marked type [.nilBehind, .question, .nilBefore]) = c.classFor? type ∧
      marked type [.question, .nilBehind, .nilBefore] = "nil|quicker.Opts?|nil" ∧
      c.classFor? (marked type [.question, .nilBehind, .nilBefore]) ≠ c.classFor? type := by
  intro c type
  have htrim : type.trim = type := by decide
  have hbare : c.NamesAreBare := by decide
  refine ⟨htrim, hbare, by decide, by decide, (classFor?_marked_iff htrim _).1 (by decide) c, by decide, fun heq => ?_⟩
  exact absurd (((classFor?_marked_iff htrim _).2 c hbare).mp heq) (by decide)

/-- An alternative behind a question mark hides the class. -/
theorem classFor?_ne_of_question_inside :
    let c : Catalog := { classes := ⟨[("T", ⟨"T", none, []⟩)], by decide⟩ }
    Text.trim "T?" = "T?".toList ∧ c.classFor? "T?" = some ⟨"T", none, []⟩ ∧ mark "T?" .nilBehind = "T?|nil" ∧
      c.classFor? (mark "T?" .nilBehind) = none := by
  decide

end Catalog
end PluginManual

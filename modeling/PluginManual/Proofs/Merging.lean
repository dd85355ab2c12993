import Mathlib.Data.List.Induction
import PluginManual.Lua.Directory

/-! What a catalog holds after sources have been added to it, one after the other. What is added takes the
    place of what has the same name, so that under a name the last is found that has it. -/

namespace PluginManual

/-- What has been set under a name last is found, and without any what was there before. -/
theorem Dictionary.get?_foldl_insert {α β : Type} (key : β → Text) (value : β → α) (bs : List β) (d : Dictionary α)
    (name : Text) : (bs.foldl (fun d b => d.insert (key b) (value b)) d).get? name =
      (((bs.filter (key · = name)).getLast?).map value).or (d.get? name) := by
  induction bs generalizing d with
  | nil => rfl
  | cons b bs ih =>
    rw [List.foldl_cons, ih, get?_insert, List.filter_cons]
    by_cases hb : key b = name
    · simp only [hb, if_true, decide_true, List.getLast?_cons]
      cases (bs.filter (key · = name)).getLast? <;> rfl
    · simp [hb]

namespace Catalog

/-! ### The last of several -/

section Last
variable {α β : Type} {le : α → α → Prop} {f : α → List β} {xs : List α} {b : β}

/-- The last element of ordered lists is the last one of the greatest list that has any. -/
theorem getLast?_flatMap_eq_some_iff (hsorted : xs.Pairwise le) (hrefl : ∀ x, le x x)
    (hanti : ∀ x ∈ xs, ∀ y ∈ xs, le x y → le y x → x = y) :
    (xs.flatMap f).getLast? = some b ↔ ∃ x ∈ xs, (f x).getLast? = some b ∧ ∀ y ∈ xs, f y ≠ [] → le y x := by
  induction xs using List.reverseRecOn with
  | nil => simp
  | append_singleton xs x ih =>
    rw [List.pairwise_append] at hsorted
    obtain ⟨hxs, -, hle⟩ := hsorted
    have ih := ih hxs fun y hy z hz => hanti y (List.mem_append_left _ hy) z (List.mem_append_left _ hz)
    have hx : x ∈ xs ++ [x] := List.mem_append_right _ (List.mem_singleton.mpr rfl)
    rw [List.flatMap_append, List.flatMap_singleton, List.getLast?_append]
    cases hlast : (f x).getLast? with
    | none =>
      have hnil : f x = [] := List.getLast?_eq_none_iff.mp hlast
      rw [Option.none_or, ih]
      constructor
      · rintro ⟨y, hy, hb, hmax⟩
        refine ⟨y, List.mem_append_left _ hy, hb, fun z hz hne => ?_⟩
        rcases List.mem_append.mp hz with hz | hz
        · exact hmax z hz hne
        · exact absurd (List.mem_singleton.mp hz ▸ hnil) hne
      · rintro ⟨y, hy, hb, hmax⟩
        rcases List.mem_append.mp hy with hy | hy
        · exact ⟨y, hy, hb, fun z hz => hmax z (List.mem_append_left _ hz)⟩
        · rw [List.mem_singleton.mp hy, hlast] at hb
          cases hb
    | some b' =>
      have hne : f x ≠ [] := by
        intro hnil
        rw [hnil] at hlast
        cases hlast
      rw [Option.some_or]
      constructor
      · intro hb
        refine ⟨x, hx, hlast.trans hb, fun y hy _ => ?_⟩
        rcases List.mem_append.mp hy with hy | hy
        · exact hle y hy x (List.mem_singleton.mpr rfl)
        · exact List.mem_singleton.mp hy ▸ hrefl x
      · rintro ⟨y, hy, hb, hmax⟩
        have hyx : y = x := by
          rcases List.mem_append.mp hy with hmem | hmem
          · exact hanti y hy x hx (hle y hmem x (List.mem_singleton.mpr rfl)) (hmax x hx hne)
          · exact List.mem_singleton.mp hmem
        rw [← hlast, ← hyx, hb]

end Last

/-! ### Sources -/

/-- The catalog of sources that are added one after the other, each under its key. -/
def merged (sources : List (Text × LuaSource)) : Catalog := sources.foldl (fun c x => c.addSource x.1 x.2) {}

variable {sources : List (Text × LuaSource)} {c : Catalog} {name key : Text}

theorem foldl_addClass (c : Catalog) (ks : List ClassDoc) :
    ks.foldl addClass c = { c with classes := ks.foldl (fun d k => d.insert k.name k) c.classes } := by
  induction ks generalizing c with
  | nil => rfl
  | cons k ks ih => exact ih (c.addClass k)

theorem foldl_addAlias (c : Catalog) (as : List AliasDoc) :
    as.foldl addAlias c = { c with aliases := as.foldl (fun d a => d.insert a.name a.type) c.aliases } := by
  induction as generalizing c with
  | nil => rfl
  | cons a as ih => exact ih (c.addAlias a)

theorem addSource_eq (c : Catalog) (key : Text) (s : LuaSource) : c.addSource key s =
    ⟨c.files.insert key s.functions, s.classes.foldl (fun d k => d.insert k.name k) c.classes,
      s.aliases.foldl (fun d a => d.insert a.name a.type) c.aliases⟩ := by
  rw [addSource, foldl_addClass, foldl_addAlias]
  rfl

theorem foldl_addSource (c : Catalog) (sources : List (Text × LuaSource)) :
    sources.foldl (fun c x => c.addSource x.1 x.2) c =
      ⟨sources.foldl (fun d x => d.insert x.1 x.2.functions) c.files,
        (sources.flatMap (·.2.classes)).foldl (fun d k => d.insert k.name k) c.classes,
        (sources.flatMap (·.2.aliases)).foldl (fun d a => d.insert a.name a.type) c.aliases⟩ := by
  induction sources generalizing c with
  | nil => rfl
  | cons x sources ih =>
    rw [List.foldl_cons, ih, addSource_eq, List.foldl_cons, List.flatMap_cons, List.foldl_append, List.flatMap_cons,
      List.foldl_append]

theorem class?_merged :
    (merged sources).class? name = (sources.flatMap fun x => x.2.classes.filter (·.name = name)).getLast? := by
  rw [merged, foldl_addSource, class?, Dictionary.get?_foldl_insert, List.filter_flatMap, Dictionary.get?_empty, Option.or_none,
    Option.map_id']

theorem alias?_merged : (merged sources).alias? name =
    ((sources.flatMap fun x => x.2.aliases.filter (·.name = name)).getLast?).map (·.type) := by
  rw [merged, foldl_addSource, alias?, Dictionary.get?_foldl_insert, List.filter_flatMap, Dictionary.get?_empty, Option.or_none]

theorem functions?_merged : (merged sources).functions? key = ((sources.filter (·.1 = key)).getLast?).map (·.2.functions) := by
  rw [merged, foldl_addSource, functions?, Dictionary.get?_foldl_insert, Dictionary.get?_empty, Option.or_none]

end Catalog
end PluginManual

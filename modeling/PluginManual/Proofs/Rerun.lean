import PluginManual.Proofs.LongPaths
import PluginManual.Proofs.UpToDate

/-! A second run. What is generated for each part of the readme file does not depend on the others, nor on
    the help file; so the second run finds in every file what it would write. -/

namespace PluginManual
open Disk Files

namespace Update

variable {s : Settings} {by' : Caller} {d d' d₁ d₂ d₃ : Disk} {os : List Outcome} {c : Catalog}
  {fs : List FunctionDoc} {opts ls : List Text} {fam : ReadmePart → Enclosure} {changed : Bool}

/-! ### Two runs -/

/-- A disk with the files of a plugin as they are meant to be. -/
structure IsOrderly (by' : Caller) (s : Settings) (d : Disk) : Prop where
  tree : d.IsTree
  /-- The readme file and the help file are neither sources nor the file with the default options, and they
      are two files. -/
  readme : s.IsApart by' s.readme
  helpFile : s.IsApart by' s.helpFile
  distinct : place by' s.readme ≠ place by' s.helpFile
  /-- The readme file has all parts, apart from each other, and no heading and no fence in the table. -/
  parts : ∃ ls fam, HasParts by' s ls fam d ∧ ∀ l ∈ (fam .contents).inside, Heading.IsInert l
  /-- No generated line is a marker. -/
  prose : ∀ part new, (ReadmePart.generate s part).on by' d = (.ok new, d) →
    ∀ l ∈ Region.normalLines new, ReadmePart.IsProse l

/-- The help file can be written without any trace among the files that the steps read: neither the readme
    file nor that with the default options is what it is written by way of, and directories above it that
    are named as sources can be told from files. -/
structure WritesAside (by' : Caller) (s : Settings) : Prop where
  readme : place by' s.readme ≠ place by' (partPath by'.id s.helpFile)
  config : place by' s.configFile ≠ place by' (partPath by'.id s.helpFile)
  canFollow : s.CanFollowTo by' s.helpFile

/-- The steps of the readme file leave all parts up to date. -/
theorem IsOrderly.isUpToDate {c₁ c₂ c₃ : Bool} (hd : IsOrderly by' s d)
    (h₁ : (perform s .api).on by' d = (.ok c₁, d₁)) (h₂ : (perform s .options).on by' d₁ = (.ok c₂, d₂))
    (h₃ : (perform s .contents).on by' d₂ = (.ok c₃, d₃)) (hc : (reference s).on by' d₃ = (.ok (c, fs), d₃))
    (hopts : (defaultOptions s).on by' d₃ = (.ok opts, d₃)) : ∃ ls fam, IsUpToDate by' s c fs opts ls fam d₃ := by
  have htree₁ := hd.tree.on h₁
  have htree₂ := htree₁.on h₂
  have htree₃ := htree₂.on h₃
  obtain ⟨ls, fam, hparts, hinert⟩ := hd.parts
  -- The steps one after the other, each with what it generates.
  obtain ⟨new₁, fam₁, hnew₁, hrefilled₁, hparts₁, hin₁, hothers₁⟩ :=
    @HasParts.perform s by' d d₁ ls fam .api c₁ hparts h₁ (hd.prose .api)
  have hprose₂ : ∀ new, (ReadmePart.options.generate s).on by' d₁ = (.ok new, d₁) →
      ∀ l ∈ Region.normalLines new, ReadmePart.IsProse l := by
    intro new hnew
    obtain ⟨opts, hopts, rfl⟩ := ReadmePart.generate_options_eq_ok_iff.mp hnew
    exact hd.prose .options _ (ReadmePart.generate_options_eq_ok_iff.mpr
      ⟨opts, defaultOptions_before_isRefilled hd.readme hrefilled₁ hopts, rfl⟩)
  obtain ⟨new₂, fam₂, hnew₂, hrefilled₂, hparts₂, hin₂, hothers₂⟩ :=
    @HasParts.perform s by' d₁ d₂ _ fam₁ .options c₂ hparts₁ h₂ hprose₂
  have hprose₃ : ∀ new, (ReadmePart.contents.generate s).on by' d₂ = (.ok new, d₂) →
      ∀ l ∈ Region.normalLines new, ReadmePart.IsProse l := by
    intro new hnew
    obtain ⟨-, lines, -, rfl⟩ := ReadmePart.generate_contents_eq_ok_iff.mp hnew
    rw [normalLines_contentsLines]
    exact isProse_of_mem_contentsLines
  obtain ⟨new₃, fam₃, hnew₃, hrefilled₃, hparts₃, hin₃, hothers₃⟩ :=
    @HasParts.perform s by' d₂ d₃ _ fam₂ .contents c₃ hparts₂ h₃ hprose₃
  -- All steps read one catalog and the same default options.
  obtain ⟨c₀, fs₀, hc₀, rfl⟩ := ReadmePart.generate_api_eq_ok_iff.mp hnew₁
  have hc₁ := reference_of_isRefilled hd.readme hd.tree htree₁ hrefilled₁ hc₀
  have hc₂ := reference_of_isRefilled hd.readme htree₁ htree₂ hrefilled₂ hc₁
  have hc₃ := reference_of_isRefilled hd.readme htree₂ htree₃ hrefilled₃ hc₂
  rw [hc] at hc₃
  cases hc₃
  obtain ⟨opts₁, hopts₁, rfl⟩ := ReadmePart.generate_options_eq_ok_iff.mp hnew₂
  have hopts₂ := defaultOptions_before_isRefilled hd.readme hrefilled₃ hopts
  have hopts₁' := defaultOptions_before_isRefilled hd.readme hrefilled₂ hopts₂
  rw [hopts₁] at hopts₁'
  cases hopts₁'
  -- The table is that of the file as it stands in the end.
  obtain ⟨-, lines, hlines, rfl⟩ := ReadmePart.generate_contents_eq_ok_iff.mp hnew₃
  obtain rfl := (hlines.unique hparts₂.1).trans (hparts₂.2.lines .contents).symm
  rw [normalLines_contentsLines] at hin₃ hparts₃
  have hsettled : contentsLines s (fam₂ .contents).lines =
      contentsLines s ((fam₂ .contents).fill (contentsLines s (fam₂ .contents).lines)).lines := by
    refine contentsLines_settled_iff.mpr (ignoresInside_of_isInert ?_)
    rw [hothers₂ .contents (by decide), hothers₁ .contents (by decide)]
    exact hinert
  refine ⟨_, fam₃, hparts₃, hc, hopts, fun part => ?_⟩
  cases part with
  | api => rw [hothers₃ .api (by decide), hothers₂ .api (by decide), hin₁, partLines]
  | options => rw [hothers₃ .options (by decide), hin₂, partLines]
  | contents => rw [hin₃, partLines, ← hsettled, normalLines_contentsLines]

/-- Writing the help file leaves the parts up to date. -/
theorem IsUpToDate.writeIfChanged {text : Text} (h : IsUpToDate by' s c fs opts ls fam d) (htree : d.IsTree)
    (hhelp : s.IsApart by' s.helpFile) (hdistinct : place by' s.readme ≠ place by' s.helpFile)
    (haside : WritesAside by' s) (hwrite : (writeIfChanged s.helpFile text).on by' d = (.ok changed, d')) :
    IsUpToDate by' s c fs opts ls fam d' where
  parts := ⟨writeIfChanged_hasLines hwrite hdistinct haside.readme h.parts.1, h.parts.2⟩
  reference := reference_of_writeIfChanged hhelp haside.canFollow htree hwrite h.reference
  options := defaultOptions_congr (fun _ => writeIfChanged_hasLines hwrite hhelp.config haside.config) h.options
  inside := h.inside

/-- A second run, whoever starts it there, changes nothing. -/
theorem run_same (hd : IsOrderly by' s d) (haside : WritesAside by' s) (h : (run s).on by' d = (.ok os, d'))
    {by'' : Caller} (hby : by''.workDir = by'.workDir) :
    (run s).on by'' d' = (.ok (UpdateStep.all.map fun step => ⟨step, target s step, false⟩), d') := by
  obtain ⟨d₁, d₂, d₃, c₁, c₂, c₃, c₄, h₁, h₂, h₃, h₄, -⟩ := run_eq_ok_iff.mp h
  obtain ⟨c, fs, opts, hc, hopts, hwrite⟩ := perform_help_eq_ok_iff.mp h₄
  obtain ⟨ls, fam, hcurrent⟩ := hd.isUpToDate h₁ h₂ h₃ hc hopts
  have htree₃ := ((hd.tree.on h₁).on h₂).on h₃
  have hcurrent' := hcurrent.writeIfChanged htree₃ hd.helpFile hd.distinct haside hwrite
  have hread := writeIfChanged_read hwrite
  rw [← read_congr hby] at hread
  exact (hcurrent'.again hby).run_unchanged hread

/-! ### A readme file that is out of date -/

/-- No part has what belongs there. Two of them come behind a heading of their own, and the lines end in two ways. -/
def staleLines : List Text :=
  ["# X\r\n", "<!-- TOC -->\r\n", "- [Old](#old)\r\n", "<!-- /TOC -->\r\n", "## Options\n", "<!-- OPTIONS -->\n",
    "<!-- /OPTIONS -->\n", "## API\n", "<!-- API -->\n", "Old.\n", "<!-- /API -->"]

def stalePart : ReadmePart → Enclosure
  | .api => ⟨staleLines.take 8, "<!-- API -->\n", ["Old.\n"], "<!-- /API -->", []⟩
  | .options => ⟨staleLines.take 5, "<!-- OPTIONS -->\n", [], "<!-- /OPTIONS -->\n", staleLines.drop 7⟩
  | .contents => ⟨staleLines.take 1, "<!-- TOC -->\r\n", ["- [Old](#old)\r\n"], "<!-- /TOC -->\r\n", staleLines.drop 4⟩

theorem stalePart_areApart : Enclosure.AreApart ReadmePart.opens ReadmePart.closes staleLines stalePart where
  lines part := by cases part <;> rfl
  found part := by cases part <;> decide +kernel
  apart i j := by cases i <;> cases j <;> decide

/-- The plugin has a function with a parameter of a class, and one default option. -/
def staleDisk : Disk :=
  let source : Text := "--- Opens it.\n---@param opts x.Opts|nil How.\nfunction M.open(opts) end\n\n" ++
    "---@class x.Opts\n---@field size integer The size.\n"
  ⟨[(["README.md".toList], .file (.text staleLines.flatten)),
    (["c.lua".toList], .file (.text "local default_config = \x7b\n  size = 3,\n\x7d\n")), (["lua".toList], .dir),
    (["lua".toList, "x".toList], .dir), (["lua".toList, "x".toList, "init.lua".toList], .file (.text source))]⟩

/-- The first run changes both files in each of its steps. -/
theorem run_same_of_stale :
    let s : Settings := { Settings.forPlugin ⟨"."⟩ "x" with configFile := ⟨"./c.lua"⟩ }
    let by' : Caller := ⟨[], 7⟩
    IsOrderly by' s staleDisk ∧ WritesAside by' s ∧ ∃ d',
      (run s).on by' staleDisk = (.ok (UpdateStep.all.map fun step => ⟨step, target s step, true⟩), d') ∧
        (run s).on ⟨[], 8⟩ d' = (.ok (UpdateStep.all.map fun step => ⟨step, target s step, false⟩), d') := by
  intro s by'
  have hparts : HasParts by' s staleLines stalePart staleDisk := ⟨⟨_, rfl, by decide⟩, stalePart_areApart⟩
  have hhead : ∀ part, ∀ new ∈ (ReadmePart.generate s part).value? by' staleDisk,
      ∀ l ∈ Region.normalLines new, l.head? ≠ some '<' := by
    intro part
    cases part <;> decide +kernel
  have horderly : IsOrderly by' s staleDisk := by
    refine ⟨by decide +kernel, ⟨by decide +kernel, by decide +kernel⟩, ⟨by decide +kernel, by decide +kernel⟩,
      by decide +kernel, ⟨_, _, hparts, by decide⟩, fun part new hnew l hl => ?_⟩
    have hvalue : (ReadmePart.generate s part).value? by' staleDisk = some new := by
      rw [Action.value?, hnew]
      rfl
    exact ReadmePart.isProse_of_head? (hhead part new hvalue l hl)
  have haside : WritesAside by' s :=
    ⟨by decide +kernel, by decide +kernel, Settings.canFollowTo_of_not_prefix (by decide +kernel)⟩
  obtain ⟨d', h⟩ := @Action.exists_on_of_value? _ _ by' staleDisk (run s)
    (UpdateStep.all.map fun step => ⟨step, target s step, true⟩) (by decide +kernel)
  exact ⟨horderly, haside, d', h, run_same horderly haside h rfl⟩

/-! ### Runs that fail -/

/-- If the help file is written by way of the readme file, a second run fails. -/
theorem run_ne_ok_of_part (h : (perform s .help).on by' d = (.ok true, d'))
    (hpart : place by' s.readme = place by' (partPath by'.id s.helpFile)) : (run s).on by' d' ≠ (.ok os, d₁) := by
  intro hrun
  obtain ⟨c, fs, opts, -, -, hwrite⟩ := perform_help_eq_ok_iff.mp h
  rcases writeIfChanged_eq_ok hwrite with ⟨hfalse, -, -⟩ | ⟨-, -, hwrite⟩
  · cases hfalse
  · obtain ⟨-, d₀, -, hput, -, -⟩ := writeAtomic_isPut hwrite
    obtain ⟨d₂, -, -, c₁, -, -, -, hapi, -⟩ := run_eq_ok_iff.mp hrun
    obtain ⟨new, e, -, -, hrefilled⟩ := @ReadmePart.perform_isRefilled s .api by' d' d₂ c₁ hapi
    obtain ⟨content, hfile⟩ := hrefilled.before.file
    rw [hpart, hput.part] at hfile
    cases hfile

/-- Nor does a run succeed if an entry among the sources is named as one and has too long a path. -/
theorem run_ne_ok_of_long {name : Text} (hn : Path.isName name = true) (hsource : SourceFile.isSource ⟨name⟩ = true)
    (hsome : (d.get? (place by' s.luaDir ++ [name])).isSome)
    (hlong : pathLimit ≤ (s.luaDir.child name).text.byteLength) : (run s).on by' d ≠ (.ok os, d') := by
  intro hrun
  obtain ⟨d₁, -, -, c₁, -, -, -, hapi, -⟩ := run_eq_ok_iff.mp hrun
  obtain ⟨new, e, hnew, -⟩ := @ReadmePart.perform_isRefilled s .api by' d d₁ c₁ hapi
  obtain ⟨c, fs, hc, -⟩ := ReadmePart.generate_api_eq_ok_iff.mp hnew
  exact Catalog.ofDirectory_ne_ok_of_long hn hsource hsome hlong (reference_eq_ok_iff.mp hc).1

/-! ### A plugin without functions and options -/

theorem reference_of_source {p : Path} {names : List Text} {t : Text} (hdir : d.find? by' s.luaDir = some .dir)
    (hbelow : (SourceFile.below SourceFile.maxDepth s.luaDir []).on by' d = (.ok [⟨p, names⟩], d))
    (hread : d.read by' p = .ok (.text t))
    (hc : ({} : Catalog).addSource (Text.join ['/'] names) (LuaSource.ofText t) = c)
    (hfs : c.functions? s.mainSource = some fs) : (reference s).on by' d = (.ok (c, fs), d) := by
  refine reference_eq_ok_iff.mpr ⟨Catalog.ofDirectory_eq_ok_iff.mpr ⟨hdir, [⟨p, names⟩], hbelow, ?_⟩, hfs⟩
  rw [List.mergeSort_singleton, Catalog.addFiles]
  exact Action.on_bind_eq_ok.mpr ⟨t, d, readText_eq_ok_iff.mpr ⟨rfl, hread⟩, hc ▸ rfl⟩

/-- A readme file that is up to date. -/
def bareLines : List Text :=
  ["<!-- API -->\n", "\n", "<!-- /API -->\n", "<!-- OPTIONS -->\n", "\x60\x60\x60lua\n", "require(\"x\").setup(\x7b\n",
    "\x7d)\n", "\x60\x60\x60\n", "\n", "<!-- /OPTIONS -->\n", "<!-- TOC -->\n", "\n", "\n", "<!-- /TOC -->\n"]

def barePart : ReadmePart → Enclosure
  | .api => ⟨[], "<!-- API -->\n", ["\n"], "<!-- /API -->\n", bareLines.drop 3⟩
  | .options =>
    ⟨bareLines.take 3, "<!-- OPTIONS -->\n", (bareLines.take 9).drop 4, "<!-- /OPTIONS -->\n", bareLines.drop 10⟩
  | .contents => ⟨bareLines.take 10, "<!-- TOC -->\n", ["\n", "\n"], "<!-- /TOC -->\n", []⟩

theorem barePart_areApart : Enclosure.AreApart ReadmePart.opens ReadmePart.closes bareLines barePart where
  lines part := by cases part <;> rfl
  found part := by cases part <;> decide +kernel
  apart i j := by cases i <;> cases j <;> decide

/-- The plugin `x` has no functions and no default options, and its readme file is up to date. -/
structure IsBare (by' : Caller) (s : Settings) (c : Catalog) (d : Disk) : Prop where
  plugin : s.plugin = "x"
  reference : (reference s).on by' d = (.ok (c, []), d)
  options : (defaultOptions s).on by' d = (.ok [], d)
  readme : HasLines by' s.readme bareLines d

theorem IsBare.isUpToDate (h : IsBare by' s c d) : IsUpToDate by' s c [] [] bareLines barePart d := by
  refine ⟨⟨h.readme, barePart_areApart⟩, h.reference, h.options, fun part => ?_⟩
  cases part with
  | api => rfl
  | options =>
    rw [partLines, optionsLines, h.plugin]
    rfl
  | contents =>
    rw [partLines, contentsLines]
    rfl

/-- A run writes the help file at most. -/
theorem IsBare.run (h : IsBare by' s c d)
    (hwrite : (writeIfChanged s.helpFile (helpFile s [] c []).lines.flatten).on by' d = (.ok changed, d')) :
    ∃ os, (run s).on by' d = (.ok os, d') := by
  have hsame := h.isUpToDate.perform_same
  refine ⟨_, run_eq_ok_iff.mpr
    ⟨d, d, d, false, false, false, changed, hsame .api, hsame .options, hsame .contents, ?_, rfl⟩⟩
  exact perform_help_eq_ok_iff.mpr ⟨c, [], [], h.reference, h.options, hwrite⟩

theorem IsBare.isOrderly (h : IsBare by' s c d) (htree : d.IsTree) (hreadme : s.IsApart by' s.readme)
    (hhelp : s.IsApart by' s.helpFile) (hdistinct : place by' s.readme ≠ place by' s.helpFile) :
    IsOrderly by' s d := by
  have hcurrent := h.isUpToDate
  refine ⟨htree, hreadme, hhelp, hdistinct, ⟨_, _, hcurrent.parts, by decide⟩, fun part new hnew l hl => ?_⟩
  have hnew' := hcurrent.generate part
  rw [hnew] at hnew'
  cases hnew'
  rw [← hcurrent.inside part] at hl
  -- Marker lines begin with `<`, and none of these lines does.
  have hhead : ∀ l ∈ (barePart part).inside, l.head? ≠ some '<' := by
    cases part <;> decide
  exact ReadmePart.isProse_of_head? (hhead l hl)

/-- The settings of the plugin, with the default options in a file that is no source. -/
def bareSettings (readme : Path) : Settings :=
  { Settings.forPlugin ⟨"."⟩ "x" with readme, configFile := ⟨"./c.lua"⟩ }

def bareDisk : Disk :=
  ⟨[(["README.md".toList], .file (.text bareLines.flatten)),
    (["c.lua".toList], .file (.text "local default_config = \x7b\n\x7d\n")), (["lua".toList], .dir),
    (["lua".toList, "x".toList], .dir), (["lua".toList, "x".toList, "init.lua".toList], .file (.text []))]⟩

def bareCatalog : Catalog := ({} : Catalog).addSource "x/init.lua" (LuaSource.ofText [])

theorem bareDisk_isTree : bareDisk.IsTree := by decide +kernel

/-- The reference is read by any path of the directory of sources that is not too long. -/
theorem reference_bareDisk (hmain : s.mainSource = "x/init.lua") (hdir : bareDisk.find? by' s.luaDir = some .dir)
    (hplace : place by' s.luaDir = ["lua".toList]) (hlength : s.luaDir.text.byteLength + 11 < pathLimit) :
    (reference s).on by' bareDisk = (.ok (bareCatalog, []), bareDisk) := by
  have hx : Path.isName "x" = true := by decide
  have hinit : Path.isName "init.lua" = true := by decide
  have hone : Text.byteLength "x" = 1 := rfl
  have height : Text.byteLength "init.lua" = 8 := rfl
  have hx_place : place by' (s.luaDir.child "x") = ["lua".toList, "x".toList] := by
    rw [place_child hx, hplace]
    rfl
  have hx_dir : bareDisk.find? by' (s.luaDir.child "x") = some .dir :=
    find?_child hdir hx (checkPath_child hx (by omega)) (by decide) (by rw [hplace]; rfl)
  have hx_length := Path.byteLength_child_cases (p := s.luaDir) hx
  have hfile : bareDisk.find? by' ((s.luaDir.child "x").child "init.lua") = some (.file (.text [])) :=
    find?_child hx_dir hinit (checkPath_child hinit (by omega)) (by decide) (by rw [hx_place]; rfl)
  have hread : bareDisk.read by' ((s.luaDir.child "x").child "init.lua") = .ok (.text []) :=
    read_eq_ok_iff.mpr (find?_eq_some_iff.mp hfile)
  have hnames : bareDisk.names (place by' s.luaDir) = ["x".toList] := by
    rw [hplace]
    rfl
  have hx_names : bareDisk.names (place by' (s.luaDir.child "x")) = ["init.lua".toList] := by
    rw [hx_place]
    rfl
  have hbelow : (SourceFile.below SourceFile.maxDepth s.luaDir []).on by' bareDisk =
      (.ok [⟨(s.luaDir.child "x").child "init.lua", ["x".toList, "init.lua".toList]⟩], bareDisk) := by
    refine SourceFile.below_of_single hdir hnames ?_
    rw [SourceFile.ofEntry_of_isDir hx_dir]
    refine SourceFile.below_of_single hx_dir hx_names ?_
    rw [SourceFile.ofEntry_of_not_isDir (by rw [hfile]; simp), Path.isSource_child hinit]
    rfl
  refine reference_of_source hdir hbelow hread rfl ?_
  rw [hmain]
  decide +kernel

/-! ### A long path -/

/-- The name of a directory, like that of a source. -/
def longName : Text := List.replicate 245 'd' ++ ".lua".toList

/-- The settings of the plugin with a long path for the directory of sources, and with the help file in a
    directory below that. -/
def longSettings : Settings :=
  { bareSettings ⟨"./README.md"⟩ with
    luaDir := (⟨"./lua"⟩ : Path).dotted 1990, helpFile := ⟨"./lua/" ++ longName ++ "/x.txt"⟩ }

theorem byteLength_luaDir_long : longSettings.luaDir.text.byteLength = 3985 := Path.byteLength_dotted ⟨"./lua"⟩ 1990

theorem locate_luaDir_long : bareDisk.locate ⟨[], 7⟩ longSettings.luaDir = .ok ["lua".toList] := by
  have hshort : longSettings.luaDir.text.byteLength < pathLimit := by
    rw [byteLength_luaDir_long]
    decide
  exact locate_dotted (p := ⟨"./lua"⟩) rfl rfl hshort

theorem place_luaDir_long : place ⟨[], 7⟩ longSettings.luaDir = ["lua".toList] :=
  (eq_place_of_locate locate_luaDir_long).symm

theorem isBare_long : IsBare ⟨[], 7⟩ longSettings bareCatalog bareDisk := by
  have hdir : bareDisk.find? ⟨[], 7⟩ longSettings.luaDir = some .dir := by
    rw [find?_eq_some_iff, place_luaDir_long]
    exact ⟨locate_luaDir_long, rfl⟩
  have hlength : longSettings.luaDir.text.byteLength + 11 < pathLimit := by
    rw [byteLength_luaDir_long]
    decide
  exact ⟨rfl, reference_bareDisk rfl hdir place_luaDir_long hlength,
    (ReadmePart.readsOnly_defaultOptions longSettings).on_of_value? (by decide +kernel), _, rfl, by decide⟩

/-- The first run makes a directory among the sources that is named as one of them, and the second run
    cannot tell that it is no file. -/
theorem run_ne_ok_of_long_path :
    IsOrderly ⟨[], 7⟩ longSettings bareDisk ∧ ∃ os d', (run longSettings).on ⟨[], 7⟩ bareDisk = (.ok os, d') ∧
      ∀ os' d'', (run longSettings).on ⟨[], 7⟩ d' ≠ (.ok os', d'') := by
  have horderly : IsOrderly ⟨[], 7⟩ longSettings bareDisk :=
    isBare_long.isOrderly bareDisk_isTree ⟨fun _ => by decide +kernel, by decide +kernel⟩
      ⟨fun _ => by decide +kernel, by decide +kernel⟩ (by decide +kernel)
  obtain ⟨d', hwrite⟩ := @Action.exists_on_of_value? _ _ ⟨[], 7⟩ bareDisk
    (writeIfChanged longSettings.helpFile (helpFile longSettings [] bareCatalog []).lines.flatten) true
    (by decide +kernel)
  obtain ⟨os, h⟩ := isBare_long.run hwrite
  refine ⟨horderly, os, d', h, fun os' d'' => ?_⟩
  -- The help file is there, so the directory with the long name is there too.
  have hplace : place ⟨[], 7⟩ longSettings.helpFile = ["lua".toList, longName] ++ ["x.txt".toList] := by decide +kernel
  have hfile := (read_eq_ok_iff.mp (writeIfChanged_read hwrite)).2
  obtain ⟨dir, last, hlast, -, hdir⟩ := (bareDisk_isTree.on h).parent (by rw [hplace]; simp) hfile
  obtain ⟨rfl, -⟩ := List.append_inj' (hlast.symm.trans hplace) rfl
  have hname : Path.isName longName = true := by decide +kernel
  refine run_ne_ok_of_long hname (by decide +kernel) ?_ ?_
  · rw [place_luaDir_long]
    exact Option.isSome_of_eq_some hdir
  · have hlong : Text.byteLength longName = 249 := by decide +kernel
    have hcases := Path.byteLength_child_cases (p := longSettings.luaDir) hname
    have hlength := byteLength_luaDir_long
    have hlimit : pathLimit = 4096 := rfl
    omega

end Update
end PluginManual

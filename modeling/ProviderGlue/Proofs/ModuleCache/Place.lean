import ProviderGlue.Proofs.ModuleCache.Escape
import ProviderGlue.Proofs.ModuleCache.Version

/-!
# Where modules are found

A module with a version is found in the directory that its path and its version name.  Without a
version it is found beside its path, or in a directory below its path whose name starts with `v`.  Such
a directory belongs to the module if the name is that of a major version; a directory of another module
is found only if no directory of the module stands behind it in the order of candidates.

## Key results

- `overtakes_of_greatest`: what it takes for a directory of another module to be found
- `candidate_cases`: a candidate is a directory of the module, or one of another module below it
- `locate_place`: where a module is found
-/

namespace ProviderGlue

open Text

namespace ModuleCache

/-! ## Directories of a module -/

/-- What may follow the number of a major version: nothing, a version behind `@`, or further
components. -/
inductive IsContinuation : List Char → Prop
  | nothing : IsContinuation []
  | version {version : List Char} (h : ['v'] <+: version) : IsContinuation ('@' :: version)
  | components {c : Char} {chars : List Char} (hc : isSeparator c = true)
      (h : ∀ x ∈ chars, isIdentifierChar x = true ∨ isSeparator x = true) : IsContinuation (c :: chars)

/-- Names of directories for major versions. -/
def IsMajor (name : List Char) : Prop :=
  ∃ digits rest, name = 'v' :: (digits ++ rest) ∧ digits ≠ [] ∧ (∀ c ∈ digits, c.isDigit = true) ∧
    IsContinuation rest

/-- The directories of the module with a path: those beside it, whose names add a version, and those
for its major versions. -/
inductive OwnDirectory (t : FileTree) (base : String) : String → Prop
  | beside {parent last : String} {version : List Char} (hparent : Path.parent? base = some parent)
      (hlast : Path.fileName? base = some last)
      (hlisted : siblingName last version ∈ t.subdirectories parent) (hversion : ['v'] <+: version) :
      OwnDirectory t base (Path.join parent (siblingName last version))
  | major {name : String} (hlisted : name ∈ t.subdirectories base) (hmajor : IsMajor name.toList) :
      OwnDirectory t base (Path.join base name)

/-- A directory of another module below the path, which stands in front of all candidates. -/
structure Overtakes (t : FileTree) (base name : String) : Prop where
  isListed : name ∈ t.subdirectories base
  isVersion : ['v'] <+: name.toList
  foreign : ¬ IsMajor name.toList
  greatest : ∀ c ∈ candidates t base,
    c.rank ≤ (⟨versionKey name.toList, Path.join base name⟩ : Candidate).rank
  /-- If it starts with no number, then no candidate does. -/
  unnumbered : versionKey name.toList = [] → ∀ c ∈ candidates t base, c.key = []
  /-- So there is no semantic version of the module beside its path. -/
  unversioned : versionKey name.toList = [] → ∀ (parent last : String) (v : Version),
    Path.parent? base = some parent → Path.fileName? base = some last →
    siblingName last v.text ∉ t.subdirectories parent

variable {cache : ModuleCache} {t : FileTree} {m : ModuleSpec} {base path : String}

/-- A directory of another module whose candidate is greatest stands in front of all others. -/
theorem overtakes_of_greatest {name : String} (hlisted : name ∈ t.subdirectories base)
    (hversion : ['v'] <+: name.toList) (hforeign : ¬ IsMajor name.toList)
    (h : ∀ c ∈ candidates t base,
      c.rank ≤ (⟨versionKey name.toList, Path.join base name⟩ : Candidate).rank) :
    Overtakes t base name := by
  have hunnumbered : versionKey name.toList = [] → ∀ c ∈ candidates t base, c.key = [] := by
    intro hnone c hc
    have hrank := h c hc
    rw [Candidate.rank, Candidate.rank, hnone, Prod.Lex.toLex_le_toLex] at hrank
    exact hrank.elim (fun hlt => absurd hlt (List.not_lt_nil _)) (·.1)
  refine ⟨hlisted, hversion, hforeign, h, hunnumbered, fun hnone parent last v hparent hlast hmem => ?_⟩
  have hbeside : Beside t base parent last v.text _ := ⟨hparent, hlast, hmem, v.isVersion_text, rfl⟩
  have hkey := hunnumbered hnone _ (mem_candidates_iff.2 (.inr ⟨parent, last, v.text, hbeside⟩))
  -- a version starts with three numbers
  rw [Version.versionKey_text, Version.core] at hkey
  exact absurd hkey (List.cons_ne_nil _ _)

/-- The greatest candidate is a directory of the module, or one of another module. -/
theorem candidate_cases {c : Candidate} (hc : c ∈ candidates t base)
    (h : ∀ other ∈ candidates t base, other.rank ≤ c.rank) :
    OwnDirectory t base c.path ∨ ∃ name, c.path = Path.join base name ∧ Overtakes t base name := by
  rcases mem_candidates_iff.1 hc with ⟨name, hbelow⟩ | ⟨parent, last, version, hbeside⟩
  · obtain ⟨hlisted, hversion, rfl⟩ := hbelow
    by_cases hmajor : IsMajor name.toList
    · exact .inl (.major hlisted hmajor)
    · exact .inr ⟨name, rfl, overtakes_of_greatest hlisted hversion hmajor h⟩
  · obtain ⟨hparent, hlast, hlisted, hversion, rfl⟩ := hbeside
    refine .inl ?_
    show OwnDirectory t base (Path.join parent (siblingName last version))
    exact .beside hparent hlast hlisted hversion

/-- Where a module is found. -/
structure Located (cache : ModuleCache) (t : FileTree) (m : ModuleSpec) (base path : String) :
    Prop where
  /-- The path that it is looked for at belongs to no other module. -/
  single : '!' ∉ m.path.toList → ∀ other, '!' ∉ other.toList →
    ModuleSpec.escaped other = ModuleSpec.escaped m.path → other = m.path
  /-- With a version, it is the directory with this version. -/
  given : ∀ version, m.version = some version →
    path = base ++ "@" ++ ModuleSpec.escaped version ∧ t.isDirectory path = true
  /-- Without one, it is a directory of the module, or the greatest candidate is that of another one. -/
  found : m.version = none → OwnDirectory t base path ∨
    ∃ name, path = Path.join base name ∧ Overtakes t base name
  /-- It is a directory of the module, if all candidates are. -/
  own : m.version = none → (∀ name ∈ t.subdirectories base, ['v'] <+: name.toList →
    IsMajor name.toList) → OwnDirectory t base path

/-- **Where modules are found**: with a version, in the directory that path and version name; without
one, in a directory of the module, unless a directory of another module below the path whose name starts
with `v` stands in front of all candidates. -/
theorem locate_place (h : cache.locate t m = .ok path) :
    Located cache t m (Path.join cache.root (ModuleSpec.escaped m.path)) path := by
  have hfound : m.version = none →
      OwnDirectory t (Path.join cache.root (ModuleSpec.escaped m.path)) path ∨
        ∃ name, path = Path.join (Path.join cache.root (ModuleSpec.escaped m.path)) name ∧
          Overtakes t (Path.join cache.root (ModuleSpec.escaped m.path)) name := by
    intro hm
    obtain ⟨c, hc, rfl⟩ := (locate_eq_ok hm).1 h
    obtain ⟨hmem, hmax⟩ := newest?_spec hc
    exact candidate_cases hmem hmax
  refine ⟨fun hpath other hother heq => ?_, fun _ hm => (locate_version_eq_ok hm).1 h, hfound,
    fun hm hmajor => ?_⟩
  · rw [← String.toList_inj]
    exact ModuleSpec.escape_injective hother hpath (String.ofList_injective heq)
  · rcases hfound hm with hown | ⟨name, -, hovertakes⟩
    · exact hown
    · exact absurd (hmajor name hovertakes.isListed hovertakes.isVersion) hovertakes.foreign

/-- A cache with a module, a second major version of it, and another module below its path. -/
def toolsTree : FileTree :=
  directories [["cache"], ["cache", "acme"], ["cache", "acme", "tools"],
    ["cache", "acme", "tools@v1.2.0"], ["cache", "acme", "tools", "v2@v2.1.0"],
    ["cache", "acme", "tools", "views@v1.0.0"]]

theorem locate_place_tools :
    locate ⟨"/cache"⟩ toolsTree ⟨"acme/tools", none⟩ = .ok "/cache/acme/tools@v1.2.0" ∧
      Located ⟨"/cache"⟩ toolsTree ⟨"acme/tools", none⟩
        (Path.join "/cache" (ModuleSpec.escaped "acme/tools")) "/cache/acme/tools@v1.2.0" := by
  have hcandidates : candidates toolsTree (Path.join "/cache" (ModuleSpec.escaped "acme/tools")) =
      [⟨[], "/cache/acme/tools/v2@v2.1.0"⟩, ⟨[], "/cache/acme/tools/views@v1.0.0"⟩,
        ⟨[1, 2, 0], "/cache/acme/tools@v1.2.0"⟩] := by decide +kernel
  have hnewest : newest? (candidates toolsTree (Path.join "/cache" (ModuleSpec.escaped "acme/tools"))) =
      some ⟨[1, 2, 0], "/cache/acme/tools@v1.2.0"⟩ := by
    rw [hcandidates]
    exact newest?_eq_some (by decide) (by decide +kernel)
  have hlocate : locate ⟨"/cache"⟩ toolsTree ⟨"acme/tools", none⟩ = .ok "/cache/acme/tools@v1.2.0" :=
    (locate_eq_ok rfl).2 ⟨_, hnewest, rfl⟩
  exact ⟨hlocate, locate_place hlocate⟩

/-- A cache with a module whose name starts with `v`, below the path of another one. -/
def viewsTree : FileTree :=
  directories [["cache"], ["cache", "acme"], ["cache", "acme", "tools"],
    ["cache", "acme", "tools", "views@v1.0.0"]]

/-- A directory of another module is found, although there is none of the module. -/
theorem locate_foreign :
    locate ⟨"/cache"⟩ viewsTree ⟨"acme/tools", none⟩ = .ok "/cache/acme/tools/views@v1.0.0" ∧
      ∀ path, ¬ OwnDirectory viewsTree (Path.join "/cache" (ModuleSpec.escaped "acme/tools")) path := by
  have hbase : Path.join "/cache" (ModuleSpec.escaped "acme/tools") = "/cache/acme/tools" := by
    decide +kernel
  have hcandidates : candidates viewsTree "/cache/acme/tools" =
      [⟨[], "/cache/acme/tools/views@v1.0.0"⟩] := by decide +kernel
  have hlocate : locate ⟨"/cache"⟩ viewsTree ⟨"acme/tools", none⟩ =
      .ok "/cache/acme/tools/views@v1.0.0" :=
    (locate_eq_ok rfl).2 ⟨⟨[], "/cache/acme/tools/views@v1.0.0"⟩,
      by rw [hbase, hcandidates]; exact newest?_eq_some (by decide) (by decide +kernel), rfl⟩
  refine ⟨hlocate, fun path hown => ?_⟩
  rw [hbase] at hown
  cases hown with
  | beside hparent hlast hlisted hversion =>
    have hparent' : Path.parent? "/cache/acme/tools" = some "/cache/acme" := by decide +kernel
    have hnames : viewsTree.subdirectories "/cache/acme" = ["tools"] := by decide +kernel
    obtain rfl := Option.some.inj (hparent.symm.trans hparent')
    rw [hnames, List.mem_singleton] at hlisted
    have hmark : '@' ∈ "tools".toList := by
      rw [← hlisted, siblingName, String.toList_ofList]
      exact List.mem_append_right _ List.mem_cons_self
    exact absurd hmark (by decide)
  | major hlisted hmajor =>
    have hnames : viewsTree.subdirectories "/cache/acme/tools" = ["views@v1.0.0"] := by
      decide +kernel
    rw [hnames, List.mem_singleton] at hlisted
    subst hlisted
    obtain ⟨digits, rest, heq, hne, hdigits, -⟩ := hmajor
    obtain ⟨d, ds, rfl⟩ := List.exists_cons_of_ne_nil hne
    -- the letter behind the first one would be a digit
    have hd : 'i' = d := (List.cons.inj (List.cons.inj heq).2).1
    exact absurd (hdigits d List.mem_cons_self) (hd ▸ by decide)

end ModuleCache

end ProviderGlue

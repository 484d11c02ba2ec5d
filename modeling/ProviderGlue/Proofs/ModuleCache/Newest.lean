import Mathlib.Data.List.MinMax
import ProviderGlue.Proofs.ModuleCache.Version

/-!
# The newest version of a module

Without a version, a module is found in the directory beside its path whose version is greatest by the
numbers it starts with, and by its text where these are the same.  So no version has greater major,
minor and patch numbers, and between versions that only differ in these numbers the newest one is found.
A pre-release, however, takes the place of its release.

## Key results

- `locate_eq_of_greatest`: what is found beside the path of a module
- `rank_lt_of_release`: a pre-release is greater than its release
- `locate_newest`: how the version that is found compares with all others
-/

namespace ProviderGlue

open Text

namespace ModuleCache

/-! ## Directories beside the path of a module -/

theorem toList_siblingName (last : String) (version : List Char) :
    (siblingName last version).toList = last.toList ++ '@' :: version :=
  String.toList_ofList

theorem siblingName_inj {last : String} {version version' : List Char} :
    siblingName last version = siblingName last version' ↔ version = version' := by
  rw [← String.toList_inj, toList_siblingName, toList_siblingName, List.append_cancel_left_eq,
    List.cons_inj_right]

theorem isName_siblingName {last : String} {version : List Char} (hlast : Path.IsName last)
    (hversion : '/' ∉ version) : Path.IsName (siblingName last version) where
  slash := by
    rw [toList_siblingName, List.mem_append, List.mem_cons]
    exact fun h => h.elim hlast.slash fun h => h.elim (by decide) hversion
  current := by
    have hmark : '@' ∈ (siblingName last version).toList := by
      rw [toList_siblingName]
      exact List.mem_append_right _ List.mem_cons_self
    exact Path.isCurrent_eq_false hmark (by decide)

/-- The versions of a module in a cache: directories beside its path, which leads to no directory. -/
structure CachedVersions (t : FileTree) (base parent last : String) (vs : List Version) : Prop where
  hasParent : Path.parent? base = some parent
  hasLast : Path.fileName? base = some last
  noDirectory : t.isDirectory base = false
  listed : ∀ version, ['v'] <+: version →
    (siblingName last version ∈ t.subdirectories parent ↔ ∃ v ∈ vs, v.text = version)

/-- What versions are compared by: the numbers they start with, and their text. -/
def Version.rank (v : Version) : List Nat ×ₗ List Char :=
  toLex (versionKey v.text, v.text)

/-- The candidate for a version beside the path of a module. -/
def sibling (parent last : String) (v : Version) : Candidate :=
  ⟨versionKey v.text, Path.join parent (siblingName last v.text)⟩

variable {t : FileTree} {base parent last : String} {vs : List Version}

theorem CachedVersions.mem_candidates_iff (h : CachedVersions t base parent last vs) {c : Candidate} :
    c ∈ candidates t base ↔ ∃ v ∈ vs, sibling parent last v = c := by
  have hnone : t.subdirectories base = [] := by
    refine List.eq_nil_iff_forall_not_mem.2 fun name hname => ?_
    obtain ⟨l, hentry, -⟩ := FileTree.mem_subdirectories_iff.1 hname
    have hdirectory := FileTree.isDirectory_iff.2 ⟨l, hentry⟩
    rw [h.noDirectory] at hdirectory
    contradiction
  rw [ModuleCache.mem_candidates_iff]
  constructor
  · rintro (⟨name, hbelow⟩ | ⟨parent', last', version, hbeside⟩)
    · exact absurd (hnone ▸ hbelow.isListed) List.not_mem_nil
    · obtain rfl := Option.some.inj (h.hasParent.symm.trans hbeside.hasParent)
      obtain rfl := Option.some.inj (h.hasLast.symm.trans hbeside.hasLast)
      obtain ⟨v, hv, rfl⟩ := (h.listed version hbeside.isVersion).1 hbeside.isListed
      exact ⟨v, hv, hbeside.eq.symm⟩
  · rintro ⟨v, hv, rfl⟩
    exact .inr ⟨parent, last, v.text, h.hasParent, h.hasLast,
      (h.listed _ v.isVersion_text).2 ⟨v, hv, rfl⟩, v.isVersion_text, rfl⟩

/-- A directory beside a path goes on from the same place, to a name with a version. -/
theorem CachedVersions.components_sibling (h : CachedVersions t base parent last vs) (v : Version) :
    Path.components (sibling parent last v).path =
      (Path.components base).dropLast ++ [siblingName last v.text] := by
  have hname := isName_siblingName (Path.isName_fileName h.hasLast) v.slash_not_mem_text
  rw [sibling, Path.components_join hname.isAbsolute_eq_false, Path.components_name hname,
    Path.components_parent h.hasParent]

/-- Directories beside each other are compared as their versions. -/
theorem CachedVersions.rank_le (h : CachedVersions t base parent last vs) {v w : Version}
    (hle : (sibling parent last v).rank ≤ (sibling parent last w).rank) : v.rank ≤ w.rank := by
  rw [Candidate.rank, Candidate.rank, Prod.Lex.toLex_le_toLex] at hle
  rw [Version.rank, Version.rank, Prod.Lex.toLex_le_toLex]
  refine hle.imp_right fun hpath => ⟨hpath.1, not_lt.1 fun hlt => not_lt.2 hpath.2 ?_⟩
  rw [h.components_sibling, h.components_sibling]
  refine List.append_left_lt (List.cons_lt_cons_iff.2 (.inl (String.lt_iff_toList_lt.2 ?_)))
  rw [toList_siblingName, toList_siblingName]
  exact List.append_left_lt (List.cons_lt_cons_iff.2 (.inr ⟨rfl, hlt⟩))

/-- The version that is found is the greatest one. -/
theorem locate_eq_of_greatest {cache : ModuleCache} {m : ModuleSpec} {v : Version}
    (hm : m.version = none)
    (h : CachedVersions t (Path.join cache.root (ModuleSpec.escaped m.path)) parent last vs)
    (hv : v ∈ vs) (hgreatest : ∀ w ∈ vs, w.rank ≤ v.rank) :
    cache.locate t m = .ok (Path.join parent (siblingName last v.text)) := by
  have hne : candidates t (Path.join cache.root (ModuleSpec.escaped m.path)) ≠ [] :=
    List.ne_nil_of_mem (h.mem_candidates_iff.2 ⟨v, hv, rfl⟩)
  obtain ⟨c, hc⟩ := Option.isSome_iff_exists.1 (newest?_isSome_iff.2 hne)
  obtain ⟨hmem, hmax⟩ := newest?_spec hc
  obtain ⟨w, hw, rfl⟩ := h.mem_candidates_iff.1 hmem
  -- both are greatest, so they have the same text
  have hle : v.rank ≤ w.rank := h.rank_le (hmax _ (h.mem_candidates_iff.2 ⟨v, hv, rfl⟩))
  have htext : w.text = v.text :=
    congrArg (fun rank => (ofLex rank).2) (le_antisymm (hgreatest w hw) hle)
  refine (locate_eq_ok hm).2 ⟨_, hc, ?_⟩
  rw [sibling, htext]

/-! ## The greatest version -/

namespace Version

theorem core_le_of_rank_le {v w : Version} (h : v.rank ≤ w.rank) : v.core ≤ w.core := by
  rw [rank, rank, Prod.Lex.toLex_le_toLex] at h
  exact core_le_of_versionKey_le (h.elim le_of_lt fun h => h.1.le)

/-- A pre-release is greater than its release. -/
theorem rank_lt_of_release {v w : Version} (hcore : v.core = w.core) (hrelease : v.pre = [])
    (hbuild : v.PlainBuild) (hpre : w.pre ≠ []) : v.rank < w.rank := by
  have hending : v.ending < w.ending := by
    rw [ending, ending, hrelease, List.map_nil, marked, if_pos rfl, List.nil_append, marked,
      marked, if_neg (mt List.map_eq_nil_iff.1 hpre)]
    split
    · exact List.nil_lt_cons _ _
    · exact List.cons_lt_cons_iff.2 (.inl (by decide))
  have htext : v.text < w.text := by
    rw [text, text, hcore]
    exact List.append_left_lt hending
  rw [rank, rank, Prod.Lex.toLex_lt_toLex, versionKey_text, versionKey_text, hcore,
    furtherNumbers_of_release hrelease hbuild, List.append_nil]
  cases hfurther : w.furtherNumbers with
  | nil => exact .inr ⟨(List.append_nil _).symm, htext⟩
  | cons n ns =>
    have hlt : w.core ++ [] < w.core ++ n :: ns := List.append_left_lt (List.nil_lt_cons n ns)
    rw [List.append_nil] at hlt
    exact .inl hlt

end Version

/-- No version stands behind one of them. -/
def IsLatest (vs : List Version) (v : Version) : Prop := ∀ w ∈ vs, ¬ v.Precedes w

/-- The version that is found, and how it compares with the others. -/
structure Newest (vs : List Version) (v : Version) : Prop where
  mem : v ∈ vs
  /-- It is greatest by the numbers it starts with, and then by its text. -/
  greatest : ∀ w ∈ vs, w.rank ≤ v.rank
  /-- No version has greater major, minor and patch numbers. -/
  core_le : ∀ w ∈ vs, w.core ≤ v.core
  /-- It is the latest one, if versions with its numbers do not differ in their pre-releases. -/
  alike : (∀ w ∈ vs, w.core = v.core → w.pre = v.pre) → IsLatest vs v
  /-- With a release of its numbers among the versions, it is the latest one exactly if there is no
  pre-release of that release. -/
  released : (∀ w ∈ vs, w.PlainBuild) → (∃ w ∈ vs, w.core = v.core ∧ w.pre = []) →
    (IsLatest vs v ↔ ∀ w ∈ vs, w.core = v.core → w.pre = [])

theorem newest_of_greatest {v : Version} (hv : v ∈ vs) (h : ∀ w ∈ vs, w.rank ≤ v.rank) :
    Newest vs v := by
  have hcore : ∀ w ∈ vs, w.core ≤ v.core := fun w hw => Version.core_le_of_rank_le (h w hw)
  have halike : (∀ w ∈ vs, w.core = v.core → w.pre = v.pre) → IsLatest vs v := by
    rintro hpre w hw (hlt | ⟨heq, hlt⟩)
    · exact absurd hlt (not_lt.2 (hcore w hw))
    · rw [hpre w hw heq.symm] at hlt
      exact Version.PrePrecedes.irrefl v.pre hlt
  refine ⟨hv, h, hcore, halike, fun hplain ⟨r, hr, hrcore, hrelease⟩ => ⟨?_, ?_⟩⟩
  · intro hlatest w hw hwcore
    by_contra hpre
    -- the pre-release is greater than the release, so the version is a pre-release itself
    have hvpre : v.pre ≠ [] := fun hnil =>
      not_lt.2 (h w hw) (Version.rank_lt_of_release hwcore.symm hnil (hplain v hv) hpre)
    obtain ⟨i, is, heq⟩ := List.exists_cons_of_ne_nil hvpre
    refine hlatest r hr (.inr ⟨hrcore.symm, ?_⟩)
    rw [heq, hrelease]
    trivial
  · intro hnone
    exact halike fun w hw hwcore => (hnone w hw hwcore).trans (hnone v hv rfl).symm

/-- **The newest version**: of the versions of a module beside its path one with the greatest numbers is
found, whatever the order of the directories.  It is the latest one unless versions with its numbers
differ in their pre-releases, and where its release is there, exactly if that has no pre-release. -/
theorem locate_newest (hne : vs ≠ []) :
    ∃ v, Newest vs v ∧ ∀ (cache : ModuleCache) (t : FileTree) (m : ModuleSpec) (parent last : String),
      m.version = none →
      CachedVersions t (Path.join cache.root (ModuleSpec.escaped m.path)) parent last vs →
      cache.locate t m = .ok (Path.join parent (siblingName last v.text)) ∧
        Path.components (Path.join parent (siblingName last v.text)) =
          (Path.components (Path.join cache.root (ModuleSpec.escaped m.path))).dropLast ++
            [siblingName last v.text] := by
  cases hv : vs.argmax Version.rank with
  | none => exact absurd (List.argmax_eq_none.1 hv) hne
  | some v =>
    have hmem : v ∈ vs := List.argmax_mem hv
    have hgreatest : ∀ w ∈ vs, w.rank ≤ v.rank := fun w hw => List.le_of_mem_argmax hw hv
    exact ⟨v, newest_of_greatest hmem hgreatest, fun _ _ _ _ _ hm h =>
      ⟨locate_eq_of_greatest hm h hmem hgreatest, h.components_sibling v⟩⟩

/-- A cache with directories beside the path `acme/w`. -/
def cacheOf (vs : List Version) : FileTree :=
  directories (["cache"] :: ["cache", "acme"] ::
    vs.map fun v => ["cache", "acme", siblingName "w" v.text])

/-- The version 4.0.1. -/
def patched : Version where
  major := 4
  minor := 0
  patch := 1
  pre := []
  build := []
  bounded := by decide
  validPre := nofun
  validBuild := nofun

/-- The version 4.0.1-alpha.1. -/
def preview : Version where
  major := 4
  minor := 0
  patch := 1
  pre := [.word "alpha".toList, .number 1]
  build := []
  bounded := by decide
  validPre := List.forall_mem_cons.2
    ⟨⟨List.all_eq_true.1 (by decide), 'a', by decide, rfl⟩, List.forall_mem_singleton.2 trivial⟩
  validBuild := nofun

/-- The version 4.0.10. -/
def tenth : Version where
  major := 4
  minor := 0
  patch := 10
  pre := []
  build := ["incompatible".toList]
  bounded := by decide
  validPre := nofun
  validBuild := List.forall_mem_singleton.2 ⟨by decide, List.all_eq_true.1 (by decide)⟩

theorem cachedVersions_cacheOf (vs : List Version)
    (hnone : (cacheOf vs).isDirectory "/cache/acme/w" = false)
    (h : (cacheOf vs).subdirectories "/cache/acme" = vs.map fun v => siblingName "w" v.text) :
    CachedVersions (cacheOf vs) "/cache/acme/w" "/cache/acme" "w" vs where
  hasParent := by decide +kernel
  hasLast := by decide +kernel
  noDirectory := hnone
  listed version _ := by
    rw [h, List.mem_map]
    exact exists_congr fun v => and_congr_right fun _ => siblingName_inj

theorem locate_newest_tenth :
    [patched, preview, tenth] ≠ [] ∧ Newest [patched, preview, tenth] tenth ∧
      locate ⟨"/cache"⟩ (cacheOf [patched, preview, tenth]) ⟨"acme/w", none⟩ =
        .ok "/cache/acme/w@v4.0.10+incompatible" ∧
      Path.components "/cache/acme/w@v4.0.10+incompatible" =
        (Path.components (Path.join "/cache" (ModuleSpec.escaped "acme/w"))).dropLast ++
          ["w@v4.0.10+incompatible"] := by
  have hne : [patched, preview, tenth] ≠ [] := List.cons_ne_nil _ _
  obtain ⟨v, hnewest, hlocate⟩ := locate_newest hne
  have hcore : tenth.core ≤ v.core := hnewest.core_le tenth (by simp)
  obtain rfl : v = tenth := by
    rcases List.mem_cons.1 hnewest.mem with rfl | hv
    · exact absurd hcore (by decide)
    · rcases List.mem_cons.1 hv with rfl | hv
      · exact absurd hcore (by decide)
      · exact List.mem_singleton.1 hv
  have hbase : Path.join "/cache" (ModuleSpec.escaped "acme/w") = "/cache/acme/w" := by
    decide +kernel
  have hcached := cachedVersions_cacheOf [patched, preview, tenth] (by decide +kernel)
    (by decide +kernel)
  have hname : siblingName "w" tenth.text = "w@v4.0.10+incompatible" := by decide +kernel
  have hfound := hlocate ⟨"/cache"⟩ _ ⟨"acme/w", none⟩ "/cache/acme" "w" rfl (hbase ▸ hcached)
  rw [hname] at hfound
  exact ⟨hne, hnewest, hfound⟩

/-- A pre-release is found in place of its release. -/
theorem locate_overtaken :
    CachedVersions (cacheOf [patched, preview]) "/cache/acme/w" "/cache/acme" "w"
        [patched, preview] ∧
      locate ⟨"/cache"⟩ (cacheOf [patched, preview]) ⟨"acme/w", none⟩ =
        .ok "/cache/acme/w@v4.0.1-alpha.1" ∧
      siblingName "w" preview.text = "w@v4.0.1-alpha.1" ∧ preview.Precedes patched := by
  have hcached : CachedVersions (cacheOf [patched, preview]) "/cache/acme/w" "/cache/acme" "w"
      [patched, preview] := cachedVersions_cacheOf _ (by decide +kernel) (by decide +kernel)
  have hbase : Path.join "/cache" (ModuleSpec.escaped "acme/w") = "/cache/acme/w" := by
    decide +kernel
  have hlt : patched.rank < preview.rank :=
    Version.rank_lt_of_release rfl rfl nofun (List.cons_ne_nil _ _)
  have hlocate : locate ⟨"/cache"⟩ (cacheOf [patched, preview]) ⟨"acme/w", none⟩ =
      .ok (Path.join "/cache/acme" (siblingName "w" preview.text)) :=
    locate_eq_of_greatest rfl (hbase ▸ hcached) (by simp) (by simpa using hlt.le)
  have hname : siblingName "w" preview.text = "w@v4.0.1-alpha.1" := by decide +kernel
  rw [hname] at hlocate
  exact ⟨hcached, hlocate, hname, .inr ⟨rfl, trivial⟩⟩

end ModuleCache

end ProviderGlue

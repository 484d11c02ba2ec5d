import Mathlib.Data.Prod.Lex
import ProviderGlue.ModuleCache
import ProviderGlue.Proofs.FileTree
import ProviderGlue.Proofs.Path
import ProviderGlue.Proofs.Text.Order

/-!
# Candidates for a module

Candidates are ordered by the numbers of their versions, and by their paths where these are equal.

## Key results

- `Candidate.le_iff`: candidates are compared by the numbers of their versions, then by their paths
- `newest?_spec`, `newest?_eq_some`: what is found is a greatest candidate
- `mem_candidates_iff`: the candidates stand below the path of the module, or beside it
- `locate_version_eq_ok`, `locate_eq_ok`: what is found with a version, and without one
-/

namespace ProviderGlue.ModuleCache

open Text

/-! ## The order -/

/-- What a candidate is compared by. -/
def Candidate.rank (c : Candidate) : List Nat ×ₗ List String :=
  toLex (c.key, Path.components c.path)

theorem Candidate.le_iff {a b : Candidate} : a.le b = true ↔ a.rank ≤ b.rank := by
  rw [le, rank, rank, Prod.Lex.toLex_le_toLex]
  split
  · next heq => rw [notBehind_iff, heq, and_iff_right rfl, or_iff_right (lt_irrefl _)]
  · next hne => rw [notBehind_iff, or_iff_left fun h => hne h.1, le_iff_lt_or_eq, or_iff_left hne]

/-- What is found is a greatest candidate. -/
theorem newest?_spec {cs : List Candidate} {newest : Candidate} (h : newest? cs = some newest) :
    newest ∈ cs ∧ ∀ c ∈ cs, c.rank ≤ newest.rank := by
  have hmem : ∀ c, c ∈ cs.mergeSort Candidate.le ↔ c ∈ cs :=
    fun c => (List.mergeSort_perm cs _).mem_iff
  refine ⟨(hmem newest).1 (List.mem_of_getLast? h), fun c hc => ?_⟩
  have hsorted : (cs.mergeSort Candidate.le).Pairwise fun a b => a.rank ≤ b.rank :=
    pairwise_mergeSort_rank (fun a b => Candidate.le_iff (a := a) (b := b)) cs
  exact le_getLast_of_pairwise (fun c => le_refl c.rank) hsorted h ((hmem c).2 hc)

/-- Something is found if there is a candidate. -/
theorem newest?_isSome_iff {cs : List Candidate} : (newest? cs).isSome ↔ cs ≠ [] := by
  rw [newest?, List.getLast?_isSome, ne_eq, ← List.length_eq_zero_iff, List.length_mergeSort,
    List.length_eq_zero_iff]

/-- A candidate that all others stand behind is found. -/
theorem newest?_eq_some {cs : List Candidate} {c : Candidate} (hc : c ∈ cs)
    (h : ∀ other ∈ cs, other ≠ c → other.rank < c.rank) : newest? cs = some c := by
  obtain ⟨newest, hnewest⟩ := Option.isSome_iff_exists.1 (newest?_isSome_iff.2 (List.ne_nil_of_mem hc))
  obtain ⟨hmem, hmax⟩ := newest?_spec hnewest
  rw [hnewest, Option.some.injEq]
  by_contra hne
  exact not_lt.2 (hmax c hc) (h newest hmem hne)

/-! ## Where candidates stand -/

/-- A candidate in the directory of the module. -/
structure Below (t : FileTree) (base name : String) (c : Candidate) : Prop where
  isListed : name ∈ t.subdirectories base
  isVersion : ['v'] <+: name.toList
  eq : c = ⟨versionKey name.toList, Path.join base name⟩

/-- The name of the directory for a version beside the directory of a module. -/
def siblingName (last : String) (version : List Char) : String :=
  String.ofList (last.toList ++ '@' :: version)

/-- A candidate beside the directory of the module. -/
structure Beside (t : FileTree) (base parent last : String) (version : List Char) (c : Candidate) :
    Prop where
  hasParent : Path.parent? base = some parent
  hasLast : Path.fileName? base = some last
  isListed : siblingName last version ∈ t.subdirectories parent
  isVersion : ['v'] <+: version
  eq : c = ⟨versionKey version, Path.join parent (siblingName last version)⟩

theorem mem_candidates_iff {t : FileTree} {base : String} {c : Candidate} :
    c ∈ candidates t base ↔
      (∃ name, Below t base name c) ∨ ∃ parent last version, Beside t base parent last version c := by
  rw [candidates, List.mem_append]
  refine or_congr ?_ ?_
  · simp only [List.mem_map, List.mem_filter, List.isPrefixOf_iff_prefix]
    constructor
    · rintro ⟨name, ⟨hlisted, hversion⟩, rfl⟩
      exact ⟨name, hlisted, hversion, rfl⟩
    · rintro ⟨name, hlisted, hversion, rfl⟩
      exact ⟨name, ⟨hlisted, hversion⟩, rfl⟩
  · constructor
    · intro h
      split at h
      · next parent last hparent hlast =>
        simp only [List.mem_filterMap, Option.map_eq_some_iff, Option.filter_eq_some_iff,
          afterPrefix?_eq_some_iff, List.isPrefixOf_iff_prefix] at h
        obtain ⟨name, hlisted, version, ⟨hname, hversion⟩, rfl⟩ := h
        obtain rfl : name = siblingName last version := by
          rw [← String.toList_inj, hname, siblingName]
          simp
        exact ⟨parent, last, version, hparent, hlast, hlisted, hversion, rfl⟩
      · exact absurd h List.not_mem_nil
    · rintro ⟨parent, last, version, hparent, hlast, hlisted, hversion, rfl⟩
      simp only [hparent, hlast, List.mem_filterMap, Option.map_eq_some_iff,
        Option.filter_eq_some_iff, afterPrefix?_eq_some_iff, List.isPrefixOf_iff_prefix]
      exact ⟨_, hlisted, version, ⟨by simp [siblingName], hversion⟩, rfl⟩

/-- With a version, its directory is found. -/
theorem locate_version_eq_ok {cache : ModuleCache} {t : FileTree} {m : ModuleSpec}
    {version path : String} (hm : m.version = some version) :
    cache.locate t m = .ok path ↔
      path = Path.join cache.root (ModuleSpec.escaped m.path) ++ "@" ++ ModuleSpec.escaped version ∧
        t.isDirectory path = true := by
  rw [locate]
  simp only [hm]
  generalize Path.join cache.root (ModuleSpec.escaped m.path) ++ "@" ++
    ModuleSpec.escaped version = directory
  cases hdirectory : t.isDirectory directory with
  | false =>
    refine iff_of_false nofun ?_
    rintro ⟨rfl, h⟩
    rw [hdirectory] at h
    contradiction
  | true =>
    rw [if_pos rfl, Except.ok.injEq, eq_comm]
    exact ⟨fun h => ⟨h, h ▸ hdirectory⟩, And.left⟩

/-- Without a version, the newest candidate is found. -/
theorem locate_eq_ok {cache : ModuleCache} {t : FileTree} {m : ModuleSpec} {path : String}
    (hm : m.version = none) :
    cache.locate t m = .ok path ↔
      ∃ c, newest? (candidates t (Path.join cache.root (ModuleSpec.escaped m.path))) = some c ∧
        c.path = path := by
  rw [locate]
  simp only [hm]
  cases newest? (candidates t (Path.join cache.root (ModuleSpec.escaped m.path))) <;> simp

/-- A tree of directories. -/
def directories (locations : List Location) : FileTree :=
  locations.foldr (fun l t => t.put l .directory) {}

end ProviderGlue.ModuleCache

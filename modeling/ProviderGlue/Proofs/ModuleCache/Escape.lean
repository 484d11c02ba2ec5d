import ProviderGlue.Proofs.ModuleCache
import ProviderGlue.Proofs.Path.Written

/-!
# Escaped paths

A path is written into the cache without capitals, each behind an exclamation mark as a small letter,
and is read back from what is written.  So paths are told apart even where letter case does not count,
and so are the directories in which modules are found whose paths differ in letter case only.

## Key results

- `unescape_escape_append`: a path is read back, whatever follows it
- `locate_goesOn`: a module is found in a directory that goes on from its path
- `escaped_decodable`: escaped paths and the directories of modules are told apart
-/

namespace ProviderGlue

open Text Unicode

/-! ## Reading back -/

namespace ModuleSpec

/-- How a character is written in the cache. -/
def escapeChar (c : Char) : List Char := if c.isUpper then ['!', c.toLower] else [c]

theorem escape_cons (c : Char) (cs : List Char) : escape (c :: cs) = escapeChar c ++ escape cs := rfl

/-- The text for which a text is written: capitals in place of exclamation marks and the small letters
behind them. -/
def unescape : List Char → List Char
  | [] => []
  | '!' :: c :: cs => if c.isLower then c.toUpper :: unescape cs else '!' :: unescape (c :: cs)
  | c :: cs => c :: unescape cs

theorem unescape_cons {c : Char} (h : c ≠ '!') (cs : List Char) :
    unescape (c :: cs) = c :: unescape cs := by
  rw [unescape]
  rintro c' cs' rfl
  exact absurd rfl h

theorem unescape_escapeChar {c : Char} (h : c ≠ '!') (rest : List Char) :
    unescape (escapeChar c ++ rest) = c :: unescape rest := by
  rw [escapeChar]
  split
  · next hupper =>
    obtain ⟨hlower, -, hback⟩ := toLower_of_isUpper hupper
    show unescape ('!' :: c.toLower :: rest) = _
    rw [unescape, if_pos hlower, hback]
  · exact unescape_cons h rest

/-- **A path is read back from what is written for it**, whatever follows. -/
theorem unescape_escape_append {path : List Char} (h : '!' ∉ path) (rest : List Char) :
    unescape (escape path ++ rest) = path ++ unescape rest := by
  induction path with
  | nil => rfl
  | cons c cs ih =>
    obtain ⟨hc, hcs⟩ := not_or.1 (mt List.mem_cons.2 h)
    rw [escape_cons, List.append_assoc, unescape_escapeChar (Ne.symm hc), ih hcs, List.cons_append]

theorem unescape_escape {path : List Char} (h : '!' ∉ path) : unescape (escape path) = path := by
  have happend := unescape_escape_append h []
  rwa [List.append_nil, unescape, List.append_nil] at happend

/-- Paths without exclamation marks are told apart by what is written for them. -/
theorem escape_injective {path path' : List Char} (hpath : '!' ∉ path) (hpath' : '!' ∉ path')
    (h : escape path = escape path') : path = path' := by
  rw [← unescape_escape hpath, h, unescape_escape hpath']

/-- No capitals are written. -/
theorem isUpper_of_mem_escape {path : List Char} {c : Char} (h : c ∈ escape path) :
    c.isUpper = false := by
  obtain ⟨d, -, hc⟩ := List.mem_flatMap.1 h
  split at hc
  · next hupper =>
    rcases List.mem_pair.1 hc with rfl | rfl
    · rfl
    · exact (toLower_of_isUpper hupper).2.1
  · next hupper =>
    rw [List.mem_singleton.1 hc]
    exact Bool.not_eq_true _ ▸ hupper

/-- So letter case does not count for what is written. -/
theorem foldCase_escape (path : List Char) : foldCase (escape path) = escape path :=
  (List.map_congr_left fun _ hc => toLower_eq_self (isUpper_of_mem_escape hc)).trans (List.map_id _)

/-- What is written for paths of one length, and anything behind it, tells the paths apart even where
letter case does not count. -/
theorem eq_of_foldCase_escape_append {path path' : List Char} (hpath : '!' ∉ path)
    (hpath' : '!' ∉ path') (hlength : path.length = path'.length) {ending ending' : List Char}
    (h : foldCase (escape path ++ ending) = foldCase (escape path' ++ ending')) : path = path' := by
  have hfold : ∀ {p e : List Char}, foldCase (escape p ++ e) = escape p ++ foldCase e := by
    intro p e
    rw [foldCase, List.map_append, ← foldCase, foldCase_escape, ← foldCase]
  rw [hfold, hfold] at h
  have hback := congrArg unescape h
  rw [unescape_escape_append hpath, unescape_escape_append hpath'] at hback
  exact (List.append_inj hback hlength).1

/-! ## Components -/

/-- Escaped paths keep their components. -/
theorem keepsComponents_escapeChar : Path.KeepsComponents escapeChar where
  nonempty c := by
    rw [escapeChar]
    split <;> exact List.cons_ne_nil _ _
  slash := rfl
  noSlash c hc := by
    rw [escapeChar]
    split
    · next hupper =>
      rw [List.mem_pair, not_or]
      refine ⟨by decide, fun heq => ?_⟩
      exact absurd (heq ▸ (toLower_of_isUpper hupper).1) (by decide)
    · exact fun hmem => hc (List.mem_singleton.1 hmem).symm
  dot c := by
    rw [escapeChar]
    split
    · next hupper =>
      refine iff_of_false (fun heq => nomatch (List.cons.inj heq).2) ?_
      rintro rfl
      exact absurd hupper (by decide)
    · exact List.singleton_inj

theorem components_escaped (path : String) :
    Path.components (escaped path) = (Path.components path).map escaped :=
  keepsComponents_escapeChar.components_written path

theorem isAbsolute_escaped (path : String) : Path.isAbsolute (escaped path) = Path.isAbsolute path :=
  keepsComponents_escapeChar.isAbsolute_written path

end ModuleSpec

/-! ## Directories of modules -/

namespace ModuleCache

/-- A way goes on from some names: it starts with them, the last one maybe with an ending, and may lead
through further names. -/
inductive GoesOn : (names way : List String) → Prop
  | last (name : String) (ending : List Char) (more : List String) :
    GoesOn [name] (String.ofList (name.toList ++ ending) :: more)
  | first {names way : List String} (name : String) (h : GoesOn names way) :
    GoesOn (name :: names) (name :: way)

namespace GoesOn

theorem append {names way : List String} (front : List String) (h : GoesOn names way) :
    GoesOn (front ++ names) (front ++ way) := by
  induction front with
  | nil => exact h
  | cons name front ih => exact ih.first name

theorem of_append {front names way : List String} (h : GoesOn (front ++ names) way)
    (hnames : names ≠ []) : ∃ rest, way = front ++ rest ∧ GoesOn names rest := by
  induction front generalizing way with
  | nil => exact ⟨way, rfl, h⟩
  | cons name front ih =>
    have hne := List.append_ne_nil_of_right_ne_nil front hnames
    obtain ⟨next, further, heq⟩ := List.exists_cons_of_ne_nil hne
    rw [List.cons_append, heq] at h
    cases h with
    | first _ h =>
      obtain ⟨rest, rfl, hrest⟩ := ih (heq ▸ h)
      exact ⟨rest, rfl, hrest⟩

theorem self {names : List String} (hnames : names ≠ []) (more : List String) :
    GoesOn names (names ++ more) := by
  induction names with
  | nil => contradiction
  | cons name names ih =>
    cases names with
    | nil =>
      have hlast := last name [] more
      rwa [List.append_nil, String.ofList_toList] at hlast
    | cons next names => exact (ih (List.cons_ne_nil _ _)).first name

end GoesOn

/-- Behind a mark there is a component of its own, or the last component goes on. -/
theorem goesOn_mark {base : String} (hbase : Path.components base ≠ []) (ending : String) :
    GoesOn (Path.components base) (Path.components (base ++ "@" ++ ending)) := by
  obtain ⟨front, last, piece, more, hpieces, hmarked⟩ := Path.exists_pieces_mark base ending
  have hmark : Path.isCurrent (last ++ "@" ++ piece) = false :=
    Path.isCurrent_eq_false (c := '@') (by simp) (by decide)
  rw [Path.components, hpieces, List.filter_append, List.filter_singleton] at hbase ⊢
  rw [Path.components, hmarked, List.filter_append, List.filter_cons_of_pos (by rw [hmark]; rfl)]
  cases hlast : Path.isCurrent last with
  | true =>
    rw [hlast] at hbase
    rw [Bool.not_true, cond_false, List.append_nil] at hbase ⊢
    exact .self hbase _
  | false =>
    have hgoesOn := GoesOn.last last ("@" ++ piece).toList (more.filter (! Path.isCurrent ·))
    rw [← String.toList_append, String.ofList_toList, ← String.append_assoc] at hgoesOn
    exact hgoesOn.append _

theorem goesOn_join {base name : String} (hbase : Path.components base ≠ [])
    (hname : Path.isAbsolute name = false) :
    GoesOn (Path.components base) (Path.components (Path.join base name)) := by
  rw [Path.components_join hname]
  exact .self hbase _

/-- A directory beside a path goes on from the last component of the path. -/
theorem goesOn_sibling {base parent last : String} {version : List Char}
    (hparent : Path.parent? base = some parent) (hlast : Path.fileName? base = some last) :
    GoesOn (Path.components base)
      (Path.components (Path.join parent (siblingName last version))) := by
  have hname := Path.isName_fileName hlast
  have hself : Path.components last = [last] := Path.components_name hname
  obtain ⟨front, hfront⟩ := List.getLast?_eq_some_iff.1 (Option.filter_eq_some_iff.1 hlast).1
  have hsibling : siblingName last version = last ++ "@" ++ String.ofList version := by
    simp [siblingName, ← String.toList_inj]
  have hrelative : Path.isAbsolute (siblingName last version) = false := by
    obtain ⟨c, cs, hchars⟩ := List.exists_cons_of_ne_nil fun hnil : last.toList = [] => by
      rw [String.toList_eq_nil_iff.1 hnil] at hself
      exact absurd hself (by decide)
    have htext : (siblingName last version).toList = c :: (cs ++ '@' :: version) := by
      simp [siblingName, hchars]
    refine Path.isAbsolute_eq_false htext ?_
    rintro rfl
    exact hname.slash (hchars ▸ List.mem_cons_self)
  rw [Path.components_join hrelative, Path.components_parent hparent, hfront, List.dropLast_concat,
    hsibling]
  have hmark := goesOn_mark (hself ▸ List.cons_ne_nil last []) (String.ofList version)
  rw [hself] at hmark
  exact hmark.append front

/-- **A module is found in a directory that goes on from its path.** -/
theorem locate_goesOn {cache : ModuleCache} {t : FileTree} {m : ModuleSpec} {path : String}
    (h : cache.locate t m = .ok path)
    (hbase : Path.components (Path.join cache.root (ModuleSpec.escaped m.path)) ≠ []) :
    GoesOn (Path.components (Path.join cache.root (ModuleSpec.escaped m.path)))
      (Path.components path) := by
  cases hm : m.version with
  | some version =>
    obtain ⟨rfl, -⟩ := (locate_version_eq_ok hm).1 h
    exact goesOn_mark hbase _
  | none =>
    obtain ⟨c, hc, rfl⟩ := (locate_eq_ok hm).1 h
    generalize Path.join cache.root (ModuleSpec.escaped m.path) = base at hbase hc ⊢
    rcases mem_candidates_iff.1 (newest?_spec hc).1 with
      ⟨name, hbelow⟩ | ⟨parent, last, version, hbeside⟩
    · obtain ⟨-, ⟨rest, hname⟩, rfl⟩ := hbelow
      exact goesOn_join hbase (Path.isAbsolute_eq_false hname.symm (by decide))
    · obtain ⟨hparent, hlast, -, -, rfl⟩ := hbeside
      show GoesOn _ (Path.components (Path.join parent (siblingName last version)))
      exact goesOn_sibling hparent hlast

/-- Names that differ in letter case only are told apart by what is written for them, with any
endings. -/
theorem eq_of_foldedCase_escaped {name name' : String} (hname : '!' ∉ name.toList)
    (hname' : '!' ∉ name'.toList) (hcase : foldedCase name = foldedCase name')
    {ending ending' : List Char}
    (h : foldedCase (String.ofList ((ModuleSpec.escaped name).toList ++ ending)) =
      foldedCase (String.ofList ((ModuleSpec.escaped name').toList ++ ending'))) : name = name' := by
  have hlength : name.toList.length = name'.toList.length := by
    have hfold := congrArg List.length (String.ofList_injective hcase)
    rwa [foldCase, foldCase, List.length_map, List.length_map] at hfold
  simp only [foldedCase, ModuleSpec.escaped, String.toList_ofList] at h
  exact String.toList_inj.1 (ModuleSpec.eq_of_foldCase_escape_append hname hname' hlength
    (String.ofList_injective h))

/-- Names that differ in letter case only are told apart by ways that go on from what is written for
them, even where letter case does not count. -/
theorem eq_of_goesOn {names names' way way' : List String}
    (hnames : ∀ name ∈ names, '!' ∉ name.toList) (hnames' : ∀ name ∈ names', '!' ∉ name.toList)
    (hcase : names.map foldedCase = names'.map foldedCase)
    (h : GoesOn (names.map ModuleSpec.escaped) way)
    (h' : GoesOn (names'.map ModuleSpec.escaped) way')
    (heq : way.map foldedCase = way'.map foldedCase) : names = names' := by
  induction names generalizing names' way way' with
  | nil => nomatch h
  | cons name names ih =>
    cases names' with
    | nil => nomatch h'
    | cons name' names' =>
      obtain ⟨hname, hnames⟩ := List.forall_mem_cons.1 hnames
      obtain ⟨hname', hnames'⟩ := List.forall_mem_cons.1 hnames'
      obtain ⟨hfold, hcase⟩ := List.cons.inj hcase
      -- the first names are compared with their endings if there are no others
      cases names with
      | nil =>
        obtain rfl := List.map_eq_nil_iff.1 hcase.symm
        cases h with
        | first _ h => nomatch h
        | last _ ending more =>
          cases h' with
          | first _ h' => nomatch h'
          | last _ ending' more' =>
            rw [eq_of_foldedCase_escaped hname hname' hfold (List.cons.inj heq).1]
      | cons next names =>
        cases names' with
        | nil => contradiction
        | cons next' names' =>
          cases h with
          | first _ h =>
            cases h' with
            | first _ h' =>
              obtain ⟨hfirst, heq⟩ := List.cons.inj heq
              rw [← String.ofList_toList (s := ModuleSpec.escaped name),
                ← String.ofList_toList (s := ModuleSpec.escaped name'),
                ← List.append_nil (ModuleSpec.escaped name).toList,
                ← List.append_nil (ModuleSpec.escaped name').toList] at hfirst
              rw [eq_of_foldedCase_escaped hname hname' hfold hfirst, ih hnames hnames' hcase h h' heq]

/-- The directories of a module go on from the root of the cache, or stand for themselves. -/
theorem components_base (root path : String) :
    Path.components (Path.join root (ModuleSpec.escaped path)) =
      (if Path.isAbsolute path then [] else Path.components root) ++
        (Path.components path).map ModuleSpec.escaped := by
  have habsolute := ModuleSpec.isAbsolute_escaped path
  rw [← ModuleSpec.components_escaped]
  cases hpath : Path.isAbsolute path with
  | true =>
    rw [hpath, Path.isAbsolute] at habsolute
    rw [Path.join, if_pos habsolute, if_pos rfl, List.nil_append]
  | false =>
    rw [hpath] at habsolute
    rw [Path.components_join habsolute, if_neg Bool.false_ne_true]

/-- Modules with paths that differ in letter case only are found at different places. -/
theorem eq_of_located {cache : ModuleCache} {t t' : FileTree} {m m' : ModuleSpec}
    {directory directory' : String} (hpath : '!' ∉ m.path.toList) (hpath' : '!' ∉ m'.path.toList)
    (hcase : foldedCase m.path = foldedCase m'.path) (h : cache.locate t m = .ok directory)
    (h' : cache.locate t' m' = .ok directory')
    (heq : (Path.components directory).map foldedCase =
      (Path.components directory').map foldedCase) : m.path = m'.path := by
  have hchars : ∀ {path : String}, '!' ∉ path.toList →
      ∀ name ∈ Path.components path, '!' ∉ name.toList := by
    intro path hmark name hname hmem
    obtain ⟨piece, hpiece, rfl⟩ := List.mem_map.1 (List.mem_filter.1 hname).1
    rw [String.toList_ofList] at hmem
    exact hmark (subset_of_mem_splitWhere hpiece hmem)
  have hcomponents : (Path.components m.path).map foldedCase =
      (Path.components m'.path).map foldedCase := by
    rw [← Path.components_foldedCase, hcase, Path.components_foldedCase]
  have habsolute : Path.isAbsolute m.path = Path.isAbsolute m'.path := by
    rw [← Path.keepsComponents_toLower.isAbsolute_written, ← Path.foldedCase_eq, hcase,
      Path.foldedCase_eq, Path.keepsComponents_toLower.isAbsolute_written]
  refine Path.eq_of_components_eq hcase ?_
  by_cases hnil : Path.components m.path = []
  · rw [hnil] at hcomponents ⊢
    exact (List.map_eq_nil_iff.1 hcomponents.symm).symm
  · have hnil' : Path.components m'.path ≠ [] := by
      intro heq
      rw [heq] at hcomponents
      exact hnil (List.map_eq_nil_iff.1 hcomponents)
    have hgoesOn := locate_goesOn h
    have hgoesOn' := locate_goesOn h'
    rw [components_base] at hgoesOn hgoesOn'
    rw [← habsolute] at hgoesOn'
    -- what stands before the paths is the same
    have hne : (Path.components m.path).map ModuleSpec.escaped ≠ [] := mt List.map_eq_nil_iff.1 hnil
    have hne' : (Path.components m'.path).map ModuleSpec.escaped ≠ [] := mt List.map_eq_nil_iff.1 hnil'
    obtain ⟨way, hway, hrest⟩ := (hgoesOn (List.append_ne_nil_of_right_ne_nil _ hne)).of_append hne
    obtain ⟨way', hway', hrest'⟩ := (hgoesOn' (List.append_ne_nil_of_right_ne_nil _ hne')).of_append hne'
    rw [hway, hway', List.map_append, List.map_append, List.append_cancel_left_eq] at heq
    exact eq_of_goesOn (hchars hpath) (hchars hpath') hcomponents hrest hrest' heq

/-- What can be said of escaped paths. -/
structure Decodable (path other : String) : Prop where
  /-- A path is written without capitals. -/
  capital : ∀ c ∈ (ModuleSpec.escaped path).toList, c.isUpper = false
  /-- It is read back. -/
  back : ModuleSpec.unescape (ModuleSpec.escaped path).toList = path.toList
  /-- It is written like no other path. -/
  single : ModuleSpec.escaped path = ModuleSpec.escaped other → path = other
  /-- This holds as well where letter case does not count. -/
  folded : foldedCase (ModuleSpec.escaped path) = foldedCase (ModuleSpec.escaped other) → path = other
  /-- Modules with paths that differ in letter case only are found at different places, whatever their
  versions are, and even if letter case does not count in the names of directories. -/
  apart : foldedCase path = foldedCase other → path ≠ other →
    ∀ (cache : ModuleCache) (t t' : FileTree) (version version' : Option String)
      (directory directory' : String), cache.locate t ⟨path, version⟩ = .ok directory →
      cache.locate t' ⟨other, version'⟩ = .ok directory' →
      (Path.components directory).map foldedCase ≠ (Path.components directory').map foldedCase
  /-- So are different versions of one module. -/
  versions : ∀ (cache : ModuleCache) (t t' : FileTree) (version version' directory directory' : String),
    '!' ∉ version.toList → '!' ∉ version'.toList →
    cache.locate t ⟨path, some version⟩ = .ok directory →
    cache.locate t' ⟨path, some version'⟩ = .ok directory' →
    foldedCase directory = foldedCase directory' → version = version'

/-- What is written for strings tells them apart even where letter case does not count. -/
theorem eq_of_foldedCase_eq {s s' : String} (hs : '!' ∉ s.toList) (hs' : '!' ∉ s'.toList)
    (h : foldedCase (ModuleSpec.escaped s) = foldedCase (ModuleSpec.escaped s')) : s = s' := by
  have hfold : ∀ s : String, foldedCase (ModuleSpec.escaped s) = ModuleSpec.escaped s := by
    intro s
    rw [foldedCase, ModuleSpec.escaped, String.toList_ofList, ModuleSpec.foldCase_escape]
  rw [hfold, hfold] at h
  exact String.toList_inj.1 (ModuleSpec.escape_injective hs hs' (String.ofList_injective h))

/-- **Escaped paths can be read back**, and are told apart even where letter case does not count; so are
the directories of modules whose paths differ in letter case only. -/
theorem escaped_decodable {path other : String} (hpath : '!' ∉ path.toList)
    (hother : '!' ∉ other.toList) : Decodable path other := by
  constructor
  case capital =>
    intro c hc
    rw [ModuleSpec.escaped, String.toList_ofList] at hc
    exact ModuleSpec.isUpper_of_mem_escape hc
  case back => rw [ModuleSpec.escaped, String.toList_ofList, ModuleSpec.unescape_escape hpath]
  case single =>
    intro h
    exact String.toList_inj.1 (ModuleSpec.escape_injective hpath hother (String.ofList_injective h))
  case folded => exact eq_of_foldedCase_eq hpath hother
  case apart =>
    intro hcase hne cache t t' version version' directory directory' h h' heq
    have hpaths := @eq_of_located cache t t' ⟨path, version⟩ ⟨other, version'⟩ directory directory' hpath
      hother hcase h h' heq
    exact hne hpaths
  case versions =>
    intro cache t t' version version' directory directory' hversion hversion' h h' heq
    obtain ⟨rfl, -⟩ := (locate_version_eq_ok rfl).1 h
    obtain ⟨rfl, -⟩ := (locate_version_eq_ok rfl).1 h'
    -- both directories stand beside the same path
    rw [foldedCase_append _ (ModuleSpec.escaped version),
      foldedCase_append _ (ModuleSpec.escaped version'), String.append_right_inj] at heq
    exact eq_of_foldedCase_eq hversion hversion' heq

/-- Two modules that only differ in one capital, in one cache. -/
theorem escaped_decodable_toml :
    ('!' ∉ "github.com/BurntSushi/toml".toList ∧ '!' ∉ "github.com/burntSushi/toml".toList) ∧
      ModuleSpec.escaped "github.com/BurntSushi/toml" = "github.com/!burnt!sushi/toml" ∧
      Decodable "github.com/BurntSushi/toml" "github.com/burntSushi/toml" := by
  have hmarks : '!' ∉ "github.com/BurntSushi/toml".toList ∧
      '!' ∉ "github.com/burntSushi/toml".toList := by decide
  exact ⟨hmarks, by decide +kernel, escaped_decodable hmarks.1 hmarks.2⟩

end ModuleCache

end ProviderGlue

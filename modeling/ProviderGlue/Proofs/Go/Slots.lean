import ProviderGlue.Catalog.Build
import ProviderGlue.Proofs.Go.Pairing

/-!
# Slots of constant specifications

In a syntax tree the names of a specification of constants and the commas between them stand in one
list of slots, and the expressions behind them in another one.  Whatever reads a source file, the
constants of the file are known from the names and expressions of such specifications.

## Key results

- `constants_ofNodes`: the constants of a file come from its declarations of constants
- `constants_interleaved`: what a specification declares that lists its names with commas
-/

namespace ProviderGlue.Go.SourceFile

/-- The shape of a specification that lists its names. -/
structure NameList (spec : Node) : Prop where
  /-- Its slots hold the names and the commas between them. -/
  slots : (constSpec spec).slots = (names spec).intersperse ","
  /-- No name is a comma. -/
  apart : "," ∉ names spec

/-! ## Constants of a source file -/

/-- A node adds the constants of its specifications if it is a declaration of constants. -/
theorem constants_add (file : SourceFile) (node : Node) :
    (file.add node).constants =
      file.constants ++ if node.is .constants then ConstSpec.constants (specsOf node) else [] := by
  -- no other kind of node changes the constants
  unfold add
  split
  · split
    · split
      · exact (List.append_nil _).symm
      · split <;> exact (List.append_nil _).symm
    · exact (List.append_nil _).symm
  · exact (List.append_nil _).symm
  · rfl
  · next hother =>
    rw [if_neg, List.append_nil]
    intro hkind
    cases node with
    | comment => contradiction
    | node kind text children => exact hother text children (by rw [eq_of_beq hkind])

theorem constants_foldl_add (file : SourceFile) (nodes : List Node) :
    (nodes.foldl add file).constants =
      file.constants ++
        (nodes.filter (·.is .constants)).flatMap fun d => ConstSpec.constants (specsOf d) := by
  induction nodes generalizing file with
  | nil => exact (List.append_nil _).symm
  | cons node nodes ih =>
    rw [List.foldl_cons, ih, constants_add, List.append_assoc, List.filter_cons]
    split
    · rw [List.flatMap_cons]
    · rw [List.nil_append]

/-- The constants of a declaration, one group for each specification. -/
def groupsOf (declaration : Node) : List (List Constant) :=
  (specsOf declaration).mapIdx (ConstSpec.declaredAt (specsOf declaration))

/-- The constants of a source file are those of its declarations, in order. -/
theorem constants_ofNodes (path : String) (nodes : List Node) :
    (ofNodes path nodes).constants =
      (nodes.filter (·.is .constants)).flatMap fun d => (groupsOf d).flatten := by
  rw [ofNodes, constants_foldl_add]
  simp only [ConstSpec.constants_eq]
  rfl

theorem length_groupsOf (declaration : Node) :
    (groupsOf declaration).length = (declaration.all .constSpec).length := by
  rw [groupsOf, List.length_mapIdx, specsOf, List.length_map]

/-- The group of a specification is what it declares under the one that governs it. -/
theorem getElem?_groupsOf {declaration spec : Node} {k : Nat}
    (hk : (declaration.all .constSpec)[k]? = some spec) :
    (groupsOf declaration)[k]? =
      some (ConstSpec.declaredAt (specsOf declaration) k (constSpec spec)) := by
  rw [groupsOf, List.getElem?_mapIdx, specsOf, List.getElem?_map, hk]
  rfl

/-- **Names and expressions are paired by slots.**  The constants of a source file come in groups,
one for each specification.  If a specification lists its names, its expressions fill the slots of the
names and of the commas between them. -/
theorem constants_interleaved (path : String) (nodes : List Node) :
    (ofNodes path nodes).constants =
      (nodes.filter (·.is .constants)).flatMap (fun d => (groupsOf d).flatten) ∧
    ∀ d : Node, (groupsOf d).length = (d.all .constSpec).length ∧
      ∀ (k : Nat) spec, (d.all .constSpec)[k]? = some spec → NameList spec →
        ∃ declared, (groupsOf d)[k]? = some declared ∧
          ∀ (g : ConstSpec) type exprs, g.Governs ((specsOf d).take (k + 1)) →
            g.type = some type → g.values = some exprs → exprs.length ≤ (names spec).length →
            ConstSpec.Interleaved type (.ofNat k) (names spec) exprs declared := by
  refine ⟨constants_ofNodes path nodes, fun d => ⟨length_groupsOf d, fun k spec hk hlist => ?_⟩⟩
  refine ⟨_, getElem?_groupsOf hk, fun g type exprs hg htype hvalues hlength => ?_⟩
  -- what is in hand at the specification is what governs it
  have hgoverning := ConstSpec.foldl_governedBy_eq_some_iff.2 ⟨g, hg, htype, hvalues⟩
  rw [ConstSpec.declaredAt, ConstSpec.governingAt, hgoverning]
  show ConstSpec.Interleaved _ _ _ _ ((constSpec spec).declared ⟨some type, exprs⟩ (.ofNat k))
  rw [ConstSpec.declared_eq_paired, hlist.slots]
  exact ConstSpec.interleaved_paired hlist.apart hlength

/-! Three constants that are declared together: the second name gets the third value. -/

/-- A node without nodes inside. -/
def leaf (kind : Grammar.Kind) (text : String) : Node := .node kind text.toList []

/-- A specification with three names. -/
def flagsSpec : Node :=
  .node .constSpec "X, Y, Z E = 1, 2, 3".toList
    [leaf .name "X", leaf .separator ",", leaf .name "Y", leaf .separator ",", leaf .name "Z",
      leaf .typeName "E",
      .node .values "1, 2, 3".toList [leaf .value "1", leaf .value "2", leaf .value "3"]]

/-- A declaration with only that specification. -/
def flagsDeclaration : Node := .node .constants "const X, Y, Z E = 1, 2, 3".toList [flagsSpec]

/-- A source file with that declaration and its type. -/
def flagsNodes : List Node :=
  [.node .typeSpec "E int".toList [leaf .name "E", leaf .typeName "int"], flagsDeclaration]

/-- Its text. -/
def flagsText : List Char :=
  "package a\n\ntype E int\n\nconst X, Y, Z E = 1, 2, 3\n".toList

theorem nameList_flagsSpec : NameList flagsSpec where
  slots := by decide +kernel
  apart := by decide +kernel

theorem constants_interleaved_flags :
    NameList flagsSpec ∧
      ConstSpec.Interleaved "E" 0 ["X", "Y", "Z"] ["1", "2", "3"]
        (ofNodes "e.go" flagsNodes).constants := by
  obtain ⟨hconstants, hgroups⟩ := constants_interleaved "e.go" flagsNodes
  obtain ⟨-, hspecs⟩ := hgroups flagsDeclaration
  obtain ⟨declared, hdeclared, hinterleaved⟩ := hspecs 0 flagsSpec rfl nameList_flagsSpec
  have hgoverns : (constSpec flagsSpec).Governs ((specsOf flagsDeclaration).take (0 + 1)) :=
    ⟨rfl, [], [], rfl, nofun⟩
  -- the declaration has one group, which is all that the file declares
  have hgroup : groupsOf flagsDeclaration = [declared] := congrArg ([·]) (Option.some.inj hdeclared)
  have hdeclarations : flagsNodes.filter (·.is .constants) = [flagsDeclaration] := rfl
  rw [hdeclarations, List.flatMap_singleton, hgroup, List.flatten_singleton] at hconstants
  rw [hconstants]
  exact ⟨nameList_flagsSpec, hinterleaved _ "E" ["1", "2", "3"] hgoverns rfl rfl (Nat.le_refl 3)⟩

theorem constants_mislabelled :
    NameList flagsSpec ∧
      ConstSpec.paired "E" 0 ["X", "Y", "Z"] ["1", "2", "3"] =
        [⟨"X", "E", 1⟩, ⟨"Y", "E", 2⟩, ⟨"Z", "E", 3⟩] ∧
      (ofNodes "e.go" flagsNodes).constants =
        [⟨"X", "E", 1⟩, ⟨",", "E", 2⟩, ⟨"Y", "E", 3⟩] ∧
      (Catalog.ofFiles [ofNodes "e.go" flagsNodes]).enums.values =
        [⟨"E", "e.go", [⟨"X", 1⟩, ⟨",", 2⟩, ⟨"Y", 3⟩]⟩] ∧
      (read? "e.go" flagsText).map (·.constants) =
        some [⟨"X", "E", 1⟩, ⟨",", "E", 2⟩, ⟨"Y", "E", 3⟩] :=
  ⟨nameList_flagsSpec, by decide +kernel, by decide +kernel, by decide +kernel, by decide +kernel⟩

end ProviderGlue.Go.SourceFile

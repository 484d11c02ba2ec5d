import ProviderGlue.Proofs.Client
import ProviderGlue.Proofs.DataSource.Declarations
import ProviderGlue.Proofs.Schema.Stems
import ProviderGlue.Proofs.Text.Case

/-!
# Data sources in one package

Two data sources of one model are put into the same package if they are made with the same settings
and for the same namespace.  Their names differ within each file only.  Whether the files and what they
declare differ depends on how the methods are spelled, and on the types and enumerations in their
responses.

## Key results

- `Names.file_eq_iff`: when two operations have the same file
- `disjoint_declaredNames_iff`: when two files declare different names
- `neighbours_ofModel`: both, for two data sources of a model
- `not_disjoint_listModel`: files that share a type, and operations that share a file
-/

namespace ProviderGlue.DataSource

open Text Go Schema

/-! ## Names around the plan -/

namespace Names

/-- What stands before the method in the name of a data source, up to an underscore. -/
def start (provider package : String) : List Char :=
  provider.toList ++ '_' :: snakeCase package.toList

variable (provider package : String)

theorem toList_resource (method : String) :
    (ofOperation provider package method).resource.toList =
      start provider package ++ '_' :: snakeCase method.toList := by
  simp [ofOperation, start]

/-- The function that makes a data source has the method in camel case at its end. -/
theorem toList_maker (method : String) :
    (ofOperation provider package method).maker.toList =
      ("Datasource".toList ++ camelCase (start provider package)) ++
        camelCase (snakeCase method.toList) := by
  have hmaker : (ofOperation provider package method).maker.toList =
      "Datasource".toList ++ camelCase (ofOperation provider package method).resource.toList := by
    show ("Datasource" ++ onChars camelCase (ofOperation provider package method).resource).toList = _
    rw [String.toList_append, toList_onChars]
  rw [hmaker, toList_resource, camelCase_append, List.append_assoc]

theorem toList_reader (method : String) :
    (ofOperation provider package method).reader.toList =
      (ofOperation provider package method).maker.toList ++ "Read".toList := by
  rw [ofOperation, String.toList_append]

/-- **Two operations have the same file exactly if their methods agree in snake case**, if these are of
ASCII. -/
theorem file_eq_iff {method method' : String} (h : IsAscii method.toList)
    (h' : IsAscii method'.toList) :
    (ofOperation provider package method).file = (ofOperation provider package method').file ↔
      snakeCase method.toList = snakeCase method'.toList := by
  have hfile : ∀ method, (ofOperation provider package method).file.toList =
      "data_source_".toList ++
        (snakeCase (start provider package ++ '_' :: snakeCase method.toList) ++ ".go".toList) := by
    intro method
    rw [← toList_resource]
    show ("data_source_" ++ onChars snakeCase (ofOperation provider package method).resource ++
      ".go").toList = _
    rw [String.toList_append, String.toList_append, toList_onChars, List.append_assoc]
  rw [← String.toList_inj, hfile, hfile, List.append_cancel_left_eq, List.append_cancel_right_eq,
    snakeCase_prefixed h h']

end Names

/-- Whether names differ, also with `Read` behind one of them. -/
def ApartFromRead (name name' : List Char) : Prop :=
  name ≠ name' ∧ name ≠ name' ++ "Read".toList ∧ name' ≠ name ++ "Read".toList

instance (name name' : List Char) : Decidable (ApartFromRead name name') :=
  inferInstanceAs (Decidable (_ ∧ _ ∧ _))

/-- The functions around two plans differ exactly if the methods in camel case do, also with `Read`
behind one of them. -/
theorem disjoint_around_iff (provider package method method' : String) :
    List.Disjoint
        [(Names.ofOperation provider package method).maker,
          (Names.ofOperation provider package method).reader]
        [(Names.ofOperation provider package method').maker,
          (Names.ofOperation provider package method').reader] ↔
      ApartFromRead (camelCase (snakeCase method.toList)) (camelCase (snakeCase method'.toList)) := by
  simp only [List.disjoint_cons_left, List.disjoint_nil_left, List.mem_cons, List.not_mem_nil,
    or_false, not_or, and_true, ← String.toList_inj, Names.toList_reader, Names.toList_maker,
    List.append_assoc, List.append_cancel_left_eq, List.append_cancel_right_eq]
  constructor
  · rintro ⟨⟨hne, hread⟩, hread', -⟩
    exact ⟨hne, hread, fun heq => hread' heq.symm⟩
  · rintro ⟨hne, hread, hread'⟩
    exact ⟨⟨hne, hread⟩, fun heq => hread' heq.symm, hne⟩

/-- **Two files declare different names exactly if the functions around their plans do and the plans
do**: no function around a plan is named like something in a plan. -/
theorem disjoint_declaredNames_iff {d d' : DataSource} {provider package method method' : String}
    (hd : d.names = .ofOperation provider package method)
    (hd' : d'.names = .ofOperation provider package method')
    (hplan : ∀ name ∈ d.plan.declared, ¬ StartsWithD name)
    (hplan' : ∀ name ∈ d'.plan.declared, ¬ StartsWithD name) :
    d.declaredNames.Disjoint d'.declaredNames ↔
      ApartFromRead (camelCase (snakeCase method.toList)) (camelCase (snakeCase method'.toList)) ∧
        d.plan.declared.Disjoint d'.plan.declared := by
  have haround : ∀ {names : Names} {declared : List String} {method : String},
      names = .ofOperation provider package method →
      (∀ name ∈ declared, ¬ StartsWithD name) →
      List.Disjoint [names.maker, names.reader] declared := by
    intro names declared method hnames hdeclared name hname hmem
    obtain ⟨hmaker, hreader⟩ := startsWithD_ofOperation provider package method
    rw [← hnames] at hmaker hreader
    rcases List.mem_pair.1 hname with rfl | rfl
    · exact hdeclared _ hmem hmaker
    · exact hdeclared _ hmem hreader
  have hnames : ∀ d : DataSource,
      d.declaredNames = [d.names.maker, d.names.reader] ++ d.plan.declared := fun _ => rfl
  rw [hnames, hnames, List.disjoint_append_left, List.disjoint_append_right,
    List.disjoint_append_right, ← disjoint_around_iff provider package method method', ← hd, ← hd']
  constructor
  · rintro ⟨⟨hfunctions, -⟩, -, hplans⟩
    exact ⟨hfunctions, hplans⟩
  · rintro ⟨hfunctions, hplans⟩
    exact ⟨⟨hfunctions, haround hd hplan'⟩, List.disjoint_symm (haround hd' hplan), hplans⟩

/-! ## Data sources of a model -/

/-- The package that data sources for a model are put into. -/
def packageFor (m : Model) (package : Option String) : Except Failure String :=
  match package.filter (! ·.isEmpty) with
  | some package => .ok package
  | none => defaultPackage m

/-- A data source has the names for its method in this package, and the plan for its response. -/
theorem ofModel_spec {s : Settings} {m : Model} {method : String} {package : Option String}
    {d : DataSource} (h : ofModel s m method package = .ok d) :
    ∃ name shape, packageFor m package = .ok name ∧
      d.names = .ofOperation s.provider name method ∧
      d.plan = .build shape m.enums [lookupKey] := by
  unfold ofModel at h
  split at h
  · split at h
    · next shape _ =>
      dsimp only at h
      split at h
      · next hpackage =>
        cases h
        exact ⟨_, shape, by rw [packageFor, hpackage], rfl, rfl⟩
      · next hpackage =>
        obtain ⟨name, hname, hsource⟩ := exists_of_bind_eq_ok h
        cases hsource
        exact ⟨name, shape, by rw [packageFor, hpackage, hname], rfl, rfl⟩
    · exact nomatch h
  · exact nomatch h

/-- Whether methods differ in more than letter case and what stands between words, also with `read`
behind one of them. -/
def ApartInLetters (method method' : String) : Prop :=
  letters method.toList ≠ letters method'.toList ∧
    letters method.toList ≠ letters method'.toList ++ "read".toList ∧
    letters method'.toList ≠ letters method.toList ++ "read".toList

/-- Such methods differ in both spellings. -/
theorem ApartInLetters.spelled {method method' : String} (h : ApartInLetters method method')
    (hascii : IsAscii method.toList) (hascii' : IsAscii method'.toList) :
    snakeCase method.toList ≠ snakeCase method'.toList ∧
      ApartFromRead (camelCase (snakeCase method.toList))
        (camelCase (snakeCase method'.toList)) := by
  have hletters : ∀ {name}, IsAscii name → letters (camelCase (snakeCase name)) = letters name :=
    fun hname => by
      rw [letters_camelCase (snakeCase_spec hname).2, letters_snakeCase hname]
  have hread : letters "Read".toList = "read".toList := by decide
  obtain ⟨hne, hleft, hright⟩ := h
  refine ⟨fun heq => hne ?_, fun heq => hne ?_, fun heq => hleft ?_, fun heq => hright ?_⟩
  · rw [← letters_snakeCase hascii, heq, letters_snakeCase hascii']
  · rw [← hletters hascii, heq, hletters hascii']
  · rw [← hletters hascii, heq, letters_append, hletters hascii', hread]
  · rw [← hletters hascii', heq, letters_append, hletters hascii, hread]

/-- How the files of data sources for two methods are related that are put into one package. -/
structure Neighbours (method method' : String) (d d' : DataSource) : Prop where
  /-- There is one package. -/
  package : d.names.package = d'.names.package
  /-- The lines of the one file declare its names and no others. -/
  left : d.text = render d.lines ∧ DeclareInOrder d.declaredNames d.lines
  /-- So do those of the other file. -/
  right : d'.text = render d'.lines ∧ DeclareInOrder d'.declaredNames d'.lines
  /-- Methods of ASCII have one file if they agree in snake case. -/
  file : IsAscii method.toList → IsAscii method'.toList →
    (d.names.file = d'.names.file ↔ snakeCase method.toList = snakeCase method'.toList)
  /-- The files declare different names if the functions around the plans differ, which the methods in
  camel case decide, and the plans declare different names. -/
  declared : d.declaredNames.Disjoint d'.declaredNames ↔
    ApartFromRead (camelCase (snakeCase method.toList)) (camelCase (snakeCase method'.toList)) ∧
      d.plan.declared.Disjoint d'.plan.declared
  /-- Methods that differ in more than letter case and what stands between words, also with `read`
  behind one of them, have different files and different functions. -/
  spelled : IsAscii method.toList → IsAscii method'.toList → ApartInLetters method method' →
    d.names.file ≠ d'.names.file ∧
      List.Disjoint [d.names.maker, d.names.reader] [d'.names.maker, d'.names.reader]
  /-- Plans with types or enumerations of the same names declare a name in common. -/
  shared : d.plan.declared.Disjoint d'.plan.declared → d.plan.stems.Disjoint d'.plan.stems
  /-- Plans declare different names if those of their types and enumerations differ in more than the
  numbers at their ends. -/
  separate : (d.plan.stems.map withoutNumber).Disjoint (d'.plan.stems.map withoutNumber) →
    d.plan.declared.Disjoint d'.plan.declared

/-- **Data sources in one package.**  Whatever two data sources of a model are made with the same
settings and for the same package, their files and the functions around their plans differ if their
methods do in more than spelling, and their plans declare a common name if, but for numbers only if,
they share the name of a type or of an enumeration. -/
theorem neighbours_ofModel {s : Settings} {m : Model} {method method' : String}
    {package : Option String} {d d' : DataSource} (h : ofModel s m method package = .ok d)
    (h' : ofModel s m method' package = .ok d') : Neighbours method method' d d' := by
  obtain ⟨name, shape, hname, hd, hplan⟩ := ofModel_spec h
  obtain ⟨name', shape', hname', hd', hplan'⟩ := ofModel_spec h'
  obtain rfl : name = name' := Except.ok.inj (hname.symm.trans hname')
  have hstems : d.plan.Stemmed := hplan ▸ stemmed_build shape m.enums [lookupKey]
  have hstems' : d'.plan.Stemmed := hplan' ▸ stemmed_build shape' m.enums [lookupKey]
  have hfile : IsAscii method.toList → IsAscii method'.toList →
      (d.names.file = d'.names.file ↔ snakeCase method.toList = snakeCase method'.toList) :=
    fun hascii hascii' => by
      rw [hd, hd']
      exact Names.file_eq_iff s.provider name hascii hascii'
  constructor
  case package =>
    rw [hd, hd']
    rfl
  case left => exact ⟨rfl, declares_lines d⟩
  case right => exact ⟨rfl, declares_lines d'⟩
  case file => exact hfile
  case declared =>
    refine disjoint_declaredNames_iff hd hd' ?_ ?_
    · exact hplan ▸ (build_declared shape m.enums [lookupKey]).2
    · exact hplan' ▸ (build_declared shape' m.enums [lookupKey]).2
  case spelled =>
    intro hascii hascii' hapart
    obtain ⟨hsnake, hcamel⟩ := hapart.spelled hascii hascii'
    refine ⟨mt (hfile hascii hascii').1 hsnake, ?_⟩
    rw [hd, hd']
    exact (disjoint_around_iff s.provider name method method').2 hcamel
  case shared => exact hstems.disjoint_stems hstems'
  case separate => exact hstems.disjoint_declared hstems'

/-! ## Operations on widgets -/

/-- Operations of which two answer with the same type, and two are spelled alike. -/
def listModel : Model :=
  { mixedModel with
    operations := [namedOperation "GetWidget" "WidgetsApi" "Widget",
      namedOperation "ListWidgets" "WidgetsApi" "Widget",
      namedOperation "Get_Widget" "WidgetsApi" "Gadget"] }

/-- The data source for one of these operations. -/
def listSource (method shape : String) : DataSource :=
  mixedSource method shape "WidgetAPIInstance"

theorem ofModel_listSource {method shape : String}
    (h : listModel.operation? method = some (namedOperation method "WidgetsApi" shape)) :
    ofModel {} listModel method none = .ok (listSource method shape) := by
  have hpackage : defaultPackage listModel = .ok "widgetsv2" := rfl
  have hfield : apiFieldFor listModel "WidgetsApi" = "WidgetAPIInstance" := by decide +kernel
  rw [listSource, ← hfield]
  unfold ofModel
  rw [h, hpackage]
  rfl

theorem stems_namedShape :
    (Plan.build (namedShape "Widget") [] [lookupKey]).stems = ["flattenWidget"] ∧
      (Plan.build (namedShape "Gadget") [] [lookupKey]).stems = ["flattenGadget"] := by
  constructor <;> decide +kernel

/-- Operations on different types, the files of which can be put into one package. -/
theorem neighbours_ofModel_apart :
    ofModel {} listModel "ListWidgets" none = .ok (listSource "ListWidgets" "Widget") ∧
      ofModel {} listModel "Get_Widget" none = .ok (listSource "Get_Widget" "Gadget") ∧
      (listSource "ListWidgets" "Widget").names.file ≠
        (listSource "Get_Widget" "Gadget").names.file ∧
      (listSource "ListWidgets" "Widget").declaredNames.Disjoint
        (listSource "Get_Widget" "Gadget").declaredNames := by
  have hlist : ofModel {} listModel "ListWidgets" none = .ok (listSource "ListWidgets" "Widget") :=
    ofModel_listSource rfl
  have hget : ofModel {} listModel "Get_Widget" none = .ok (listSource "Get_Widget" "Gadget") :=
    ofModel_listSource rfl
  have neighbours := neighbours_ofModel hlist hget
  have hstems : ((listSource "ListWidgets" "Widget").plan.stems.map withoutNumber).Disjoint
      ((listSource "Get_Widget" "Gadget").plan.stems.map withoutNumber) := by
    show ((Plan.build (namedShape "Widget") [] [lookupKey]).stems.map withoutNumber).Disjoint
      ((Plan.build (namedShape "Gadget") [] [lookupKey]).stems.map withoutNumber)
    rw [stems_namedShape.1, stems_namedShape.2]
    exact List.disjoint_singleton.2 (by decide)
  refine ⟨hlist, hget, ?_, ?_⟩
  · exact mt (neighbours.file (by decide) (by decide)).1 (by decide)
  · exact neighbours.declared.2 ⟨by decide, neighbours.separate hstems⟩

/-- Each of two operations on one type declares a function that flattens it, and of two operations that
are spelled alike there is one file. -/
theorem not_disjoint_listModel :
    (ofModel {} listModel "GetWidget" none = .ok (listSource "GetWidget" "Widget") ∧
      ofModel {} listModel "ListWidgets" none = .ok (listSource "ListWidgets" "Widget") ∧
      ¬ (listSource "GetWidget" "Widget").declaredNames.Disjoint
        (listSource "ListWidgets" "Widget").declaredNames) ∧
    (ofModel {} listModel "GetWidget" none = .ok (listSource "GetWidget" "Widget") ∧
      ofModel {} listModel "Get_Widget" none = .ok (listSource "Get_Widget" "Gadget") ∧
      (listSource "GetWidget" "Widget").names.file =
        (listSource "Get_Widget" "Gadget").names.file) := by
  have hflatten : ∀ method, "flattenWidget" ∈ (listSource method "Widget").declaredNames := by
    intro method
    refine List.mem_append_right _ ?_
    show "flattenWidget" ∈ (Plan.build (namedShape "Widget") [] [lookupKey]).declared
    decide +kernel
  refine ⟨⟨ofModel_listSource rfl, ofModel_listSource rfl, fun hdisjoint => ?_⟩,
    ofModel_listSource rfl, ofModel_listSource rfl, ?_⟩
  · exact hdisjoint (hflatten "GetWidget") (hflatten "ListWidgets")
  · exact (Names.file_eq_iff "nutanix" "widgetsv2" (by decide) (by decide)).2 (by decide)

end ProviderGlue.DataSource

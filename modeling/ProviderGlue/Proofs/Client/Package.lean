import ProviderGlue.Proofs.Client
import ProviderGlue.Proofs.Go.Code
import ProviderGlue.Proofs.Go.Identifier

/-!
# How generated packages are named

The name of a namespace has small letters, digits and hyphens, in any order.  It stands as it is in
the package clause of the client, is cut at the first hyphen for the alias of the transport, and loses
its hyphens in the name of the function that makes a client.  The package of a data source is named
like the namespace, with `v2` behind it.

## Key results

- `isWord_iff_of_namespaceChars`: such a text is a word if it starts with a letter and has no hyphen
- `Client.packageNames_ofModel`, `DataSource.packageName_ofModel`: which of the names code can use
- `packageNames_exact`: both, for every model
- `packageNames_rejected`: namespaces with hyphens, with a digit in front, and named like a package
-/

namespace ProviderGlue

open Text Unicode Go Grammar

/-! ## Names of namespaces -/

/-- A name of a namespace: not empty, of small letters, digits and hyphens. -/
structure IsNamespace (token : String) : Prop where
  nonempty : token.toList ≠ []
  chars : ∀ c ∈ token.toList, isNamespaceChar c = true

/-- A namespace of a package path has such a name. -/
theorem isNamespace_of_namespaceToken {path token : String} (h : namespaceToken path = .ok token) :
    IsNamespace token := by
  rw [namespaceToken] at h
  split at h
  · next name hfind =>
    obtain ⟨component, -, hname⟩ := List.exists_of_findSome?_eq_some hfind
    have hchars := (Option.filter_eq_some_iff.1 hname).2
    rw [Bool.and_eq_true, Bool.not_eq_true', List.isEmpty_eq_false_iff, List.all_eq_true] at hchars
    rw [← Except.ok.inj h]
    constructor <;> rw [String.toList_ofList]
    · exact hchars.1
    · exact hchars.2
  · contradiction

/-- Whether a name starts with a small letter. -/
def StartsWithLetter (name : String) : Prop := ∃ c ∈ name.toList.head?, c.isLower = true

instance (name : String) : Decidable (StartsWithLetter name) :=
  Option.decidableExistsMem name.toList.head?

section Chars

variable {c : Char} (h : isNamespaceChar c = true)
include h

theorem ne_of_isNamespaceChar {d : Char} (hd : isNamespaceChar d = false) : c ≠ d := by
  rintro rfl
  rw [h] at hd
  contradiction

theorem isAlphanum_of_isNamespaceChar (hne : c ≠ '-') : c.isAlphanum = true := by
  have hor : c.isLower = true ∨ c.isDigit = true := by
    simpa [isNamespaceChar, hne] using h
  show (c.isUpper || c.isLower || c.isDigit) = true
  rcases hor with hlower | hdigit
  · rw [hlower, Bool.or_true, Bool.true_or]
  · rw [hdigit, Bool.or_true]

theorem ascii_of_isNamespaceChar : c.toNat < 0x80 := by
  by_cases hne : c = '-'
  · rw [hne]
    decide
  · exact toNat_lt_of_isAlphanum (isAlphanum_of_isNamespaceChar h hne)

/-- Such a letter is a small one. -/
theorem isAlpha_iff_of_isNamespaceChar : c.isAlpha = true ↔ c.isLower = true := by
  have hall : ∀ n < 0x80, isNamespaceChar (Char.ofNat n) = true →
      ((Char.ofNat n).isAlpha = true ↔ (Char.ofNat n).isLower = true) := by
    decide +kernel
  exact of_ascii (P := fun c => isNamespaceChar c = true → (c.isAlpha = true ↔ c.isLower = true))
    hall (ascii_of_isNamespaceChar h) h

end Chars

/-- A text of such characters is a word if it starts with a letter and has no hyphen. -/
theorem isWord_iff_of_namespaceChars {name : String}
    (h : ∀ c ∈ name.toList, isNamespaceChar c = true) :
    IsWord name ↔ StartsWithLetter name ∧ '-' ∉ name.toList := by
  rw [isWord_iff_of_ascii fun c hc => ascii_of_isNamespaceChar (h c hc), StartsWithLetter]
  generalize name.toList = chars at h ⊢
  cases chars with
  | nil => simp
  | cons c cs =>
    obtain ⟨hc, hcs⟩ := List.forall_mem_cons.1 h
    have hne : c ≠ '_' := ne_of_isNamespaceChar hc (by decide)
    constructor
    · rintro ⟨_, _, heq, hstart, hrest⟩
      obtain ⟨rfl, rfl⟩ := List.cons.inj heq
      have hlower := (isAlpha_iff_of_isNamespaceChar hc).1 (hstart.resolve_left hne)
      refine ⟨⟨c, rfl, hlower⟩, fun hmem => ?_⟩
      rcases List.mem_cons.1 hmem with rfl | hmem
      · exact absurd hlower (by decide)
      · exact absurd (hrest _ hmem) (by decide)
    · rintro ⟨⟨_, heq, hlower⟩, hhyphen⟩
      obtain rfl := Option.some.inj heq
      refine ⟨c, cs, rfl, .inr ((isAlpha_iff_of_isNamespaceChar hc).2 hlower), fun d hd => .inl ?_⟩
      refine isAlphanum_of_isNamespaceChar (hcs d hd) fun heq => hhyphen ?_
      exact List.mem_cons_of_mem _ (heq ▸ hd)

/-! ## Reading names off code -/

/-- The name in the package clause that a text starts with. -/
def packageClause (text : String) : Option String :=
  (afterPrefix? "package ".toList text.toList).map fun rest =>
    String.ofList (rest.takeWhile (· ≠ '\n'))

/-- A name in one line is read back. -/
theorem packageClause_render {name : String} (h : '\n' ∉ name.toList) (ls : List Line) :
    packageClause (render (⟨0, "package " ++ name⟩ :: ls)) = some name := by
  have htext : (render (⟨0, "package " ++ name⟩ :: ls)).toList =
      "package ".toList ++ (name.toList ++ '\n' :: (render ls).toList) := by
    rw [render_cons, String.toList_append, String.toList_append, Line.toList_written,
      String.toList_append, List.append_assoc, List.append_assoc]
    rfl
  have hline : ∀ c ∈ name.toList, decide (c ≠ '\n') = true :=
    fun c hc => decide_eq_true fun heq => h (heq ▸ hc)
  rw [packageClause, htext, afterPrefix?_append, Option.map_some, List.takeWhile_append_of_pos hline,
    List.takeWhile_cons_of_neg (by decide), List.append_nil, String.ofList_toList]

/-- Whether a character ends a component of an imported path. -/
def endsComponent (c : Char) : Bool := c = '/' || c = '\"'

/-- The name under which a line imports a package: that in front of the path, or the last component
of the path. -/
def importName (text : String) : String :=
  String.ofList <| match afterPrefix? ['\"'] text.toList with
    | some path => ((splitWhere endsComponent path).dropLast.getLast?).getD []
    | none => text.toList.takeWhile (· ≠ ' ')

/-- Without an alias, the last component of a path is the name. -/
theorem importName_inQuotes {name : String} (path : String)
    (h : name.toList.any endsComponent = false) :
    importName (inQuotes (path ++ "/" ++ name)) = name := by
  have htext : (inQuotes (path ++ "/" ++ name)).toList =
      ['\"'] ++ (path.toList ++ '/' :: (name.toList ++ '\"' :: [])) := by
    simp [inQuotes]
  have hpieces : splitWhere endsComponent (path.toList ++ '/' :: (name.toList ++ '\"' :: [])) =
      splitWhere endsComponent path.toList ++ [name.toList] ++ [[]] := by
    have hname : ∀ c ∈ name.toList, endsComponent c = false := fun c hc =>
      Bool.eq_false_iff.2 (List.any_eq_false.1 h c hc)
    rw [splitWhere_append rfl, splitWhere_append rfl, splitWhere_eq_self hname, ← List.append_assoc]
    rfl
  rw [importName, htext, afterPrefix?_append]
  dsimp only
  rw [hpieces, List.dropLast_concat, List.getLast?_concat, Option.getD_some, String.ofList_toList]

/-- An alias is the name. -/
theorem importName_alias {name : String} (path : String)
    (h : ∀ c ∈ name.toList, c ≠ ' ' ∧ c ≠ '\"') : importName (name ++ " " ++ path) = name := by
  have htext : (name ++ " " ++ path).toList = name.toList ++ ' ' :: path.toList := by
    simp
  have hquote : afterPrefix? ['\"'] (name.toList ++ ' ' :: path.toList) = none := by
    rw [Option.eq_none_iff_forall_ne_some]
    intro rest hrest
    rw [afterPrefix?_eq_some_iff] at hrest
    cases hname : name.toList with
    | nil =>
      rw [hname] at hrest
      exact absurd (List.cons.inj hrest).1 (by decide)
    | cons c cs =>
      rw [hname] at h hrest
      exact absurd (List.cons.inj hrest).1 (h c List.mem_cons_self).2
  have halias : ∀ c ∈ name.toList, decide (c ≠ ' ') = true :=
    fun c hc => decide_eq_true (h c hc).1
  rw [importName, htext, hquote]
  dsimp only
  rw [List.takeWhile_append_of_pos halias, List.takeWhile_cons_of_neg (by decide), List.append_nil,
    String.ofList_toList]

/-! ## Clients -/

namespace Client

/-- The names under which the file of a client imports packages. -/
def importNames (c : Client) : List String :=
  c.importLines.tail.dropLast.map fun l => importName l.text

variable {c : Client}

theorem mem_transportAlias (h : IsNamespace c.token) :
    ∀ d ∈ c.transportAlias.toList, isNamespaceChar d = true ∧ d ≠ '-' := by
  intro d hd
  rw [transportAlias, String.toList_ofList] at hd
  have hne := List.mem_takeWhile_imp hd
  exact ⟨h.chars d ((List.takeWhile_sublist _).subset hd), by simpa using hne⟩

/-- The alias starts like the namespace. -/
theorem startsWithLetter_transportAlias :
    StartsWithLetter c.transportAlias ↔ StartsWithLetter c.token := by
  rw [StartsWithLetter, StartsWithLetter, transportAlias, String.toList_ofList]
  cases c.token.toList with
  | nil => rfl
  | cons d ds =>
    by_cases hd : d = '-'
    · subst hd
      rw [List.takeWhile_cons_of_neg (by decide)]
      simp
    · rw [List.takeWhile_cons_of_pos (by simpa using hd)]
      rfl

/-- The name of the function that makes a client is a word: capitals take the place of hyphens. -/
theorem isIdentifier_maker (h : IsNamespace c.token) : IsIdentifier c.maker := by
  have hname : c.maker.toList = 'N' :: 'e' :: 'w' :: (camelCase c.token.toList ++ "Client".toList) := by
    rw [maker, onChars, String.toList_append, String.toList_append,
      String.toList_ofList (l := camelCase c.token.toList)]
    rfl
  have hupper : ∀ n < 0x80, (Char.ofNat n).isAlphanum = true →
      (Char.ofNat n).toUpper.isAlphanum = true := by
    decide +kernel
  have hcamel : ∀ d ∈ camelCase c.token.toList, d.isAlphanum = true := by
    intro d hd
    obtain ⟨piece, hpiece, hd⟩ := List.mem_flatMap.1 hd
    have hchar : ∀ e ∈ piece, e.isAlphanum = true := by
      intro e he
      have hsep := of_decide_eq_false (not_mem_of_mem_splitWhere hpiece e he)
      have hmem := subset_of_mem_splitWhere hpiece he
      exact isAlphanum_of_isNamespaceChar (h.chars e hmem) fun heq => hsep (.inl heq)
    cases piece with
    | nil => exact absurd hd List.not_mem_nil
    | cons e es =>
      have he := hchar e List.mem_cons_self
      rw [capitalize, upperChar_of_ascii (toNat_lt_of_isAlphanum he)] at hd
      rcases List.mem_cons.1 hd with rfl | hd
      · exact of_ascii (P := fun e => e.isAlphanum = true → e.toUpper.isAlphanum = true) hupper
          (toNat_lt_of_isAlphanum he) he
      · exact hchar d (List.mem_cons_of_mem _ hd)
  have hall : ∀ d ∈ c.maker.toList, d.isAlphanum = true := by
    rw [hname, List.forall_mem_cons, List.forall_mem_cons, List.forall_mem_cons,
      List.forall_mem_append]
    exact ⟨rfl, rfl, rfl, hcamel, List.all_eq_true.1 (by decide)⟩
  constructor
  · rw [isWord_iff_of_ascii fun d hd => toNat_lt_of_isAlphanum (hall d hd)]
    rw [hname] at hall
    exact ⟨_, _, hname, .inr rfl, fun d hd => .inl (hall d (List.mem_cons_of_mem _ hd))⟩
  · intro hmem
    have hcapital : ∀ word ∈ keywords, word.toList.head? ≠ some 'N' := by decide
    exact hcapital _ hmem (by rw [hname, List.head?_cons])

/-- What can be said of the names in the file of a client. -/
structure PackageNames (c : Client) : Prop where
  /-- The package clause has the namespace as it is. -/
  clause : packageClause c.text = some c.token
  /-- Code can use this name if it starts with a letter, has no hyphen and is no keyword. -/
  package : IsIdentifier c.token ↔
    StartsWithLetter c.token ∧ '-' ∉ c.token.toList ∧ c.token ∉ keywords
  /-- Three packages are imported. -/
  imports : c.importNames = ["api", c.transportAlias, "client"]
  /-- Code can use the alias if the namespace starts with a letter, and the alias is no keyword. -/
  transport : IsIdentifier c.transportAlias ↔
    StartsWithLetter c.token ∧ c.transportAlias ∉ keywords
  /-- The names differ if the alias is not that of another package. -/
  distinct : c.importNames.Nodup ↔ c.transportAlias ≠ "api" ∧ c.transportAlias ≠ "client"
  /-- The function has a name that code can use. -/
  maker : IsIdentifier c.maker

/-- The names in the file of a client, whatever its namespace is called. -/
theorem packageNames (h : IsNamespace c.token) : c.PackageNames := by
  have halias := mem_transportAlias h
  have himports : c.importNames = ["api", c.transportAlias, "client"] := by
    have hapi : importName (inQuotes (c.packagePath ++ "/api")) = "api" := by
      have hpath : c.packagePath ++ "/api" = c.packagePath ++ "/" ++ "api" := by
        rw [String.append_assoc]
        rfl
      rw [hpath, importName_inQuotes _ (by decide)]
    have hclient : importName (inQuotes (c.providerModule ++ "/nutanix/client")) = "client" := by
      have hpath : c.providerModule ++ "/nutanix/client" =
          c.providerModule ++ "/nutanix" ++ "/" ++ "client" := by
        rw [String.append_assoc, String.append_assoc]
        rfl
      rw [hpath, importName_inQuotes _ (by decide)]
    have htransport := importName_alias (inQuotes (c.packagePath ++ "/client")) fun d hd =>
      ⟨ne_of_isNamespaceChar (halias d hd).1 (by decide),
        ne_of_isNamespaceChar (halias d hd).1 (by decide)⟩
    show [importName (inQuotes (c.packagePath ++ "/api")),
      importName (c.transportAlias ++ " " ++ inQuotes (c.packagePath ++ "/client")),
      importName (inQuotes (c.providerModule ++ "/nutanix/client"))] = _
    rw [hapi, hclient, htransport]
  have hhyphen : '-' ∉ c.transportAlias.toList := fun hmem => (halias _ hmem).2 rfl
  constructor
  case clause =>
    exact packageClause_render (fun hmem => ne_of_isNamespaceChar (h.chars _ hmem) (by decide) rfl) _
  case package =>
    rw [isIdentifier_iff, isWord_iff_of_namespaceChars h.chars, and_assoc]
  case imports => exact himports
  case transport =>
    rw [isIdentifier_iff, isWord_iff_of_namespaceChars fun d hd => (halias d hd).1,
      startsWithLetter_transportAlias]
    simp [hhyphen]
  case distinct =>
    rw [himports]
    simp [eq_comm]
  case maker => exact isIdentifier_maker h

theorem packageNames_ofModel {s : Settings} {m : Model} (h : ofModel s m = .ok c) :
    c.PackageNames := by
  unfold ofModel at h
  obtain ⟨token, htoken, hclient⟩ := exists_of_bind_eq_ok h
  cases hclient
  exact packageNames (isNamespace_of_namespaceToken htoken)

end Client

/-! ## Data sources -/

namespace DataSource

/-- What can be said of the name of the package that a data source is put into, if none is given. -/
structure PackageName (d : DataSource) (token : String) : Prop where
  /-- The package clause has the namespace as it is, with its version. -/
  clause : packageClause d.text = some (token ++ "v2")
  /-- Code can use this name if it starts with a letter and has no hyphen. -/
  package : IsIdentifier (token ++ "v2") ↔ StartsWithLetter token ∧ '-' ∉ token.toList

theorem packageName {d : DataSource} {token : String} (h : IsNamespace token)
    (hd : d.names.package = token ++ "v2") : d.PackageName token := by
  have hchars : ∀ c ∈ (token ++ "v2").toList, isNamespaceChar c = true := by
    rw [String.toList_append, List.forall_mem_append]
    exact ⟨h.chars, List.all_eq_true.1 (by decide)⟩
  have hstart : StartsWithLetter (token ++ "v2") ↔ StartsWithLetter token := by
    rw [StartsWithLetter, StartsWithLetter, String.toList_append,
      List.head?_append_of_ne_nil _ h.nonempty]
  have hfree : token ++ "v2" ∉ keywords := by
    intro hmem
    have hlast : ∀ word ∈ keywords, word.toList.getLast? ≠ some '2' := by decide
    refine hlast _ hmem ?_
    rw [String.toList_append, List.getLast?_append]
    rfl
  constructor
  case clause =>
    rw [← hd]
    refine packageClause_render (fun hmem => ?_) _
    rw [hd] at hmem
    exact ne_of_isNamespaceChar (hchars _ hmem) (by decide) rfl
  case package =>
    rw [isIdentifier_iff, isWord_iff_of_namespaceChars hchars, hstart, String.toList_append]
    simp [hfree]

theorem packageName_ofModel {s : Settings} {m : Model} {method : String} {package : Option String}
    {d : DataSource} (hpackage : package.filter (! ·.isEmpty) = none)
    (h : ofModel s m method package = .ok d) :
    ∃ token, namespaceToken m.packagePath = .ok token ∧ d.PackageName token := by
  unfold ofModel at h
  split at h
  · split at h
    · rw [hpackage] at h
      obtain ⟨name, hname, hsource⟩ := exists_of_bind_eq_ok h
      unfold defaultPackage at hname
      obtain ⟨token, htoken, hname⟩ := exists_of_bind_eq_ok hname
      cases hname
      cases hsource
      exact ⟨token, htoken, packageName (isNamespace_of_namespaceToken htoken) rfl⟩
    · exact nomatch h
  · exact nomatch h

end DataSource

/-- **How generated packages are named.**  Whatever client is made from a model, its imports are named
`api`, like the first part of the namespace, and `client`, and the function that makes it has a name
that code can use.  The package clauses of clients and of data sources have the namespace as it is: code
can use its name exactly if it starts with a letter and has no hyphen and, without `v2` behind it, is
no keyword.  The alias needs the same of the first part of the namespace, and the three imports differ
exactly if it is neither `api` nor `client`. -/
theorem packageNames_exact (s : Settings) (m : Model) :
    (∀ c, Client.ofModel s m = .ok c → c.PackageNames) ∧
    ∀ method package d, package.filter (! ·.isEmpty) = none →
      DataSource.ofModel s m method package = .ok d →
      ∃ token, namespaceToken m.packagePath = .ok token ∧ d.PackageName token :=
  ⟨fun _ => Client.packageNames_ofModel, fun _ _ _ => DataSource.packageName_ofModel⟩

/-! ## Some namespaces -/

/-- Operations on widgets in a namespace. -/
def namespaceModel (token : String) : Model :=
  { DataSource.mixedModel with
    package := "acme/" ++ token ++ "-go-client/v4@v4.0.1"
    packagePath := "acme/" ++ token ++ "-go-client/v4" }

/-- The client for them. -/
def namespaceClient (token : String) : Client :=
  { DataSource.mixedClient with
    token := token
    packagePath := (namespaceModel token).packagePath }

/-- The data source for one of them. -/
def namespaceSource (token : String) : DataSource :=
  { DataSource.mixedSource "GetWidget" "Widget" "WidgetAPIInstance" with
    names := .ofOperation "nutanix" (token ++ "v2") "GetWidget" }

theorem ofModel_namespaceModel (token : String)
    (h : namespaceToken (namespaceModel token).packagePath = .ok token) :
    Client.ofModel {} (namespaceModel token) = .ok (namespaceClient token) ∧
      DataSource.ofModel {} (namespaceModel token) "GetWidget" none =
        .ok (namespaceSource token) := by
  have hfields : clientFields (namespaceModel token).owners = DataSource.mixedClient.fields := by
    show clientFields DataSource.mixedModel.owners = _
    decide +kernel
  have hfield : DataSource.apiFieldFor (namespaceModel token) "WidgetsApi" =
      "WidgetAPIInstance" := by
    rw [DataSource.apiFieldFor, hfields]
    decide
  constructor
  · rw [Client.ofModel, h, hfields]
    rfl
  · have hpackage : DataSource.defaultPackage (namespaceModel token) = .ok (token ++ "v2") := by
      rw [DataSource.defaultPackage, h]
      rfl
    have hoperation : (namespaceModel token).operation? "GetWidget" =
        some (DataSource.namedOperation "GetWidget" "WidgetsApi" "Widget") := rfl
    rw [namespaceSource, ← hfield]
    unfold DataSource.ofModel
    rw [hoperation, hpackage]
    rfl

/-- A namespace of letters gives names that code can use. -/
theorem packageNames_exact_widgets :
    Client.ofModel {} (namespaceModel "widgets") = .ok (namespaceClient "widgets") ∧
      IsIdentifier (namespaceClient "widgets").token ∧
      IsIdentifier (namespaceClient "widgets").transportAlias ∧
      IsIdentifier (namespaceClient "widgets").maker ∧
      (namespaceClient "widgets").importNames.Nodup ∧
    DataSource.ofModel {} (namespaceModel "widgets") "GetWidget" none =
        .ok (namespaceSource "widgets") ∧
      packageClause (namespaceSource "widgets").text = some "widgetsv2" ∧
      IsIdentifier "widgetsv2" := by
  obtain ⟨hclient, hsource⟩ := ofModel_namespaceModel "widgets" rfl
  obtain ⟨hnames, hname⟩ := packageNames_exact {} (namespaceModel "widgets")
  have names := hnames _ hclient
  obtain ⟨token, htoken, name⟩ := hname _ _ _ rfl hsource
  obtain rfl : "widgets" = token := Except.ok.inj htoken
  exact ⟨hclient, names.package.2 (by decide), names.transport.2 (by decide), names.maker,
    names.distinct.2 (by decide), hsource, name.clause, name.package.2 (by decide)⟩

/-- Neither a hyphen nor a digit in front makes a name of a package, nor does a keyword; and a namespace
may be named like the package of its operations. -/
theorem packageNames_rejected :
    (Client.ofModel {} (namespaceModel "data-protection") = .ok (namespaceClient "data-protection") ∧
      packageClause (namespaceClient "data-protection").text = some "data-protection" ∧
      ¬ IsIdentifier "data-protection") ∧
    (DataSource.ofModel {} (namespaceModel "data-protection") "GetWidget" none =
        .ok (namespaceSource "data-protection") ∧
      packageClause (namespaceSource "data-protection").text = some "data-protectionv2" ∧
      ¬ IsIdentifier "data-protectionv2") ∧
    (Client.ofModel {} (namespaceModel "3par") = .ok (namespaceClient "3par") ∧
      ¬ IsIdentifier (namespaceClient "3par").transportAlias) ∧
    (Client.ofModel {} (namespaceModel "type") = .ok (namespaceClient "type") ∧
      ¬ IsIdentifier (namespaceClient "type").token) ∧
    (Client.ofModel {} (namespaceModel "api") = .ok (namespaceClient "api") ∧
      ¬ (namespaceClient "api").importNames.Nodup) := by
  have hprotection := ofModel_namespaceModel "data-protection" rfl
  have protection := Client.packageNames_ofModel hprotection.1
  obtain ⟨token, htoken, source⟩ := DataSource.packageName_ofModel rfl hprotection.2
  obtain rfl : "data-protection" = token := Except.ok.inj htoken
  have hpar := (ofModel_namespaceModel "3par" rfl).1
  have htype := (ofModel_namespaceModel "type" rfl).1
  have hapi := (ofModel_namespaceModel "api" rfl).1
  refine ⟨⟨hprotection.1, protection.clause, fun h => ?_⟩, ⟨hprotection.2, source.clause, fun h => ?_⟩,
    ⟨hpar, fun h => ?_⟩, ⟨htype, fun h => ?_⟩, ⟨hapi, fun h => ?_⟩⟩
  · exact absurd (protection.package.1 h) (by decide)
  · exact absurd (source.package.1 h) (by decide)
  · exact absurd ((Client.packageNames_ofModel hpar).transport.1 h) (by decide)
  · exact absurd ((Client.packageNames_ofModel htype).package.1 h) (by decide)
  · exact absurd ((Client.packageNames_ofModel hapi).distinct.1 h) (by decide)

end ProviderGlue

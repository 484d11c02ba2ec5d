import ProviderGlue.Proofs.DataSource.Neighbours
import ProviderGlue.Proofs.Text.SnakeCase

/-!
# Names of data sources in snake case

A data source is named in snake case, part by part, and its file once more as a whole.  As the parts are
canonical already, nothing of them changes in the name of the file.

## Key results

- `Names.file_eq`: a file is named like its data source
- `spelling_of_isAscii`: what becomes of a name of ASCII in snake case
-/

namespace ProviderGlue.DataSource

open Text

namespace Names

/-- The name of a data source is canonical if the provider is, and the package and the method have
anything that is kept. -/
theorem isCanonical_resource {provider package method : String} (hprovider : IsCanonical provider.toList)
    (hne : provider.toList ≠ []) (hpackage : IsAscii package.toList) (hmethod : IsAscii method.toList)
    (hpackageNe : snakeCase package.toList ≠ []) (hmethodNe : snakeCase method.toList ≠ []) :
    IsCanonical (ofOperation provider package method).resource.toList := by
  have hstart : IsCanonical (start provider package) :=
    hprovider.append (isCanonical_snakeCase hpackage) hne hpackageNe
  rw [toList_resource]
  exact hstart.append (isCanonical_snakeCase hmethod) (List.append_ne_nil_of_left_ne_nil hne _) hmethodNe

/-- **A file is named like its data source**, if the name of that is canonical. -/
theorem file_eq {provider package method : String}
    (h : IsCanonical (ofOperation provider package method).resource.toList) :
    (ofOperation provider package method).file =
      "data_source_" ++ (ofOperation provider package method).resource ++ ".go" := by
  show "data_source_" ++ onChars snakeCase (ofOperation provider package method).resource ++ ".go" = _
  rw [onChars, h.snakeCase_eq, String.ofList_toList]

end Names

/-- What becomes of a name in snake case. -/
structure Spelling (name : String) : Prop where
  /-- There are no capitals, hyphens, blanks and dots, and underscores only between words, one at a
  time. -/
  canonical : IsCanonical (snakeCase name.toList)
  /-- Everything else of the name is kept, in small letters. -/
  letters : kept (snakeCase name.toList) = (kept name.toList).map Char.toLower
  /-- It stays as it is in snake case again. -/
  fixed : snakeCase (snakeCase name.toList) = snakeCase name.toList
  /-- It is what is left when the name is written from left to right and runs of underscores are
  shortened: that goes on as long as there are any, and there comes a last round. -/
  rounds : ∃ n ≤ (writeName [] none name.toList).length,
    (∀ k < n, hasDouble (shortened name.toList k) = true) ∧
      hasDouble (shortened name.toList n) = false ∧
      snakeCase name.toList = strip (shortened name.toList n)
  /-- The file for a method in the package of the name is named like the data source. -/
  file : snakeCase name.toList ≠ [] → ∀ provider method : String, IsCanonical provider.toList →
    provider ≠ "" → IsAscii method.toList → snakeCase method.toList ≠ [] →
    (Names.ofOperation provider name method).file =
      "data_source_" ++ (Names.ofOperation provider name method).resource ++ ".go"

/-- **Names of ASCII are canonical in snake case**, and stay what they are in the names of files. -/
theorem spelling_of_isAscii {name : String} (h : IsAscii name.toList) : Spelling name := by
  constructor
  case canonical => exact isCanonical_snakeCase h
  case letters => exact kept_snakeCase h
  case fixed => exact (isCanonical_snakeCase h).snakeCase_eq
  case rounds =>
    obtain ⟨n, hn, hbefore, hlast⟩ := exists_rounds (writeName [] none name.toList)
    exact ⟨n, hn, hbefore, hlast, snakeCase_eq_strip hlast⟩
  case file =>
    intro hname provider method hprovider hne hmethod hmethodNe
    have hproviderNe : provider.toList ≠ [] := mt String.toList_eq_nil_iff.1 hne
    exact Names.file_eq (Names.isCanonical_resource hprovider hproviderNe h hmethod hname hmethodNe)

/-- A name with a run of capitals, of dots and of underscores. -/
theorem spelling_of_isAscii_pool :
    IsAscii "IPAddress-Pool..ext__ID_".toList ∧
      onChars snakeCase "IPAddress-Pool..ext__ID_" = "ip_address_pool_ext_id" ∧
      Spelling "IPAddress-Pool..ext__ID_" := by
  have hascii : IsAscii "IPAddress-Pool..ext__ID_".toList := by decide
  exact ⟨hascii, by decide +kernel, spelling_of_isAscii hascii⟩

end ProviderGlue.DataSource

import ProviderGlue.Main
import ProviderGlue.Proofs.Table
import ProviderGlue.Proofs.Schema.Draft
import ProviderGlue.Proofs.Schema.Origin
import ProviderGlue.Proofs.Schema.Coherence
import ProviderGlue.Proofs.Shape.Expansion
import ProviderGlue.Proofs.Narrowing
import ProviderGlue.Proofs.Json.Scan
import ProviderGlue.Proofs.Json.Layout
import ProviderGlue.Proofs.Model
import ProviderGlue.Proofs.Extraction.Document
import ProviderGlue.Proofs.Schema.Keys
import ProviderGlue.Proofs.DataSource
import ProviderGlue.Proofs.Schema.Access
import ProviderGlue.Proofs.Client
import ProviderGlue.Proofs.Schema.Union
import ProviderGlue.Proofs.Extraction.Enums
import ProviderGlue.Proofs.DataSource.Declarations
import ProviderGlue.Proofs.Shape.Visiting
import ProviderGlue.Proofs.Narrowing.Closure
import ProviderGlue.Proofs.Schema.Additive
import ProviderGlue.Proofs.Schema.Reach
import ProviderGlue.Proofs.Schema.Splice
import ProviderGlue.Proofs.Go.Wrapper
import ProviderGlue.Proofs.Go.Spelling
import ProviderGlue.Proofs.Go.Alias
import ProviderGlue.Proofs.Shape.Package
import ProviderGlue.Proofs.Go.Literal
import ProviderGlue.Proofs.Go.Constant
import ProviderGlue.Proofs.Go.Integer
import ProviderGlue.Proofs.Go.Iota
import ProviderGlue.Proofs.Go.Marks
import ProviderGlue.Proofs.Go.Slots
import ProviderGlue.Proofs.Client.Fields
import ProviderGlue.Proofs.Generation
import ProviderGlue.Proofs.Catalog.Walk
import ProviderGlue.Proofs.Catalog.Run
import ProviderGlue.Proofs.ModuleCache.Newest
import ProviderGlue.Proofs.ModuleCache.Escape
import ProviderGlue.Proofs.ModuleCache.Place
import ProviderGlue.Proofs.Go.Code
import ProviderGlue.Proofs.Schema.Layout
import ProviderGlue.Proofs.DataSource.Table
import ProviderGlue.Proofs.Go.Identifier
import ProviderGlue.Proofs.Client.Package
import ProviderGlue.Proofs.Client.Namespace
import ProviderGlue.Proofs.Schema.Stems
import ProviderGlue.Proofs.DataSource.Neighbours
import ProviderGlue.Proofs.DataSource.Spelling

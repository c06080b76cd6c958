import CatalogSearch.Browse.Request
import CatalogSearch.Catalog.Warning
import CatalogSearch.Command.Run
import CatalogSearch.Compiler.Expression
import CatalogSearch.Compiler.Notes
import CatalogSearch.Expression.Json
import CatalogSearch.Facet.Bucket
import CatalogSearch.FileTree
import CatalogSearch.Json.Reader
import CatalogSearch.Main
import CatalogSearch.Proofs.Browse.Anchor
import CatalogSearch.Proofs.Browse.CallNumber
import CatalogSearch.Proofs.Browse.Meaning
import CatalogSearch.Proofs.Catalog.Warning
import CatalogSearch.Proofs.Catalog.WellFormed
import CatalogSearch.Proofs.Compiler.Bounds
import CatalogSearch.Proofs.Compiler.Complement
import CatalogSearch.Proofs.Compiler.Failure
import CatalogSearch.Proofs.Compiler.FanOut
import CatalogSearch.Proofs.Compiler.Grouping
import CatalogSearch.Proofs.Compiler.Meaning
import CatalogSearch.Proofs.Compiler.Normalizer
import CatalogSearch.Proofs.Compiler.Refusal
import CatalogSearch.Proofs.Compiler.Resolution
import CatalogSearch.Proofs.Compiler.Typing
import CatalogSearch.Proofs.Expression.Json
import CatalogSearch.Proofs.Expression.Text
import CatalogSearch.Proofs.Facet.Division
import CatalogSearch.Proofs.Facet.Selection
import CatalogSearch.Proofs.Normalizer.Isbn
import CatalogSearch.Proofs.Normalizer.OclcNumber
import CatalogSearch.Proofs.Normalizer.Registration
import CatalogSearch.Proofs.Normalizer.ShelfClass
import CatalogSearch.Proofs.Normalizer.ShelfOrder
import CatalogSearch.Proofs.Path
import CatalogSearch.Proofs.Settings.Definition
import CatalogSearch.Proofs.Settings.Discovery
import CatalogSearch.Proofs.Settings.Distinct
import CatalogSearch.Proofs.Settings.Precedence
import CatalogSearch.Proofs.Settings.Reordering
import CatalogSearch.Settings.Template
import CatalogSearch.Proofs.Comparator.Dispatch
import CatalogSearch.Proofs.Compiler.Sort
import CatalogSearch.Proofs.Compiler.Alias
import CatalogSearch.Proofs.Text.Literal

import PackageCatalog.Main
import PackageCatalog.Proofs.Sorting
import PackageCatalog.Proofs.Text.Utf8
import PackageCatalog.Proofs.Store.KeyOrder
import PackageCatalog.Proofs.Store.Mirror
import PackageCatalog.Proofs.Store.Statement
import PackageCatalog.Proofs.Query.Satisfaction
import PackageCatalog.Proofs.Query.Triable
import PackageCatalog.Proofs.Store.QuietPlan
import PackageCatalog.Proofs.Store.Answers
import PackageCatalog.Proofs.Query.Filters
import PackageCatalog.Proofs.Store.Faithful
import PackageCatalog.Proofs.Search
import PackageCatalog.Proofs.Paging
import PackageCatalog.Proofs.Catalogue.Removal
import PackageCatalog.Proofs.Catalogue.Transaction
import PackageCatalog.Proofs.Catalogue.Adding
import PackageCatalog.Proofs.Catalogue.Runs
import PackageCatalog.Proofs.Names
import PackageCatalog.Proofs.Catalogue.Keys
import PackageCatalog.Proofs.Catalogue.Indexing
import PackageCatalog.Proofs.Catalogue.Reindexing
import PackageCatalog.Proofs.Command.Actions
import PackageCatalog.Proofs.Console.Markup
import PackageCatalog.Proofs.Command.Removal
import PackageCatalog.Proofs.Catalogue.Failures
import PackageCatalog.Proofs.Command.Stopping
import PackageCatalog.Proofs.Command.Guard
import PackageCatalog.Proofs.Catalogue.Numbers
import PackageCatalog.Proofs.Catalogue.Interleaving
import PackageCatalog.Proofs.Config.Reading
import PackageCatalog.Proofs.Config.Saving
import PackageCatalog.Proofs.Query.Substring
import PackageCatalog.Proofs.Alike
import PackageCatalog.Proofs.Catalogue.Rows
import PackageCatalog.Proofs.Catalogue.Reordering
import PackageCatalog.Proofs.Text.Table
import PackageCatalog.Proofs.Text.Normal
import PackageCatalog.Proofs.Text.Charset
import PackageCatalog.Proofs.Text.Encoding
import PackageCatalog.Proofs.Query.Contents
import PackageCatalog.Proofs.Catalogue.Contents
import PackageCatalog.Proofs.Text.Weight
import PackageCatalog.Proofs.Catalogue.Spellings
import PackageCatalog.Proofs.Catalogue.Cleaning
import PackageCatalog.Proofs.Catalogue.Fragments
import PackageCatalog.Proofs.Query.Rendering
import PackageCatalog.Proofs.Crawl.Scanning
import PackageCatalog.Proofs.Separators
import PackageCatalog.Proofs.Text.CodeOrder
import PackageCatalog.Proofs.Catalogue.Listing
import PackageCatalog.Proofs.Catalogue.Limits
import PackageCatalog.Proofs.Catalogue.Atomicity
import PackageCatalog.Proofs.Catalogue.Excerpts
import PackageCatalog.Proofs.Command.Headings
import PackageCatalog.Proofs.Command.Numbering
import PackageCatalog.Proofs.Catalogue.Counting
import PackageCatalog.Proofs.Crawl.Language
import PackageCatalog.Proofs.Command.Registering
import PackageCatalog.Proofs.Suffix
import PackageCatalog.Proofs.Query.References

/-
**Sift: query sets over a store of items.**

Predicates on the fields of items are checked against a catalog, compiled to restrictions in the
store's own terms, written as XML, and tested against items. Query sets describe searches, run them
page by page over any store, and give rows.
-/

import Sift.QuerySet.Execution
import Sift.Restriction.Markup
import Sift.Store.Memory
import Sift.Store.Scripted
import Sift.Catalog.Standard
import Sift.Json.Writer
import Sift.Proofs.Predicate.Meaning
import Sift.Proofs.Predicate.Truth
import Sift.Proofs.Resolution
import Sift.Proofs.Restriction.Meaning
import Sift.Proofs.Predicate.Identity
import Sift.Proofs.Slice
import Sift.Proofs.Store.Paging
import Sift.Proofs.Store.Walk
import Sift.Proofs.Store.Shaping
import Sift.Proofs.QuerySet.Bounded
import Sift.Proofs.Predicate.Resolved
import Sift.Proofs.Predicate.Complement
import Sift.Proofs.Predicate.DoubleNegation
import Sift.Proofs.QuerySet.Validation
import Sift.Proofs.QuerySet.Removal
import Sift.Proofs.QuerySet.InMemory
import Sift.Proofs.QuerySet.MemoryRemoval
import Sift.Proofs.QuerySet.Narrowing
import Sift.Proofs.QuerySet.Projection
import Sift.Proofs.Restriction.Validity
import Sift.Proofs.Text.Scan
import Sift.Proofs.Calendar.Reading
import Sift.Proofs.Decimal.Text
import Sift.Proofs.Literal.RoundTrip
import Sift.Proofs.Decimal.Order
import Sift.Proofs.Value.Order
import Sift.Proofs.QuerySet.Sorting
import Sift.Proofs.Xml.Reading
import Sift.Proofs.Restriction.Document
import Sift.Proofs.QuerySet.Idempotence
import Sift.Proofs.Slice.Progression
import Sift.Proofs.Slice.Counting
import Sift.Proofs.Slice.Limits
import Sift.Proofs.QuerySet.Answers
import Sift.Proofs.QuerySet.Cache
import Sift.Proofs.QuerySet.Absorption
import Sift.Proofs.Store.Requests
import Sift.Proofs.QuerySet.Searches
import Sift.Proofs.QuerySet.PageSizes
import Sift.Proofs.QuerySet.Exclusion
import Sift.Proofs.Predicate.SiblingOrder
import Sift.Proofs.QuerySet.Ordering
import Sift.Proofs.QuerySet.Coverage
import Sift.Proofs.Expression.Reading
import Sift.Proofs.Expression.Unambiguous
import Sift.Proofs.Text.Lowercase
import Sift.Proofs.Restriction.Casing
import Sift.Proofs.Restriction.Paths
import Sift.Proofs.Decimal.Grammar
import Sift.Proofs.Json.Reading
import Sift.Proofs.Calendar.LooseReading
import Sift.Proofs.Value.Document
import Sift.Proofs.Item.Document
import Sift.Proofs.Text.Separator
import Sift.Proofs.Path
import Sift.Proofs.Predicate.Key
import Sift.Proofs.Decimal.Number
import Sift.Proofs.Toml.Reading
import Sift.Proofs.Settings

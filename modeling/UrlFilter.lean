import UrlFilter.Backend
import UrlFilter.Check
import UrlFilter.Field.Settings
import UrlFilter.Memory.Query
import UrlFilter.Page
import UrlFilter.Proofs.AllowedOperator
import UrlFilter.Proofs.Backend.Agreement
import UrlFilter.Proofs.Backend.Allowed
import UrlFilter.Proofs.Backend.Calls
import UrlFilter.Proofs.Backend.RawAgreement
import UrlFilter.Proofs.Backend.RepeatedKeys
import UrlFilter.Proofs.Backend.Support
import UrlFilter.Proofs.ClearedFilters
import UrlFilter.Proofs.ConditionShape
import UrlFilter.Proofs.CustomKey
import UrlFilter.Proofs.EmptyValue
import UrlFilter.Proofs.LeftOver
import UrlFilter.Proofs.Memory.Conjunction
import UrlFilter.Proofs.Memory.Walk
import UrlFilter.Proofs.Merging
import UrlFilter.Proofs.Page
import UrlFilter.Proofs.Page.Bounds
import UrlFilter.Proofs.QueryReading
import UrlFilter.Proofs.QueryString.Gathered
import UrlFilter.Proofs.Stability
import UrlFilter.Proofs.TypedRoundTrip
import UrlFilter.Relational.Evaluate
import UrlFilter.Proofs.Text.Pattern
import UrlFilter.Proofs.Text.Regex
import UrlFilter.Proofs.Memory.Like
import UrlFilter.Proofs.Wire.PaddedItems
import UrlFilter.Proofs.Wire.Names
import UrlFilter.Proofs.BoundForms
import UrlFilter.Proofs.Memory.Order
import UrlFilter.Proofs.Memory.DateRange
import UrlFilter.Proofs.Memory.TextSearch
import UrlFilter.Proofs.Recast
import UrlFilter.Proofs.Page.TotalPages

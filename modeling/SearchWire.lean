import SearchWire.Json.Reader
import SearchWire.Proofs.Hybrid.Reading
import SearchWire.Proofs.Hybrid.Stages
import SearchWire.Proofs.Index.Agreement
import SearchWire.Proofs.Index.Creation
import SearchWire.Proofs.Index.Limits
import SearchWire.Proofs.Index.Validation
import SearchWire.Proofs.Language.Expressions
import SearchWire.Proofs.Language.Refinement
import SearchWire.Proofs.Number.Vector
import SearchWire.Proofs.Parameters
import SearchWire.Proofs.Predicate.Escaping
import SearchWire.Proofs.Predicate.Reading
import SearchWire.Proofs.Query.Balance
import SearchWire.Proofs.Query.Grammar
import SearchWire.Proofs.Query.Overriding
import SearchWire.Proofs.Query.Parts
import SearchWire.Proofs.Query.Replay
import SearchWire.Proofs.Reply.Columns
import SearchWire.Proofs.Reply.Encodings
import SearchWire.Proofs.Reply.Pages
import SearchWire.Proofs.Reply.Shapes
import SearchWire.Proofs.Reply.Spelling
import SearchWire.Proofs.Schema.Alignment
import SearchWire.Proofs.Schema.Building
import SearchWire.Proofs.Schema.Layout
import SearchWire.Proofs.Schema.Reading
import SearchWire.Proofs.Schema.Sameness
import SearchWire.Proofs.Schema.Spelling
import SearchWire.Proofs.Session.Alteration
import SearchWire.Proofs.Session.Paging
import SearchWire.Proofs.Session.Records
import SearchWire.Proofs.Session.Search

import PreparedFilter.Binary64.Layout
import PreparedFilter.Text.Hex
import PreparedFilter.Text.Quoted
import PreparedFilter.Text.Calendar
import PreparedFilter.Fault
import PreparedFilter.Bson
import PreparedFilter.Bson.Diagnostic
import PreparedFilter.Json.Text
import PreparedFilter.Predicate
import PreparedFilter.Plan.Preparation
import PreparedFilter.Plan.Query
import PreparedFilter.Datum.Encoding
import PreparedFilter.Filter.Captures
import PreparedFilter.Planner.Crew
import PreparedFilter.Collection
import PreparedFilter.Gallery.Codecs
import PreparedFilter.Gallery.Filters
import PreparedFilter.Proofs.Preparation.Meaning
import PreparedFilter.Proofs.Preparation.NormalForm
import PreparedFilter.Proofs.Query.Steps
import PreparedFilter.Proofs.Query.Reading
import PreparedFilter.Proofs.Query.Shape
import PreparedFilter.Proofs.Planner.History
import PreparedFilter.Proofs.Planner.Transparency
import PreparedFilter.Proofs.Planner.Bookkeeping
import PreparedFilter.Proofs.Planner.Crew
import PreparedFilter.Proofs.Planner.Interleaving
import PreparedFilter.Proofs.Planner.Limit
import PreparedFilter.Proofs.Preparation.FirstFlaw
import PreparedFilter.Proofs.Encoding.Extended
import PreparedFilter.Proofs.Encoding.Widening
import PreparedFilter.Proofs.Encoding.Conversion
import PreparedFilter.Proofs.Encoding.Aborting
import PreparedFilter.Proofs.Encoding.Agreement
import PreparedFilter.Proofs.Encoding.RoundTrip
import PreparedFilter.Proofs.Encoding.Records
import PreparedFilter.Proofs.Planner.Reached
import PreparedFilter.Proofs.Planner.Attribution
import PreparedFilter.Proofs.Preparation.Leaves
import PreparedFilter.Proofs.Query.Values
import PreparedFilter.Proofs.Planner.Captures
import PreparedFilter.Proofs.Preparation.Typing
import PreparedFilter.Proofs.Preparation.Correspondence
import PreparedFilter.Proofs.Preparation.Respelling
import PreparedFilter.Proofs.Query.BadLeaves
import PreparedFilter.Proofs.Query.Relocation
import PreparedFilter.Proofs.Preparation.Extension
import PreparedFilter.Proofs.Chains

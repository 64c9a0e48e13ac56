import PromptTemplate.Main
import PromptTemplate.Proofs.Enumeration.Plain
import PromptTemplate.Proofs.FirstOccurrences
import PromptTemplate.Proofs.Matching
import PromptTemplate.Proofs.Results
import PromptTemplate.Proofs.Selection
import PromptTemplate.Proofs.Enumeration.Picks
import PromptTemplate.Proofs.Arrangements
import PromptTemplate.Proofs.Binary64.Rounding
import PromptTemplate.Proofs.Enumeration.Agreement
import PromptTemplate.Proofs.Random.Weights
import PromptTemplate.Proofs.Enumeration.Caps
import PromptTemplate.Proofs.Enumeration.Membership
import PromptTemplate.Proofs.Sampling.Observed
import PromptTemplate.Proofs.Sampling.Follows
import PromptTemplate.Proofs.Sampling.Combinations
import PromptTemplate.Proofs.Template.Comments
import PromptTemplate.Proofs.Template.Groups
import PromptTemplate.Proofs.Template.Canonical
import PromptTemplate.Proofs.Template.Signs
import PromptTemplate.Proofs.Template.Scanning
import PromptTemplate.Proofs.Template.Literals
import PromptTemplate.Proofs.Template.Image
import PromptTemplate.Proofs.Template.RoundTrip
import PromptTemplate.Proofs.Template.Assembly
import PromptTemplate.Proofs.Template.Framing
import PromptTemplate.Proofs.Template.Faults
import PromptTemplate.Proofs.Template.Spacing
import PromptTemplate.Proofs.Template.Options
import PromptTemplate.Proofs.Enumeration.Bounds
import PromptTemplate.Proofs.References
import PromptTemplate.Proofs.Enumeration.Failures
import PromptTemplate.Proofs.Sampling.Ends
import PromptTemplate.Proofs.Sampling.Failures
import PromptTemplate.Proofs.Template.Variants
import PromptTemplate.Proofs.Sampling.Requests
import PromptTemplate.Proofs.Limit
import PromptTemplate.Proofs.Depth
import PromptTemplate.Proofs.Template.Headers
import PromptTemplate.Proofs.Json.Scalars
import PromptTemplate.Proofs.Json.ReadBack
import PromptTemplate.Proofs.Wildcards.Writes
import PromptTemplate.Proofs.Wildcards.Saving
import PromptTemplate.Proofs.Generator.Counts
import PromptTemplate.Proofs.Generator.Calls
import PromptTemplate.Proofs.Selection.Walk
import PromptTemplate.Proofs.Sampling.Collecting
import PromptTemplate.Proofs.Sampling.Picks
import PromptTemplate.Proofs.Template.Words
import PromptTemplate.Proofs.Choiceless
import PromptTemplate.Proofs.Text.Bytes
import PromptTemplate.Proofs.Json.Types
import PromptTemplate.Proofs.Json.Tokens
import PromptTemplate.Proofs.Json.Numerals
import PromptTemplate.Proofs.Binary64.Decimal
import PromptTemplate.Proofs.Wildcards.Lookup
import PromptTemplate.Proofs.Generator.Fields
import PromptTemplate.Proofs.Template.Printing
import PromptTemplate.Proofs.Template.Removal
import PromptTemplate.Proofs.Selection.Assignment
import PromptTemplate.Proofs.Template.Bounds
import PromptTemplate.Proofs.Template.Tidying

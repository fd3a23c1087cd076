import TokenIssuance.Issuance.Collaborators
import TokenIssuance.Json.Writer
import TokenIssuance.Resolution.Resolver
import TokenIssuance.Proofs.Expansion
import TokenIssuance.Proofs.Meaning
import TokenIssuance.Proofs.Growth
import TokenIssuance.Proofs.Call
import TokenIssuance.Proofs.Trace
import TokenIssuance.Proofs.Outcome
import TokenIssuance.Proofs.Run
import TokenIssuance.Proofs.Uses
import TokenIssuance.Proofs.Asking
import TokenIssuance.Proofs.Laziness
import TokenIssuance.Proofs.Recursion
import TokenIssuance.Proofs.Cell
import TokenIssuance.Proofs.Overrides
import TokenIssuance.Proofs.Spelling
import TokenIssuance.Proofs.Secrecy
import TokenIssuance.Proofs.Service
import TokenIssuance.Proofs.Lookup
import TokenIssuance.Proofs.Placeholder
import TokenIssuance.Proofs.Product
import TokenIssuance.Proofs.Verbatim
import TokenIssuance.Proofs.Depth
import TokenIssuance.Proofs.LowerCase
import TokenIssuance.Proofs.ByteOrder
import TokenIssuance.Proofs.OrderedSet
import TokenIssuance.Proofs.Diagnostics
import TokenIssuance.Proofs.Members
import TokenIssuance.Proofs.Grants
import TokenIssuance.Proofs.RoundTrip
import TokenIssuance.Proofs.Written
import TokenIssuance.Proofs.Concatenation

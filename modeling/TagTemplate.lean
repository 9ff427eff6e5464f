import TagTemplate.Main
import TagTemplate.Document.Written
import TagTemplate.Proofs.Step
import TagTemplate.Proofs.Lockstep
import TagTemplate.Proofs.Table
import TagTemplate.Proofs.Registry
import TagTemplate.Proofs.Compile.Steps
import TagTemplate.Proofs.Compile.Run
import TagTemplate.Proofs.Compile.Failures
import TagTemplate.Proofs.Compile.Fragment
import TagTemplate.Proofs.Compile.Merged
import TagTemplate.Proofs.Policy.Trust
import TagTemplate.Proofs.Policy.Place
import TagTemplate.Proofs.Policy.Narrower
import TagTemplate.Proofs.Policy.Grant
import TagTemplate.Proofs.Policy.Soundness
import TagTemplate.Proofs.Policy.Filter
import TagTemplate.Proofs.Gains
import TagTemplate.Proofs.Compile.Merger
import TagTemplate.Proofs.Compile.Depth
import TagTemplate.Proofs.Compile.Dependency
import TagTemplate.Proofs.Compile.Derivation
import TagTemplate.Proofs.Compile.Reuse
import TagTemplate.Proofs.Compile.Plugin
import TagTemplate.Proofs.Document.RoundTrip
import TagTemplate.Proofs.Block.Loop
import TagTemplate.Proofs.Block.Template
import TagTemplate.Proofs.Block.Braces
import TagTemplate.Proofs.Compile.Body
import TagTemplate.Proofs.Compile.Invariant
import TagTemplate.Proofs.Text.Literal
import TagTemplate.Proofs.Compile.Enforcement
import TagTemplate.Proofs.Compile.Naming
import TagTemplate.Proofs.Compile.Sharing
import TagTemplate.Proofs.Range.Count
import TagTemplate.Proofs.Text.Quoting
import TagTemplate.Proofs.Text.Escapes
import TagTemplate.Proofs.Host.Integer
import TagTemplate.Proofs.Range.Folding
import TagTemplate.Proofs.Attributes.Resolution
import TagTemplate.Proofs.Attributes.Order
import TagTemplate.Proofs.Attributes.Optional
import TagTemplate.Proofs.Compile.Abandoned
import TagTemplate.Proofs.Compile.Drafts
import TagTemplate.Proofs.Compile.Origin
import TagTemplate.Proofs.Compile.Chain
import TagTemplate.Proofs.Compile.Eligibility
import TagTemplate.Proofs.Text.Comment
import TagTemplate.Proofs.Host.Comment
import TagTemplate.Proofs.Compile.Comments
import TagTemplate.Proofs.Json.Number
import TagTemplate.Proofs.Json.RoundTrip
import TagTemplate.Proofs.Json.Sorted
import TagTemplate.Proofs.Json.Texts
import TagTemplate.Proofs.Compile.Properties
import TagTemplate.Proofs.Json.Record
import TagTemplate.Proofs.Policy.Document
import TagTemplate.Proofs.Compile.Spelling
import TagTemplate.Proofs.Files.Path
import TagTemplate.Proofs.Command
import TagTemplate.Proofs.Compile.Session

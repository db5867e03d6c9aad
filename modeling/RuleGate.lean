import RuleGate.Cli
import RuleGate.Config.Loader
import RuleGate.Config.Reader
import RuleGate.Config.Settings
import RuleGate.Config.Validation
import RuleGate.Evaluation
import RuleGate.FileTree
import RuleGate.Forward
import RuleGate.Gateway
import RuleGate.Http.Header
import RuleGate.Http.Message
import RuleGate.Http.Status
import RuleGate.Http.Target
import RuleGate.Http.Wire
import RuleGate.Ip
import RuleGate.LogFilter
import RuleGate.Main
import RuleGate.Pattern
import RuleGate.Pattern.Class
import RuleGate.Pattern.Escape
import RuleGate.Pattern.Expr
import RuleGate.Pattern.Parser
import RuleGate.Pattern.Program
import RuleGate.Pattern.Search
import RuleGate.Pattern.Template
import RuleGate.Proofs.Config.Origin
import RuleGate.Proofs.Config.RulesFile
import RuleGate.Proofs.Evaluation.Composition
import RuleGate.Proofs.Evaluation.ContentType
import RuleGate.Proofs.Evaluation.Decision
import RuleGate.Proofs.Evaluation.HostFilter
import RuleGate.Proofs.Evaluation.Interchange
import RuleGate.Proofs.Evaluation.Redirect
import RuleGate.Proofs.Evaluation.Walk
import RuleGate.Proofs.Forward.Attempt
import RuleGate.Proofs.Forward.Fidelity
import RuleGate.Proofs.Forward.FixedAuthority
import RuleGate.Proofs.Forward.Outbound
import RuleGate.Proofs.Forward.Target
import RuleGate.Proofs.Gateway.Contacts
import RuleGate.Proofs.Gateway.ContentType
import RuleGate.Proofs.Gateway.QueryMapping
import RuleGate.Proofs.Gateway.RewrittenTarget
import RuleGate.Proofs.Gateway.TargetForm
import RuleGate.Proofs.Gateway.Transparency
import RuleGate.Proofs.Http.Form
import RuleGate.Proofs.Http.Target
import RuleGate.Proofs.Pattern.Anchored
import RuleGate.Proofs.Pattern.Span
import RuleGate.Proofs.Query.Decoding
import RuleGate.Proofs.Query.Grouping
import RuleGate.Proofs.Query.Mapping
import RuleGate.Proofs.Result
import RuleGate.Proofs.Rule.Acceptance
import RuleGate.Proofs.Rule.Block
import RuleGate.Proofs.Rule.Compilation
import RuleGate.Proofs.Rule.Directive
import RuleGate.Proofs.Rule.Fields
import RuleGate.Proofs.Rule.Filter
import RuleGate.Proofs.Rule.Grammar
import RuleGate.Proofs.Rule.Merging
import RuleGate.Proofs.Rule.Order
import RuleGate.Proofs.Rule.Reading
import RuleGate.Proofs.Rule.Replacement
import RuleGate.Proofs.Rule.Substitution
import RuleGate.Proofs.Rule.Token
import RuleGate.Proofs.Shutdown.Accounting
import RuleGate.Proofs.Shutdown.Channels
import RuleGate.Proofs.Shutdown.Ledger
import RuleGate.Proofs.Text.Blank
import RuleGate.Proofs.Text.Digits
import RuleGate.Proofs.Text.Join
import RuleGate.Proofs.Text.Lines
import RuleGate.Proofs.Text.Pieces
import RuleGate.Proofs.Text.Slice
import RuleGate.Proofs.Text.Strip
import RuleGate.Proofs.Text.Utf8
import RuleGate.Proofs.Unicode.Normalization
import RuleGate.Proofs.Url.Alphabet
import RuleGate.Proofs.Url.Authority
import RuleGate.Proofs.Url.Name
import RuleGate.Proofs.Url.Normal
import RuleGate.Proofs.Via.Chain
import RuleGate.Proofs.Via.Identity
import RuleGate.Proofs.Via.Relay
import RuleGate.Query
import RuleGate.Rule
import RuleGate.Rule.Error
import RuleGate.Rule.Flags
import RuleGate.Rule.Replacement
import RuleGate.Scheme
import RuleGate.Server
import RuleGate.Shutdown
import RuleGate.SocketAddress
import RuleGate.StaticFiles
import RuleGate.StaticFiles.MediaType
import RuleGate.StaticFiles.Range
import RuleGate.Text.Basic
import RuleGate.Text.Percent
import RuleGate.Text.Utf8
import RuleGate.Tls
import RuleGate.Tls.Base64
import RuleGate.Tls.Certificate
import RuleGate.Tls.Curve
import RuleGate.Tls.Der
import RuleGate.Tls.Pem
import RuleGate.Tls.PrivateKey
import RuleGate.Toml.Node
import RuleGate.Toml.Parser
import RuleGate.Toml.Scalar
import RuleGate.Unicode.CaseFold
import RuleGate.Unicode.Category
import RuleGate.Unicode.CombiningClass
import RuleGate.Unicode.Decomposition
import RuleGate.Unicode.Direction
import RuleGate.Unicode.Forms
import RuleGate.Unicode.Joining
import RuleGate.Unicode.Mapping
import RuleGate.Unicode.Normalization
import RuleGate.Unicode.Property
import RuleGate.Unicode.PropertyList
import RuleGate.Unicode.Ranges
import RuleGate.Unicode.Script
import RuleGate.Unicode.Sequences
import RuleGate.Url
import RuleGate.Url.Domain
import RuleGate.Url.Host
import RuleGate.Url.Punycode
import RuleGate.Via

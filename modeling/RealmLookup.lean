import RealmLookup.Admin.Endpoints
import RealmLookup.Admin.Plan
import RealmLookup.Certificate.Der
import RealmLookup.Certificate.Pem
import RealmLookup.Client.Basic
import RealmLookup.Client.Error
import RealmLookup.CommandLine.Arguments
import RealmLookup.CommandLine.Overrides
import RealmLookup.CommandLine.ParamsFile
import RealmLookup.CommandLine.Run
import RealmLookup.Config.Basic
import RealmLookup.Config.Error
import RealmLookup.Decimal.Binary64
import RealmLookup.Decimal.Shortest
import RealmLookup.Domain.Basic
import RealmLookup.Domain.Classes
import RealmLookup.Domain.Label
import RealmLookup.Domain.Mapping
import RealmLookup.Domain.MappingTable
import RealmLookup.Domain.Normalization
import RealmLookup.Domain.NormalizationTable
import RealmLookup.Domain.Punycode
import RealmLookup.Http.Basic
import RealmLookup.Http.Header
import RealmLookup.Json.Printer
import RealmLookup.Json.Token
import RealmLookup.Json.Tree
import RealmLookup.Json.Value
import RealmLookup.Kind
import RealmLookup.Lookup.Basic
import RealmLookup.Lookup.Error
import RealmLookup.Lookup.Strategies
import RealmLookup.Main
import RealmLookup.Parameters
import RealmLookup.Power
import RealmLookup.Proofs.Admin.Address
import RealmLookup.Proofs.Admin.Plan
import RealmLookup.Proofs.Client.BasePath
import RealmLookup.Proofs.Client.Requests
import RealmLookup.Proofs.Client.Secrets
import RealmLookup.Proofs.Client.Urls
import RealmLookup.Proofs.CommandLine.Overriding
import RealmLookup.Proofs.CommandLine.Phases
import RealmLookup.Proofs.Config.Acceptance
import RealmLookup.Proofs.Json.Representable
import RealmLookup.Proofs.Json.Grammar
import RealmLookup.Proofs.Lookup.Absence
import RealmLookup.Proofs.Lookup.Causes
import RealmLookup.Proofs.Lookup.Collections
import RealmLookup.Proofs.Lookup.Composition
import RealmLookup.Proofs.Lookup.Procedure
import RealmLookup.Proofs.Lookup.Searches
import RealmLookup.Proofs.Lookup.Stability
import RealmLookup.Proofs.Lookup.Subflows
import RealmLookup.Proofs.Lookup.Validation
import RealmLookup.Proofs.Session.Action
import RealmLookup.Proofs.Session.Admission
import RealmLookup.Proofs.Session.Advice
import RealmLookup.Proofs.Session.BasePath
import RealmLookup.Proofs.Session.Coherence
import RealmLookup.Proofs.Session.Coupling
import RealmLookup.Proofs.Session.Discipline
import RealmLookup.Proofs.Session.Failures
import RealmLookup.Proofs.Session.History
import RealmLookup.Proofs.Session.Isolation
import RealmLookup.Proofs.Session.Lifetimes
import RealmLookup.Proofs.Session.Secrecy
import RealmLookup.Proofs.Session.Steady
import RealmLookup.Proofs.Session.Step
import RealmLookup.Proofs.Session.Transparency
import RealmLookup.Proofs.Session.Visits
import RealmLookup.Proofs.Text.Trimming
import RealmLookup.Proofs.Text.Utf8
import RealmLookup.Proofs.Url.Form
import RealmLookup.Proofs.Url.Joining
import RealmLookup.Proofs.Url.Names
import RealmLookup.Proofs.Url.Parser
import RealmLookup.Proofs.Url.Path
import RealmLookup.Proofs.Url.Percent
import RealmLookup.Representation.Authentication
import RealmLookup.Representation.Basic
import RealmLookup.Representation.Group
import RealmLookup.Representation.Organization
import RealmLookup.Representation.Record
import RealmLookup.Session
import RealmLookup.Table
import RealmLookup.Text.Base64
import RealmLookup.Text.Blank
import RealmLookup.Text.Printable
import RealmLookup.Text.Quoted
import RealmLookup.Text.Utf8
import RealmLookup.Url.Address
import RealmLookup.Url.Basic
import RealmLookup.Url.Error
import RealmLookup.Url.Form
import RealmLookup.Url.Host
import RealmLookup.Url.Parser
import RealmLookup.Url.Percent
import RealmLookup.Yaml.BlockScalar
import RealmLookup.Yaml.Glyph
import RealmLookup.Yaml.Node
import RealmLookup.Yaml.Parser
import RealmLookup.Yaml.Property
import RealmLookup.Yaml.Scalar
import RealmLookup.Yaml.Scanner
import RealmLookup.Yaml.Schema
import RealmLookup.Yaml.Token
import RealmLookup.Yaml.Value
import RealmLookup.Proofs.Json.Reading
import RealmLookup.Proofs.Json.Shape
import RealmLookup.Proofs.Config.Spelling
import RealmLookup.Proofs.Session.Logins
import RealmLookup.Proofs.Http.Header
import RealmLookup.Proofs.Client.Headers
import RealmLookup.Proofs.Session.Headers
import RealmLookup.Proofs.Representation.Record
import RealmLookup.Proofs.Representation.Shapes
import RealmLookup.Proofs.Representation.Recovery
import RealmLookup.Proofs.Text.ByteOrder
import RealmLookup.Proofs.Json.Rendering
import RealmLookup.Proofs.Parameters
import RealmLookup.Proofs.Yaml.Folding
import RealmLookup.Proofs.Yaml.Scanning
import RealmLookup.Proofs.Json.Texts
import RealmLookup.Proofs.Yaml.Tokens
import RealmLookup.Proofs.CommandLine.JsonFiles

import QueryHooks.Api.Extract
import QueryHooks.Api.Operation
import QueryHooks.Bundle.Inline
import QueryHooks.Bundle.Reachable
import QueryHooks.Calendar
import QueryHooks.CommandLine.Command
import QueryHooks.CommandLine.Invocation
import QueryHooks.CommandLine.Program
import QueryHooks.CommandLine.Words
import QueryHooks.Decimal.Binary64
import QueryHooks.Decimal.Reading
import QueryHooks.Decimal.Shortest
import QueryHooks.Disk
import QueryHooks.Document.Answer
import QueryHooks.Document.Load
import QueryHooks.Failure
import QueryHooks.Generate
import QueryHooks.Host
import QueryHooks.Integration
import QueryHooks.Json.Reader
import QueryHooks.Json.Writer
import QueryHooks.Main
import QueryHooks.Naming.Names
import QueryHooks.Noted
import QueryHooks.Options
import QueryHooks.Path
import QueryHooks.PathTemplate
import QueryHooks.Plan
import QueryHooks.Proofs.Api.Declarations
import QueryHooks.Proofs.Api.Grouping
import QueryHooks.Proofs.Api.Load
import QueryHooks.Proofs.Api.Malformed
import QueryHooks.Proofs.Api.MovedOut
import QueryHooks.Proofs.Api.Names
import QueryHooks.Proofs.Api.Reported
import QueryHooks.Proofs.Api.Shape
import QueryHooks.Proofs.Bundle.Acyclic
import QueryHooks.Proofs.Bundle.Afresh
import QueryHooks.Proofs.Bundle.Kept
import QueryHooks.Proofs.Bundle.MovedOut
import QueryHooks.Proofs.Bundle.Reachability
import QueryHooks.Proofs.Bundle.ReadAgain
import QueryHooks.Proofs.Bundle.Resolve
import QueryHooks.Proofs.Bundle.Spot
import QueryHooks.Proofs.Bundle.Step
import QueryHooks.Proofs.Bundle.Termination
import QueryHooks.Proofs.Bundle.Walk
import QueryHooks.Proofs.CommandLine.Flags
import QueryHooks.Proofs.CommandLine.Listing
import QueryHooks.Proofs.CommandLine.Loudness
import QueryHooks.Proofs.Disk.Calls
import QueryHooks.Proofs.Disk.Files
import QueryHooks.Proofs.Disk.Grounded
import QueryHooks.Proofs.Disk.Willing
import QueryHooks.Proofs.Document.Legible
import QueryHooks.Proofs.Failure
import QueryHooks.Proofs.Generate.Decoration
import QueryHooks.Proofs.Generate.Trial
import QueryHooks.Proofs.Grouped
import QueryHooks.Proofs.Json.Limits
import QueryHooks.Proofs.Json.Names
import QueryHooks.Proofs.Json.RoundTrip
import QueryHooks.Proofs.Naming.Again
import QueryHooks.Proofs.Naming.Characters
import QueryHooks.Proofs.Naming.Identifiers
import QueryHooks.Proofs.Naming.Images
import QueryHooks.Proofs.Naming.Pieces
import QueryHooks.Proofs.Naming.Settled
import QueryHooks.Proofs.Naming.Words
import QueryHooks.Proofs.Options.Layers
import QueryHooks.Proofs.Options.Resolve
import QueryHooks.Proofs.Path.Route
import QueryHooks.Proofs.PathTemplate
import QueryHooks.Proofs.Plan.Confined
import QueryHooks.Proofs.Plan.Imports
import QueryHooks.Proofs.Plan.Places
import QueryHooks.Proofs.Reference.Keys
import QueryHooks.Proofs.Reference.Mark
import QueryHooks.Proofs.Reference.Name
import QueryHooks.Proofs.Reference.Standard
import QueryHooks.Proofs.Reference.Written
import QueryHooks.Proofs.Render.Collisions
import QueryHooks.Proofs.Render.Headers
import QueryHooks.Proofs.Render.HookBlocks
import QueryHooks.Proofs.Render.HookReferences
import QueryHooks.Proofs.Render.IntegrationConfig
import QueryHooks.Proofs.Render.KeyFiles
import QueryHooks.Proofs.Render.KeysAgree
import QueryHooks.Proofs.Render.Literals
import QueryHooks.Proofs.Render.Members
import QueryHooks.Proofs.Render.Silence
import QueryHooks.Proofs.Report.Printed
import QueryHooks.Proofs.Report.Unstyled
import QueryHooks.Proofs.Request.Argument
import QueryHooks.Proofs.Request.Find
import QueryHooks.Proofs.Request.FormData
import QueryHooks.Proofs.Request.Pairs
import QueryHooks.Proofs.Request.Path
import QueryHooks.Proofs.Request.Placeholder
import QueryHooks.Proofs.Request.Serializer
import QueryHooks.Proofs.Text.Integer
import QueryHooks.Proofs.Text.Percent
import QueryHooks.Proofs.Text.Pieces
import QueryHooks.Proofs.Text.Utf8
import QueryHooks.Proofs.TypeScript.Expression
import QueryHooks.Proofs.TypeScript.IdentifierName
import QueryHooks.Proofs.TypeScript.KeyReferences
import QueryHooks.Proofs.TypeScript.Lines
import QueryHooks.Proofs.TypeScript.LiteralText
import QueryHooks.Proofs.TypeScript.Namespaces
import QueryHooks.Proofs.TypeScript.ObjectLiteral
import QueryHooks.Proofs.TypeScript.ObjectType
import QueryHooks.Proofs.TypeScript.PathExpression
import QueryHooks.Proofs.TypeScript.PathLiteral
import QueryHooks.Proofs.TypeScript.ResponseType
import QueryHooks.Proofs.TypeScript.Script
import QueryHooks.Proofs.TypeScript.SearchParams
import QueryHooks.Proofs.TypeScript.StringLiteral
import QueryHooks.Proofs.TypeScript.Tokens
import QueryHooks.Proofs.Value.All
import QueryHooks.Proofs.Value.Parts
import QueryHooks.Proofs.Value.Replace
import QueryHooks.Proofs.Value.Short
import QueryHooks.Proofs.Value.Tree
import QueryHooks.Proofs.Write.Prefix
import QueryHooks.Proofs.Write.Replace
import QueryHooks.Proofs.Write.Rerun
import QueryHooks.Proofs.Yaml.Denotes
import QueryHooks.Proofs.Yaml.Limits
import QueryHooks.Proofs.Yaml.Nesting
import QueryHooks.Reference.Pointer
import QueryHooks.Reference.Target
import QueryHooks.Render.Client
import QueryHooks.Render.Hooks
import QueryHooks.Render.IntegrationConfig
import QueryHooks.Render.QueryKeys
import QueryHooks.Render.Types
import QueryHooks.Report.Diagnostic
import QueryHooks.Report.Fitting
import QueryHooks.Report.Literal
import QueryHooks.Report.Markup
import QueryHooks.Report.Streams
import QueryHooks.Report.Style
import QueryHooks.Request.Preview
import QueryHooks.Request.Query
import QueryHooks.Text.Base64
import QueryHooks.Text.Charset
import QueryHooks.Text.Class
import QueryHooks.Text.Half
import QueryHooks.Text.Integer
import QueryHooks.Text.Letters
import QueryHooks.Text.Lines
import QueryHooks.Text.Percent
import QueryHooks.Text.Quoted
import QueryHooks.Text.Table.Case
import QueryHooks.Text.Table.CodePage
import QueryHooks.Text.Table.Emoji
import QueryHooks.Text.Table.HostLetter
import QueryHooks.Text.Table.Letter
import QueryHooks.Text.Table.Mapping
import QueryHooks.Text.Table.Mark
import QueryHooks.Text.Table.Number
import QueryHooks.Text.Table.Printable
import QueryHooks.Text.Utf8
import QueryHooks.Text.Width
import QueryHooks.TypeScript.Code
import QueryHooks.TypeScript.Literal
import QueryHooks.TypeScript.PathExpression
import QueryHooks.TypeScript.Types
import QueryHooks.Url
import QueryHooks.Url.Host
import QueryHooks.Url.Punycode
import QueryHooks.Url.Validity
import QueryHooks.Value
import QueryHooks.Value.Loop
import QueryHooks.Value.Shown
import QueryHooks.World
import QueryHooks.Write
import QueryHooks.Yaml.Cursor
import QueryHooks.Yaml.Moment
import QueryHooks.Yaml.Node
import QueryHooks.Yaml.Node.Making
import QueryHooks.Yaml.Node.Reading
import QueryHooks.Yaml.Number
import QueryHooks.Yaml.Property
import QueryHooks.Yaml.Reader
import QueryHooks.Yaml.Scalar.Block
import QueryHooks.Yaml.Scalar.Meaning
import QueryHooks.Yaml.Scalar.Plain
import QueryHooks.Yaml.Scalar.Quoted
import QueryHooks.Yaml.Tag
import QueryHooks.Yaml.Token.Stream

import HttpContract.Text.Printable
import HttpContract.Text.Identifier
import HttpContract.Text.LetterCase
import HttpContract.Text.DecimalDigit
import HttpContract.Text.Blank
import HttpContract.Text.Form
import HttpContract.Number.Layout
import HttpContract.Number.Numeral
import HttpContract.Json.Payload
import HttpContract.Json.Writer
import HttpContract.Json.Document
import HttpContract.FieldType.Name
import HttpContract.Acceptance.Accept
import HttpContract.Acceptance.WireText
import HttpContract.Description.File
import HttpContract.Schema.Contract
import HttpContract.Config
import HttpContract.Message.Raw
import HttpContract.Part.Path
import HttpContract.Part.Query
import HttpContract.Part.Header
import HttpContract.Part.Body
import HttpContract.Endpoint.Message
import HttpContract.Endpoint.Catalog
import HttpContract.Check
import HttpContract.Cli.Command
import HttpContract.Cli.Screen
import HttpContract.Main
import HttpContract.Text.CellWidth
import HttpContract.Text.Fitting
import HttpContract.Cli.Emoji.Names
import HttpContract.Cli.Emoji
import HttpContract.Cli.Table
import HttpContract.Number.Position
import HttpContract.Config.Given
import HttpContract.Proofs.Endpoint.RoundTrip
import HttpContract.Proofs.Endpoint.Decoding
import HttpContract.Proofs.Endpoint.LastHeader
import HttpContract.Proofs.Check.Survival
import HttpContract.Proofs.Part.Repeated
import HttpContract.Proofs.Part.PathShape
import HttpContract.Proofs.Acceptance.Held
import HttpContract.Proofs.Endpoint.IntactHeaders
import HttpContract.Proofs.Part.Alike
import HttpContract.Proofs.Endpoint.SentAlike
import HttpContract.Proofs.Part.BodyOrder
import HttpContract.Proofs.Check.Siblings
import HttpContract.Proofs.Schema.Mistyped
import HttpContract.Proofs.Endpoint.LeftOut
import HttpContract.Proofs.Part.NullQuery
import HttpContract.Proofs.Part.Numbers
import HttpContract.Proofs.Endpoint.ContentType
import HttpContract.Proofs.Endpoint.OwnPlace
import HttpContract.Proofs.Endpoint.Reordered
import HttpContract.Proofs.Endpoint.BrokenHeader
import HttpContract.Proofs.Schema.Shuffled
import HttpContract.Proofs.Endpoint.Described
import HttpContract.Proofs.Part.QueryPairs
import HttpContract.Proofs.Part.QueryRead
import HttpContract.Proofs.Part.HeadersRead
import HttpContract.Proofs.Part.HeadersWritten
import HttpContract.Proofs.Part.PathRead
import HttpContract.Proofs.Endpoint.Routes
import HttpContract.Proofs.Endpoint.Listing
import HttpContract.Proofs.FieldType.Spelling
import HttpContract.Proofs.Files.Limit
import HttpContract.Proofs.Files.Scan
import HttpContract.Proofs.Endpoint.DefaultStatus
import HttpContract.Proofs.Cli.Arguments
import HttpContract.Proofs.Cli.BadSettings
import HttpContract.Proofs.Endpoint.Served
import HttpContract.Proofs.Schema.HeaderName
import HttpContract.Proofs.Schema.Collected
import HttpContract.Proofs.Part.PathGuard

import ResourceGraph.Analysis.DataSource
import ResourceGraph.Analysis.PathEntry
import ResourceGraph.Analysis.Report
import ResourceGraph.Analysis.Resource
import ResourceGraph.Analysis.Result
import ResourceGraph.Backend
import ResourceGraph.CommandLine.Arguments
import ResourceGraph.CommandLine.Command
import ResourceGraph.CommandLine.Run
import ResourceGraph.Compliance
import ResourceGraph.DataSource
import ResourceGraph.Document.Basic
import ResourceGraph.Document.Build
import ResourceGraph.Document.Fault
import ResourceGraph.Document.Version
import ResourceGraph.DomainName.Basic
import ResourceGraph.DomainName.Characters
import ResourceGraph.DomainName.Label
import ResourceGraph.Duration
import ResourceGraph.Extension
import ResourceGraph.Json.Printer
import ResourceGraph.Json.Reader
import ResourceGraph.Loading.Content
import ResourceGraph.Loading.ContentType
import ResourceGraph.Loading.Fault
import ResourceGraph.Loading.Load
import ResourceGraph.Loading.Reply
import ResourceGraph.Loading.Request
import ResourceGraph.Log.Analysis
import ResourceGraph.Log.Event
import ResourceGraph.Log.Level
import ResourceGraph.Log.Loading
import ResourceGraph.Main
import ResourceGraph.Number.Binary64
import ResourceGraph.Number.Integer
import ResourceGraph.Number.Limit
import ResourceGraph.Number.Shortest
import ResourceGraph.Number.Text
import ResourceGraph.Output.Format
import ResourceGraph.Output.Highlight
import ResourceGraph.Output.Markup
import ResourceGraph.Output.Pattern
import ResourceGraph.Output.Printer
import ResourceGraph.Output.Screen
import ResourceGraph.Output.Table
import ResourceGraph.Output.Wrap
import ResourceGraph.Packing.Basic
import ResourceGraph.Packing.Block
import ResourceGraph.Packing.Code
import ResourceGraph.Packing.Fault
import ResourceGraph.Packing.Frame
import ResourceGraph.Packing.Unpacker
import ResourceGraph.Path.Instance
import ResourceGraph.Path.Parent
import ResourceGraph.Reference.Expansion
import ResourceGraph.Reference.Pointer
import ResourceGraph.Region.List
import ResourceGraph.Region.Placeholder
import ResourceGraph.Rejection
import ResourceGraph.Resource.Build
import ResourceGraph.Resource.Descriptor
import ResourceGraph.Resource.Property
import ResourceGraph.Security
import ResourceGraph.Selection
import ResourceGraph.ServerAddress
import ResourceGraph.Settings.Preferences
import ResourceGraph.Settings.Resolve
import ResourceGraph.Storage.DataDirectory
import ResourceGraph.Storage.FilePath
import ResourceGraph.Storage.FileTree
import ResourceGraph.Surroundings
import ResourceGraph.Table
import ResourceGraph.Text.Base64
import ResourceGraph.Text.Blank
import ResourceGraph.Text.CharacterClass
import ResourceGraph.Text.Charset.Basic
import ResourceGraph.Text.Charset.Chinese
import ResourceGraph.Text.Charset.ChineseGrid
import ResourceGraph.Text.Charset.Escaped
import ResourceGraph.Text.Charset.HongKongCells
import ResourceGraph.Text.Charset.Japanese
import ResourceGraph.Text.Charset.JapaneseGrid
import ResourceGraph.Text.Charset.JapanesePlanes
import ResourceGraph.Text.Charset.Korean
import ResourceGraph.Text.Charset.KoreanGrid
import ResourceGraph.Text.Charset.Pairs
import ResourceGraph.Text.Charset.Reader
import ResourceGraph.Text.Charset.Shifted
import ResourceGraph.Text.Charset.SingleByteTables
import ResourceGraph.Text.Charset.Switched
import ResourceGraph.Text.Charset.TraditionalGrid
import ResourceGraph.Text.Charset.Units
import ResourceGraph.Text.Cluster
import ResourceGraph.Text.Composition
import ResourceGraph.Text.Composition.Table
import ResourceGraph.Text.Digit
import ResourceGraph.Text.Emoji.Code
import ResourceGraph.Text.Emoji.Table
import ResourceGraph.Text.Lowercase
import ResourceGraph.Text.Newline
import ResourceGraph.Text.Printable
import ResourceGraph.Text.Punycode
import ResourceGraph.Text.Quoted
import ResourceGraph.Text.Surrogate
import ResourceGraph.Text.Width
import ResourceGraph.Text.WordCharacter
import ResourceGraph.Value.Basic
import ResourceGraph.Value.Date
import ResourceGraph.Value.Mismatch
import ResourceGraph.Value.SetOrder
import ResourceGraph.Value.Text
import ResourceGraph.Yaml.Construction
import ResourceGraph.Yaml.Cursor
import ResourceGraph.Yaml.Fault
import ResourceGraph.Yaml.Merge
import ResourceGraph.Yaml.Node
import ResourceGraph.Yaml.Scalar
import ResourceGraph.Yaml.Token.Basic
import ResourceGraph.Yaml.Token.Lexer
import ResourceGraph.Yaml.Token.Scalar
import ResourceGraph.Yaml.Token.Tag
import ResourceGraph.Proofs.Except
import ResourceGraph.Proofs.InstancePath
import ResourceGraph.Proofs.Isolation
import ResourceGraph.Proofs.Lists
import ResourceGraph.Proofs.Names
import ResourceGraph.Proofs.Placeholder
import ResourceGraph.Proofs.Ledger
import ResourceGraph.Proofs.Accounting
import ResourceGraph.Proofs.Attribution
import ResourceGraph.Proofs.Distinctness
import ResourceGraph.Proofs.Origin
import ResourceGraph.Proofs.ParentPath
import ResourceGraph.Proofs.IgnoredParent
import ResourceGraph.Proofs.ParentName
import ResourceGraph.Proofs.Grounding
import ResourceGraph.Proofs.PayloadProperties
import ResourceGraph.Proofs.Authentication
import ResourceGraph.Proofs.RegionFault
import ResourceGraph.Proofs.RegionalCopy
import ResourceGraph.Proofs.HardFailure
import ResourceGraph.Proofs.Binary64
import ResourceGraph.Proofs.Key
import ResourceGraph.Proofs.Reference.Expansion
import ResourceGraph.Proofs.Reference.Following
import ResourceGraph.Proofs.Reference.Cycle
import ResourceGraph.Proofs.Reference.Success
import ResourceGraph.Proofs.Reference.Position
import ResourceGraph.Proofs.Reference.Completeness
import ResourceGraph.Proofs.Order.Shuffled
import ResourceGraph.Proofs.Order.Role
import ResourceGraph.Proofs.Order.Expansion
import ResourceGraph.Proofs.Order.Tables
import ResourceGraph.Proofs.Order.Fields
import ResourceGraph.Proofs.Order.Schema
import ResourceGraph.Proofs.Order.Document
import ResourceGraph.Proofs.Order.Payload
import ResourceGraph.Proofs.Order.Analysis
import ResourceGraph.Proofs.Order.Independence
import ResourceGraph.Proofs.ResolvedHost
import ResourceGraph.Proofs.OneCollection
import ResourceGraph.Proofs.Restriction
import ResourceGraph.Proofs.Stages
import ResourceGraph.Proofs.Listing
import ResourceGraph.Proofs.Marking
import ResourceGraph.Proofs.Rearrangement
import ResourceGraph.Proofs.TrailingSlash
import ResourceGraph.Proofs.SlashedDocument
import ResourceGraph.Proofs.LetterCase
import ResourceGraph.Proofs.ExitCode
import ResourceGraph.Proofs.Nameless
import ResourceGraph.Proofs.DocumentFaults
import ResourceGraph.Proofs.Unforeseen
import ResourceGraph.Proofs.JsonReading
import ResourceGraph.Proofs.Precedence
import ResourceGraph.Proofs.Verbosity
import ResourceGraph.Proofs.JsonAnswer
import ResourceGraph.Proofs.PlainLines
import ResourceGraph.Proofs.CompliantPair
import ResourceGraph.Proofs.Template
import ResourceGraph.Proofs.Ancestors
import ResourceGraph.Proofs.VersionName
import ResourceGraph.Proofs.PatternLanguage
import ResourceGraph.Proofs.PathGrammar
import ResourceGraph.Proofs.RegionNames
import ResourceGraph.Proofs.DurationGrammar
import ResourceGraph.Proofs.Reference.Location
import ResourceGraph.Proofs.IntegerText
import ResourceGraph.Proofs.Reference.Dangling
import ResourceGraph.Proofs.ParameterOverride
import ResourceGraph.Proofs.DeclaredKeys
import ResourceGraph.Proofs.RequiredSchemes
import ResourceGraph.Proofs.ConfiguredHeader
import ResourceGraph.Proofs.ListedObject
import ResourceGraph.Proofs.PropertyTree
import ResourceGraph.Proofs.SecurityOverride
import ResourceGraph.Proofs.BlankSetting

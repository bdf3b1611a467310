import SchemaTypes.Unicode.RangeSet
import SchemaTypes.Unicode.RangeMap
import SchemaTypes.Unicode.Alphabetic
import SchemaTypes.Unicode.Numeric
import SchemaTypes.Unicode.Lowercase
import SchemaTypes.Unicode.Uppercase
import SchemaTypes.Unicode.WhiteSpace
import SchemaTypes.Unicode.GraphemeExtend
import SchemaTypes.Unicode.Unprintable
import SchemaTypes.Unicode.CaseMapping
import SchemaTypes.Unicode.CombiningClass
import SchemaTypes.Unicode.Decomposition
import SchemaTypes.Unicode.Normalization
import SchemaTypes.Unicode.BidiClass
import SchemaTypes.Unicode.JoiningType
import SchemaTypes.Unicode.Mark
import SchemaTypes.Text.Blank
import SchemaTypes.Text.Lines
import SchemaTypes.Text.Quoted
import SchemaTypes.Text.PascalCase
import SchemaTypes.Table
import SchemaTypes.Config
import SchemaTypes.Script.Literal
import SchemaTypes.Script.LiteralReading
import SchemaTypes.Script.TemplateReading
import SchemaTypes.Script.Layout
import SchemaTypes.Script.Preamble
import SchemaTypes.Script.Naming
import SchemaTypes.Xml.Char
import SchemaTypes.Xml.Node
import SchemaTypes.Xml.Height
import SchemaTypes.Xml.Error
import SchemaTypes.Xml.Lexeme
import SchemaTypes.Xml.Markup
import SchemaTypes.Xml.Reader
import SchemaTypes.Url.Basic
import SchemaTypes.Url.PercentEncode
import SchemaTypes.Url.Punycode
import SchemaTypes.Url.IdnaMapping
import SchemaTypes.Url.Idna
import SchemaTypes.Url.Host
import SchemaTypes.Url.Path
import SchemaTypes.Url.Parser
import SchemaTypes.Location.Path
import SchemaTypes.Location.Basic
import SchemaTypes.Component.QName
import SchemaTypes.Component.Error
import SchemaTypes.Component.Value
import SchemaTypes.Component.Annotations
import SchemaTypes.Component.Facets
import SchemaTypes.Component.Declaration
import SchemaTypes.Component.Resolver
import SchemaTypes.Component.Reading
import SchemaTypes.Component.Render
import SchemaTypes.Registry.Schema
import SchemaTypes.Registry.Basic
import SchemaTypes.Registry.Load
import SchemaTypes.Registry.Session
import SchemaTypes.Program.Options
import SchemaTypes.Program.Run
import SchemaTypes.Main
import SchemaTypes.Proofs.LoadEvents
import SchemaTypes.Proofs.ReaderMaps
import SchemaTypes.Proofs.SelfContainedLoads
import SchemaTypes.Proofs.RegistryGrowth
import SchemaTypes.Proofs.LoadOnce
import SchemaTypes.Proofs.RenderOutcome
import SchemaTypes.Proofs.ReferenceBound
import SchemaTypes.Proofs.RenderTermination
import SchemaTypes.Proofs.RegistryTables
import SchemaTypes.Proofs.DeclarationReading
import SchemaTypes.Proofs.RegistryContents
import SchemaTypes.Proofs.RootBindings
import SchemaTypes.Proofs.NameResolution
import SchemaTypes.Proofs.ChoiceArms
import SchemaTypes.Proofs.RenderFailure
import SchemaTypes.Proofs.DeclarationIdentifiers
import SchemaTypes.Proofs.ReaderCongruence
import SchemaTypes.Proofs.WholeDocuments
import SchemaTypes.Proofs.SameDeclarations
import SchemaTypes.Proofs.LoadOrder
import SchemaTypes.Proofs.LiteralSyntax
import SchemaTypes.Proofs.FacetReading
import SchemaTypes.Proofs.ParticleOccurrence
import SchemaTypes.Proofs.CountReading
import SchemaTypes.Proofs.DocComments
import SchemaTypes.Proofs.PreambleKeys

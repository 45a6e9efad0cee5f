import ApiTypes.CommandLine.Arguments
import ApiTypes.CommandLine.Failure
import ApiTypes.CommandLine.Invocation
import ApiTypes.CommandLine.Palette
import ApiTypes.CommandLine.Run
import ApiTypes.CommandLine.Table
import ApiTypes.Config
import ApiTypes.Decimal.Shortest
import ApiTypes.Descriptor.Basic
import ApiTypes.Descriptor.Extensions
import ApiTypes.Descriptor.Facts
import ApiTypes.Descriptor.Json.Model
import ApiTypes.Descriptor.Json.Operation
import ApiTypes.Descriptor.Json.Property
import ApiTypes.Descriptor.Json.Result
import ApiTypes.Descriptor.Json.Type
import ApiTypes.Descriptor.Model
import ApiTypes.Descriptor.Operation
import ApiTypes.Descriptor.Primitive
import ApiTypes.Descriptor.Property
import ApiTypes.Descriptor.Result
import ApiTypes.Document.Basic
import ApiTypes.Document.Format
import ApiTypes.Document.Json
import ApiTypes.Json.Basic
import ApiTypes.Json.Numeral
import ApiTypes.Json.Printer
import ApiTypes.Json.Reader
import ApiTypes.Json.Token
import ApiTypes.Main
import ApiTypes.Name.Identifier
import ApiTypes.Name.Reserved
import ApiTypes.Name.Unique
import ApiTypes.Name.Words
import ApiTypes.Naming.Rebase
import ApiTypes.Naming.Registry
import ApiTypes.Naming.Relabelling
import ApiTypes.Naming.Settlement
import ApiTypes.Naming.Suggestions
import ApiTypes.Report.Error
import ApiTypes.Report.Warning
import ApiTypes.Resolution.Document
import ApiTypes.Resolution.Enum
import ApiTypes.Resolution.Integer
import ApiTypes.Resolution.Model
import ApiTypes.Resolution.Operation
import ApiTypes.Resolution.Property
import ApiTypes.Resolution.Resolving
import ApiTypes.Resolution.SchemaType
import ApiTypes.Resolution.Union
import ApiTypes.Schema.Basic
import ApiTypes.Schema.Json
import ApiTypes.Source.Decode
import ApiTypes.Source.Fault
import ApiTypes.Source.Tree
import ApiTypes.Text.Blank
import ApiTypes.Text.CaseRanges
import ApiTypes.Text.Latin
import ApiTypes.Text.LetterCase
import ApiTypes.Text.Pieces
import ApiTypes.Text.Quoted
import ApiTypes.Text.Romanization
import ApiTypes.Text.Spelling
import ApiTypes.Text.Unprintable
import ApiTypes.Text.Whole
import ApiTypes.Text.Width
import ApiTypes.Yaml.Cursor
import ApiTypes.Yaml.Reader
import ApiTypes.Yaml.Text
import ApiTypes.Yaml.Token
import ApiTypes.Yaml.Word
import ApiTypes.Proofs.ClassName
import ApiTypes.Proofs.UniqueNames
import ApiTypes.Proofs.EnumVariants
import ApiTypes.Proofs.Members
import ApiTypes.Proofs.Extensions
import ApiTypes.Proofs.Registry
import ApiTypes.Proofs.RegistryHistory
import ApiTypes.Proofs.RegistryFrame
import ApiTypes.Proofs.Resolving
import ApiTypes.Proofs.FirstSeen
import ApiTypes.Proofs.Traversal
import ApiTypes.Proofs.Types
import ApiTypes.Proofs.Unions
import ApiTypes.Proofs.Models
import ApiTypes.Proofs.Registration
import ApiTypes.Proofs.Operations
import ApiTypes.Proofs.Settlement
import ApiTypes.Proofs.Run
import ApiTypes.Proofs.ReferenceIntegrity
import ApiTypes.Proofs.ModelAccounting
import ApiTypes.Proofs.ModelContent
import ApiTypes.Proofs.SettledNames
import ApiTypes.Proofs.NamingHistory
import ApiTypes.Proofs.NamingTable
import ApiTypes.Proofs.FinalNames
import ApiTypes.Proofs.Omission
import ApiTypes.Proofs.DroppedModels
import ApiTypes.Proofs.Reachability
import ApiTypes.Proofs.TakenNames
import ApiTypes.Proofs.ExcludedBodies
import ApiTypes.Proofs.ForcedNames
import ApiTypes.Proofs.DeclaredNames
import ApiTypes.Proofs.NestedNames
import ApiTypes.Proofs.MapLikeNames
import ApiTypes.Proofs.Leaves
import ApiTypes.Proofs.RelabelLaws
import ApiTypes.Proofs.Retyping
import ApiTypes.Proofs.TypeVisits
import ApiTypes.Proofs.Nodes
import ApiTypes.Proofs.Outcomes
import ApiTypes.Proofs.IntegerTypes
import ApiTypes.Proofs.BitCount
import ApiTypes.Proofs.FirstFault
import ApiTypes.Proofs.Failures
import ApiTypes.Proofs.Warnings
import ApiTypes.Proofs.Losses
import ApiTypes.Proofs.TypeEquality
import ApiTypes.Proofs.TypeIdentity
import ApiTypes.Proofs.UnionVariants
import ApiTypes.Proofs.UnionFlattening
import ApiTypes.Proofs.InlineUnions
import ApiTypes.Proofs.ModelShape
import ApiTypes.Proofs.PropertyCoherence
import ApiTypes.Proofs.TagGroups
import ApiTypes.Proofs.OperationFacts
import ApiTypes.Proofs.ModelFacts
import ApiTypes.Proofs.CompoundNames
import ApiTypes.Proofs.FieldName
import ApiTypes.Proofs.StableNames
import ApiTypes.Proofs.FieldIdentifier
import ApiTypes.Proofs.MethodIdentifier
import ApiTypes.Proofs.DistinctFields
import ApiTypes.Proofs.JsonTokens
import ApiTypes.Proofs.JsonReading
import ApiTypes.Proofs.Decoding
import ApiTypes.Proofs.SchemaRoundTrip
import ApiTypes.Proofs.DocumentRoundTrip
import ApiTypes.Proofs.DescriptorRoundTrip
import ApiTypes.Proofs.ResultRoundTrip

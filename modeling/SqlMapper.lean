import SqlMapper.Association
import SqlMapper.Catalogue
import SqlMapper.CommandLine.Arguments
import SqlMapper.CommandLine.Command
import SqlMapper.CommandLine.Help
import SqlMapper.CommandLine.Invocation
import SqlMapper.CommandLine.Report
import SqlMapper.CommandLine.Run
import SqlMapper.Configuration.Assistant
import SqlMapper.Configuration.Basic
import SqlMapper.Configuration.File
import SqlMapper.Configuration.FilePath
import SqlMapper.Configuration.FileTree
import SqlMapper.Configuration.MapperFile
import SqlMapper.Configuration.Settings
import SqlMapper.Decimal.Positional
import SqlMapper.Decimal.Shortest
import SqlMapper.Fault
import SqlMapper.Handler.Basic
import SqlMapper.Handler.Registry
import SqlMapper.Json.Document
import SqlMapper.Json.Reader
import SqlMapper.Main
import SqlMapper.Mapper.Arguments
import SqlMapper.Mapper.Declaration
import SqlMapper.Mapper.Dispatch
import SqlMapper.Mapper.Registration
import SqlMapper.Property.AccessorName
import SqlMapper.Property.Cache
import SqlMapper.Property.Cached
import SqlMapper.Property.Descriptor
import SqlMapper.Property.Metadata
import SqlMapper.Property.Navigation
import SqlMapper.Property.Path
import SqlMapper.Property.Shape
import SqlMapper.Session.Basic
import SqlMapper.Session.Binding
import SqlMapper.Session.Executor
import SqlMapper.Session.Rows
import SqlMapper.Statement.Basic
import SqlMapper.Statement.ParameterMapping
import SqlMapper.Statement.ResultMap
import SqlMapper.Template.Compile
import SqlMapper.Template.Reference
import SqlMapper.Template.Scan
import SqlMapper.Text.Blank
import SqlMapper.Text.CaseTable
import SqlMapper.Text.Controls
import SqlMapper.Text.LetterCase
import SqlMapper.Text.Numeral
import SqlMapper.Text.PrintTable
import SqlMapper.Text.Quoted
import SqlMapper.Text.Segments
import SqlMapper.Toml.Node
import SqlMapper.Toml.Reader
import SqlMapper.Toml.Record
import SqlMapper.Toml.Scalar
import SqlMapper.TypeAlias
import SqlMapper.Value.Bag
import SqlMapper.Value.Basic
import SqlMapper.Value.Conversion
import SqlMapper.Value.Equality
import SqlMapper.Value.Json
import SqlMapper.ValueType
import SqlMapper.WireType
import SqlMapper.Proofs.Run
import SqlMapper.Proofs.Template.Filling
import SqlMapper.Proofs.Template.Compilation
import SqlMapper.Proofs.Association
import SqlMapper.Proofs.Catalogue
import SqlMapper.Proofs.Configuration.History
import SqlMapper.Proofs.Configuration.Loading
import SqlMapper.Proofs.Configuration.Registration
import SqlMapper.Proofs.Mapper.Bags
import SqlMapper.Proofs.Mapper.Calls
import SqlMapper.Proofs.Property.Keys
import SqlMapper.Proofs.Property.Records
import SqlMapper.Proofs.Property.Writes
import SqlMapper.Proofs.Session.AutoMapping
import SqlMapper.Proofs.Property.ReadBack
import SqlMapper.Proofs.Property.Elsewhere
import SqlMapper.Proofs.Handler.Typing
import SqlMapper.Proofs.Session.RowTyping
import SqlMapper.Proofs.Mapper.Results
import SqlMapper.Proofs.Session.History
import SqlMapper.Proofs.Session.Transactions
import SqlMapper.Proofs.Handler.BuiltIn
import SqlMapper.Proofs.Session.Boundary
import SqlMapper.Proofs.Mapper.Binding
import SqlMapper.Proofs.Mapper.Declared
import SqlMapper.Proofs.Property.Missing
import SqlMapper.Proofs.Property.PathTyping
import SqlMapper.Proofs.Property.WriteTyping
import SqlMapper.Proofs.Configuration.LoadingOrder
import SqlMapper.Proofs.Configuration.ResultMaps
import SqlMapper.Proofs.TypeAlias
import SqlMapper.Proofs.Template.Restoring
import SqlMapper.Proofs.Template.ByteScan
import SqlMapper.Proofs.Template.ReferenceGrammar
import SqlMapper.Proofs.Template.ReferenceWriting
import SqlMapper.Proofs.Template.ReferenceOptions
import SqlMapper.Proofs.Mapper.DeclaredNames
import SqlMapper.Proofs.Session.Columns
import SqlMapper.Proofs.Session.AbsentColumns
import SqlMapper.Proofs.Property.Assignability
import SqlMapper.Proofs.Property.Members
import SqlMapper.Proofs.Property.NameIndex
import SqlMapper.Proofs.Property.Exposure
import SqlMapper.Proofs.Property.Resolution
import SqlMapper.Proofs.Property.Reordering
import SqlMapper.Proofs.Handler.Registration
import SqlMapper.Proofs.Handler.NearestSupertype
import SqlMapper.Proofs.Property.WriteBack
import SqlMapper.Proofs.Property.FoundPaths
import SqlMapper.Proofs.Catalogue.Offers
import SqlMapper.Proofs.Property.TypeOrder
import SqlMapper.Proofs.Property.CachedPaths
import SqlMapper.Proofs.Handler.TypedPlaces
import SqlMapper.Proofs.Value.JsonForms
import SqlMapper.Proofs.Value.TypedValues

import AddressTrace.Abi.Argument
import AddressTrace.Abi.Brackets
import AddressTrace.Abi.Calldata
import AddressTrace.Abi.Datum
import AddressTrace.Abi.Interface
import AddressTrace.Abi.Kind
import AddressTrace.Abi.Number
import AddressTrace.Abi.Problem
import AddressTrace.Abi.Returned
import AddressTrace.Address
import AddressTrace.CommandLine.Arguments
import AddressTrace.CommandLine.Run
import AddressTrace.Config.Basic
import AddressTrace.Contract.Record
import AddressTrace.Contract.Store
import AddressTrace.Data.Assoc
import AddressTrace.Data.Entries
import AddressTrace.Data.SortedMap
import AddressTrace.Decimal.Double
import AddressTrace.Decimal.Shortest
import AddressTrace.Declaration.Basic
import AddressTrace.Declaration.Local
import AddressTrace.Declaration.State
import AddressTrace.Digest.Keccak
import AddressTrace.Explorer.Blockscout
import AddressTrace.Explorer.Etherscan
import AddressTrace.Explorer.Source
import AddressTrace.Failure
import AddressTrace.Http.Transport
import AddressTrace.Http.Url
import AddressTrace.Json.Fields
import AddressTrace.Json.Reader
import AddressTrace.Json.Value
import AddressTrace.Json.Writer
import AddressTrace.Linkage.Descriptor
import AddressTrace.Linkage.Library
import AddressTrace.Linkage.Load
import AddressTrace.Main
import AddressTrace.Network.Basic
import AddressTrace.Proofs.Abi.Interface
import AddressTrace.Proofs.Abi.Number
import AddressTrace.Proofs.Abi.Returned
import AddressTrace.Proofs.Address.Checksum
import AddressTrace.Proofs.Contract.Record
import AddressTrace.Proofs.Contract.Store
import AddressTrace.Proofs.Data.Assoc
import AddressTrace.Proofs.Data.Pointwise
import AddressTrace.Proofs.Data.SortedMap
import AddressTrace.Proofs.Declaration.Basic
import AddressTrace.Proofs.Declaration.Local
import AddressTrace.Proofs.Declaration.Nearest
import AddressTrace.Proofs.Declaration.Scopes
import AddressTrace.Proofs.Declaration.State
import AddressTrace.Proofs.Explorer.Blockscout
import AddressTrace.Proofs.Explorer.Etherscan
import AddressTrace.Proofs.Explorer.FetchOnce
import AddressTrace.Proofs.Explorer.Lookups
import AddressTrace.Proofs.Explorer.Sequential
import AddressTrace.Proofs.Json.Fields
import AddressTrace.Proofs.Json.Reader
import AddressTrace.Proofs.Json.Writer
import AddressTrace.Proofs.Linkage.BreadthFirst
import AddressTrace.Proofs.Linkage.Composition
import AddressTrace.Proofs.Linkage.Depth
import AddressTrace.Proofs.Linkage.Descriptor
import AddressTrace.Proofs.Network.Ensures
import AddressTrace.Proofs.Network.Logged
import AddressTrace.Proofs.Network.Traced
import AddressTrace.Proofs.Reference.Agreement
import AddressTrace.Proofs.Reference.CallPattern
import AddressTrace.Proofs.Reference.Hardcoded
import AddressTrace.Proofs.Reference.Initializers
import AddressTrace.Proofs.Reference.Lines
import AddressTrace.Proofs.Reference.LocalUses
import AddressTrace.Proofs.Reference.NumberArguments
import AddressTrace.Proofs.Reference.Origins
import AddressTrace.Proofs.Reference.Placed
import AddressTrace.Proofs.Reference.Reports
import AddressTrace.Proofs.Reference.Scopes
import AddressTrace.Proofs.Reference.StateUses
import AddressTrace.Proofs.Resolve.Accounting
import AddressTrace.Proofs.Resolve.ByPath
import AddressTrace.Proofs.Resolve.Callable
import AddressTrace.Proofs.Resolve.CleanReport
import AddressTrace.Proofs.Resolve.Interleaved
import AddressTrace.Proofs.Resolve.Isolation
import AddressTrace.Proofs.Resolve.Latency
import AddressTrace.Proofs.Resolve.Libraries
import AddressTrace.Proofs.Resolve.Overloads
import AddressTrace.Proofs.Resolve.Places
import AddressTrace.Proofs.Resolve.Questions
import AddressTrace.Proofs.Resolve.Static
import AddressTrace.Proofs.Solidity.Lexemes
import AddressTrace.Proofs.Solidity.Literals
import AddressTrace.Proofs.Solidity.Numerals
import AddressTrace.Proofs.Solidity.Operands
import AddressTrace.Proofs.Solidity.Outlines
import AddressTrace.Proofs.Solidity.Reading.Basic
import AddressTrace.Proofs.Solidity.Reading.Expression
import AddressTrace.Proofs.Solidity.Reading.File
import AddressTrace.Proofs.Solidity.Reading.Statement
import AddressTrace.Proofs.Solidity.Shapes
import AddressTrace.Proofs.Solidity.Spans.Basic
import AddressTrace.Proofs.Solidity.Spans.Expression
import AddressTrace.Proofs.Solidity.Spans.File
import AddressTrace.Proofs.Solidity.Spans.Statement
import AddressTrace.Proofs.Text.Blank
import AddressTrace.Proofs.Text.Bytes
import AddressTrace.Proofs.Text.Hex
import AddressTrace.Proofs.Tree.Built
import AddressTrace.Proofs.Tree.Kinds
import AddressTrace.Proofs.Tree.Marks
import AddressTrace.Proofs.Tree.Numbering
import AddressTrace.Proofs.Tree.Places
import AddressTrace.Proofs.Tree.Shapes
import AddressTrace.Proofs.Tree.Sources
import AddressTrace.Proofs.Tree.Traversal
import AddressTrace.Proofs.Tree.Walk
import AddressTrace.Reference.Basic
import AddressTrace.Reference.Collect
import AddressTrace.Resolve.Analysis
import AddressTrace.Resolve.Deferred
import AddressTrace.Resolve.Options
import AddressTrace.Rpc
import AddressTrace.Solidity.Lexer
import AddressTrace.Solidity.Parser.Assembly
import AddressTrace.Solidity.Parser.Basic
import AddressTrace.Solidity.Parser.Expression
import AddressTrace.Solidity.Parser.File
import AddressTrace.Solidity.Parser.Statement
import AddressTrace.Solidity.Syntax
import AddressTrace.Solidity.Token
import AddressTrace.Text.Blank
import AddressTrace.Text.Hex
import AddressTrace.Text.Identifier
import AddressTrace.Text.LineIndex
import AddressTrace.Text.Span
import AddressTrace.Text.Split
import AddressTrace.Toml.Fields
import AddressTrace.Toml.Reader
import AddressTrace.Toml.Scalar
import AddressTrace.Toml.Value
import AddressTrace.Tree.Basic
import AddressTrace.Tree.OfSource
import AddressTrace.Tree.Outline

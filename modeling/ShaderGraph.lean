import ShaderGraph.Abort
import ShaderGraph.Artifact
import ShaderGraph.Closure.Basic
import ShaderGraph.Closure.Walk
import ShaderGraph.Command
import ShaderGraph.Command.Options
import ShaderGraph.Config
import ShaderGraph.Decimal.Layout
import ShaderGraph.Decimal.Shortest
import ShaderGraph.Demo
import ShaderGraph.Emission
import ShaderGraph.Emission.Declaration
import ShaderGraph.Emission.Draft
import ShaderGraph.Emission.Layout
import ShaderGraph.Emission.Numbering
import ShaderGraph.Library.Basic
import ShaderGraph.Library.Builder
import ShaderGraph.Library.Call
import ShaderGraph.Library.Literal
import ShaderGraph.Library.Node
import ShaderGraph.Library.Type
import ShaderGraph.Main
import ShaderGraph.Pass
import ShaderGraph.Pass.Disassembler
import ShaderGraph.Pass.Id
import ShaderGraph.Pass.Optimizer
import ShaderGraph.Pass.Wgsl
import ShaderGraph.Pipeline.Description
import ShaderGraph.Pipeline.Results
import ShaderGraph.Pipeline.Stage
import ShaderGraph.Proofs.Collection.Completion
import ShaderGraph.Proofs.Collection.Consistency
import ShaderGraph.Proofs.Collection.DeclarationOrder
import ShaderGraph.Proofs.Collection.Idempotence
import ShaderGraph.Proofs.Collection.InitializerOrder
import ShaderGraph.Proofs.Collection.Link
import ShaderGraph.Proofs.Collection.Moment
import ShaderGraph.Proofs.Collection.Reachability
import ShaderGraph.Proofs.Collection.Termination
import ShaderGraph.Proofs.Construction.BuiltOrder
import ShaderGraph.Proofs.Construction.Change
import ShaderGraph.Proofs.Construction.Interning
import ShaderGraph.Proofs.Construction.Pointers
import ShaderGraph.Proofs.Construction.Requests
import ShaderGraph.Proofs.Construction.Session
import ShaderGraph.Proofs.Construction.SharedNodes
import ShaderGraph.Proofs.Construction.Soundness
import ShaderGraph.Proofs.Decoding.DistinctTypes
import ShaderGraph.Proofs.Decoding.EntryPoints
import ShaderGraph.Proofs.Decoding.HexDump
import ShaderGraph.Proofs.Decoding.LogicalLayout
import ShaderGraph.Proofs.Decoding.Reflection
import ShaderGraph.Proofs.Decoding.Stream
import ShaderGraph.Proofs.Decoding.Text
import ShaderGraph.Proofs.Emission.Agreement
import ShaderGraph.Proofs.Emission.Definition
import ShaderGraph.Proofs.Emission.Encodable
import ShaderGraph.Proofs.Emission.Identifiers
import ShaderGraph.Proofs.Emission.Instruction
import ShaderGraph.Proofs.Emission.Numbering
import ShaderGraph.Proofs.Emission.Outline
import ShaderGraph.Proofs.Emission.Placement
import ShaderGraph.Proofs.Emission.Section
import ShaderGraph.Proofs.Emission.SingleDefinition
import ShaderGraph.Proofs.Loading.Arrangement
import ShaderGraph.Proofs.Loading.DeclaredFirst
import ShaderGraph.Proofs.Loading.InPlace
import ShaderGraph.Proofs.Loading.ReadBack
import ShaderGraph.Proofs.Loading.Reload
import ShaderGraph.Proofs.Loading.Replay
import ShaderGraph.Proofs.Loading.Sequence
import ShaderGraph.Proofs.Outcome
import ShaderGraph.Proofs.Pipeline.Chain
import ShaderGraph.Proofs.Pipeline.Configurations
import ShaderGraph.Proofs.Pipeline.DebugBranch
import ShaderGraph.Proofs.Pipeline.Entries
import ShaderGraph.Proofs.Pipeline.Kinds
import ShaderGraph.Proofs.Pipeline.OptimizedEmission
import ShaderGraph.Proofs.Pipeline.Optimizer
import ShaderGraph.Proofs.Pipeline.Reference
import ShaderGraph.Proofs.Pipeline.Stages
import ShaderGraph.Reflection
import ShaderGraph.Reflection.Text
import ShaderGraph.Spirv.Enumerant
import ShaderGraph.Spirv.Enumerant.Names
import ShaderGraph.Spirv.Enumerant.Parameters
import ShaderGraph.Spirv.ExtInst
import ShaderGraph.Spirv.Frame
import ShaderGraph.Spirv.Grammar
import ShaderGraph.Spirv.Instruction
import ShaderGraph.Spirv.Kind
import ShaderGraph.Spirv.Listing
import ShaderGraph.Spirv.Mask
import ShaderGraph.Spirv.Module
import ShaderGraph.Spirv.NumberType
import ShaderGraph.Spirv.Opcode
import ShaderGraph.Spirv.OpcodeClass
import ShaderGraph.Spirv.Packed
import ShaderGraph.Spirv.ReadFault
import ShaderGraph.Spirv.Reader
import ShaderGraph.Table
import ShaderGraph.Text.Quoted
import ShaderGraph.Text.Unprintable
import ShaderGraph.Text.Utf8
import ShaderGraph.Toml.Document
import ShaderGraph.Toml.Number
import ShaderGraph.Toml.Scan
import ShaderGraph.Toml.Value
import ShaderGraph.Toml.Writer
import ShaderGraph.Wgsl.Namer
import ShaderGraph.Wgsl.Reader
import ShaderGraph.Wgsl.Shader
import ShaderGraph.Wgsl.Writer

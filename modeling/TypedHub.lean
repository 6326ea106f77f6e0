import TypedHub.Json.Printer
import TypedHub.Metadata.Document
import TypedHub.Metadata.Encode
import TypedHub.Stub.Dump
import TypedHub.Generation.Pass
import TypedHub.CommandLine.Disk
import TypedHub.Main
import TypedHub.Proofs.Generation.Settlement
import TypedHub.Proofs.Generation.Memory
import TypedHub.Proofs.Generation.History
import TypedHub.Proofs.CSharp.Identifier
import TypedHub.Proofs.Stub.Clash
import TypedHub.Proofs.Stub.MemberNames
import TypedHub.Proofs.Stub.Capture
import TypedHub.Proofs.Stub.Members
import TypedHub.Proofs.Stub.Traversal
import TypedHub.Proofs.Stub.Agreement
import TypedHub.Proofs.CSharp.Scan
import TypedHub.Proofs.Stub.Bodies
import TypedHub.Proofs.CSharp.Marks
import TypedHub.Proofs.CSharp.Plain
import TypedHub.Proofs.Stub.Checked
import TypedHub.Proofs.Stub.DefaultText
import TypedHub.Proofs.Stub.StoredTexts
import TypedHub.Proofs.Stub.Shape
import TypedHub.Proofs.CommandLine.Writing
import TypedHub.Proofs.Generation.FileNames
import TypedHub.Proofs.Generation.Residue
import TypedHub.Proofs.Json.Agreement
import TypedHub.Proofs.Json.RecordAgreement
import TypedHub.Proofs.Metadata.Documents
import TypedHub.Proofs.Json.Rereading
import TypedHub.Proofs.Metadata.Rereading
import TypedHub.Proofs.Stub.Reach
import TypedHub.Proofs.CSharp.LegalName
import TypedHub.Proofs.Generation.Edits
import TypedHub.Proofs.Generation.Order
import TypedHub.Proofs.Stub.LegalNames
import TypedHub.Proofs.Generation.SourceNames
import TypedHub.Proofs.CSharp.Literal
import TypedHub.Proofs.CSharp.Token
import TypedHub.Proofs.CSharp.Grammar
import TypedHub.Proofs.CSharp.Descent
import TypedHub.Proofs.CSharp.Spelling
import TypedHub.Proofs.CSharp.ExprReading
import TypedHub.Proofs.CSharp.Rows
import TypedHub.Proofs.CSharp.Characters
import TypedHub.Proofs.Stub.LineEnds
import TypedHub.Proofs.CommandLine.Listing
import TypedHub.Proofs.CommandLine.Printing
import TypedHub.Proofs.CommandLine.Directories
import TypedHub.Proofs.CommandLine.Generating
import TypedHub.Proofs.Stub.ClashReport
import TypedHub.Proofs.Stub.Reachability
import TypedHub.Proofs.Stub.Roots
import TypedHub.Proofs.Stub.ReturnTypes
import TypedHub.Proofs.Stub.Subscriptions
import TypedHub.Proofs.Stub.ParameterOrder
import TypedHub.Proofs.Stub.AddedNames
import TypedHub.Proofs.CSharp.Evaluation
import TypedHub.Proofs.Stub.Answers
import TypedHub.Proofs.Stub.AwaitedTypes
import TypedHub.Proofs.CSharp.Reversal
import TypedHub.Proofs.CSharp.LineTerminators
import TypedHub.Proofs.Json.Grammar
import TypedHub.Proofs.Json.Fronts
import TypedHub.Proofs.Json.Numerals
import TypedHub.Proofs.Json.Recognition
import TypedHub.Proofs.Json.Extents
import TypedHub.Proofs.Json.ReaderExtents
import TypedHub.Proofs.Metadata.Extents
import TypedHub.Proofs.Generation.Tolerance
import TypedHub.Proofs.CommandLine.Refusals
import TypedHub.Proofs.Json.Printing
import TypedHub.Proofs.CSharp.Spacing
import TypedHub.Proofs.CSharp.Tidy
import TypedHub.Proofs.Stub.Tidy
import TypedHub.Proofs.Stub.Dump
import TypedHub.Proofs.Stub.FreshName
import TypedHub.Proofs.CSharp.Indentation

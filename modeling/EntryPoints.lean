import EntryPoints.Text.Placeholder
import EntryPoints.Text.Blank
import EntryPoints.Vocabulary.WellKnownMember
import EntryPoints.Vocabulary.SyntheticName
import EntryPoints.Diagnostic.Bag
import EntryPoints.TypeTable.Interning
import EntryPoints.TypeTable.History
import EntryPoints.Body.Printer
import EntryPoints.Synthesis.Output
import EntryPoints.Json.Scanner
import EntryPoints.Json.Decode
import EntryPoints.Json.Stream
import EntryPoints.Manifest.Basic
import EntryPoints.Manifest.Reader
import EntryPoints.Manifest.Build
import EntryPoints.CommandLine.Arguments
import EntryPoints.CommandLine.Files
import EntryPoints.CommandLine.Run
import EntryPoints.Main
import EntryPoints.Proofs.TypeTable.Change
import EntryPoints.Proofs.TypeTable.Hierarchy
import EntryPoints.Proofs.Synthesis.Protocol
import EntryPoints.Proofs.Synthesis.Creation
import EntryPoints.Proofs.Synthesis.Outcome
import EntryPoints.Proofs.Synthesis.TypeSoundness
import EntryPoints.Proofs.Synthesis.DiagnosticExclusion
import EntryPoints.Proofs.Synthesis.ArgumentTypes
import EntryPoints.Proofs.Synthesis.Receivers
import EntryPoints.Proofs.TypeTable.Arrays
import EntryPoints.Proofs.Synthesis.Production
import EntryPoints.Proofs.TypeTable.Futures
import EntryPoints.Proofs.Manifest.Expression
import EntryPoints.Proofs.Manifest.Furnished
import EntryPoints.Proofs.Manifest.Resolution
import EntryPoints.Proofs.Manifest.Declaration
import EntryPoints.Proofs.Manifest.Description
import EntryPoints.Proofs.Manifest.Completion
import EntryPoints.Proofs.Manifest.Contents
import EntryPoints.Proofs.Manifest.Cycles
import EntryPoints.Proofs.Manifest.Endings
import EntryPoints.Proofs.TypeTable.Correspondence
import EntryPoints.Proofs.Synthesis.Correspondence
import EntryPoints.Proofs.Synthesis.Agreement
import EntryPoints.Proofs.Manifest.Identity
import EntryPoints.Proofs.Manifest.Matching
import EntryPoints.Proofs.Manifest.DeclarationOrder
import EntryPoints.Proofs.TypeTable.WellFormed
import EntryPoints.Proofs.TypeTable.Names
import EntryPoints.Proofs.Synthesis.Rendering
import EntryPoints.Proofs.Synthesis.Configuration
import EntryPoints.Proofs.CommandLine.Agreement
import EntryPoints.Proofs.Json.Grammar
import EntryPoints.Proofs.Json.Scanning
import EntryPoints.Proofs.Json.Building
import EntryPoints.Proofs.Json.Records
import EntryPoints.Proofs.Manifest.Presentation
import EntryPoints.Proofs.Manifest.Decoding
import EntryPoints.Proofs.Manifest.UnknownFields
import EntryPoints.Proofs.Synthesis.AwaitResolution
import EntryPoints.Proofs.Manifest.ReservedNames
import EntryPoints.Proofs.TypeTable.UnrelatedGrowth
import EntryPoints.Proofs.Synthesis.Stability
import EntryPoints.Proofs.Text.Trimming
import EntryPoints.Proofs.Manifest.SpellingGrammar
import EntryPoints.Proofs.Manifest.Moments
import EntryPoints.Proofs.Manifest.Spellings
import EntryPoints.Proofs.Manifest.Unwrapping
import EntryPoints.Proofs.Synthesis.InheritedAwait
import EntryPoints.Proofs.Manifest.Faithfulness
import EntryPoints.Proofs.Manifest.Derivation
import EntryPoints.Proofs.Manifest.FirstFault
import EntryPoints.Proofs.TypeTable.Persistence
import EntryPoints.Proofs.TypeTable.Canonical
import EntryPoints.Proofs.Manifest.Repetition
import EntryPoints.Proofs.Synthesis.LaterBodies
import EntryPoints.Proofs.Synthesis.Prerequisites
import EntryPoints.Proofs.TypeTable.DerivationOrder
import EntryPoints.Proofs.TypeTable.UseSites
import EntryPoints.Proofs.Text.Replacement
import EntryPoints.Proofs.Text.Templates
import EntryPoints.Proofs.Diagnostic.Messages
import EntryPoints.Proofs.Manifest.ConservativeFutures
import EntryPoints.Proofs.Body.Nesting

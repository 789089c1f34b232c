import IndicatorWrap.CommandLine.Options
import IndicatorWrap.CommandLine.Run
import IndicatorWrap.Declaration.Cursor
import IndicatorWrap.Declaration.Extraction
import IndicatorWrap.Declaration.Grammar
import IndicatorWrap.Declaration.Reading
import IndicatorWrap.Declaration.Signature
import IndicatorWrap.Declaration.TypeExpr
import IndicatorWrap.Machine.Basic
import IndicatorWrap.Machine.Directory
import IndicatorWrap.Machine.Disk
import IndicatorWrap.Machine.Path
import IndicatorWrap.Machine.World
import IndicatorWrap.Main
import IndicatorWrap.Package.Generate
import IndicatorWrap.Package.Manifest
import IndicatorWrap.Package.Summary
import IndicatorWrap.Package.Writer
import IndicatorWrap.Parameter.Argument
import IndicatorWrap.Parameter.HostType
import IndicatorWrap.Parameter.Name
import IndicatorWrap.Parameter.Role
import IndicatorWrap.Proofs.CommandLine.Arguments
import IndicatorWrap.Proofs.CommandLine.Configuration
import IndicatorWrap.Proofs.CommandLine.EarlyEndings
import IndicatorWrap.Proofs.CommandLine.Endings
import IndicatorWrap.Proofs.CommandLine.Spellings
import IndicatorWrap.Proofs.Declaration.Acceptance
import IndicatorWrap.Proofs.Declaration.Canonical
import IndicatorWrap.Proofs.Declaration.Concatenation
import IndicatorWrap.Proofs.Declaration.Coverage
import IndicatorWrap.Proofs.Declaration.Derivation
import IndicatorWrap.Proofs.Declaration.EarliestFault
import IndicatorWrap.Proofs.Declaration.Faults
import IndicatorWrap.Proofs.Declaration.Headers
import IndicatorWrap.Proofs.Declaration.Identifiers
import IndicatorWrap.Proofs.Declaration.IndicatorNames
import IndicatorWrap.Proofs.Declaration.LayoutIndependence
import IndicatorWrap.Proofs.Declaration.Limits
import IndicatorWrap.Proofs.Declaration.Progress
import IndicatorWrap.Proofs.Declaration.Recognition
import IndicatorWrap.Proofs.Declaration.Relocation
import IndicatorWrap.Proofs.Declaration.Runs
import IndicatorWrap.Proofs.Declaration.Scanning
import IndicatorWrap.Proofs.Declaration.Unbroken
import IndicatorWrap.Proofs.Machine.Calls
import IndicatorWrap.Proofs.Machine.Changes
import IndicatorWrap.Proofs.Machine.Denials
import IndicatorWrap.Proofs.Machine.Growth
import IndicatorWrap.Proofs.Machine.PathParts
import IndicatorWrap.Proofs.Machine.Programs
import IndicatorWrap.Proofs.Machine.Refusals
import IndicatorWrap.Proofs.Machine.Rewrites
import IndicatorWrap.Proofs.Machine.Twins
import IndicatorWrap.Proofs.Package.Agreement
import IndicatorWrap.Proofs.Package.Confinement
import IndicatorWrap.Proofs.Package.Frame
import IndicatorWrap.Proofs.Package.LineEnds
import IndicatorWrap.Proofs.Package.Outcomes
import IndicatorWrap.Proofs.Package.Publication
import IndicatorWrap.Proofs.Package.Regeneration
import IndicatorWrap.Proofs.Package.Report
import IndicatorWrap.Proofs.Package.Rewriting
import IndicatorWrap.Proofs.Package.Stages
import IndicatorWrap.Proofs.Package.WrittenFiles
import IndicatorWrap.Proofs.Parameter.CleanName
import IndicatorWrap.Proofs.Parameter.SnakeCase
import IndicatorWrap.Proofs.Parameter.TypeResolution
import IndicatorWrap.Proofs.Text.Cutting
import IndicatorWrap.Proofs.Text.Decoding
import IndicatorWrap.Proofs.Text.EncodedLines
import IndicatorWrap.Proofs.Text.Lines
import IndicatorWrap.Proofs.Text.Lowercase
import IndicatorWrap.Proofs.Text.Numerals
import IndicatorWrap.Proofs.Text.Words
import IndicatorWrap.Proofs.Token.CommentEnd
import IndicatorWrap.Proofs.Token.Gap
import IndicatorWrap.Proofs.Token.Layout
import IndicatorWrap.Proofs.Token.Lexemes
import IndicatorWrap.Proofs.Token.Lossless
import IndicatorWrap.Proofs.Token.Seam
import IndicatorWrap.Proofs.Token.Spelling
import IndicatorWrap.Proofs.Wrapper.Accepted
import IndicatorWrap.Proofs.Wrapper.BodyLines
import IndicatorWrap.Proofs.Wrapper.Builds
import IndicatorWrap.Proofs.Wrapper.Departure
import IndicatorWrap.Proofs.Wrapper.EmittedCall
import IndicatorWrap.Proofs.Wrapper.ForeignCall
import IndicatorWrap.Proofs.Wrapper.Imports
import IndicatorWrap.Proofs.Wrapper.Independence
import IndicatorWrap.Proofs.Wrapper.LastDeclared
import IndicatorWrap.Proofs.Wrapper.LocalNames
import IndicatorWrap.Proofs.Wrapper.ModuleName
import IndicatorWrap.Proofs.Wrapper.OutputBuffers
import IndicatorWrap.Proofs.Wrapper.Prototype
import IndicatorWrap.Proofs.Wrapper.Replacements
import IndicatorWrap.Proofs.Wrapper.SourceLines
import IndicatorWrap.Proofs.Wrapper.Verdict
import IndicatorWrap.Text.Blank
import IndicatorWrap.Text.Casing
import IndicatorWrap.Text.Digit
import IndicatorWrap.Text.Lines
import IndicatorWrap.Text.Lowercase
import IndicatorWrap.Text.Numeral
import IndicatorWrap.Text.Printable
import IndicatorWrap.Text.Quoted
import IndicatorWrap.Text.Ranges
import IndicatorWrap.Text.Utf8
import IndicatorWrap.Token
import IndicatorWrap.Token.Comment
import IndicatorWrap.Token.Lexer
import IndicatorWrap.Wrapper.Artifact
import IndicatorWrap.Wrapper.Convention
import IndicatorWrap.Wrapper.Failure
import IndicatorWrap.Wrapper.Source

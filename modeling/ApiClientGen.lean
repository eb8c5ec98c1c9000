import ApiClientGen.Main
import ApiClientGen.Proofs.InterpolatedString
import ApiClientGen.Proofs.PathLiteral
import ApiClientGen.Proofs.DeclaredOperations
import ApiClientGen.Proofs.TextPieces
import ApiClientGen.Proofs.AsciiLetters
import ApiClientGen.Proofs.Escapes
import ApiClientGen.Proofs.LiteralReading
import ApiClientGen.Proofs.NameCharacters
import ApiClientGen.Proofs.MethodSignature
import ApiClientGen.Proofs.References
import ApiClientGen.Proofs.PlaceholderHoles
import ApiClientGen.Proofs.ShapeAcceptance
import ApiClientGen.Proofs.DocumentAcceptance
import ApiClientGen.Proofs.PathWalk
import ApiClientGen.Proofs.TreeChanges
import ApiClientGen.Proofs.GeneratedNames
import ApiClientGen.Proofs.OutputConfinement
import ApiClientGen.Proofs.CommandRuns
import ApiClientGen.Proofs.DistinctKeys
import ApiClientGen.Proofs.NodeParts
import ApiClientGen.Proofs.PathWarnings
import ApiClientGen.Proofs.ReadingBack
import ApiClientGen.Proofs.SchemaAccounting
import ApiClientGen.Proofs.OperationWarnings
import ApiClientGen.Proofs.PathSegments
import ApiClientGen.Proofs.FileList
import ApiClientGen.Proofs.SkippedParts
import ApiClientGen.Proofs.BareNames
import ApiClientGen.Proofs.CaseImages
import ApiClientGen.Proofs.OperationNames
import ApiClientGen.Proofs.DocumentChanges
import ApiClientGen.Proofs.ReadParts
import ApiClientGen.Proofs.UnreadKeys
import ApiClientGen.Proofs.OneLineTexts
import ApiClientGen.Proofs.ClientLines
import ApiClientGen.Proofs.RepeatedRoutes
import ApiClientGen.Proofs.SchemaWarnings
import ApiClientGen.Proofs.ListedParts
import ApiClientGen.Proofs.ListedNodes
import ApiClientGen.Proofs.LostModels
import ApiClientGen.Proofs.MemberNames
import ApiClientGen.Proofs.WireNames
import ApiClientGen.Proofs.CommentWords
import ApiClientGen.Proofs.SegmentNames
import ApiClientGen.Proofs.ParameterCharacters
import ApiClientGen.Proofs.ParameterOverrides
import ApiClientGen.Proofs.ContentPreference
import ApiClientGen.Proofs.GuardedNames
import ApiClientGen.Proofs.LexicalPaths
import ApiClientGen.Proofs.ContainedWriting
import ApiClientGen.Proofs.SourceFormats
import ApiClientGen.Proofs.LiteralLineEnds
import ApiClientGen.Proofs.NameSearch
import ApiClientGen.Proofs.SanitizedNames

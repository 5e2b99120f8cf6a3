import KSharp.Main
import KSharp.Proofs.CharacterClasses
import KSharp.Proofs.EscapeRoundTrip
import KSharp.Proofs.LiteralBodies
import KSharp.Proofs.LenientRecovery
import KSharp.Proofs.ParameterPairing
import KSharp.Proofs.SourceCoverage
import KSharp.Proofs.TokenPlacement
import KSharp.Proofs.NumberGrammar
import KSharp.Proofs.LexemeGrammar
import KSharp.Proofs.ParameterValues
import KSharp.Proofs.LexemeSteps
import KSharp.Proofs.QuotedLiterals
import KSharp.Proofs.ErrorCuts
import KSharp.Proofs.TokenReprinting
import KSharp.Proofs.RunTranslation
import KSharp.Proofs.LineConcatenation
import KSharp.Proofs.TriviaInsertion
import KSharp.Proofs.ByteRanges
import KSharp.Proofs.ErrorCauses
import KSharp.Proofs.ErrorPlaces
import KSharp.Proofs.LineChecks
import KSharp.Proofs.TokenLaws
import KSharp.Proofs.EscapeDecoding
import KSharp.Proofs.QuotedValues
import KSharp.Proofs.ParameterBoundaries
import KSharp.Proofs.EscapedText
import KSharp.Proofs.OperatorMatches
import KSharp.Proofs.VerbatimLiterals
import KSharp.Proofs.WrittenValues
import KSharp.Proofs.StreamExhaustion
import KSharp.Proofs.ReachableLexers
import KSharp.Proofs.TrailingBlanks
import KSharp.Proofs.WordClassification
import KSharp.Proofs.LabelPlaces
import KSharp.Proofs.PromptSessions
import KSharp.Proofs.DisplayLines
import KSharp.Proofs.JsonTexts
import KSharp.Proofs.StepBounds

import ChannelFilter.Main
import ChannelFilter.Proofs.ConditionGrammar
import ChannelFilter.Proofs.ShiftedTokens
import ChannelFilter.Proofs.GrammarReading
import ChannelFilter.Proofs.ConditionPrinting
import ChannelFilter.Proofs.DocumentMeaning
import ChannelFilter.Proofs.Completion
import ChannelFilter.Proofs.LongestCondition
import ChannelFilter.Proofs.FirstWrongToken
import ChannelFilter.Proofs.CharacterClasses
import ChannelFilter.Proofs.TokenReading
import ChannelFilter.Proofs.TokenSpans
import ChannelFilter.Proofs.RespelledTokens
import ChannelFilter.Proofs.NestingLimit
import ChannelFilter.Proofs.NearestDouble
import ChannelFilter.Proofs.RepeatedCalls
import ChannelFilter.Proofs.NumberLiterals
import ChannelFilter.Proofs.WrittenNumbers
import ChannelFilter.Proofs.DocumentLayout
import ChannelFilter.Proofs.WrittenDocuments
import ChannelFilter.Proofs.NormalConditions
import ChannelFilter.Proofs.ExpectedKinds
import ChannelFilter.Proofs.Lookahead
import ChannelFilter.Proofs.SessionLines
import ChannelFilter.Proofs.TokenDocuments
import ChannelFilter.Proofs.DocumentDepth
import ChannelFilter.Proofs.RenamedChannels
import ChannelFilter.Proofs.RenderedNumbers
import ChannelFilter.Proofs.DecimalValues
import ChannelFilter.Proofs.SpelledNumbers
import ChannelFilter.Proofs.JoinedTexts
import ChannelFilter.Proofs.ObjectFields
import ChannelFilter.Proofs.ChannelPaths
import ChannelFilter.Proofs.MappingDocuments
import ChannelFilter.Proofs.QuotedLiterals
import ChannelFilter.Proofs.CursorCalls

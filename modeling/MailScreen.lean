import MailScreen.Attachment.Extraction
import MailScreen.Command.Run
import MailScreen.Header.Structured
import MailScreen.Main
import MailScreen.Message.Format
import MailScreen.Proofs.Attachment.Containment
import MailScreen.Proofs.Attachment.Extension
import MailScreen.Proofs.Attachment.Folding
import MailScreen.Proofs.Attachment.NamedPart
import MailScreen.Proofs.Attachment.PartHeaders
import MailScreen.Proofs.Attachment.Qualification
import MailScreen.Proofs.Attachment.RecordForm
import MailScreen.Proofs.Attachment.SeparateHeaders
import MailScreen.Proofs.Attachment.TagLists
import MailScreen.Proofs.Attachment.Tally
import MailScreen.Proofs.Attachment.WebPages
import MailScreen.Proofs.Charset.Base64
import MailScreen.Proofs.Charset.Refusal
import MailScreen.Proofs.Charset.StrictUtf8
import MailScreen.Proofs.Charset.Utf8
import MailScreen.Proofs.Command.CommandLine
import MailScreen.Proofs.Command.FilesApart
import MailScreen.Proofs.Command.KeptRules
import MailScreen.Proofs.Command.Outcomes
import MailScreen.Proofs.Command.PathForm
import MailScreen.Proofs.FirstFailure
import MailScreen.Proofs.FirstOccurrence
import MailScreen.Proofs.Header.BareValue
import MailScreen.Proofs.Header.Combination
import MailScreen.Proofs.Header.CommentTrace
import MailScreen.Proofs.Header.Continuation
import MailScreen.Proofs.Header.EncodedWords
import MailScreen.Proofs.Header.Gathering
import MailScreen.Proofs.Header.InComment
import MailScreen.Proofs.Header.Items
import MailScreen.Proofs.Header.Joining
import MailScreen.Proofs.Header.Leftovers
import MailScreen.Proofs.Header.Leniency
import MailScreen.Proofs.Header.LiteralSections
import MailScreen.Proofs.Header.Noise
import MailScreen.Proofs.Header.OneParameter
import MailScreen.Proofs.Header.ParameterNames
import MailScreen.Proofs.Header.PassedOver
import MailScreen.Proofs.Header.PercentForm
import MailScreen.Proofs.Header.Primary
import MailScreen.Proofs.Header.QuotedParameter
import MailScreen.Proofs.Header.Skipping
import MailScreen.Proofs.Header.Spacing
import MailScreen.Proofs.Header.Stretch
import MailScreen.Proofs.Header.TrailingComment
import MailScreen.Proofs.Header.Turns
import MailScreen.Proofs.Header.Unusable
import MailScreen.Proofs.Header.WordForm
import MailScreen.Proofs.Header.WrittenHeader
import MailScreen.Proofs.Message.AttachmentHeaders
import MailScreen.Proofs.Message.Conversion
import MailScreen.Proofs.Message.FormattedParameter
import MailScreen.Proofs.Message.Lines
import MailScreen.Proofs.Message.Percent
import MailScreen.Proofs.Message.Quotation
import MailScreen.Proofs.Message.RecoveredHeaders
import MailScreen.Proofs.Message.Settled
import MailScreen.Proofs.Message.ShownType
import MailScreen.Proofs.Message.TypeValue
import MailScreen.Proofs.Message.WrittenParts
import MailScreen.Proofs.Pattern.Leaving
import MailScreen.Proofs.Rule.Compiled
import MailScreen.Proofs.Rule.Composition
import MailScreen.Proofs.Rule.Content
import MailScreen.Proofs.Rule.CountLines
import MailScreen.Proofs.Rule.Delimiters
import MailScreen.Proofs.Rule.Evaluation
import MailScreen.Proofs.Rule.Faults
import MailScreen.Proofs.Rule.Loading
import MailScreen.Proofs.Rule.MistypedLetters
import MailScreen.Proofs.Rule.Names
import MailScreen.Proofs.Rule.Printing
import MailScreen.Proofs.Rule.Strictness
import MailScreen.Proofs.Rule.TakenApart
import MailScreen.Proofs.Rule.Uncompilable
import MailScreen.Proofs.Rule.Verdict
import MailScreen.Proofs.Rule.WrittenLines
import MailScreen.Proofs.Scan.PartOrder
import MailScreen.Proofs.Scan.ReaderChoice
import MailScreen.Proofs.Scan.Report
import MailScreen.Proofs.Scan.TagLines
import MailScreen.Proofs.Table
import MailScreen.Proofs.Text.Ascii
import MailScreen.Proofs.Text.Integer
import MailScreen.Proofs.Text.Join
import MailScreen.Proofs.Text.Line
import MailScreen.Proofs.Text.Lower
import MailScreen.Proofs.Text.Trim
import MailScreen.Report.ScanDocument
import MailScreen.Report.TagHeaders
import MailScreen.Rule.Evaluation
import MailScreen.Scan.Scanner

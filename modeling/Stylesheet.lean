import Stylesheet.Main
import Stylesheet.Proofs.DispatchInvariant
import Stylesheet.Proofs.Lossless
import Stylesheet.Proofs.Progress
import Stylesheet.Proofs.ReindentTwice
import Stylesheet.Proofs.SheetNeutral
import Stylesheet.Proofs.ClosingBrace
import Stylesheet.Proofs.Columns
import Stylesheet.Proofs.LeadingSpace
import Stylesheet.Proofs.ReindentContent
import Stylesheet.Proofs.Continuations
import Stylesheet.Proofs.Comments
import Stylesheet.Proofs.Interpolations
import Stylesheet.Proofs.InlineBody
import Stylesheet.Proofs.HostLoop
import Stylesheet.Proofs.ReindentLayout
import Stylesheet.Proofs.DescriptorRules
import Stylesheet.Proofs.StackDiscipline
import Stylesheet.Proofs.AbandonedRules
import Stylesheet.Proofs.PlainDialects
import Stylesheet.Proofs.Requests
import Stylesheet.Proofs.EscapeParity
import Stylesheet.Proofs.TokenAt
import Stylesheet.Proofs.ClosingIndent
import Stylesheet.Proofs.CommentLines
import Stylesheet.Proofs.MaximalLexemes
import Stylesheet.Proofs.BytePatterns
import Stylesheet.Proofs.ByteRuns
import Stylesheet.Proofs.TypedCompletions
import Stylesheet.Proofs.ValueWords
import Stylesheet.Proofs.Positions
import Stylesheet.Proofs.OptionLists
import Stylesheet.Proofs.WordOrder
import Stylesheet.Proofs.ValueExpansion
import Stylesheet.Proofs.ListingRows
import Stylesheet.Proofs.OpeningLines
import Stylesheet.Proofs.PropertyName

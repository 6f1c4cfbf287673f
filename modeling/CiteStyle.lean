import CiteStyle.Cite
import CiteStyle.Config
import CiteStyle.Date.Basic
import CiteStyle.Date.Json
import CiteStyle.Date.YearMonth
import CiteStyle.DateText.Pattern
import CiteStyle.DateText.Reader
import CiteStyle.DateText.Scan
import CiteStyle.Decimal.Binary64
import CiteStyle.Decimal.Shortest
import CiteStyle.Decoration
import CiteStyle.Entries
import CiteStyle.Json.Basic
import CiteStyle.Json.Fields
import CiteStyle.Json.Reader
import CiteStyle.Json.Writer
import CiteStyle.Json.Yaml
import CiteStyle.Locale.Basic
import CiteStyle.Locale.DateFormat
import CiteStyle.Locale.English
import CiteStyle.Locale.Json
import CiteStyle.Locale.Months
import CiteStyle.Locale.Term
import CiteStyle.Locator
import CiteStyle.Name.Basic
import CiteStyle.Name.Braces
import CiteStyle.Name.Initials
import CiteStyle.Name.Json
import CiteStyle.Name.Reader
import CiteStyle.NameOptions
import CiteStyle.Numeric
import CiteStyle.Output.Buffer
import CiteStyle.Output.Formatting
import CiteStyle.Output.Markup
import CiteStyle.Pages.Basic
import CiteStyle.Pages.RangeFormat
import CiteStyle.Pages.Reader
import CiteStyle.Proofs.BareYears
import CiteStyle.Proofs.BlankKinds
import CiteStyle.Proofs.BraceGroups
import CiteStyle.Proofs.BracedNames
import CiteStyle.Proofs.CallDepth
import CiteStyle.Proofs.Capitals
import CiteStyle.Proofs.CapturedNumbers
import CiteStyle.Proofs.Captures
import CiteStyle.Proofs.CaseChanges
import CiteStyle.Proofs.CaseFolding
import CiteStyle.Proofs.CheckedSteps
import CiteStyle.Proofs.ChoiceGrammar
import CiteStyle.Proofs.Citations
import CiteStyle.Proofs.DateFallback
import CiteStyle.Proofs.DatePatterns
import CiteStyle.Proofs.DateRanges
import CiteStyle.Proofs.DateScans
import CiteStyle.Proofs.Digits
import CiteStyle.Proofs.DisplayGroups
import CiteStyle.Proofs.ElementOutput
import CiteStyle.Proofs.EmptiedPages
import CiteStyle.Proofs.EmptyFields
import CiteStyle.Proofs.FilledOutput
import CiteStyle.Proofs.FormattingBlind
import CiteStyle.Proofs.FormattingWords
import CiteStyle.Proofs.GivenWords
import CiteStyle.Proofs.GroupItems
import CiteStyle.Proofs.GroupPartition
import CiteStyle.Proofs.Hearing
import CiteStyle.Proofs.HtmlOutput
import CiteStyle.Proofs.HtmlReading
import CiteStyle.Proofs.InPlace
import CiteStyle.Proofs.JoinedMarkup
import CiteStyle.Proofs.LabelSequences
import CiteStyle.Proofs.LastJoint
import CiteStyle.Proofs.ListTexts
import CiteStyle.Proofs.LocaleOverlay
import CiteStyle.Proofs.LocalizedDates
import CiteStyle.Proofs.LocatorTokens
import CiteStyle.Proofs.LosingCandidates
import CiteStyle.Proofs.MacroCalls
import CiteStyle.Proofs.MacroCheck
import CiteStyle.Proofs.MacroFaults
import CiteStyle.Proofs.MarkupWalk
import CiteStyle.Proofs.MonthLists
import CiteStyle.Proofs.MonthNumbers
import CiteStyle.Proofs.MonthTables
import CiteStyle.Proofs.NameDelimiters
import CiteStyle.Proofs.NameLabels
import CiteStyle.Proofs.NameLists
import CiteStyle.Proofs.NameWords
import CiteStyle.Proofs.NamedMonths
import CiteStyle.Proofs.NestedFormatting
import CiteStyle.Proofs.NumberedDates
import CiteStyle.Proofs.NumericTokens
import CiteStyle.Proofs.OutputLaws
import CiteStyle.Proofs.OutsideGroups
import CiteStyle.Proofs.PageCounts
import CiteStyle.Proofs.PageGrammar
import CiteStyle.Proofs.PageLiterals
import CiteStyle.Proofs.PageRanges
import CiteStyle.Proofs.PartLabels
import CiteStyle.Proofs.PassAgreement
import CiteStyle.Proofs.RangeDelimiters
import CiteStyle.Proofs.RangeEnds
import CiteStyle.Proofs.ReaderTables
import CiteStyle.Proofs.RenderCalls
import CiteStyle.Proofs.RewrittenDates
import CiteStyle.Proofs.Runs
import CiteStyle.Proofs.ScanReadings
import CiteStyle.Proofs.SecondHalves
import CiteStyle.Proofs.SessionSteps
import CiteStyle.Proofs.ShownOutput
import CiteStyle.Proofs.StepLaws
import CiteStyle.Proofs.StepRelations
import CiteStyle.Proofs.Substitutes
import CiteStyle.Proofs.Suppression
import CiteStyle.Proofs.TitleWords
import CiteStyle.Proofs.TokenTexts
import CiteStyle.Proofs.Unformatted
import CiteStyle.Proofs.UnnumberedPages
import CiteStyle.Proofs.WrittenDates
import CiteStyle.Proofs.WrittenJson
import CiteStyle.Proofs.WrittenNames
import CiteStyle.Record.Basic
import CiteStyle.Record.Json
import CiteStyle.Render.Condition
import CiteStyle.Render.Date
import CiteStyle.Render.Element
import CiteStyle.Render.Names
import CiteStyle.Render.Number
import CiteStyle.Render.Pass
import CiteStyle.Render.Session
import CiteStyle.Render.Session.Basic
import CiteStyle.Render.Session.Layout
import CiteStyle.Render.Session.Operation
import CiteStyle.Render.Setting
import CiteStyle.Render.Style
import CiteStyle.Style.Basic
import CiteStyle.Style.Element
import CiteStyle.Style.ElementXml
import CiteStyle.Style.Fault
import CiteStyle.Style.Macros
import CiteStyle.Style.Xml
import CiteStyle.Text.Case
import CiteStyle.Text.CaseTable
import CiteStyle.Text.Character
import CiteStyle.Text.Cut
import CiteStyle.Text.Integer
import CiteStyle.Text.LetterTable
import CiteStyle.TextCase
import CiteStyle.Xml.Element
import CiteStyle.Xml.Reader
import CiteStyle.Xml.Token

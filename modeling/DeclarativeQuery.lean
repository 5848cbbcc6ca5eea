import DeclarativeQuery.Decimal
import DeclarativeQuery.Description.Basic
import DeclarativeQuery.Description.Payload
import DeclarativeQuery.Error
import DeclarativeQuery.Filter
import DeclarativeQuery.Json.Basic
import DeclarativeQuery.Json.Reader
import DeclarativeQuery.Plan.Call
import DeclarativeQuery.Plan.Recorder
import DeclarativeQuery.Plan.Request
import DeclarativeQuery.Proofs.AppliedDescription
import DeclarativeQuery.Proofs.Atomicity
import DeclarativeQuery.Proofs.CanonicalOperators
import DeclarativeQuery.Proofs.CaseVariants
import DeclarativeQuery.Proofs.DecimalNumerals
import DeclarativeQuery.Proofs.DescriptionEntries
import DeclarativeQuery.Proofs.DescriptionFaults
import DeclarativeQuery.Proofs.DescriptionFrame
import DeclarativeQuery.Proofs.DescriptionReading
import DeclarativeQuery.Proofs.ErrorPrecedence
import DeclarativeQuery.Proofs.FilterBlanking
import DeclarativeQuery.Proofs.FilterConditions
import DeclarativeQuery.Proofs.FilterDepth
import DeclarativeQuery.Proofs.FilterEntries
import DeclarativeQuery.Proofs.FilterGrammar
import DeclarativeQuery.Proofs.FilterMeaning
import DeclarativeQuery.Proofs.FilterReading
import DeclarativeQuery.Proofs.FilterRefusals
import DeclarativeQuery.Proofs.GroupedFilters
import DeclarativeQuery.Proofs.HavingFilters
import DeclarativeQuery.Proofs.IndependentDescriptions
import DeclarativeQuery.Proofs.InnerQueries
import DeclarativeQuery.Proofs.KnownScopes
import DeclarativeQuery.Proofs.LiteralEntries
import DeclarativeQuery.Proofs.LiteralRendering
import DeclarativeQuery.Proofs.LiteralSafety
import DeclarativeQuery.Proofs.LiteralScan
import DeclarativeQuery.Proofs.LoadSequences
import DeclarativeQuery.Proofs.LoadedRelations
import DeclarativeQuery.Proofs.LowerCase
import DeclarativeQuery.Proofs.MergedLoads
import DeclarativeQuery.Proofs.NestingLimit
import DeclarativeQuery.Proofs.NullEntries
import DeclarativeQuery.Proofs.OrderTerms
import DeclarativeQuery.Proofs.OuterText
import DeclarativeQuery.Proofs.PagingBounds
import DeclarativeQuery.Proofs.PlainInclusions
import DeclarativeQuery.Proofs.QueryEdits
import DeclarativeQuery.Proofs.QuoteFreeText
import DeclarativeQuery.Proofs.Reaching
import DeclarativeQuery.Proofs.RelationNames
import DeclarativeQuery.Proofs.RestatedDescriptions
import DeclarativeQuery.Proofs.RestrictedQueries
import DeclarativeQuery.Proofs.SearchConditions
import DeclarativeQuery.Proofs.SearchPatterns
import DeclarativeQuery.Proofs.SelectLists
import DeclarativeQuery.Proofs.Sequencing
import DeclarativeQuery.Proofs.SettingLayers
import DeclarativeQuery.Proofs.SettingNames
import DeclarativeQuery.Proofs.SettingSources
import DeclarativeQuery.Proofs.SettingWrites
import DeclarativeQuery.Proofs.SoundQueries
import DeclarativeQuery.Proofs.TextMeaning
import DeclarativeQuery.Proofs.TiedSubqueries
import DeclarativeQuery.Proofs.TrimmedText
import DeclarativeQuery.Proofs.VisibleNames
import DeclarativeQuery.Proofs.WaysOfAsking
import DeclarativeQuery.Proofs.WrappedFilters
import DeclarativeQuery.Query.Basic
import DeclarativeQuery.Query.Run
import DeclarativeQuery.Query.Step
import DeclarativeQuery.Settings
import DeclarativeQuery.Settings.LayerValue
import DeclarativeQuery.Settings.Layers
import DeclarativeQuery.Sql.Condition
import DeclarativeQuery.Sql.Words
import DeclarativeQuery.Text.Blank
import DeclarativeQuery.Text.Case
import DeclarativeQuery.Text.Numeral
import DeclarativeQuery.Text.Quoted

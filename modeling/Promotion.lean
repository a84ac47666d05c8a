import Promotion.Action
import Promotion.Aggregate
import Promotion.Config.Basic
import Promotion.Config.Load
import Promotion.Config.Logger
import Promotion.Config.Reading
import Promotion.Config.Record
import Promotion.Config.Tree
import Promotion.Config.Value
import Promotion.Config.Variables
import Promotion.Config.VariablesFile
import Promotion.Decimal.Basic
import Promotion.Decimal.Double
import Promotion.Decimal.Text
import Promotion.Dict
import Promotion.Effect
import Promotion.Engine.Call
import Promotion.Engine.Routing
import Promotion.Engine.Timeline
import Promotion.Failure
import Promotion.FileTree
import Promotion.Fixture
import Promotion.Json.Basic
import Promotion.Json.Mismatch
import Promotion.Json.Outline
import Promotion.Json.Parser
import Promotion.Json.Printer
import Promotion.Json.Reader
import Promotion.Main
import Promotion.Mapping.Evaluator
import Promotion.Mapping.Parser
import Promotion.Mapping.Rule
import Promotion.Money
import Promotion.Number.Double
import Promotion.Number.Extended
import Promotion.Number.Reading
import Promotion.Number.Shortest
import Promotion.Outcome
import Promotion.Placement
import Promotion.Processor
import Promotion.Proofs.Dict
import Promotion.Proofs.Fields
import Promotion.Replay
import Promotion.Retry
import Promotion.Rounding
import Promotion.Session
import Promotion.Settings
import Promotion.Shop.LineItem
import Promotion.Shop.Resource
import Promotion.Sku
import Promotion.Slug
import Promotion.Tally
import Promotion.Text.Blank
import Promotion.Text.Class
import Promotion.Text.Numeral
import Promotion.Text.Quoted
import Promotion.Text.Split
import Promotion.Text.Table.Alphabetic
import Promotion.Text.Table.Number
import Promotion.Text.Table.Unprintable
import Promotion.Text.Table.UpperCase
import Promotion.Text.Table.Word
import Promotion.Text.UpperCase
import Promotion.Toml.Document
import Promotion.Toml.Moment
import Promotion.Toml.Number
import Promotion.Toml.Table
import Promotion.Toml.Text
import Promotion.Toml.Value
import Promotion.Update
import Promotion.Proofs.CartActions
import Promotion.Proofs.CartFields
import Promotion.Proofs.PromotionLines
import Promotion.Proofs.Isolation
import Promotion.Proofs.StoredFields
import Promotion.Proofs.Refusal
import Promotion.Proofs.Timing
import Promotion.Proofs.Numeral
import Promotion.Proofs.DiscountLines
import Promotion.Proofs.SkuIdentity
import Promotion.Proofs.SessionItems
import Promotion.Proofs.Cutting
import Promotion.Proofs.RuleGrammar
import Promotion.Proofs.RulePrinting
import Promotion.Proofs.RetryLoop
import Promotion.Proofs.LetterCase
import Promotion.Proofs.Recordings
import Promotion.Proofs.UpperCase
import Promotion.Proofs.RoutingTable
import Promotion.Proofs.SharedCredentials
import Promotion.Proofs.EffectCounts
import Promotion.Proofs.Absorption
import Promotion.Proofs.IgnoredEntries
import Promotion.Proofs.Gifts
import Promotion.Proofs.Nearest
import Promotion.Proofs.DiscountSteps
import Promotion.Proofs.SeparateRules
import Promotion.Proofs.AttributeValues
import Promotion.Proofs.LastFound
import Promotion.Proofs.Paths
import Promotion.Proofs.SmallestUnits
import Promotion.Proofs.Rounded
import Promotion.Proofs.UnitAmounts
import Promotion.Proofs.Sums
import Promotion.Proofs.Doubles
import Promotion.Proofs.NumberTexts
import Promotion.Proofs.SumRounding
import Promotion.Proofs.ByteOrder
import Promotion.Proofs.Spellings
import Promotion.Proofs.CredentialKeys
import Promotion.Proofs.Gathering
import Promotion.Proofs.WrittenJson
import Promotion.Proofs.EncodedLists
import Promotion.Proofs.CallHistories
import Promotion.Proofs.StableInsertion
import Promotion.Proofs.DecidingMembers
import Promotion.Proofs.LoadedSettings
import Promotion.Proofs.SerializedActions
import Promotion.Proofs.ExactProducts
import Promotion.Proofs.Waits
import Promotion.Proofs.NamesInSlugs
import Promotion.Proofs.FreeSlugs

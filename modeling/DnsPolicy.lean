import DnsPolicy.Main
import DnsPolicy.Classifier.History
import DnsPolicy.Policy.Calls
import DnsPolicy.Reloader.Scene
import DnsPolicy.Reloader.History
import DnsPolicy.Ruleset.Scan
import DnsPolicy.Proofs.Ancestry
import DnsPolicy.Proofs.Selection
import DnsPolicy.Proofs.IndexInvariant
import DnsPolicy.Proofs.Lookup
import DnsPolicy.Proofs.Placement
import DnsPolicy.Proofs.ParentDomains
import DnsPolicy.Proofs.RewriteWalk
import DnsPolicy.Proofs.NearestDomain
import DnsPolicy.Proofs.TableEdits
import DnsPolicy.Proofs.Decorations
import DnsPolicy.Rule.Printer
import DnsPolicy.Proofs.ModifierText
import DnsPolicy.Proofs.RuleText
import DnsPolicy.Proofs.WholeExpressions
import DnsPolicy.Proofs.InstallOrder
import DnsPolicy.Proofs.Precedence
import DnsPolicy.Proofs.Provenance
import DnsPolicy.Proofs.WellFormed
import DnsPolicy.Proofs.Building
import DnsPolicy.Proofs.Reasons
import DnsPolicy.Proofs.AddedRule
import DnsPolicy.Proofs.NewestWins
import DnsPolicy.Proofs.FailedRebuild
import DnsPolicy.Proofs.Lowercasing
import DnsPolicy.Proofs.Trimming
import DnsPolicy.Proofs.PlainChars
import DnsPolicy.Proofs.NormalForm
import DnsPolicy.Proofs.SettingsEdits
import DnsPolicy.Proofs.Rounds
import DnsPolicy.Proofs.Turns
import DnsPolicy.Proofs.CachedVerdicts
import DnsPolicy.Proofs.PanelHistory
import DnsPolicy.Policy.Scene
import DnsPolicy.Proofs.Rearranged
import DnsPolicy.Proofs.Closing
import DnsPolicy.Proofs.Digits
import DnsPolicy.Proofs.AddressText
import DnsPolicy.Proofs.JsonText
import DnsPolicy.Proofs.DecisionText
import DnsPolicy.Proofs.LetterCase
import DnsPolicy.Proofs.Respelling
import DnsPolicy.Proofs.TrailingComments
import DnsPolicy.Proofs.RespelledCalls
import DnsPolicy.Proofs.Utf8Text
import DnsPolicy.Proofs.FirstFault
import DnsPolicy.Proofs.JoinedLists
import DnsPolicy.Proofs.ValidatedFiles
import DnsPolicy.Proofs.CheckedHosts
import DnsPolicy.Proofs.RegexSearch
import DnsPolicy.Proofs.Globs
import DnsPolicy.Proofs.YamlWords
import DnsPolicy.Proofs.YamlLines
import DnsPolicy.Proofs.SettingsTokens
import DnsPolicy.Proofs.SettingsText
import DnsPolicy.Proofs.WildcardSource

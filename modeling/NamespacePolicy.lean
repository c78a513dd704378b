import NamespacePolicy.Files.Tree
import NamespacePolicy.Main
import NamespacePolicy.Policy.Edit
import NamespacePolicy.Proofs.Accumulation
import NamespacePolicy.Proofs.Ancestry
import NamespacePolicy.Proofs.Drafts
import NamespacePolicy.Proofs.Merge
import NamespacePolicy.Proofs.Paths
import NamespacePolicy.Proofs.Refresh
import NamespacePolicy.Proofs.RuleSelection
import NamespacePolicy.Proofs.ValidatorRuns
import NamespacePolicy.Proofs.CacheCounters
import NamespacePolicy.Proofs.Verdicts
import NamespacePolicy.Proofs.Alignment
import NamespacePolicy.Proofs.Ranking
import NamespacePolicy.Proofs.LevelChain
import NamespacePolicy.Proofs.Generations
import NamespacePolicy.Proofs.ProjectFolder
import NamespacePolicy.Proofs.WildcardScore
import NamespacePolicy.Proofs.Narrowing
import NamespacePolicy.Proofs.Locality
import NamespacePolicy.Proofs.Replay
import NamespacePolicy.Proofs.Places
import NamespacePolicy.Proofs.Visibility
import NamespacePolicy.Proofs.Passes
import NamespacePolicy.Proofs.CheckReport
import NamespacePolicy.Proofs.Coincidence
import NamespacePolicy.Proofs.ReportRoundTrip
import NamespacePolicy.Proofs.Analyses
import NamespacePolicy.Proofs.PatternGrammar
import NamespacePolicy.Proofs.PatternKeys
import NamespacePolicy.Proofs.TreeWildcards
import NamespacePolicy.Proofs.RegexSearch
import NamespacePolicy.Proofs.RegexReading
import NamespacePolicy.Proofs.RegexParts
import NamespacePolicy.Proofs.RegexGroups
import NamespacePolicy.Proofs.WholeNames
import NamespacePolicy.Proofs.RuleOrder
import NamespacePolicy.Proofs.FirstRejection
import NamespacePolicy.Proofs.Walks
import NamespacePolicy.Proofs.Normalization
import NamespacePolicy.Proofs.Exclusion
import NamespacePolicy.Proofs.FolderGlobs
import NamespacePolicy.Proofs.FirstBadByte
import NamespacePolicy.Proofs.Positions
import NamespacePolicy.Proofs.DependencyLists
import NamespacePolicy.Proofs.PolicyDecoding

import CallAtlas.Files.Tree
import CallAtlas.Main
import CallAtlas.Proofs.Exactness
import CallAtlas.Proofs.FocusResolution
import CallAtlas.Proofs.Loading
import CallAtlas.Proofs.NodeNames
import CallAtlas.Proofs.SameFunctions
import CallAtlas.Proofs.Restriction
import CallAtlas.Proofs.Reversal
import CallAtlas.Proofs.OrderIndependence
import CallAtlas.Proofs.CrateRoots
import CallAtlas.Proofs.ShownEntries
import CallAtlas.Proofs.PathGrammar
import CallAtlas.Proofs.ManifestLinking
import CallAtlas.Proofs.ExistingIds
import CallAtlas.Proofs.InnermostCaller
import CallAtlas.Proofs.StoreRecord
import CallAtlas.Proofs.DocumentOrder
import CallAtlas.Proofs.GraphDrawings
import CallAtlas.Proofs.PrefixOrder
import CallAtlas.Proofs.WrapperChains
import CallAtlas.Proofs.FocusAnswers
import CallAtlas.Proofs.Receivers
import CallAtlas.Proofs.IdRenaming
import CallAtlas.Proofs.ClusterPartition
import CallAtlas.Proofs.SettingsChecks
import CallAtlas.Proofs.CommaLists
import CallAtlas.Proofs.FailingRuns
import CallAtlas.Proofs.QuotedValues

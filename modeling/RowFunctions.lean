import RowFunctions.Main
import RowFunctions.Proofs.PlanOrderResolution
import RowFunctions.Proofs.PlanRoundTrip
import RowFunctions.Proofs.CatalogDocuments
import RowFunctions.Proofs.IndependentCalls
import RowFunctions.Proofs.SessionHistories
import RowFunctions.Proofs.FailedCalls
import RowFunctions.Proofs.StandaloneViews
import RowFunctions.Proofs.NameSpellings
import RowFunctions.Proofs.PlanNormalization
import RowFunctions.Proofs.SeparateRuns
import RowFunctions.Proofs.SavedSettings
import RowFunctions.Proofs.OverridingLayers
import RowFunctions.Proofs.ShadowedPaths
import RowFunctions.Proofs.PlanEdits
import RowFunctions.Proofs.CatalogAcceptance
import RowFunctions.Proofs.DocumentEdits
import RowFunctions.Proofs.IdentifierRanges
import RowFunctions.Proofs.AmbiguityWarnings
import RowFunctions.Proofs.StartingRuns
import RowFunctions.Proofs.IndexPartition

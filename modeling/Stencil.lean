import Stencil.Main
import Stencil.Proofs.Containment
import Stencil.Proofs.DirectiveSteps
import Stencil.Proofs.DirectoryCreation
import Stencil.Proofs.FailureAtomicity
import Stencil.Proofs.OutputPaths
import Stencil.Proofs.PassOutcome
import Stencil.Proofs.RenderingRuns
import Stencil.Proofs.RequestedTemplates
import Stencil.Proofs.RunLaw
import Stencil.Proofs.SettledOutputs
import Stencil.Proofs.StoredFiles
import Stencil.Proofs.TemplateLoading
import Stencil.Proofs.TreeGrowth
import Stencil.Proofs.TreeItems
import Stencil.Proofs.TreePlaces
import Stencil.Proofs.ExpanderHistory
import Stencil.Proofs.Lockstep
import Stencil.Proofs.PathListings
import Stencil.Proofs.PathSpellings
import Stencil.Proofs.TemplateConfinement
import Stencil.Proofs.TemplateFiles
import Stencil.Proofs.DeclaredInputs
import Stencil.Proofs.CreatedDirectories
import Stencil.Proofs.EarlierPasses
import Stencil.Proofs.RestartLaw
import Stencil.Proofs.DuplicateWarnings
import Stencil.Proofs.JoinedTasks
import Stencil.Proofs.OrderIndependence
import Stencil.Proofs.RenderingOutcomes
import Stencil.Proofs.ParserFaults
import Stencil.Proofs.TemplateAddresses
import Stencil.Proofs.IntactTemplates
import Stencil.Proofs.DirectiveVerdicts
import Stencil.Proofs.ListingOrder
import Stencil.Proofs.NamedTasks
import Stencil.Proofs.CatalogNames
import Stencil.Proofs.CommandAgreement
import Stencil.Proofs.UnobstructedOutputs
import Stencil.Proofs.EntryLookups
import Stencil.Proofs.ModelProperties
import Stencil.Proofs.FaithfulListings
import Stencil.Proofs.RepeatedOutputs
import Stencil.Proofs.CacheTransparency
import Stencil.Proofs.KindNames
import Stencil.Proofs.SeededLiterals
import Stencil.Proofs.MirroredContexts
import Stencil.Proofs.OptionSpellings
import Stencil.Proofs.RootResolution

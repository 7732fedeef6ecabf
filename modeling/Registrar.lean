import Registrar.Files
import Registrar.Main
import Registrar.Proofs.AbsolutePaths
import Registrar.Proofs.Affixes
import Registrar.Proofs.Agreement
import Registrar.Proofs.CatalogNames
import Registrar.Proofs.CatalogProperties
import Registrar.Proofs.Coherence
import Registrar.Proofs.FileFormats
import Registrar.Proofs.Loading
import Registrar.Proofs.NameChecks
import Registrar.Proofs.OverrideLines
import Registrar.Proofs.Overrides
import Registrar.Proofs.PartitionSpecs
import Registrar.Proofs.PlanEvents
import Registrar.Proofs.PlanReports
import Registrar.Proofs.Planning
import Registrar.Proofs.PolicyLists
import Registrar.Proofs.PolicyLookup
import Registrar.Proofs.PropertyBags
import Registrar.Proofs.RegistryRuns
import Registrar.Proofs.ResolvedNames
import Registrar.Proofs.Sanitizing
import Registrar.Proofs.ValidNames

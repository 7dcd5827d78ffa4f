import SelectGraph.Auth.Bearer
import SelectGraph.Config.Json
import SelectGraph.Main
import SelectGraph.Proofs.App.Release
import SelectGraph.Proofs.Catalog.Mappings
import SelectGraph.Proofs.Database.Connections
import SelectGraph.Proofs.Database.FirstFailure
import SelectGraph.Proofs.Engine.Required
import SelectGraph.Proofs.Engine.Routing
import SelectGraph.Proofs.Hash.Frames
import SelectGraph.Proofs.Http.Cors
import SelectGraph.Proofs.Keyset.Codec
import SelectGraph.Proofs.Plan.Aliases
import SelectGraph.Proofs.Plan.Duplicates
import SelectGraph.Proofs.Plan.Outcome
import SelectGraph.Proofs.Plan.Placeholders
import SelectGraph.Proofs.Plan.Substitution
import SelectGraph.Proofs.Plan.TotalOrder
import SelectGraph.Proofs.Relation.Clashes
import SelectGraph.Proofs.Relation.Derivable
import SelectGraph.Proofs.Request.Extent
import SelectGraph.Proofs.Request.Hash
import SelectGraph.Proofs.Schema.Uses
import SelectGraph.Proofs.Tree.Failures
import SelectGraph.Relation.Inspect

import ModelForge.Main
import ModelForge.Proofs.Failing
import ModelForge.Proofs.Files.Publish
import ModelForge.Proofs.Graph.Calls
import ModelForge.Proofs.Graph.LifeCycle
import ModelForge.Proofs.Graph.Arrival
import ModelForge.Proofs.Graph.Coherence
import ModelForge.Proofs.Graph.Interleaving
import ModelForge.Proofs.Graph.Loading
import ModelForge.Proofs.Metadata.RoundTrip
import ModelForge.Proofs.Graph.Fallback
import ModelForge.Proofs.Graph.Part
import ModelForge.Proofs.Plan.Units
import ModelForge.Proofs.Plan.Selections
import ModelForge.Proofs.Text.Packages
import ModelForge.Proofs.Code.Listing
import ModelForge.Proofs.Code.Modules
import ModelForge.Proofs.Plan.Partition
import ModelForge.Proofs.Plan.Refinement
import ModelForge.Proofs.Metadata.Replacing
import ModelForge.Proofs.Metadata.Isolation
import ModelForge.Proofs.Pipeline.Stages
import ModelForge.Proofs.Pipeline.Effects
import ModelForge.Proofs.Text.Utf8Strict
import ModelForge.Proofs.Metadata.Format
import ModelForge.Proofs.Metadata.Reading
import ModelForge.Proofs.Code.Importable
import ModelForge.Proofs.Graph.Formed
import ModelForge.Proofs.Program
import ModelForge.Proofs.Code.Paths
import ModelForge.Proofs.Pipeline.Confinement
import ModelForge.Proofs.Pipeline.Reordered
import ModelForge.Proofs.Pipeline.Trace
import ModelForge.Proofs.Graph.Fingerprint
import ModelForge.Proofs.Code.Collisions
import ModelForge.Proofs.Metadata.Summary
import ModelForge.Proofs.Repository.Layers
import ModelForge.Proofs.Repository.Subsets
import ModelForge.Proofs.Graph.Announced
import ModelForge.Proofs.Code.Determined
import ModelForge.Proofs.Code.Scopes
import ModelForge.Proofs.Code.Stereotypes
import ModelForge.Proofs.Metadata.Interning
import ModelForge.Proofs.Metadata.Values
import ModelForge.Proofs.Graph.Hydration
import ModelForge.Proofs.Code.Relocated
import ModelForge.Proofs.Graph.Origins
import ModelForge.Proofs.Repository.Loaders
import ModelForge.Proofs.Pipeline.Outputs
import ModelForge.Proofs.Metadata.Words
import ModelForge.Proofs.Settings
import ModelForge.Proofs.Plan.InRange
import ModelForge.Proofs.Pipeline.Replaced

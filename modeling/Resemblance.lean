import Resemblance.Document.JsonPrinter
import Resemblance.Matching.Correspondence
import Resemblance.Matching.Detector
import Resemblance.Proofs.Assignment.Contention
import Resemblance.Proofs.Assignment.Safety
import Resemblance.Proofs.Assignment.Threshold
import Resemblance.Proofs.Feature.Quantization
import Resemblance.Proofs.Feature.WindowHashes
import Resemblance.Proofs.Matching.BestMatch
import Resemblance.Proofs.Matching.Totality
import Resemblance.Proofs.Profile.CountedInterner
import Resemblance.Proofs.Profile.Faithfulness
import Resemblance.Proofs.Profile.Marking
import Resemblance.Proofs.Profile.Reloading
import Resemblance.Proofs.Profile.Reordering
import Resemblance.Proofs.Profile.Replacement
import Resemblance.Proofs.Profile.Safety
import Resemblance.Proofs.Storage.Saving
import Resemblance.Proofs.Strategy.Inclusion
import Resemblance.Proofs.Value.Bookkeeping
import Resemblance.Proofs.Value.Condensed
import Resemblance.Proofs.Value.Equality
import Resemblance.Proofs.Value.Limits
import Resemblance.Proofs.Value.Registration
import Resemblance.Proofs.Value.Resources
import Resemblance.Proofs.Wire.Marks
import Resemblance.Proofs.Wire.Shortest
import Resemblance.Storage.ConfigFile
import Resemblance.Strategy.Description
import Resemblance.Version

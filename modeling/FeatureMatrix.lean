import FeatureMatrix.Combination.Closure
import FeatureMatrix.Combination.Reduction
import FeatureMatrix.Main
import FeatureMatrix.Output.Sink
import FeatureMatrix.Session
import FeatureMatrix.Subsets.Checked
import FeatureMatrix.Subsets.PowerSet
import FeatureMatrix.Proofs.Adjacency
import FeatureMatrix.Proofs.Clearing
import FeatureMatrix.Proofs.CommandLine.Arrangement
import FeatureMatrix.Proofs.Configurations
import FeatureMatrix.Proofs.Json
import FeatureMatrix.Proofs.Manifest.Features
import FeatureMatrix.Proofs.NormalForm
import FeatureMatrix.Proofs.Notes
import FeatureMatrix.Proofs.ReducedClosure
import FeatureMatrix.Proofs.RetainedClosure
import FeatureMatrix.Proofs.Retaining
import FeatureMatrix.Proofs.Sink
import FeatureMatrix.Proofs.Stages

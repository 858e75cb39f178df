import UvmRegression.Text
import UvmRegression.Regex
import UvmRegression.Classify
import UvmRegression.Proofs.Search
import UvmRegression.Simulators
import UvmRegression.Regression
import UvmRegression.Csv
import UvmRegression.Discovery
import UvmRegression.SpikeCheck
import UvmRegression.Proofs.Iteration
import UvmRegression.Proofs.Loop
import UvmRegression.Proofs.Report
import UvmRegression.Proofs.Isolation
import UvmRegression.Proofs.Csv
import UvmRegression.Proofs.Files
import UvmRegression.Proofs.Discovery
import UvmRegression.Proofs.SpikeCheck
import UvmRegression.Main
import UvmRegression.Proofs.Main

import PodPolicy.Command.Run
import PodPolicy.Main
import PodPolicy.Manifest.Load
import PodPolicy.Webhook
import PodPolicy.Proofs.Verdict
import PodPolicy.Proofs.Template
import PodPolicy.Proofs.Admission
import PodPolicy.Proofs.FrontEnds
import PodPolicy.Proofs.Polarity
import PodPolicy.Proofs.Attribution
import PodPolicy.Proofs.Blocks
import PodPolicy.Proofs.Pool
import PodPolicy.Proofs.QuantityText
import PodPolicy.Proofs.NullFields
import PodPolicy.Proofs.Unanswered
import PodPolicy.Proofs.QuantityFrame
import PodPolicy.Proofs.Spelling
import PodPolicy.Proofs.Loading
import PodPolicy.Proofs.Extraction
import PodPolicy.Proofs.Namespace
import PodPolicy.Proofs.Reporting

import FraudScreen.Main
import FraudScreen.Rules.Interleaving
import FraudScreen.Proofs.Expr.Connectives
import FraudScreen.Proofs.Expr.Insertion
import FraudScreen.Proofs.Expr.Negation
import FraudScreen.Proofs.Expr.Normalization
import FraudScreen.Proofs.Payment.CacheKey
import FraudScreen.Proofs.Replay.Locality
import FraudScreen.Proofs.Rules.Accounting
import FraudScreen.Proofs.Rules.CacheTransparency
import FraudScreen.Proofs.Rules.Conservation
import FraudScreen.Proofs.Rules.Convergence
import FraudScreen.Proofs.Rules.Crashes
import FraudScreen.Proofs.Rules.Equality
import FraudScreen.Proofs.Rules.Isolation
import FraudScreen.Proofs.Rules.LoadHistory
import FraudScreen.Proofs.Rules.MeanTime
import FraudScreen.Proofs.Rules.NoLostUpdate
import FraudScreen.Proofs.Rules.Observers
import FraudScreen.Proofs.Rules.Quotation
import FraudScreen.Proofs.Rules.Rebinding
import FraudScreen.Proofs.Rules.Reordering
import FraudScreen.Proofs.Rules.Selection
import FraudScreen.Proofs.Rules.Turns
import FraudScreen.Proofs.Scoring.Counters
import FraudScreen.Proofs.Scoring.Coverage
import FraudScreen.Proofs.Scoring.Interruption
import FraudScreen.Proofs.Screening.Composition
import FraudScreen.Proofs.Screening.Freshness
import FraudScreen.Proofs.Screening.Listing
import FraudScreen.Proofs.Screening.Numbering
import FraudScreen.Proofs.Screening.Occurrence
import FraudScreen.Proofs.Screening.Parity

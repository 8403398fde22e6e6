import Vakil.Runtime.Proofs.AttemptProofs
import Vakil.Runtime.Proofs.LocalReplyProofs
import Vakil.Runtime.Proofs.FailureProofs
import Vakil.Runtime.Proofs.InertProofs
import Vakil.Proofs.PairingProofs
import Vakil.Runtime.Proofs.DiscoveryProofs
import Vakil.Runtime.Proofs.RoundTripProofs
import Vakil.Runtime.Proofs.PhaseProofs
import Vakil.Sticky.Proofs.PoolProofs
import Vakil.Sticky.Proofs.InitProofs
import Vakil.Sticky.Proofs.BackendProofs
import Vakil.Runtime.Proofs.PathProofs
import Vakil.Runtime.Proofs.AnswerProofs
import Vakil.Runtime.Proofs.FlowProofs
import Vakil.Runtime.Proofs.HeaderProofs
import Vakil.Runtime.Proofs.HookUseProofs
import Vakil.Runtime.Proofs.IsolationProofs
import Vakil.Runtime.Proofs.ForwardingProofs
import Vakil.Runtime.Proofs.StartUpProofs
import Vakil.Sticky.Proofs.HandleProofs
import Vakil.Proofs.ExampleHttpMwProofs
import Vakil.Runtime.Proofs.TrafficProofs
import Vakil.Proofs.ExampleNoopProofs
import Vakil.Proofs.AbortProofs
import Vakil.Proofs.SemVerProofs
import Vakil.Sticky.Proofs.CacheSizeProofs

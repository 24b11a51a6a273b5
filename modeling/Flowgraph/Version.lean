/-!
# The version

The version that the program tells when it is asked.
-/

namespace Flowgraph

/-- The version of the program. -/
def version : String := "0.4.0"

end Flowgraph

/-!
# Version
-/

namespace DebugCatalog

def version : String := "0.1.0"

end DebugCatalog

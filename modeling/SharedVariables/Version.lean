/-!
# The version
-/

namespace SharedVariables

/-- The version of the library. -/
def version : String := "1.0.0"

end SharedVariables

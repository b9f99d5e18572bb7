/-!
# The version of the library
-/

namespace Resemblance

def libraryVersion : String := "0.3.0"

end Resemblance

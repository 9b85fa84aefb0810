import Scaffold.Text.Blank
import Scaffold.Text.Fields

/-!
# Role lists
-/

namespace Scaffold.Roles

/-- The roles of a list written with commas; blank ones do not count. -/
def parse (source : String) : List String :=
  ((Text.fields (· = ',') source.toList).map fun role =>
    Text.trim (String.ofList role)).filter fun role => role ≠ ""

end Scaffold.Roles

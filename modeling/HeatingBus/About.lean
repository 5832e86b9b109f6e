/-!
# About the library
-/

namespace HeatingBus

def version : String := "0.3.0"

def about : String :=
  s!"EMS Bus v{version} - EMS heating bus codec and protocol engine"

end HeatingBus

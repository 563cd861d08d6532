/-
  SensorFusion.Version — the version of this library.
-/

namespace SensorFusion

def version : String := "0.1.0"

end SensorFusion

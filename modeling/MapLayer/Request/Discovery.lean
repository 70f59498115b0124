/-! The parameters of the requests that ask a service about itself. -/

namespace MapLayer.Discovery

def capabilities : List (String × String) :=
  [("version", "1.3.1"), ("request", "GetCapabilities"), ("service", "WMS")]

/-- Asks for the feature service of a layer. -/
def describeLayer (layer : String) : List (String × String) :=
  [("SERVICE", "WMS"), ("REQUEST", "DescribeLayer"), ("SLD_VERSION", "1.1.0"), ("LAYERS", layer),
    ("VERSION", "1.1.1"), ("height", "1"), ("width", "1")]

/-- Asks a feature service for the columns of a layer. -/
def describeFeatureType (layer : String) : List (String × String) :=
  [("version", "2.0.0"), ("request", "DescribeFeatureType"), ("service", "WFS"),
    ("typeName", layer), ("outputFormat", "application/json")]

end MapLayer.Discovery

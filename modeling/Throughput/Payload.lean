import Throughput.Identity

/-! The bodies that carry a sample. -/
namespace Throughput.Payload

def autoscaler (instanceIndex : UInt32) (metric : String) (value : UInt32) : Json.Value :=
  .object [("instance_index", .natural instanceIndex.toNat),
    ("metrics", .list [.object [("name", .text metric), ("value", .natural value.toNat),
      ("unit", .text "rps")]])]

def keyValue (key value : String) : Json.Value :=
  .object [("key", .text key), ("value", .object [("stringValue", .text value)])]

def attributes (x : Identity) (environment : Option String) : List (String × String) :=
  [("cf_application_name", x.applicationName), ("cf_space_name", x.spaceName),
    ("cf_organization_name", x.organizationName),
    ("cf_instance_index", toString x.instanceIndex.toNat)] ++
    (environment.map fun e => ("environment", e)).toList

/-- A gauge of one point at a time in nanoseconds. -/
def gauge (attributes : List (String × String)) (metric : String) (value : UInt32)
    (time : UInt64) : Json.Value :=
  let point := Json.Value.object [("asDouble", .number (.float (.ofNat value.toNat))),
    ("timeUnixNano", .natural time.toNat)]
  let series := Json.Value.object [("name", .text metric), ("unit", .text "1/s"),
    ("gauge", .object [("dataPoints", .list [point])])]
  .object [("resourceMetrics", .list [.object [
    ("resource", .object [("attributes", .list (attributes.map fun (k, v) => keyValue k v))]),
    ("scopeMetrics", .list [.object [("metrics", .list [series])]])]])]

end Throughput.Payload

import Throughput.Json.Printer
import Throughput.Json.Record

/-! The application instance that is measured. -/
namespace Throughput

structure Identity where
  applicationId : String
  instanceIndex : UInt32
  applicationName : String
  spaceName : String
  organizationName : String
  deriving DecidableEq, Repr

namespace Identity

abbrev shape : Json.Shape where
  name := "ApplicationIdentity"
  fields := [⟨"application_id", .text⟩, ⟨"instance_index", .word⟩, ⟨"application_name", .text⟩,
    ⟨"space_name", .text⟩, ⟨"organization_name", .text⟩]

def ofRow : Json.Row shape.fields → Identity
  | (id, index, name, space, organization, ()) => ⟨id, index, name, space, organization⟩

def parse (text : String) : Except Json.Error Identity := (shape.parse text).map ofRow

def toJson (x : Identity) : Json.Value :=
  .object [("application_id", .text x.applicationId),
    ("instance_index", .natural x.instanceIndex.toNat),
    ("application_name", .text x.applicationName), ("space_name", .text x.spaceName),
    ("organization_name", .text x.organizationName)]

def render (x : Identity) : String := x.toJson.render

end Identity
end Throughput

import Throughput.Credential
import Throughput.Endpoint
import Throughput.Environment
import Throughput.Identity
import Throughput.Text.Digits

/-! What the platform tells an application instance through its environment: who it is,
where the autoscaler is, and where its certificate is kept. -/
namespace Throughput.Discovery

inductive Error where
  | missingVariable (name : String)
  | malformed (name : String) (cause : Json.Error)
  /-- The text as it was given, blanks included. -/
  | invalidInstanceIndex (text : String)
  deriving DecidableEq, Repr

def Error.message : Error → String
  | missingVariable name => "environment variable " ++ name ++ " is not set"
  | malformed name cause => name ++ " is not valid JSON: " ++ cause.message
  | invalidInstanceIndex text => "invalid instance index " ++ Text.quote text

def applicationVariable : String := "VCAP_APPLICATION"
def servicesVariable : String := "VCAP_SERVICES"
def instanceIndexVariable : String := "CF_INSTANCE_INDEX"
def certificateVariable : String := "CF_INSTANCE_CERT"
def keyVariable : String := "CF_INSTANCE_KEY"
def authoritiesVariable : String := "CF_SYSTEM_CERT_PATH"
def exportUrlVariable : String := "MANAGEMENT_OTLP_METRICS_EXPORT_URL"

abbrev applicationShape : Json.Shape where
  name := "VcapApplication"
  fields := [⟨"application_id", .text⟩, ⟨"application_name", .text⟩, ⟨"space_name", .text⟩,
    ⟨"organization_name", .text⟩]

/-- A number that fits 32 bits, with an optional plus and blanks around it. -/
def parseIndex (text : String) : Option UInt32 :=
  (Text.below? UInt32.size (Text.trimChars text.toList)).map .ofNat

def parseIdentity (application index : String) : Except Error Identity :=
  match applicationShape.parse application with
  | .error e => .error (.malformed applicationVariable e)
  | .ok (id, name, space, organization, ()) =>
    match parseIndex index with
    | none => .error (.invalidInstanceIndex index)
    | some index => .ok ⟨id, index, name, space, organization⟩

def identity (env : Environment) : Except Error Identity :=
  match env applicationVariable, env instanceIndexVariable with
  | none, _ => .error (.missingVariable applicationVariable)
  | some _, none => .error (.missingVariable instanceIndexVariable)
  | some application, some index => parseIdentity application index

mutual

/-- The members of the binding: the object named `custom_metrics` in this value, else
in the first of the values inside it that has one. -/
def binding? : Json.Value → Option (List (String × Json.Value))
  | .object members =>
    match members.lookup "custom_metrics" with
    | some (.object found) => some found
    | _ => bindingInMembers? members
  | .list items => bindingInItems? items
  | _ => none

def bindingInItems? : List Json.Value → Option (List (String × Json.Value))
  | [] => none
  | v :: rest => (binding? v).or (bindingInItems? rest)

def bindingInMembers? : List (String × Json.Value) → Option (List (String × Json.Value))
  | [] => none
  | (_, v) :: rest => (binding? v).or (bindingInMembers? rest)

end

def setting? (members : List (String × Json.Value)) (name : String) : Option String :=
  match members.lookup name with
  | some (.text s) => if s.isEmpty then none else some s
  | _ => none

/-- The endpoint in a document of bindings; empty if no binding is found. -/
def endpointOf (document : Json.Value) : Endpoint :=
  match binding? document with
  | none => .empty
  | some members =>
    { url := setting? members "url"
      username := setting? members "username"
      password := setting? members "password"
      mtlsUrl := setting? members "mtls_url" }

def parseEndpoint (services : String) : Except Error Endpoint :=
  match Json.Value.parse services with
  | .ok document => .ok (endpointOf document)
  | .error e => .error (.malformed servicesVariable e)

/-- Without any bindings the endpoint is empty. -/
def endpoint (env : Environment) : Except Error Endpoint :=
  match env servicesVariable with
  | some services => parseEndpoint services
  | none => .ok .empty

def credentialPaths (env : Environment) : Credential.Paths :=
  ⟨env certificateVariable, env keyVariable, env authoritiesVariable⟩

def exportUrl (env : Environment) : Option String := env exportUrlVariable

def environmentTag (env : Environment) (name : Option String) : Option String :=
  name.bind env

end Throughput.Discovery

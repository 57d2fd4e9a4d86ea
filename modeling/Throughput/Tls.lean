import Throughput.Certificate
import Throughput.Credential
import Throughput.Key.Decode
import Throughput.Pem

/-! The client side of a mutual TLS connection, built from a credential: a certificate
chain, a key that can sign, and trust anchors. One bad part fails the whole. -/
namespace Throughput.Tls

structure Context where
  chain : List Bytes
  key : Bytes
  anchors : List Bytes
  deriving DecidableEq, Repr

inductive CertificateFault where
  | pem (cause : Pem.Error)
  | none
  | badEncoding
  deriving DecidableEq, Repr

def CertificateFault.message : CertificateFault → String
  | pem e => e.message
  | none => "no certificate found in PEM"
  | badEncoding => "InvalidCertificate(BadEncoding)"

inductive Error where
  | clientCertificate (fault : CertificateFault)
  | privateKey (cause : Key.Error)
  | caCertificate (index : Nat) (fault : CertificateFault)
  | emptyBundle
  /-- The parts are sound but do not make an identity. -/
  | identity
  deriving DecidableEq

def Error.message : Error → String
  | clientCertificate fault => s!"invalid client certificate: {fault.message}"
  | privateKey e => s!"invalid client private key: {e.message}"
  | caCertificate index fault => s!"invalid CA certificate #{index}: {fault.message}"
  | emptyBundle => "CA bundle contains no certificates"
  | identity => "failed to assemble client identity: sign error"

/-- The client's certificates. They are not decoded. -/
def chain (text : String) : Except Error (List Bytes) :=
  match Pem.certificates text with
  | .error e => .error (.clientCertificate (.pem e))
  | .ok [] => .error (.clientCertificate .none)
  | .ok found => .ok found

def anchorsFrom (index : Nat) : List Bytes → Except Error (List Bytes)
  | [] => .ok []
  | der :: rest =>
    if Certificate.isAnchor der then
      match anchorsFrom (index + 1) rest with
      | .error e => .error e
      | .ok anchors => .ok (der :: anchors)
    else .error (.caCertificate index .badEncoding)

/-- The anchors of a bundle. A bundle that cannot be read fails at its first place. -/
def anchors (text : String) : Except Error (List Bytes) :=
  match Pem.certificates text with
  | .error e => .error (.caCertificate 0 (.pem e))
  | .ok [] => .error .emptyBundle
  | .ok found => anchorsFrom 0 found

/-- Chain and key make an identity if the key can sign. -/
def assemble (chain : List Bytes) (key : Bytes) (anchors : List Bytes) : Except Error Context :=
  if Key.Signer.accepts key then .ok ⟨chain, key, anchors⟩ else .error .identity

/-- Chain, key and anchors are read in this order; the first failure is the answer. -/
def build (m : Credential.Material) : Except Error Context :=
  match chain m.certificate with
  | .error e => .error e
  | .ok chain =>
    match Key.decode m.key with
    | .error e => .error (.privateKey e)
    | .ok key =>
      match anchors m.trusted with
      | .error e => .error e
      | .ok anchors => assemble chain key anchors

end Throughput.Tls

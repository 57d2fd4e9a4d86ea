import Throughput.Endpoint
import Throughput.Identity
import Throughput.Proofs.Json.Members
import Throughput.Proofs.Json.Row

/-! The identity and the endpoint as JSON. They come back from what is written of them as they
were; in the text of an endpoint a field that is absent is the same as one that is `null`. -/
namespace Throughput

open Json (ObjectText Row SpelledItem SpelledObject)

/-- What is written of a record is a text of its JSON value, and every such text is read as the
record. -/
structure Restored {ρ : Type} (toJson : ρ → Json.Value) (render : ρ → String)
    (parse : String → Except Json.Error ρ) (x : ρ) : Prop where
  written : SpelledItem (toJson x) (render x).toList
  spelled : ∀ text : String, SpelledItem (toJson x) text.toList → parse text = .ok x
  rendered : parse (render x) = .ok x

namespace Identity

def toRow (x : Identity) : Row shape.fields :=
  (x.applicationId, x.instanceIndex, x.applicationName, x.spaceName, x.organizationName, ())

theorem parse_spelled {x : Identity} {text : String} (spelled : SpelledItem x.toJson text.toList) :
    parse text = .ok x := by
  have read : shape.parse text = .ok x.toRow := Json.Shape.parse_members (by decide) spelled
  rw [parse, read]
  rfl

theorem restored (x : Identity) : Restored toJson render parse x :=
  have written := x.toRow.render_spelled
  ⟨written, fun _ => parse_spelled, parse_spelled written⟩

end Identity

namespace Endpoint

def toRow (e : Endpoint) : Row shape.fields := (e.url, e.username, e.password, e.mtlsUrl, ())

theorem parse_eq_ok_iff {text : String} {e : Endpoint} : parse text = .ok e ↔ shape.parse text = .ok e.toRow := by
  rw [parse]
  cases shape.parse text with
  | error error => simp [Except.map]
  | ok row =>
    obtain ⟨url, username, password, mtlsUrl, ⟨⟩⟩ := row
    obtain ⟨url', username', password', mtlsUrl'⟩ := e
    simp [Except.map, ofRow, toRow]

theorem parse_spelled {e : Endpoint} {text : String} (spelled : SpelledItem e.toJson text.toList) :
    parse text = .ok e :=
  parse_eq_ok_iff.mpr (Json.Shape.parse_members (by decide) spelled)

theorem restored (e : Endpoint) : Restored toJson render parse e :=
  have written := e.toRow.render_spelled
  ⟨written, fun _ => parse_spelled, parse_spelled written⟩

theorem optional_of_mem : ∀ f ∈ shape.fields, f.kind = .optionalText := by
  decide

/-- Objects are read as one endpoint if they give its fields the same values. -/
theorem parse_alike {text other : String} {ms others : List (String × List Char)} {e : Endpoint}
    (told : ObjectText ms text) (retold : ObjectText others other)
    (alike : ∀ f ∈ shape.fields, Json.Alike f.name ms others) (read : parse text = .ok e) : parse other = .ok e := by
  rw [parse_eq_ok_iff, Json.Shape.parse_object_iff (by decide) told] at read
  rw [parse_eq_ok_iff, Json.Shape.parse_object_iff (by decide) retold]
  exact read.alike optional_of_mem alike

end Endpoint

/-- Nothing is lost of an identity or an endpoint. -/
structure Lossless : Prop where
  identity : ∀ x : Identity, Restored Identity.toJson Identity.render Identity.parse x
  endpoint : ∀ e : Endpoint, Restored Endpoint.toJson Endpoint.render Endpoint.parse e
  /-- What was read as an endpoint, be it an object or a list, is written and read again. -/
  reread : ∀ text e, Endpoint.parse text = .ok e → ∃ again, Endpoint.parse e.render = .ok again ∧
    again = e ∧ again.authMode = e.authMode ∧ again.baseUrl = e.baseUrl
  /-- A field may be left out of an object or be `null` in it, which does not show in the endpoint. -/
  absent : ∀ text other ms others, ObjectText ms text → ObjectText others other →
    (∀ f ∈ Endpoint.shape.fields, Json.Alike f.name ms others) →
    ∀ e, Endpoint.parse text = .ok e ↔ Endpoint.parse other = .ok e

theorem records_lossless : Lossless := by
  constructor
  case identity => exact Identity.restored
  case endpoint => exact Endpoint.restored
  case reread => exact fun text e _ => ⟨e, (Endpoint.restored e).rendered, rfl, rfl, rfl⟩
  case absent =>
    intro text other ms others told retold alike e
    constructor
    · exact Endpoint.parse_alike told retold alike
    · exact Endpoint.parse_alike retold told fun f known => (alike f known).symm

/-- An endpoint with one field, and another text of it in which another field is `null`. -/
def mtlsOnly : String := "\x7b \"mtls_url\": \"https://a\"\x7d"

def mtlsWithNull : String := "\x7b \"url\": null, \"mtls_url\": \"https://a\"\x7d"

theorem address_spelled : Json.SpelledChars "https://a".toList "https://a".toList :=
  Json.plain_spelled (by decide)

theorem objectText_mtlsOnly : ObjectText [("mtls_url", "\"https://a\"".toList)] mtlsOnly := by
  constructor
  case object =>
    have object := SpelledObject.entries Json.blanks_nil
      (.one (Json.plain_entry "mtls_url" "\"https://a\"" (by decide))) Json.blanks_nil
    exact (congrArg (SpelledObject _) (by decide +kernel)).mpr object
  case formed => exact List.forall_mem_singleton.mpr (.text address_spelled.form)

theorem objectText_mtlsWithNull :
    ObjectText [("url", "null".toList), ("mtls_url", "\"https://a\"".toList)] mtlsWithNull := by
  constructor
  case object =>
    have object := SpelledObject.entries Json.blanks_nil
      (.more (Json.plain_entry "url" "null" (by decide))
      (.one (Json.plain_entry "mtls_url" "\"https://a\"" (by decide)))) Json.blanks_nil
    exact (congrArg (SpelledObject _) (by decide +kernel)).mpr object
  case formed =>
    exact List.forall_mem_cons.mpr ⟨.null, objectText_mtlsOnly.formed⟩

/-- An identity full of escapes with the largest index, and an endpoint that is read from both texts. -/
theorem records_lossless_of_null :
    Identity.parse (Identity.render ⟨"a\"b\\", 4294967295, "\n\x01", "", "𝄞"⟩) =
        .ok ⟨"a\"b\\", 4294967295, "\n\x01", "", "𝄞"⟩ ∧
      Endpoint.parse mtlsOnly = .ok (.mtls "https://a") ∧ Endpoint.parse mtlsWithNull = .ok (.mtls "https://a") := by
  have only : Endpoint.parse mtlsOnly = .ok (.mtls "https://a") := by
    rw [Endpoint.parse_eq_ok_iff, Json.Shape.parse_object_iff (by decide) objectText_mtlsOnly]
    exact ⟨.absent (by decide) rfl, .absent (by decide) rfl, .absent (by decide) rfl,
      .once rfl (.present address_spelled), trivial⟩
  have alike : ∀ f ∈ Endpoint.shape.fields, Json.Alike f.name [("mtls_url", "\"https://a\"".toList)]
      [("url", "null".toList), ("mtls_url", "\"https://a\"".toList)] := by
    simp only [List.forall_mem_cons]
    exact ⟨.inr ⟨.inl rfl, .inr rfl⟩, .inl rfl, .inl rfl, .inl rfl, List.forall_mem_nil _⟩
  refine ⟨(records_lossless.identity _).rendered, only, ?_⟩
  exact (records_lossless.absent _ _ _ _ objectText_mtlsOnly objectText_mtlsWithNull alike _).mp only

end Throughput

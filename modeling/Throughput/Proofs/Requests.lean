import Throughput.Proofs.Policy.Masked
import Throughput.Proofs.Report.Correspondence

/-! The requests that reach the servers of two worlds. Two destinations with different
passwords make requests that differ in a header of the autoscaler's, and as long as the
servers answer such requests alike, nobody but the servers can tell the two apart. -/
namespace Throughput

namespace Http

variable {σ τ : Type} {R : σ → τ → Prop} {P : Request → Request → Prop}

/-- An address that can be requested. -/
structure Requestable (address : String) (u : Url) : Prop where
  parsed : Url.parse address = .ok u
  hasHost : u.hasHost = true
  web : isWeb u = true

theorem Requestable.request_eq {address : String} {u : Url} (able : Requestable address u)
    (authorization : Option String) (body : String) : request address authorization body =
      .ok ⟨anonymous u, (callerHeader? u).toList ++ authorization.toList, body⟩ := by
  simp only [request, able.parsed, able.hasHost, able.web, Bool.and_self, if_true]

theorem request_of_unable {address : String} (unable : ∀ u, ¬ Requestable address u) :
    ∃ e, ∀ authorization body, request address authorization body = .error e := by
  cases parsed : Url.parse address with
  | error e => exact ⟨.address e, fun _ _ => by simp only [request, parsed]⟩
  | ok u =>
    by_cases able : (u.hasHost && isWeb u) = true
    · rw [Bool.and_eq_true] at able
      exact absurd ⟨parsed, able.1, able.2⟩ (unable u)
    · exact ⟨.scheme (anonymous u).render, fun _ _ => by simp only [request, parsed, if_neg able]⟩

/-- Whether there is a request, and where it goes, is decided without the header. -/
theorem request_cases (address body : String) :
    (∃ e, ∀ authorization, request address authorization body = .error e) ∨
      ∃ u, ∀ authorization : Option String, request address authorization body =
        .ok ⟨anonymous u, (callerHeader? u).toList ++ authorization.toList, body⟩ := by
  by_cases able : ∃ u, Requestable address u
  · obtain ⟨u, able⟩ := able
    exact .inr ⟨u, fun authorization => able.request_eq authorization body⟩
  · obtain ⟨e, refused⟩ := request_of_unable (not_exists.mp able)
    exact .inl ⟨e, fun authorization => refused authorization body⟩

/-- The world with a list of the requests that have reached its servers. -/
def World.recorded (w : World σ) : World (σ × List Request) where
  now := fun (state, _) => w.now state
  exchange := fun (state, requests) r =>
    let x := w.exchange state r
    ⟨x.reply, x.milliseconds, x.state, requests ++ [r]⟩

/-- States with records of requests that correspond one by one. -/
def Recorded (R : σ → τ → Prop) (P : Request → Request → Prop) (x : σ × List Request)
    (y : τ × List Request) : Prop :=
  R x.1 y.1 ∧ List.Forall₂ P x.2 y.2

structure Exchange.Alike (R : σ → τ → Prop) (a : Exchange σ) (b : Exchange τ) : Prop where
  reply : a.reply = b.reply
  milliseconds : a.milliseconds = b.milliseconds
  state : R a.state b.state

structure Posted.Alike (R : σ → τ → Prop) (a : Posted σ) (b : Posted τ) : Prop where
  result : a.result = b.result
  milliseconds : a.milliseconds = b.milliseconds
  state : R a.state b.state

/-- The clocks agree, and servers answer requests that `P` relates alike. -/
structure World.Alike (R : σ → τ → Prop) (P : Request → Request → Prop) (w : World σ)
    (v : World τ) : Prop where
  now : ∀ x y, R x y → w.now x = v.now y
  exchange : ∀ x y, R x y → ∀ r s, P r s → (w.exchange x r).Alike R (v.exchange y s)

theorem World.Alike.recorded {w : World σ} {v : World τ} (alike : w.Alike R P v) :
    w.recorded.Alike (Recorded R P) P v.recorded where
  now _ _ states := alike.now _ _ states.1
  exchange x y states r s related :=
    let answers := alike.exchange x.1 y.1 states.1 r s related
    ⟨answers.reply, answers.milliseconds, answers.state,
      List.rel_append states.2 (.cons related .nil)⟩

theorem World.Alike.post {w : World σ} {v : World τ} (alike : w.Alike R P v) {x : σ} {y : τ}
    (states : R x y) (url : String) (a b : Option String) (body : String)
    (related : ∀ r s, request url a body = .ok r → request url b body = .ok s → P r s) :
    (Http.post w x url a body).Alike R (Http.post v y url b body) := by
  unfold Http.post
  rcases request_cases url body with ⟨e, refused⟩ | ⟨u, made⟩
  · rw [refused a, refused b]
    exact ⟨rfl, rfl, states⟩
  · have answers := alike.exchange x y states _ _ (related _ _ (made a) (made b))
    rw [made a, made b]
    exact ⟨congrArg conclude answers.reply, answers.milliseconds, answers.state⟩

end Http

namespace Destination

/-- A request that the destination makes for some sample. -/
structure Makes (d : Destination) (r : Http.Request) : Prop where
  url : ∃ url, d.url? = some url ∧ Http.request url d.authorization? r.body = .ok r
  body : ∃ metric value time, d.body? metric value time = some r.body

/-- Requests of the same sink in two runs: they differ at most in a header of the
autoscaler's. -/
structure Counterpart (d e : List Destination) (r s : Http.Request) : Prop where
  url : r.url = s.url
  body : r.body = s.body
  made : ∃ a ∈ d, ∃ b ∈ e, a.name = b.name ∧ a.Makes r ∧ b.Makes s ∧
    (r.authorization ≠ s.authorization → a.name = "autoscaler")

theorem authorization?_of_other {d : Destination} (other : d.name ≠ "autoscaler") :
    d.authorization? = none := by
  cases d with
  | autoscaler => exact absurd rfl other
  | _ => rfl

section Masked

variable {σ τ : Type} {R : σ → τ → Prop} {d e : List Destination} {a b : Destination}

theorem counterpart_of_masked (first : a ∈ d) (second : b ∈ e) (masked : a.masked = b.masked)
    {url body metric : String} {value : UInt32} {time : UInt64} {r s : Http.Request}
    (made : Http.request url a.authorization? body = .ok r)
    (alsoMade : Http.request url b.authorization? body = .ok s) (hasUrl : b.url? = some url)
    (hasBody : b.body? metric value time = some body) : Counterpart d e r s := by
  have firstUrl : a.url? = some url := (url?_of_masked masked).trans hasUrl
  have firstBody : a.body? metric value time = some body :=
    (body?_of_masked masked metric value time).trans hasBody
  have name := name_of_masked masked
  rcases Http.request_cases url body with ⟨e, refused⟩ | ⟨u, always⟩
  · cases made.symm.trans (refused _)
  obtain rfl := Except.ok.inj (made.symm.trans (always _))
  obtain rfl := Except.ok.inj (alsoMade.symm.trans (always _))
  refine ⟨rfl, rfl, a, first, b, second, name, ?_, ?_, ?_⟩
  · exact ⟨⟨url, firstUrl, made⟩, metric, value, time, firstBody⟩
  · exact ⟨⟨url, hasUrl, alsoMade⟩, metric, value, time, hasBody⟩
  · intro differ
    by_contra other
    rw [authorization?_of_other other, authorization?_of_other (name ▸ other)] at differ
    exact differ rfl

theorem send_alike {w : Http.World σ} {v : Http.World τ} (worlds : w.Alike R (Counterpart d e) v)
    (first : a ∈ d) (second : b ∈ e) (masked : a.masked = b.masked) {x : σ} {y : τ}
    (states : R x y) (metric : String) (value : UInt32) :
    (a.send w x metric value).1.Alike R (b.send v y metric value).1 ∧
      (a.send w x metric value).2 = (b.send v y metric value).2 := by
  unfold send
  rw [url?_of_masked masked, body?_of_masked masked, worlds.now x y states]
  cases hasUrl : b.url? with
  | none => exact ⟨⟨rfl, rfl, states⟩, rfl⟩
  | some url =>
    cases hasBody : b.body? metric value (v.now y) with
    | none => exact ⟨⟨rfl, rfl, states⟩, rfl⟩
    | some body =>
      refine ⟨worlds.post states url _ _ body fun r s made alsoMade => ?_, rfl⟩
      exact counterpart_of_masked first second masked made alsoMade hasUrl hasBody

theorem sink_alike {w : Http.World σ} {v : Http.World τ} (worlds : w.Alike R (Counterpart d e) v)
    (first : a ∈ d) (second : b ∈ e) (masked : a.masked = b.masked) :
    (a.sink w).Alike R (b.sink v) where
  name := name_of_masked masked
  emit x y states metric value := by
    obtain ⟨posted, events⟩ := send_alike worlds first second masked states metric value
    constructor
    case delivery => simp only [sink, posted.result]
    case milliseconds => exact posted.milliseconds
    case events => exact events
    case state => exact posted.state

/-- Sinks that differ in the header are alike one by one. -/
theorem sinks_alike {w : Http.World σ} {v : Http.World τ} (worlds : w.Alike R (Counterpart d e) v)
    (masked : d.map masked = e.map masked) :
    List.Forall₂ (Sink.Alike R) (d.map fun a => a.sink w) (e.map fun b => b.sink v) := by
  have pairwise : List.Forall₂ (· = ·) (d.map Destination.masked) (e.map Destination.masked) :=
    masked ▸ List.forall₂_refl _
  rw [List.forall₂_map_left_iff, List.forall₂_map_right_iff] at pairwise
  -- As pairs of a zip the destinations are known to be members, which `sink_alike` asks for.
  obtain ⟨length, pairs⟩ := List.forall₂_iff_zip.mp pairwise
  rw [List.forall₂_map_left_iff, List.forall₂_map_right_iff]
  refine List.forall₂_iff_zip.mpr ⟨length, fun member => ?_⟩
  obtain ⟨first, second⟩ := List.of_mem_zip member
  exact sink_alike worlds first second (pairs member)

end Masked
end Destination
end Throughput

import Throughput.Proofs.Rate.Live

/-! The hook of a host over any run. The callback is offered until a host takes it and never
again, so that one callback at most is held and a request that hosts observe counts once. The
retrofit pass runs once at most, in the first installation that finds the callback taken and
a host that can retrofit. -/
namespace Throughput.Rate

/-- The host takes a callback that it is offered. -/
def Hook.accepts (hook : Hook) : Bool := hook.registration.toBool

namespace Live

theorem retrofit_calls (s : Live) (hook : Hook) : (s.retrofit hook).calls =
    if hook.retrofit.isSome && !s.retrofitted then [.retrofit] else [] := by
  unfold retrofit
  cases hook.retrofit with
  | none => rfl
  | some outcome => cases s.retrofitted <;> rfl

theorem retrofit_source (s : Live) (hook : Hook) : (s.retrofit hook).source =
    { s with retrofitted := s.retrofitted || hook.retrofit.isSome } := by
  obtain ⟨window, rate, registered, retrofitted⟩ := s
  unfold retrofit
  cases hook.retrofit with
  | none => simp
  | some outcome => cases retrofitted <;> rfl

/-- An installation offers the callback unless it was taken before, and retrofits unless that
was done before, provided that the callback is taken by then. -/
theorem install_calls (s : Live) (hook : Hook) : (s.install hook).calls =
    (if s.registered then [] else [.register]) ++
      if (s.registered || hook.accepts) && hook.retrofit.isSome && !s.retrofitted then [.retrofit]
      else [] := by
  obtain ⟨registration, outcome⟩ := hook
  unfold install
  cases registered : s.registered with
  | true => simp [retrofit_calls]
  | false =>
    cases registration with
    | error e => simp [Hook.accepts, Except.toBool]
    | ok _ => simp [Hook.accepts, Except.toBool, retrofit_calls]

theorem install_source (s : Live) (hook : Hook) : (s.install hook).source =
    { s with
      registered := s.registered || hook.accepts
      retrofitted := s.retrofitted || ((s.registered || hook.accepts) && hook.retrofit.isSome) } := by
  obtain ⟨window, rate, registered, retrofitted⟩ := s
  obtain ⟨registration, outcome⟩ := hook
  unfold install
  cases registered with
  | true => simp [retrofit_source]
  | false =>
    cases registration with
    | error e => simp [Hook.accepts, Except.toBool]
    | ok _ => simp [Hook.accepts, Except.toBool, retrofit_source]

theorem install_register (s : Live) (hook : Hook) :
    (s.install hook).calls.count .register = if s.registered then 0 else 1 := by
  rw [install_calls, List.count_append]
  have other : ∀ c : Bool, (if c then [Call.retrofit] else []).count .register = 0 := by decide
  rw [other]
  cases s.registered <;> rfl

/-- A registration that fails leaves everything as it was. -/
theorem install_refused (s : Live) (hook : Hook) (unregistered : s.registered = false)
    (refuses : hook.accepts = false) : (s.install hook).source = s := by
  obtain ⟨window, rate, registered, retrofitted⟩ := s
  cases unregistered
  rw [install_source, refuses]
  exact congrArg (Live.mk window rate false) (Bool.or_false _)

theorem measure_flags (s : Live) (now : Int64) :
    (s.measure now).2.1.registered = s.registered ∧
      (s.measure now).2.1.retrofitted = s.retrofitted := by
  unfold measure
  split <;> exact ⟨rfl, rfl⟩

/-- Counting any number of requests touches nothing but the number of those pending. -/
theorem count_iterate (s : Live) (n : Nat) :
    count^[n] s = { s with window := { s.window with pending := s.window.pending + .ofNat n } } := by
  induction n generalizing s with
  | zero => simp
  | succ n ih =>
    rw [Function.iterate_succ_apply, ih]
    simp [count, Window.record, UInt64.add_assoc, UInt64.add_comm 1]

end Live

/-- A source, and how many callbacks hosts hold of it. -/
structure Hosted where
  source : Live
  callbacks : Nat

namespace Hosted

inductive Action where
  /-- A request told through a handle. -/
  | request
  /-- A request that hosts observe: every callback that they hold is invoked. -/
  | observed
  | install (hook : Hook)
  | measure (now : Int64)

def Action.accepts : Action → Bool
  | install hook => hook.accepts
  | _ => false

def new (now : Int64) : Hosted := ⟨.new now, 0⟩

/-- What an action calls of the hook that it is given. -/
def calls (h : Hosted) : Action → List Live.Call
  | .install hook => (h.source.install hook).calls
  | _ => []

/-- How many callbacks are taken in an action: one for each offer to a host that accepts. -/
def taken (h : Hosted) (a : Action) : Nat := if a.accepts then (h.calls a).count .register else 0

def next (h : Hosted) : Action → Live
  | .request => h.source.count
  | .observed => Live.count^[h.callbacks] h.source
  | .install hook => (h.source.install hook).source
  | .measure now => (h.source.measure now).2.1

def perform (h : Hosted) (a : Action) : Hosted := ⟨h.next a, h.callbacks + h.taken a⟩

def run (actions : List Action) (h : Hosted) : Hosted := actions.foldl perform h

/-- All that a run calls of the hooks that it is given. -/
def allCalls : List Action → Hosted → List Live.Call
  | [], _ => []
  | a :: rest, h => h.calls a ++ allCalls rest (h.perform a)

/-- Some host was ready to take the callback, told from the actions alone. -/
def accepted (actions : List Action) : Bool := actions.any Action.accepts

theorem perform_registered (h : Hosted) (a : Action) :
    (h.perform a).source.registered = (h.source.registered || a.accepts) := by
  cases a with
  | request => exact (Bool.or_false _).symm
  | observed =>
    change (Live.count^[h.callbacks] h.source).registered = _
    rw [Live.count_iterate]
    exact (Bool.or_false _).symm
  | install hook =>
    change (h.source.install hook).source.registered = _
    rw [Live.install_source]
    rfl
  | measure now => exact (h.source.measure_flags now).1.trans (Bool.or_false _).symm

/-- The callbacks that are held are those of a source that is registered. -/
theorem perform_callbacks (h : Hosted) (a : Action) :
    (h.perform a).callbacks + h.source.registered.toNat =
      h.callbacks + (h.perform a).source.registered.toNat := by
  have counted : h.taken a + h.source.registered.toNat =
      (h.source.registered || a.accepts).toNat := by
    cases accepts : a.accepts with
    | false => simp [taken, accepts]
    | true =>
      cases a with
      | install hook =>
        rw [taken, accepts, if_pos rfl, calls, Live.install_register]
        cases h.source.registered <;> rfl
      | _ => cases accepts
  rw [perform_registered, ← counted]
  exact Nat.add_assoc ..

/-- Every call of the retrofit pass sets its flag, which was not set before. -/
theorem perform_retrofits (h : Hosted) (a : Action) :
    (h.calls a).count .retrofit + h.source.retrofitted.toNat =
      (h.perform a).source.retrofitted.toNat := by
  cases a with
  | request => exact Nat.zero_add _
  | observed =>
    change 0 + _ = (Live.count^[h.callbacks] h.source).retrofitted.toNat
    rw [Live.count_iterate, Nat.zero_add]
  | install hook =>
    change (h.source.install hook).calls.count .retrofit + _ =
      (h.source.install hook).source.retrofitted.toNat
    rw [Live.install_calls, Live.install_source]
    cases h.source.registered <;> cases h.source.retrofitted <;> cases hook.accepts <;>
      cases hook.retrofit <;> rfl
  | measure now =>
    change 0 + _ = (h.source.measure now).2.1.retrofitted.toNat
    rw [(h.source.measure_flags now).2, Nat.zero_add]

theorem run_registered (actions : List Action) (h : Hosted) :
    (run actions h).source.registered = (h.source.registered || accepted actions) := by
  induction actions generalizing h with
  | nil => exact (Bool.or_false _).symm
  | cons a rest ih =>
    have later := ih (h.perform a)
    rw [perform_registered, Bool.or_assoc] at later
    exact later

theorem run_callbacks (actions : List Action) (h : Hosted) :
    (run actions h).callbacks + h.source.registered.toNat =
      h.callbacks + (run actions h).source.registered.toNat := by
  induction actions generalizing h with
  | nil => rfl
  | cons a rest ih =>
    have first := perform_callbacks h a
    have later := ih (h.perform a)
    change (run rest (h.perform a)).callbacks + _ = _ + (run rest (h.perform a)).source.registered.toNat
    omega

theorem run_retrofits (actions : List Action) (h : Hosted) :
    (allCalls actions h).count .retrofit + h.source.retrofitted.toNat =
      (run actions h).source.retrofitted.toNat := by
  induction actions generalizing h with
  | nil => exact Nat.zero_add _
  | cons a rest ih =>
    have first := perform_retrofits h a
    have later := ih (h.perform a)
    change _ = (run rest (h.perform a)).source.retrofitted.toNat
    rw [allCalls, List.count_append]
    omega

section After

variable (start : Int64) (actions : List Action)

theorem registered_after : (run actions (new start)).source.registered = accepted actions :=
  run_registered actions (new start)

theorem retrofitted_after : (run actions (new start)).source.retrofitted = true ↔
    .retrofit ∈ allCalls actions (new start) := by
  have count : (allCalls actions (new start)).count .retrofit =
      (run actions (new start)).source.retrofitted.toNat := run_retrofits actions (new start)
  rw [← List.count_pos_iff, count]
  cases (run actions (new start)).source.retrofitted <;> decide

/-- What an installation does after the actions of a run. -/
structure Installs (hook : Hook) (before : Live) (i : Live.Installation) : Prop where
  /-- The callback is offered until it is taken. -/
  register : i.calls.count .register = if accepted actions then 0 else 1
  retrofit : .retrofit ∈ i.calls ↔ accepted (actions ++ [.install hook]) = true ∧
    hook.retrofit.isSome ∧ .retrofit ∉ allCalls actions (new start)
  refused : accepted actions = false → hook.accepts = false → i.source = before
  counting : i.source.window = before.window ∧ i.source.rate = before.rate

theorem install_installs (hook : Hook) :
    let s := (run actions (new start)).source
    Installs start actions hook s (s.install hook) := by
  intro s
  have registered : s.registered = accepted actions := registered_after start actions
  have retrofitted := retrofitted_after start actions
  change s.retrofitted = true ↔ _ at retrofitted
  constructor
  case register => rw [Live.install_register, registered]
  case retrofit =>
    have either : accepted (actions ++ [.install hook]) = (s.registered || hook.accepts) := by
      rw [accepted, List.any_append, registered]
      exact congrArg _ (Bool.or_false _)
    have member (c : Bool) : Live.Call.retrofit ∈ (if c then [Live.Call.retrofit] else []) ↔ c = true := by
      cases c <;> decide
    have offered : Live.Call.retrofit ∉ (if s.registered then [] else [Live.Call.register]) := by
      cases s.registered <;> decide
    rw [Live.install_calls, List.mem_append, or_iff_right offered, member, either, ← retrofitted]
    simp [and_assoc]
  case refused =>
    intro untaken refuses
    exact s.install_refused hook (registered.trans untaken) refuses
  case counting => exact s.install_frame hook

/-- A run of a source that was new at `start`, and what may come after it. -/
structure Hooked : Prop where
  registered : (run actions (new start)).source.registered = accepted actions
  callbacks : (run actions (new start)).callbacks = if accepted actions then 1 else 0
  /-- Every callback counts the request that it is invoked for. -/
  observed : (run (actions ++ [.observed]) (new start)).source.window.pending =
    (run actions (new start)).source.window.pending + if accepted actions then 1 else 0
  retrofits : (allCalls actions (new start)).count .retrofit ≤ 1
  install : ∀ hook, let s := (run actions (new start)).source
    Installs start actions hook s (s.install hook)

/-- However installations fail and succeed, one callback at most is ever held, and the
handlers that are active are retrofitted once at most. -/
theorem hooked_once : Hooked start actions := by
  have registered := registered_after start actions
  have callbacks : (run actions (new start)).callbacks = if accepted actions then 1 else 0 := by
    have balance := run_callbacks actions (new start)
    rw [registered] at balance
    change _ + 0 = 0 + _ at balance
    cases taken : accepted actions <;> simpa [taken] using balance
  constructor
  case registered => exact registered
  case callbacks => exact callbacks
  case observed =>
    have snoc : run (actions ++ [.observed]) (new start) =
        (run actions (new start)).perform .observed := by
      rw [run, List.foldl_append]
      rfl
    rw [snoc]
    change (Live.count^[(run actions (new start)).callbacks] _).window.pending = _
    rw [Live.count_iterate, callbacks]
    cases accepted actions <;> rfl
  case retrofits =>
    have count := run_retrofits actions (new start)
    have least := Bool.toNat_le (run actions (new start)).source.retrofitted
    omega
  case install => exact install_installs start actions

end After

/-- A host that refuses, one that cannot retrofit, one whose retrofit fails, and one whose
would not: the callback is taken once, and the failed pass is not run again. -/
example :
    let actions : List Action := [.install ⟨.error "absent", some (.ok 1)⟩,
      .install ⟨.ok (), none⟩, .observed, .install ⟨.ok (), some (.error "busy")⟩,
      .install ⟨.ok (), some (.ok 2)⟩, .observed]
    allCalls actions (new 0) = [.register, .register, .retrofit] ∧
      (run actions (new 0)).source.window.pending = 2 := by decide

end Hosted
end Throughput.Rate

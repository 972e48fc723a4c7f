import RemoteRun.Router.Basic

/-!
# Calls of handlers

The handlers that a dispatch calls, each with the bus that it finds.

**Calls.** `Bus.calls` lists routes, each with the bus in front of its call, as
`Bus.callAll` comes by them.

**Results.**
* `Bus.callAll_append`, `Bus.calls_append`: routes may be called in two parts.
* `Bus.callAll_keeps`: what every call keeps is found by every handler, and after all.
* `Router.listeners_registerAll`: registrations add their handlers behind the others.
-/

namespace RemoteRun

namespace Bus

variable {η ω : Type}

/-- The state after a call, with a call that did not end well counted and noted. -/
def afterCall (invoke : η → Message → Bus η ω → Bus η ω × HandlerOutcome) (m : Message)
    (b : Bus η ω) (route : Route η) : Bus η ω :=
  let (next, outcome) := invoke route.handler m b
  next.settle m route outcome

/-- Routes that are called one after the other, each with the bus that its handler
finds. -/
def calls (invoke : η → Message → Bus η ω → Bus η ω × HandlerOutcome) (m : Message) :
    Bus η ω → List (Route η) → List (Route η × Bus η ω)
  | _, [] => []
  | b, route :: routes => (route, b) :: calls invoke m (afterCall invoke m b route) routes

variable {invoke : η → Message → Bus η ω → Bus η ω × HandlerOutcome}
variable {m : Message}

@[simp] theorem settle_world
    (b : Bus η ω)
    (route : Route η)
    (outcome : HandlerOutcome) :
    (b.settle m route outcome).world = b.world := by
  unfold settle
  split <;> rfl

@[simp] theorem settle_routes
    (b : Bus η ω)
    (route : Route η)
    (outcome : HandlerOutcome) :
    (b.settle m route outcome).router.routes = b.router.routes := by
  unfold settle
  split <;> rfl

@[simp] theorem callAll_nil
    (b : Bus η ω) :
    (callAll invoke m b []).1 = b :=
  rfl

@[simp] theorem callAll_cons
    (b : Bus η ω)
    (route : Route η)
    (routes : List (Route η)) :
    (callAll invoke m b (route :: routes)).1 =
      (callAll invoke m (afterCall invoke m b route) routes).1 :=
  rfl

theorem callAll_append
    (b : Bus η ω)
    (routes others : List (Route η)) :
    (callAll invoke m b (routes ++ others)).1 =
      (callAll invoke m (callAll invoke m b routes).1 others).1 := by
  induction routes generalizing b with
  | nil =>
      rfl
  | cons route routes ih =>
      rw [List.cons_append, callAll_cons, callAll_cons, ih]

theorem calls_append
    (b : Bus η ω)
    (routes others : List (Route η)) :
    calls invoke m b (routes ++ others) =
      calls invoke m b routes ++ calls invoke m (callAll invoke m b routes).1 others := by
  induction routes generalizing b with
  | nil =>
      rfl
  | cons route routes ih =>
      rw [List.cons_append, calls, calls, ih, callAll_cons, List.cons_append]

/-- What every call keeps is there at every call and after all of them. -/
theorem callAll_keeps
    {P : Bus η ω → Prop}
    {routes : List (Route η)}
    (hcall : ∀ route ∈ routes, ∀ b, P b → P (afterCall invoke m b route))
    {b : Bus η ω}
    (hb : P b) :
    P (callAll invoke m b routes).1 ∧ ∀ call ∈ calls invoke m b routes, P call.2 := by
  induction routes generalizing b with
  | nil =>
      exact ⟨hb, by simp [calls]⟩
  | cons route routes ih =>
      have hnext := hcall route List.mem_cons_self b hb
      have hrest := ih (fun r hr => hcall r (List.mem_cons_of_mem route hr)) hnext
      refine ⟨hrest.1, ?_⟩
      intro call hmem
      rcases List.mem_cons.1 hmem with rfl | hmem
      · exact hb
      · exact hrest.2 call hmem

end Bus

namespace Router

variable {η : Type}

/-- Register handlers one after the other. -/
def registerAll (r : Router η) (routes : List (Route η)) : Router η :=
  routes.foldl (fun r route => (r.register route.matcher route.handler).1) r

@[simp] theorem listeners_registerAll
    (r : Router η)
    (routes : List (Route η)) :
    (r.registerAll routes).routes.listeners = r.routes.listeners ++ routes := by
  induction routes generalizing r with
  | nil =>
      simp [registerAll]
  | cons route routes ih =>
      have hone : (r.register route.matcher route.handler).1.routes.listeners =
          r.routes.listeners ++ [route] := by
        simp [register, Registry.insert, Registry.listeners]
      calc
        (r.registerAll (route :: routes)).routes.listeners =
            ((r.register route.matcher route.handler).1.registerAll routes).routes.listeners :=
          rfl
        _ = r.routes.listeners ++ route :: routes := by
          rw [ih, hone, List.append_assoc, List.singleton_append]

end Router

end RemoteRun

import ShoalBuild.Smoke.Client

/-!
# Shoal smoke test - what a run appends to the log

{lit}`make_request` is read once as a function of the reply it gets, and each method of
the tester is then described by what every run of it appends to the log of the world:
the lines it prints and the exchanges it opens, for every transport and every
{lit}`json.loads`, whether the run returns or an exception ends it.

Main results:

- Theorem {lit}`makeRequest_eq`: {lit}`make_request` opens its request and does what
  {lit}`replyValue` says of the reply.
- The judgement {lit}`Logs Q x` for a property {lit}`Q` of logs closed under
  concatenation, with one lemma per method; {lit}`Logs.runChecks` assembles the checks
  {lit}`main` runs after authenticating.
- The judgement {lit}`OpensOnce r x`: {lit}`make_request` and
  {lit}`delete_connection_method` open exactly their request.
-/

namespace Shoal
namespace Smoke

/-- {lit}`json.loads`. -/
abbrev Loads := String → Except String Json

/-- What {lit}`make_request` makes of the reply to its request. -/
def replyValue (loads : Loads) (method : String) : Reply → Except Fault Json
  | .response status _ body =>
    if method == "DELETE" && status == 204 then .ok (.obj [])
    else
      match body with
      | .error msg => .ok (errorDoc msg)
      | .ok text =>
        if text.isEmpty then .ok (.obj [])
        else
          match loads text with
          | .ok v => .ok v
          | .error msg => .ok (errorDoc msg)
  | .httpError code _ body =>
    match body with
    | .error msg => .error ⟨.bodyError, msg⟩
    | .ok errorBody =>
      match loads errorBody with
      | .ok errorJson => .ok (.obj [("error", errorJson), ("status", .int code)])
      | .error _ => .ok (.obj [("error", .str errorBody), ("status", .int code)])
  | .failure msg => .ok (errorDoc msg)

/-- The world after {lit}`urlopen r`. -/
def World.afterSend (w : World) (r : Request) : World :=
  { w with sent := w.sent + 1, trace := w.trace ++ [.exchange r (w.send w.sent r)] }

@[simp]
theorem liftFault_ok {α : Type} (a : α) (w : World) : liftFault (.ok a) w = .ok a w := rfl

@[simp]
theorem liftFault_error {α : Type} (e : Fault) (w : World) :
    liftFault (.error e : Except Fault α) w = .error e w := rfl

/-- {lit}`make_request` opens its request and then does what {lit}`replyValue` says of the
reply: it returns the value, or raises the {lit}`OSError` of an error body it cannot read. -/
theorem makeRequest_eq (t : Tester) (path : List Piece) (method : String) (data : Option Json)
    (w : World) :
    t.makeRequest path method data w =
      liftFault (replyValue w.loads method (w.send w.sent (t.request path method data)))
        (w.afterSend (t.request path method data)) := by
  rw [Tester.makeRequest, bind_ok _ (urlopen_eq _ w), World.afterSend]
  generalize w.send w.sent _ = rep
  rcases rep with ⟨status, _, body⟩ | ⟨code, _, body⟩ | msg
  · simp only [responseValue, replyValue]
    split
    · rfl
    · rcases body with msg | text
      · rfl
      · simp only
        split
        · rfl
        · rw [bind_ok _ (jsonLoads_eq _ _)]
          cases w.loads text <;> rfl
  · rcases body with msg | text
    · rfl
    · simp only [httpErrorValue, replyValue]
      rw [bind_ok _ (jsonLoads_eq _ _)]
      cases w.loads text <;> rfl
  · rfl


/-! ## What a run appends to the log -/

/-- A property of logs, read with the world's {lit}`json.loads`, that the empty log has
and that passes to the concatenation of two logs that have it. -/
structure Additive (Q : Loads → List Event → Prop) : Prop where
  nil : ∀ l, Q l []
  append : ∀ {l e₁ e₂}, Q l e₁ → Q l e₂ → Q l (e₁ ++ e₂)

/-- Every run of {lit}`x`, whether it returns or raises, keeps the transport and
{lit}`json.loads` and appends to the log what satisfies {lit}`Q`. -/
structure Logs (Q : Loads → List Event → Prop) {α : Type} (x : Py α) : Prop where
  run : ∀ w, (Result.world (x w)).send = w.send ∧ (Result.world (x w)).loads = w.loads ∧
    ∃ evs, (Result.world (x w)).trace = w.trace ++ evs ∧ Q w.loads evs

section Logs

variable {Q : Loads → List Event → Prop} {α β : Type}

/-- A method that leaves the world as it is appends nothing. -/
theorem Logs.of_trace (hQ : Additive Q) {x : Py α} (h : ∀ w, Result.world (x w) = w) :
    Logs Q x :=
  ⟨fun w => by rw [h]; exact ⟨rfl, rfl, [], by simp, hQ.nil _⟩⟩

/-- A run of {lit}`x >>= f` appends what {lit}`x` appends, then what {lit}`f` does; a raise in
{lit}`x` ends the run there. -/
theorem Logs.bind (hQ : Additive Q) {x : Py α} {f : α → Py β} (hx : Logs Q x)
    (hf : ∀ a, Logs Q (f a)) : Logs Q (x >>= f) := ⟨fun w => by
  obtain ⟨hs, hl, evs, htr, hq⟩ := hx.run w
  rw [bind_apply]
  cases h : x w with
  | ok a w₁ =>
    simp only [h, Result.world] at hs hl htr
    obtain ⟨hs₂, hl₂, evs₂, htr₂, hq₂⟩ := (hf a).run w₁
    rw [hl] at hq₂
    exact ⟨hs₂.trans hs, hl₂.trans hl, evs ++ evs₂, by rw [htr₂, htr, List.append_assoc],
      hQ.append hq hq₂⟩
  | error e w₁ =>
    simp only [h, Result.world] at hs hl htr
    exact ⟨hs, hl, evs, htr, hq⟩⟩

theorem Logs.pure (hQ : Additive Q) (a : α) : Logs Q (Pure.pure a : Py α) :=
  Logs.of_trace hQ fun _ => rfl

theorem Logs.liftFault (hQ : Additive Q) (x : Except Fault α) : Logs Q (Smoke.liftFault x) :=
  Logs.of_trace hQ fun _ => by cases x <;> rfl

theorem Logs.jsonLoads (hQ : Additive Q) (text : String) : Logs Q (Smoke.jsonLoads text) :=
  Logs.of_trace hQ fun _ => rfl

theorem Logs.print (hsay : ∀ l line, Q l [.say line]) (line : List Piece) :
    Logs Q (Smoke.print line) :=
  ⟨fun _ => ⟨rfl, rfl, [.say line], rfl, hsay _ _⟩⟩

theorem Logs.urlopen {r : Request} (hr : ∀ l rep, Q l [.exchange r rep]) :
    Logs Q (Smoke.urlopen r) :=
  ⟨fun _ => ⟨rfl, rfl, _, rfl, hr _ _⟩⟩

end Logs

/-! ## Exchanges -/

/-- The request and reply of an exchange. -/
def Event.exchange? : Event → Option (Request × Reply)
  | .exchange r rep => some (r, rep)
  | .say _ => none

/-- The exchanges of a log, in order. -/
def exchanges (evs : List Event) : List (Request × Reply) := evs.filterMap Event.exchange?

/-- Every request of the log satisfies {lit}`P`. -/
def Sends (P : Request → Prop) (_ : Loads) (evs : List Event) : Prop :=
  ∀ q ∈ exchanges evs, P q.1

@[simp]
theorem exchanges_nil : exchanges [] = [] := rfl

@[simp]
theorem exchanges_cons_say (line : List Piece) (evs : List Event) :
    exchanges (.say line :: evs) = exchanges evs := rfl

@[simp]
theorem exchanges_cons_exchange (r : Request) (rep : Reply) (evs : List Event) :
    exchanges (.exchange r rep :: evs) = (r, rep) :: exchanges evs := rfl

@[simp]
theorem exchanges_append (e₁ e₂ : List Event) :
    exchanges (e₁ ++ e₂) = exchanges e₁ ++ exchanges e₂ := List.filterMap_append _ _ _

theorem sends_additive (P : Request → Prop) : Additive (Sends P) where
  nil _ q hq := nomatch hq
  append h₁ h₂ q hq := by
    rw [exchanges_append, List.mem_append] at hq
    exact hq.elim (h₁ q) (h₂ q)

theorem sends_say (P : Request → Prop) (l : Loads) (line : List Piece) : Sends P l [.say line] :=
  fun _ hq => nomatch hq

theorem sends_exchange {P : Request → Prop} {r : Request} (h : P r) (l : Loads) (rep : Reply) :
    Sends P l [.exchange r rep] := by
  intro q hq
  obtain rfl := List.mem_singleton.mp hq
  exact h

/-! ## What each method appends -/

/-- What {lit}`make_request` appends: the exchange of its one request. -/
theorem Logs.makeRequest {Q : Loads → List Event → Prop} {t : Tester} {path : List Piece}
    {method : String} {data : Option Json}
    (hr : ∀ l rep, Q l [.exchange (t.request path method data) rep]) :
    Logs Q (t.makeRequest path method data) := ⟨fun w => by
  rw [makeRequest_eq]
  cases replyValue w.loads method (w.send w.sent (t.request path method data)) <;>
    exact ⟨rfl, rfl, _, rfl, hr _ _⟩⟩

section Methods

variable {Q : Loads → List Event → Prop} (hQ : Additive Q) (hsay : ∀ l line, Q l [.say line])
include hQ

/-- The join point of {lit}`let v ← if c then x else y; k v`. -/
theorem Logs.bind_ite {α β : Type} {c : Prop} [Decidable c] {x y : Py α} {k : α → Py β}
    (hx : Logs Q x) (hy : Logs Q y) (hk : ∀ a, Logs Q (k a)) :
    Logs Q (if c then x >>= k else y >>= k) := by
  split
  exacts [hx.bind hQ hk, hy.bind hQ hk]

/-- The join point of {lit}`if c: x; f(...)` followed by {lit}`k`: a statement {lit}`if`
with no {lit}`else`. -/
theorem Logs.bind_when {α β : Type} {c : Prop} [Decidable c] {x : Py α} {f : α → Py Unit}
    {k : Unit → Py β} (hx : c → Logs Q (x >>= f)) (hk : ∀ u, Logs Q (k u)) :
    Logs Q (if c then x >>= fun a => f a >>= k else k ()) := by
  split
  · rw [← bind_assoc]
    exact (hx ‹_›).bind hQ hk
  · exact hk ()

/-- Reading the token from the body appends nothing. -/
theorem Logs.bodyToken (body : Except String String) : Logs Q (Smoke.bodyToken body) := by
  unfold Smoke.bodyToken
  split
  · exact Logs.pure hQ _
  · refine (Logs.jsonLoads hQ _).bind hQ fun v => ?_
    rcases v with _ | data
    · exact Logs.pure hQ _
    · dsimp only
      split <;> exact Logs.pure hQ _

include hsay

theorem Logs.print_bind {β : Type} {line : List Piece} {f : Unit → Py β} (hf : Logs Q (f ())) :
    Logs Q (Smoke.print line >>= f) :=
  (Logs.print hsay line).bind hQ fun _ => hf

/-- {lit}`authenticate` appends lines and the exchange of the session request. -/
theorem Logs.authenticate (t : Tester) (username password : String)
    (hr : ∀ l rep, Q l [.exchange (sessionRequest t.baseUrl username password) rep]) :
    Logs Q (t.authenticate username password) := by
  have hfail : ∀ t' msg, Logs Q (Tester.authFailure t' msg) := fun _ _ =>
    Logs.print_bind hQ hsay <| Logs.print_bind hQ hsay <| Logs.pure hQ _
  unfold Tester.authenticate
  refine Logs.print_bind hQ hsay <| (Logs.urlopen hr).bind hQ fun rep => ?_
  rcases rep with ⟨_, headers, body⟩ | ⟨code, _, _⟩ | msg
  · dsimp only
    refine Logs.bind_ite hQ (Logs.pure hQ _) (Logs.bodyToken hQ body) fun token => ?_
    rcases token with msg | token
    · exact hfail _ _
    · dsimp only
      split <;> exact Logs.print_bind hQ hsay (Logs.pure hQ _)
  · refine Logs.print_bind hQ hsay ?_
    split
    exacts [Logs.print_bind hQ hsay (Logs.pure hQ _), (Logs.pure hQ _).bind hQ fun _ => Logs.pure hQ _]
  · exact hfail _ _

/-- {lit}`check_service_root` appends lines and the exchange of its {lit}`GET`. -/
theorem Logs.checkServiceRoot (t : Tester)
    (hr : ∀ l rep, Q l [.exchange (t.request [.text "/redfish/v1/"] "GET" none) rep]) :
    Logs Q t.checkServiceRoot := by
  unfold Tester.checkServiceRoot
  refine Logs.print_bind hQ hsay <| (Logs.makeRequest hr).bind hQ fun _ => ?_
  refine Logs.bind_ite hQ (Logs.liftFault hQ _) (Logs.pure hQ _) fun _ => ?_
  dsimp only
  split <;> exact Logs.print_bind hQ hsay (Logs.pure hQ _)

/-- {lit}`Tester.fetch` appends lines and the exchange of its {lit}`GET`. -/
theorem Logs.fetch (t : Tester) (heading path failure : String)
    (hr : ∀ l rep, Q l [.exchange (t.request [.text path] "GET" none) rep]) :
    Logs Q (t.fetch heading path failure) := by
  unfold Tester.fetch
  refine Logs.print_bind hQ hsay <| (Logs.makeRequest hr).bind hQ fun _ =>
    (Logs.liftFault hQ _).bind hQ fun _ => ?_
  split <;> exact Logs.print_bind hQ hsay (Logs.pure hQ _)

/-- {lit}`Tester.fetchCollection` appends lines and the exchange of its {lit}`GET`, when it
does not raise before it prints. -/
theorem Logs.fetchCollection (t : Tester) (heading path noun failure : String)
    (hr : ∀ l rep, Q l [.exchange (t.request [.text path] "GET" none) rep]) :
    Logs Q (t.fetchCollection heading path noun failure) := by
  unfold Tester.fetchCollection
  refine Logs.print_bind hQ hsay <| (Logs.makeRequest hr).bind hQ fun _ =>
    (Logs.liftFault hQ _).bind hQ fun _ => ?_
  split
  · exact (Logs.liftFault hQ _).bind hQ fun _ =>
      Logs.print_bind hQ hsay <| Logs.print_bind hQ hsay <| Logs.pure hQ _
  · exact Logs.print_bind hQ hsay (Logs.pure hQ _)

/-- {lit}`add_connection_method` appends lines and the exchange of its {lit}`POST`. -/
theorem Logs.addConnectionMethod (t : Tester) (name address username password : String)
    (hr : ∀ l rep, Q l [.exchange (t.request [.text connectionMethodsPath] "POST"
      (some (connectionMethodDoc name address username password))) rep]) :
    Logs Q (t.addConnectionMethod name address username password) := by
  unfold Tester.addConnectionMethod
  refine Logs.print_bind hQ hsay <| Logs.print_bind hQ hsay <| Logs.print_bind hQ hsay <|
    Logs.print_bind hQ hsay <| (Logs.makeRequest hr).bind hQ fun _ =>
      (Logs.liftFault hQ _).bind hQ fun _ => ?_
  split
  · exact Logs.print_bind hQ hsay <| Logs.print_bind hQ hsay <| Logs.pure hQ _
  · exact Logs.print_bind hQ hsay (Logs.pure hQ _)

/-- {lit}`delete_connection_method` appends lines and the exchange of its {lit}`DELETE`. -/
theorem Logs.deleteConnectionMethod (t : Tester) (methodId : Json)
    (hr : ∀ l rep, Q l [.exchange (t.request (deletePath methodId) "DELETE" none) rep]) :
    Logs Q (t.deleteConnectionMethod methodId) := by
  unfold Tester.deleteConnectionMethod
  refine Logs.print_bind hQ hsay <| (Logs.makeRequest hr).bind hQ fun _ => ?_
  refine Logs.bind_ite hQ (Logs.pure hQ _) (Logs.liftFault hQ _) fun _ => ?_
  dsimp only
  split <;> exact Logs.print_bind hQ hsay (Logs.pure hQ _)

/-- The cleanup in {lit}`main` appends at most one {lit}`delete_connection_method`. -/
theorem Logs.cleanUp (t : Tester) (method : Option Json)
    (hr : ∀ l methodId rep, Q l [.exchange (t.request (deletePath methodId) "DELETE" none) rep]) :
    Logs Q (t.cleanUp method) := by
  rcases method with _ | m
  · exact Logs.pure hQ _
  unfold Tester.cleanUp
  refine Logs.bind_ite hQ (Logs.liftFault hQ _) (Logs.pure hQ _) fun _ => ?_
  dsimp only
  split
  · exact (Logs.liftFault hQ _).bind hQ fun _ =>
      (Logs.deleteConnectionMethod hQ hsay t _ (hr · _)).bind hQ fun _ => Logs.pure hQ _
  · exact Logs.pure hQ _

/-- What the checks after authentication append, when every {lit}`GET` the tester can
open appends what satisfies {lit}`Q`, and so does adding a connection method and cleaning
it up, unless {lit}`--skip-add` is given. -/
theorem Logs.runChecks (t : Tester) (args : Args)
    (hget : ∀ l path rep, Q l [.exchange (t.request path "GET" none) rep])
    (hadd : args.skipAdd = false → Logs Q (t.addConnectionMethod "Test BMC" args.bmcAddress
      args.bmcUsername args.bmcPassword >>= t.cleanUp)) :
    Logs Q (t.runChecks args) := by
  unfold Tester.runChecks
  refine (Logs.checkServiceRoot hQ hsay t (hget · _)).bind hQ fun _ =>
    (Logs.fetch hQ hsay t _ _ _ (hget · _)).bind hQ fun _ =>
      (Logs.fetch hQ hsay t _ _ _ (hget · _)).bind hQ fun _ =>
        Logs.bind_when hQ (fun h => hadd (by simpa using h)) fun _ => ?_
  exact (Logs.fetchCollection hQ hsay t _ _ _ _ (hget · _)).bind hQ fun _ =>
    (Logs.fetchCollection hQ hsay t _ _ _ _ (hget · _)).bind hQ fun _ =>
      Logs.print_bind hQ hsay <| Logs.print_bind hQ hsay <| Logs.print_bind hQ hsay <|
        Logs.pure hQ _

/-- What the checks after authentication append, when every request the tester can open
appends what satisfies {lit}`Q`. -/
theorem Logs.runChecks_of_requests (t : Tester) (args : Args)
    (hr : ∀ l path method data rep, Q l [.exchange (t.request path method data) rep]) :
    Logs Q (t.runChecks args) :=
  Logs.runChecks hQ hsay t args (hr · · _ _) fun _ =>
    (Logs.addConnectionMethod hQ hsay t _ _ _ _ (hr · _ _ _)).bind hQ fun m =>
      Logs.cleanUp hQ hsay t m fun l _ => hr l _ _ _

/-- What {lit}`main` appends, when the login and the checks append what satisfies
{lit}`Q`. -/
theorem Logs.main (args : Args)
    (hlogin : ∀ l rep,
      Q l [.exchange (sessionRequest (rstripSlash args.url) args.username args.password) rep])
    (hchecks : ∀ t : Tester, Logs Q (t.runChecks args)) : Logs Q (Smoke.main args) := by
  unfold Smoke.main
  refine Logs.print_bind hQ hsay <| Logs.print_bind hQ hsay <| Logs.print_bind hQ hsay <|
    (Logs.authenticate hQ hsay _ _ _ hlogin).bind hQ fun ⟨_, t⟩ => ?_
  dsimp only
  split
  · exact Logs.print_bind hQ hsay (Logs.pure hQ _)
  · exact hchecks t

end Methods

/-! ## Methods that open one request -/

/-- Nothing in the log is an exchange. -/
def Quiet : Loads → List Event → Prop := Sends fun _ => False

theorem quiet_additive : Additive Quiet := sends_additive _

theorem quiet_say (l : Loads) (line : List Piece) : Quiet l [.say line] := sends_say _ _ _

/-- A quiet log holds no exchange. -/
theorem exchanges_of_quiet {l : Loads} {evs : List Event} (h : Quiet l evs) : exchanges evs = [] :=
  List.eq_nil_iff_forall_not_mem.mpr fun q hq => h q hq

/-- Every run of {lit}`x` opens the request {lit}`r` once and nothing else: its log
holds one exchange, {lit}`r` with the transport's reply to it. -/
structure OpensOnce (r : Request) {α : Type} (x : Py α) : Prop where
  run : ∀ w, (Result.world (x w)).send = w.send ∧ (Result.world (x w)).loads = w.loads ∧
    ∃ evs, (Result.world (x w)).trace = w.trace ++ evs ∧ exchanges evs = [(r, w.send w.sent r)]

section OpensOnce

variable {r : Request} {α β : Type}

/-- A line printed before a method that opens {lit}`r` once changes nothing in that. -/
theorem OpensOnce.print_bind {line : List Piece} {f : Unit → Py β} (hf : OpensOnce r (f ())) :
    OpensOnce r (print line >>= f) := ⟨fun w => by
  rw [bind_ok _ (print_eq _ _)]
  obtain ⟨hs, hl, evs, htr, hex⟩ := hf.run _
  exact ⟨hs, hl, _ :: evs, by rw [htr, List.append_assoc]; rfl, by simpa using hex⟩⟩

/-- A method that opens {lit}`r` once, followed by quiet steps, opens {lit}`r` once. -/
theorem OpensOnce.bind_quiet {x : Py α} {f : α → Py β} (hx : OpensOnce r x)
    (hf : ∀ a, Logs Quiet (f a)) : OpensOnce r (x >>= f) := ⟨fun w => by
  obtain ⟨hs, hl, evs, htr, hex⟩ := hx.run w
  rw [bind_apply]
  cases h : x w with
  | ok a w₁ =>
    simp only [h, Result.world] at hs hl htr
    obtain ⟨hs₂, hl₂, evs₂, htr₂, hq⟩ := (hf a).run w₁
    exact ⟨hs₂.trans hs, hl₂.trans hl, evs ++ evs₂, by rw [htr₂, htr, List.append_assoc],
      by simp [hex, exchanges_of_quiet hq]⟩
  | error e w₁ =>
    simp only [h, Result.world] at hs hl htr
    exact ⟨hs, hl, evs, htr, hex⟩⟩

/-- {lit}`make_request` opens its one request. -/
theorem OpensOnce.makeRequest (t : Tester) (path : List Piece) (method : String)
    (data : Option Json) : OpensOnce (t.request path method data) (t.makeRequest path method data) :=
  ⟨fun w => by
    rw [makeRequest_eq]
    cases replyValue w.loads method (w.send w.sent (t.request path method data)) <;>
      exact ⟨rfl, rfl, _, rfl, rfl⟩⟩

/-- {lit}`delete_connection_method` opens its {lit}`DELETE` and nothing else. -/
theorem OpensOnce.deleteConnectionMethod (t : Tester) (methodId : Json) :
    OpensOnce (t.request (deletePath methodId) "DELETE" none) (t.deleteConnectionMethod methodId) := by
  unfold Tester.deleteConnectionMethod
  refine OpensOnce.print_bind (OpensOnce.bind_quiet (OpensOnce.makeRequest _ _ _ _) fun _ => ?_)
  refine Logs.bind_ite quiet_additive (Logs.pure quiet_additive _)
    (Logs.liftFault quiet_additive _) fun _ => ?_
  dsimp only
  split <;> exact Logs.print_bind quiet_additive quiet_say (Logs.pure quiet_additive _)

end OpensOnce

end Smoke
end Shoal

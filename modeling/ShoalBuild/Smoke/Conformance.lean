import ShoalBuild.Smoke.Session

/-!
# Shoal smoke test - what the script makes of the replies

How the script reads what the service answers.  A method counts a reply as a success only
when the body of a response decodes to a value without an {lit}`error` member; the two
collection checks differ from the other reads in calling {lit}`response.get`, which raises
on a body that is not an object.  Against a service that answers as a Redfish service does
(every body an object, every error body readable) the script runs to its end, and its exit
status says only whether it could log in.

Main results:

- Theorem {lit}`makeRequest_accepted`: an HTTP error, an exception of the transport, an
  unreadable or undecodable body are never taken for success.
- Theorem {lit}`fetchCollection_raises`: on a body that decodes to a value other than an
  object, the collection checks raise {lit}`AttributeError` where the other reads return it.
- Theorem {lit}`main_conformant`: against a conformant service no exception escapes
  {lit}`main`, which returns {lit}`0` exactly when the login reply gives a token.
-/

namespace Shoal
namespace Smoke

/-! ## Failures are never taken for success -/

/-- The document {lit}`make_request` makes of an exception fails the checks. -/
theorem accepted_errorDoc (msg : String) : accepted (errorDoc msg) = .ok false := rfl

/-- An empty body ({lit}`{}`) fails the checks. -/
theorem accepted_empty : accepted (.obj []) = .ok false := rfl

/-- The document {lit}`make_request` makes of an HTTP error fails the checks. -/
theorem accepted_httpErrorDoc (v : Json) (code : Nat) :
    accepted (.obj [("error", v), ("status", .int code)]) = .ok false := rfl

/-- A response to a GET whose body decodes to {lit}`v` is what {lit}`make_request` returns. -/
theorem makeRequest_get_body {t : Tester} {path : List Piece} {w : World} {status : Nat}
    {headers : List (String × String)} {text : String} {v : Json}
    (hrep : w.send w.sent (t.request path "GET" none) = .response status headers (.ok text))
    (htext : text ≠ "") (hv : w.loads text = .ok v) (w₁ : World) (hs : w₁.send = w.send)
    (hn : w₁.sent = w.sent) (hl : w₁.loads = w.loads) :
    t.makeRequest path "GET" none w₁ = .ok v (w₁.afterSend (t.request path "GET" none)) := by
  have hempty : text.isEmpty = false := by
    cases h : text.isEmpty
    · rfl
    · exact absurd ((String.isEmpty_iff _).mp h) htext
  rw [makeRequest_eq, hs, hn, hl, hrep]
  simp [replyValue, hempty, hv]

/-- What {lit}`make_request` makes of a reply passes the checks only when it is the decoded
non-empty body of a response (not a {lit}`DELETE` answered {lit}`204`). -/
theorem replyValue_accepted {l : Loads} {method : String} {rep : Reply} {v : Json}
    (h : replyValue l method rep = .ok v) (hacc : accepted v = .ok true) :
    ∃ status headers text, rep = .response status headers (.ok text) ∧
      ¬(method = "DELETE" ∧ status = 204) ∧ text ≠ "" ∧ l text = .ok v := by
  rcases rep with ⟨status, headers, body⟩ | ⟨code, reason, body⟩ | msg
  · simp only [replyValue] at h
    split at h
    · cases h; simp [accepted_empty] at hacc
    · rename_i h204
      rcases body with msg | text
      · cases h; simp [accepted_errorDoc] at hacc
      · simp only at h
        split at h
        · cases h; simp [accepted_empty] at hacc
        · rename_i hempty
          split at h
          · cases h
            exact ⟨status, headers, text, rfl, by simpa using h204, by rintro rfl; exact hempty rfl, ‹_›⟩
          · cases h; simp [accepted_errorDoc] at hacc
  · rcases body with msg | text
    · cases h
    · simp only [replyValue] at h
      split at h <;> cases h <;> simp [accepted_httpErrorDoc] at hacc
  · cases h; simp [accepted_errorDoc] at hacc

/-- What {lit}`make_request` returns passes the checks of a method ({lit}`response and
"error" not in response`) only when it is the decoded, non-empty body of a response to
its request, and not an answer {lit}`204` to a {lit}`DELETE`: an HTTP error, an exception
of the transport, an unreadable or undecodable body are never taken for success. -/
theorem makeRequest_accepted {t : Tester} {path : List Piece} {method : String}
    {data : Option Json} {w w' : World} {v : Json}
    (h : t.makeRequest path method data w = .ok v w') (hacc : accepted v = .ok true) :
    ∃ status headers text,
      w.send w.sent (t.request path method data) = .response status headers (.ok text) ∧
      ¬(method = "DELETE" ∧ status = 204) ∧ text ≠ "" ∧ w.loads text = .ok v := by
  rw [makeRequest_eq] at h
  cases hv : replyValue w.loads method (w.send w.sent (t.request path method data)) with
  | error e => rw [hv] at h; cases h
  | ok v' =>
    rw [hv] at h
    cases h
    exact replyValue_accepted hv hacc

/-- A service whose every reply is a {lit}`200` with a body that decodes to a JSON list. -/
def listWorld : World where
  send _ _ := .response 200 [] (.ok "[\"Members\"]")
  loads _ := .ok (.arr [.str "Members"])
  sent := 0
  trace := []

theorem makeRequest_accepted_listWorld :
    ∃ status headers text, listWorld.send 0
        ((Tester.new "http://localhost:8080").request [.text "/redfish/v1/Systems"] "GET" none) =
          .response status headers (.ok text) ∧
      ¬("GET" = "DELETE" ∧ status = 204) ∧ text ≠ "" ∧ listWorld.loads text = .ok (.arr [.str "Members"]) :=
  makeRequest_accepted (makeRequest_get_body rfl (by decide) rfl listWorld rfl rfl rfl) rfl

/-! ## Where the collection checks differ -/

/-- Given a response whose body decodes to a value that passes the checks but is not an
object, the collection checks raise {lit}`AttributeError` at {lit}`response.get`, where
{lit}`Tester.fetch` returns the value. -/
theorem fetchCollection_raises (t : Tester) (heading path noun failure : String) (w : World)
    {status : Nat} {headers : List (String × String)} {text : String} {v : Json}
    (hrep : w.send w.sent (t.request [.text path] "GET" none) = .response status headers (.ok text))
    (htext : text ≠ "") (hv : w.loads text = .ok v) (hacc : accepted v = .ok true)
    (hobj : ∀ kvs, v ≠ .obj kvs) :
    (∃ w', t.fetchCollection heading path noun failure w =
      .error ⟨.attributeError, "'" ++ v.typeName ++ "' object has no attribute 'get'"⟩ w') ∧
    ∃ w', t.fetch heading path failure w = .ok (some v) w' := by
  have hget : v.get "Members@odata.count" (.int 0) =
      .error ⟨.attributeError, "'" ++ v.typeName ++ "' object has no attribute 'get'"⟩ := by
    cases v with
    | obj kvs => exact absurd rfl (hobj kvs)
    | _ => rfl
  have hmr := makeRequest_get_body hrep htext hv
  constructor
  · unfold Tester.fetchCollection
    rw [bind_ok _ (print_eq _ _),
      bind_ok _ (hmr { w with trace := w.trace ++ [.say [.text heading]] } rfl rfl rfl), hacc,
      bind_ok _ (liftFault_ok _ _)]
    simp only [if_true]
    rw [hget, bind_error _ (liftFault_error _ _)]
    exact ⟨_, rfl⟩
  · unfold Tester.fetch
    rw [bind_ok _ (print_eq _ _),
      bind_ok _ (hmr { w with trace := w.trace ++ [.say [.text heading]] } rfl rfl rfl), hacc,
      bind_ok _ (liftFault_ok _ _)]
    exact ⟨_, rfl⟩

theorem fetchCollection_raises_listWorld :
    (∃ w', (Tester.new "http://localhost:8080").checkSystemsCollection listWorld =
      .error ⟨.attributeError, "'list' object has no attribute 'get'"⟩ w') ∧
    ∃ w', (Tester.new "http://localhost:8080").fetch "\n7. Checking aggregated Systems collection..."
      "/redfish/v1/Systems" "   ✗ Failed to get Systems collection:" listWorld =
        .ok (some (.arr [.str "Members"])) w' :=
  fetchCollection_raises _ _ _ _ _ listWorld rfl (by decide) rfl rfl fun _ h => Json.noConfusion h

/-! ## Against a Redfish service -/

/-- A service that answers as a Redfish service does: a response body that is not empty
decodes, when it decodes at all, to a JSON object, and the body of an HTTP error can be
read. -/
def Conformant (w : World) : Prop :=
  ∀ n r, match w.send n r with
    | .response _ _ (.ok text) => text ≠ "" → ∀ v, w.loads text = .ok v → ∃ kvs, v = .obj kvs
    | .httpError _ _ body => ∃ text, body = .ok text
    | _ => True

/-- Conformance is a property of the transport and {lit}`json.loads` alone. -/
theorem Conformant.of_eq {w w' : World} (h : Conformant w) (hs : w'.send = w.send)
    (hl : w'.loads = w.loads) : Conformant w' := by
  unfold Conformant
  rw [hs, hl]
  exact h

/-- Against a conformant service, every run of {lit}`x` returns a value satisfying
{lit}`P`, and keeps the transport and {lit}`json.loads`. -/
def Returns {α : Type} (P : α → Prop) (x : Py α) : Prop :=
  ∀ w, Conformant w → ∃ a w', x w = .ok a w' ∧ P a ∧ w'.send = w.send ∧ w'.loads = w.loads

section Returns

variable {α β : Type} {P : α → Prop} {Q : β → Prop}

/-- Against a conformant service, {lit}`x >>= f` returns when {lit}`x` does and {lit}`f`
does on every value {lit}`x` can return. -/
theorem Returns.bind {x : Py α} {f : α → Py β} (hx : Returns P x)
    (hf : ∀ a, P a → Returns Q (f a)) : Returns Q (x >>= f) := fun w hc => by
  obtain ⟨a, w₁, hx₁, ha, hs, hl⟩ := hx w hc
  obtain ⟨b, w₂, hf₁, hb, hs₂, hl₂⟩ := hf a ha w₁ (hc.of_eq hs hl)
  exact ⟨b, w₂, by rw [bind_ok _ hx₁, hf₁], hb, hs₂.trans hs, hl₂.trans hl⟩

theorem Returns.pure {a : α} (h : P a) : Returns P (Pure.pure a : Py α) :=
  fun w _ => ⟨a, w, rfl, h, rfl, rfl⟩

theorem Returns.print (line : List Piece) : Returns (fun _ => True) (Smoke.print line) :=
  fun _ _ => ⟨(), _, rfl, trivial, rfl, rfl⟩

theorem Returns.liftFault {x : Except Fault α} {a : α} (h : x = .ok a) :
    Returns (· = a) (Smoke.liftFault x) :=
  fun w _ => ⟨a, w, by rw [h]; rfl, rfl, rfl, rfl⟩

theorem Returns.liftFault_ok {x : Except Fault α} (h : ∃ a, x = .ok a) :
    Returns (fun _ => True) (Smoke.liftFault x) := by
  obtain ⟨a, rfl⟩ := h
  exact fun w _ => ⟨a, w, rfl, trivial, rfl, rfl⟩

theorem Returns.pure_bind {a : α} {f : α → Py β} (h : Returns Q (f a)) :
    Returns Q (Pure.pure a >>= f) :=
  fun w hc => h w hc

theorem Returns.print_bind {line : List Piece} {f : Unit → Py β} (h : Returns Q (f ())) :
    Returns Q (Smoke.print line >>= f) :=
  (Returns.print line).bind fun _ _ => h

/-- The join point of {lit}`let v ← if c then x else y; k v`. -/
theorem Returns.bind_ite {c : Prop} [Decidable c] {x y : Py α} {k : α → Py β}
    (hx : Returns P x) (hy : Returns P y) (hk : ∀ a, P a → Returns Q (k a)) :
    Returns Q (if c then x >>= k else y >>= k) := by
  split
  exacts [hx.bind hk, hy.bind hk]

/-- The join point of {lit}`if c: x; f(...)` followed by {lit}`k`. -/
theorem Returns.bind_when {c : Prop} [Decidable c] {x : Py α} {f : α → Py Unit}
    {k : Unit → Py β} (hx : Returns (fun _ => True) (x >>= f)) (hk : ∀ u, Returns Q (k u)) :
    Returns Q (if c then x >>= fun a => f a >>= k else k ()) := by
  split
  · rw [← bind_assoc]
    exact hx.bind fun u _ => hk u
  · exact hk ()

end Returns

/-- The value is a JSON object. -/
def Json.IsObj (v : Json) : Prop := ∃ kvs, v = .obj kvs

/-- Against a conformant service, what {lit}`make_request` makes of a reply is an object. -/
theorem replyValue_isObj {l : Loads} (method : String) {rep : Reply}
    (hc : match rep with
      | .response _ _ (.ok text) => text ≠ "" → ∀ v, l text = .ok v → ∃ kvs, v = .obj kvs
      | .httpError _ _ body => ∃ text, body = .ok text
      | _ => True) :
    ∃ v, replyValue l method rep = .ok v ∧ v.IsObj := by
  rcases rep with ⟨status, headers, body⟩ | ⟨code, reason, body⟩ | msg
  · simp only [replyValue]
    split
    · exact ⟨_, rfl, _, rfl⟩
    · rcases body with msg | text
      · exact ⟨_, rfl, _, rfl⟩
      · simp only
        split
        · exact ⟨_, rfl, _, rfl⟩
        · rename_i hempty
          cases hl : l text with
          | error msg => exact ⟨_, rfl, _, rfl⟩
          | ok v =>
            exact ⟨v, rfl, hc (by rintro rfl; exact hempty rfl) v hl⟩
  · obtain ⟨text, rfl⟩ := hc
    simp only [replyValue]
    cases l text <;> exact ⟨_, rfl, _, rfl⟩
  · exact ⟨_, rfl, _, rfl⟩

/-- Against a conformant service, {lit}`make_request` returns an object. -/
theorem Returns.makeRequest (t : Tester) (path : List Piece) (method : String)
    (data : Option Json) : Returns Json.IsObj (t.makeRequest path method data) := fun w hc => by
  obtain ⟨v, hv, hobj⟩ := replyValue_isObj method (hc w.sent (t.request path method data))
  exact ⟨v, w.afterSend (t.request path method data), by rw [makeRequest_eq, hv]; rfl, hobj, rfl, rfl⟩

/-- The checks of a method never raise on an object. -/
theorem accepted_obj (kvs : List (String × Json)) : ∃ b, accepted (.obj kvs) = .ok b := by
  unfold accepted
  split <;> exact ⟨_, rfl⟩

/-- Against a conformant service, {lit}`check_service_root` returns. -/
theorem Returns.checkServiceRoot (t : Tester) : Returns (fun _ => True) t.checkServiceRoot := by
  unfold Tester.checkServiceRoot
  refine Returns.print_bind <| (Returns.makeRequest _ _ _ _).bind ?_
  rintro _ ⟨kvs, rfl⟩
  refine Returns.bind_ite (Returns.liftFault_ok ⟨_, rfl⟩) (Returns.pure trivial) fun _ _ => ?_
  dsimp only
  split <;> exact Returns.print_bind (Returns.pure trivial)

/-- Against a conformant service, {lit}`Tester.fetch` returns. -/
theorem Returns.fetch (t : Tester) (heading path failure : String) :
    Returns (fun _ => True) (t.fetch heading path failure) := by
  unfold Tester.fetch
  refine Returns.print_bind <| (Returns.makeRequest _ _ _ _).bind ?_
  rintro _ ⟨kvs, rfl⟩
  refine (Returns.liftFault_ok (accepted_obj kvs)).bind fun _ _ => ?_
  split <;> exact Returns.print_bind (Returns.pure trivial)

/-- Against a conformant service, {lit}`Tester.fetchCollection` returns: the body is an
object, so {lit}`response.get` does not raise. -/
theorem Returns.fetchCollection (t : Tester) (heading path noun failure : String) :
    Returns (fun _ => True) (t.fetchCollection heading path noun failure) := by
  unfold Tester.fetchCollection
  refine Returns.print_bind <| (Returns.makeRequest _ _ _ _).bind ?_
  rintro _ ⟨kvs, rfl⟩
  refine (Returns.liftFault_ok (accepted_obj kvs)).bind fun _ _ => ?_
  split
  · exact (Returns.liftFault_ok ⟨_, rfl⟩).bind fun _ _ =>
      Returns.print_bind <| Returns.print_bind <| Returns.pure trivial
  · exact Returns.print_bind (Returns.pure trivial)

/-- Against a conformant service, {lit}`add_connection_method` returns an object or
{lit}`None`. -/
theorem Returns.addConnectionMethod (t : Tester) (name address username password : String) :
    Returns (fun m => ∀ v ∈ m, v.IsObj) (t.addConnectionMethod name address username password) := by
  unfold Tester.addConnectionMethod
  refine Returns.print_bind <| Returns.print_bind <| Returns.print_bind <| Returns.print_bind <|
    (Returns.makeRequest _ _ _ _).bind ?_
  rintro _ ⟨kvs, rfl⟩
  refine (Returns.liftFault_ok (accepted_obj kvs)).bind fun _ _ => ?_
  split
  · exact Returns.print_bind <| Returns.print_bind <| Returns.pure fun v hv =>
      ⟨kvs, (Option.mem_some_iff.mp hv).symm⟩
  · exact Returns.print_bind <| Returns.pure fun v hv => absurd hv (Option.not_mem_none v)

/-- Against a conformant service, {lit}`delete_connection_method` returns. -/
theorem Returns.deleteConnectionMethod (t : Tester) (methodId : Json) :
    Returns (fun _ => True) (t.deleteConnectionMethod methodId) := by
  unfold Tester.deleteConnectionMethod
  refine Returns.print_bind <| (Returns.makeRequest _ _ _ _).bind ?_
  rintro _ ⟨kvs, rfl⟩
  refine Returns.bind_ite (Returns.pure trivial) (Returns.liftFault_ok ⟨_, rfl⟩) fun _ _ => ?_
  dsimp only
  split <;> exact Returns.print_bind (Returns.pure trivial)

/-- The cleanup returns on an object or {lit}`None`: {lit}`method["Id"]` is read only
after {lit}`"Id" in method`. -/
theorem Returns.cleanUp (t : Tester) {method : Option Json} (h : ∀ v ∈ method, v.IsObj) :
    Returns (fun _ => True) (t.cleanUp method) := by
  rcases method with _ | v
  · exact Returns.pure trivial
  obtain ⟨kvs, rfl⟩ := h v rfl
  unfold Tester.cleanUp
  dsimp only
  split
  · refine (Returns.liftFault rfl).bind ?_
    rintro _ rfl
    split
    · rename_i hid
      rw [← List.any_reverse, ← lookup_isSome, Option.isSome_iff_exists] at hid
      obtain ⟨methodId, hid⟩ := hid
      refine (Returns.liftFault_ok ⟨methodId, by simp only [Json.index, hid]⟩).bind fun _ _ =>
        (Returns.deleteConnectionMethod t _).bind fun _ _ => Returns.pure trivial
    · exact Returns.pure trivial
  · exact Returns.pure_bind (Returns.pure trivial)

/-- Against a conformant service, the checks after authentication return {lit}`0`. -/
theorem Returns.runChecks (t : Tester) (args : Args) : Returns (· = 0) (t.runChecks args) := by
  unfold Tester.runChecks
  refine (Returns.checkServiceRoot t).bind fun _ _ => (Returns.fetch _ _ _ _).bind fun _ _ =>
    (Returns.fetch _ _ _ _).bind fun _ _ => Returns.bind_when
      ((Returns.addConnectionMethod _ _ _ _ _).bind fun _ hm => Returns.cleanUp t hm) fun _ => ?_
  exact (Returns.fetchCollection _ _ _ _ _).bind fun _ _ =>
    (Returns.fetchCollection _ _ _ _ _).bind fun _ _ =>
      Returns.print_bind <| Returns.print_bind <| Returns.print_bind <| Returns.pure rfl

/-- Against a service that answers as a Redfish service does, the script runs to its end:
no exception escapes {lit}`main`, and it returns {lit}`0` exactly when the login reply
gives a session token.  Arguments and replies are those of the model, without lone
surrogates, printed to a standard output that encodes every character. -/
theorem main_conformant (args : Args) (w : World) (hc : Conformant w) :
    ∃ w', main args w = .ok (if (sessionToken w.loads (w.send w.sent
      (sessionRequest (rstripSlash args.url) args.username args.password))).isSome then 0 else 1) w' := by
  unfold main
  rw [bind_ok _ (print_eq _ _), bind_ok _ (print_eq _ _), bind_ok _ (print_eq _ _)]
  obtain ⟨t', w', evs, hauth, hs, hl, -, -, -, -⟩ :=
    authenticate_spec (Tester.new args.url) args.username args.password
      { w with trace := w.trace ++ [.say [.text banner]] ++ [.say [.text "AggregationService API Test Script"]] ++ [.say [.text banner]] }
  dsimp only at hauth hs hl
  rw [show rstripSlash args.url = (Tester.new args.url).baseUrl from rfl, bind_ok _ hauth]
  dsimp only
  cases (sessionToken w.loads _).isSome
  · exact ⟨_, rfl⟩
  · obtain ⟨_, w'', hrun, rfl, -⟩ := Returns.runChecks t' args w' (hc.of_eq hs hl)
    exact ⟨w'', hrun⟩

/-- A service that answers every {lit}`POST` with a session token and an empty body, and
refuses everything else with an empty error body. -/
def tokenWorld : World where
  send _ r := if r.method = "POST" then .response 201 [("X-Auth-Token", "abc")] (.ok "")
    else .httpError 404 "Not Found" (.ok "")
  loads _ := .error "Expecting value"
  sent := 0
  trace := []

theorem main_conformant_tokenWorld :
    Conformant tokenWorld ∧ ∃ w', main Args.defaults tokenWorld = .ok 0 w' :=
  have hc : Conformant tokenWorld := fun _ r => by
    by_cases h : r.method = "POST" <;> simp [tokenWorld, h]
  ⟨hc, (main_conformant Args.defaults tokenWorld hc).imp fun _ h => h.trans (by simp [tokenWorld, sessionRequest, sessionToken, headerToken, Json.truthy,
    show "abc".isEmpty = false from rfl])⟩

end Smoke
end Shoal

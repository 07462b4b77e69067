import ShoalBuild.Smoke.Exchange

/-!
# Shoal smoke test - the session and the cleanup

Properties of every run of the script, for every service and every transport.  The
session: the script logs in first, stops at once when the login gives no token, and
otherwise sends the token with every later request.  The cleanup: the connection method
the script adds is deleted again, by the id the service gave it, and nothing else is
deleted, even when an exception ends the run; with {lit}`--skip-add` nothing is added
or deleted at all.

Main results:

- Theorem {lit}`authenticate_spec`: {lit}`authenticate` opens the login request only, never
  raises, and returns {lit}`True` exactly when {lit}`sessionToken` finds a token in the reply.
- Theorem {lit}`main_session`: the first exchange is the login; without a token it is the
  only one and the exit status is {lit}`1`; with one, every later request carries it.
- Theorem {lit}`main_deletesCreated`: the paths the run deletes are exactly the members its
  requests created.
- Theorem {lit}`main_skipAdd_readOnly`: with {lit}`--skip-add`, every request after the login
  is a {lit}`GET`.
-/

namespace Shoal
namespace Smoke

/-! ## The session -/

/-- A header is found under its own name. -/
@[simp] theorem headerGet_cons_self (name value : String) (headers : List (String × String)) :
    headerGet ((name, value) :: headers) name = some value := by
  simp [headerGet]

/-- The {lit}`X-Auth-Token` header of a response, {lit}`None` when it has none. -/
def headerToken (headers : List (String × String)) : Json :=
  ((headerGet headers "X-Auth-Token").map Json.str).getD .null

/-- {lit}`json.loads(body).get('X-Auth-Token')`, or the message of the exception one of
them raises. -/
def bodyTokenOf (loads : Loads) : Except String String → Except String Json
  | .error msg => .error msg
  | .ok text =>
    match loads text with
    | .error msg => .error msg
    | .ok data =>
      match data.get "X-Auth-Token" .null with
      | .ok token => .ok token
      | .error e => .error e.msg

/-- The token a reply to the session request gives the client: the {lit}`X-Auth-Token`
header when it is not empty, else the {lit}`X-Auth-Token` member of the JSON object in
the body, and only when it is a true value; {lit}`none` means authentication failed. -/
def sessionToken (loads : Loads) : Reply → Option Json
  | .response _ headers body =>
    match (if (headerToken headers).truthy then .ok (headerToken headers)
        else bodyTokenOf loads body) with
    | .ok token => if token.truthy then some token else none
    | .error _ => none
  | _ => none

/-- Reading the token from the body leaves the world as it is. -/
theorem bodyToken_eq (body : Except String String) (w : World) :
    bodyToken body w = .ok (bodyTokenOf w.loads body) w := by
  rcases body with msg | text
  · rfl
  · simp only [bodyToken, bodyTokenOf]
    rw [bind_ok _ (jsonLoads_eq _ _)]
    rcases w.loads text with msg | data
    · rfl
    · dsimp only
      cases h : data.get "X-Auth-Token" .null <;> simp only [h] <;> rfl

/-- {lit}`authenticate` opens the session request and nothing else, never raises,
returns {lit}`True` exactly when the reply gives a token, and then keeps that token. -/
theorem authenticate_spec (t : Tester) (username password : String) (w : World) :
    ∃ t' w' evs, t.authenticate username password w =
        .ok ((sessionToken w.loads (w.send w.sent (sessionRequest t.baseUrl username password))).isSome,
          t') w' ∧
      w'.send = w.send ∧ w'.loads = w.loads ∧ w'.trace = w.trace ++ evs ∧
      exchanges evs = [(sessionRequest t.baseUrl username password,
        w.send w.sent (sessionRequest t.baseUrl username password))] ∧
      t'.baseUrl = t.baseUrl ∧
      ∀ tok, sessionToken w.loads (w.send w.sent (sessionRequest t.baseUrl username password)) =
        some tok → t'.authToken = tok := by
  unfold Tester.authenticate
  rw [bind_ok _ (print_eq _ _), bind_ok _ (urlopen_eq _ _)]
  generalize w.send w.sent (sessionRequest t.baseUrl username password) = rep
  rcases rep with ⟨status, headers, body⟩ | ⟨code, reason, body⟩ | msg
  · simp only [sessionToken, headerToken]
    generalize (Option.map Json.str (headerGet headers "X-Auth-Token")).getD Json.null = ht
    split
    · rename_i hc
      simp only [pure_bind, hc, if_true]
      rw [bind_ok _ (print_eq _ _)]
      exact ⟨_, _, _, rfl, rfl, rfl, by simp only [List.append_assoc]; rfl, by rfl, rfl,
        fun tok h => by cases h; rfl⟩
    · rw [bind_ok _ (bodyToken_eq _ _)]
      dsimp only
      generalize bodyTokenOf w.loads body = token
      rcases token with msg | token
      · exact ⟨_, _, _, rfl, rfl, rfl, by simp only [List.append_assoc]; rfl, by rfl, rfl,
          fun tok h => nomatch h⟩
      · dsimp only
        split <;> rw [bind_ok _ (print_eq _ _)] <;>
          exact ⟨_, _, _, rfl, rfl, rfl, by simp only [List.append_assoc]; rfl, by rfl, rfl,
            fun tok h => by simp_all⟩
  · dsimp only
    rw [bind_ok _ (print_eq _ _)]
    split <;> exact ⟨t, _, _, rfl, rfl, rfl, by simp only [List.append_assoc]; rfl,
      by rfl, rfl, fun tok h => nomatch h⟩
  · exact ⟨t, _, _, rfl, rfl, rfl, by simp only [List.append_assoc]; rfl,
      by rfl, rfl, fun tok h => nomatch h⟩

/-- The request's first header is the token {lit}`tok`. -/
def CarriesToken (tok : Json) (r : Request) : Prop := r.headers.head? = some ("X-Auth-Token", tok)

/-- Once a tester holds a token, every request it builds carries it as its first header. -/
theorem request_carriesToken {t : Tester} (h : t.authToken.truthy) (path : List Piece)
    (method : String) (data : Option Json) :
    CarriesToken t.authToken (t.request path method data) := by
  simp [CarriesToken, Tester.request, Tester.headers, h]

/-- A token the login reply gives is a true value. -/
theorem sessionToken_truthy {l : Loads} {rep : Reply} {tok : Json}
    (h : sessionToken l rep = some tok) : tok.truthy := by
  unfold sessionToken at h
  split at h
  · split at h
    · split at h
      · exact Option.some.inj h ▸ ‹_›
      · cases h
    · cases h
  · cases h

/-- The session: the first request {lit}`main` opens is the login, with the URL stripped of
its trailing slashes.  When the reply gives no token, nothing else is opened and the
script exits with status {lit}`1`; when it gives one, the token is a true value and
every later request carries it as its first header. -/
theorem main_session (args : Args) (w : World) :
    ∃ evs rep rest, (Result.world (main args w)).trace = w.trace ++ evs ∧
      exchanges evs =
        (sessionRequest (rstripSlash args.url) args.username args.password, rep) :: rest ∧
      (sessionToken w.loads rep = none → rest = [] ∧ exitStatus (main args w) = 1) ∧
      ∀ tok, sessionToken w.loads rep = some tok →
        tok.truthy ∧ ∀ q ∈ rest, CarriesToken tok q.1 := by
  unfold main
  rw [bind_ok _ (print_eq _ _), bind_ok _ (print_eq _ _), bind_ok _ (print_eq _ _)]
  obtain ⟨t', w', evs, hauth, hs, hl, htr, hex, -, htok⟩ :=
    authenticate_spec (Tester.new args.url) args.username args.password
      { w with trace := w.trace ++ [.say [.text banner]] ++ [.say [.text "AggregationService API Test Script"]] ++ [.say [.text banner]] }
  dsimp only at hauth hs hl htr hex htok
  generalize w.send w.sent _ = rep at hauth hex htok
  rw [bind_ok _ hauth]
  dsimp only
  cases hst : sessionToken w.loads rep with
  | none =>
    simp only [Option.isSome_none, Bool.not_false, if_true]
    rw [bind_ok _ (print_eq _ _)]
    exact ⟨_, rep, [], by simp only [Result.world, htr, List.append_assoc]; rfl,
      by simp [hex, Tester.new], fun _ => ⟨rfl, rfl⟩, fun _ h => nomatch hst.symm.trans h⟩
  | some tok =>
    have htruthy := sessionToken_truthy hst
    have hcarry : ∀ path method data, CarriesToken tok (t'.request path method data) :=
      htok tok hst ▸ request_carriesToken (htok tok hst ▸ htruthy)
    obtain ⟨-, -, evs₂, htr₂, hsends⟩ := (Logs.runChecks_of_requests (sends_additive _)
      (sends_say _) t' args fun _ _ _ _ _ => sends_exchange (hcarry _ _ _) _ _).run w'
    simp only [Option.isSome_some, Bool.not_true, Bool.false_eq_true, if_false]
    exact ⟨_, rep, exchanges evs₂, by simp only [htr₂, htr, List.append_assoc]; rfl,
      by simp [hex, Tester.new], fun h => by simp [hst] at h,
      fun _ h => by cases hst.symm.trans h; exact ⟨htruthy, hsends⟩⟩

/-! ## Cleaning up -/

/-- The URLs the {lit}`DELETE` requests of a list of exchanges name, in order. -/
def deletions (qs : List (Request × Reply)) : List (List Piece) :=
  qs.filterMap fun q => if q.1.method = "DELETE" then some q.1.url else none

/-- The id a decoded reply names for a resource it reports created: the {lit}`"Id"`
member of a JSON object without an {lit}`"error"` member. -/
def createdOf : Json → Option Json
  | .obj kvs => if kvs.any (fun kv => kv.1 == "error") then none else kvs.reverse.lookup "Id"
  | _ => none

/-- The id a reply to a POST gives back: {lit}`createdOf` of the non-empty body of a
response, decoded. -/
def createdId (loads : Loads) : Reply → Option Json
  | .response _ _ (.ok text) =>
    if text.isEmpty then none
    else
      match loads text with
      | .ok v => createdOf v
      | .error _ => none
  | _ => none

/-- The member URLs of the ConnectionMethods the POSTs of a list of exchanges created,
in order. -/
def creations (loads : Loads) (qs : List (Request × Reply)) : List (List Piece) :=
  qs.filterMap fun q =>
    if q.1.method = "POST" then
      match q.1.url with
      | [.text base, .text p] =>
        if p = connectionMethodsPath then (createdId loads q.2).map (.text base :: deletePath ·)
        else none
      | _ => none
    else none

@[simp]
theorem deletions_append (q₁ q₂ : List (Request × Reply)) :
    deletions (q₁ ++ q₂) = deletions q₁ ++ deletions q₂ := List.filterMap_append _ _ _

@[simp]
theorem creations_append (l : Loads) (q₁ q₂ : List (Request × Reply)) :
    creations l (q₁ ++ q₂) = creations l q₁ ++ creations l q₂ := List.filterMap_append _ _ _

/-- The log deletes exactly the ConnectionMethods it created, in the order it created
them, each once. -/
def DeletesCreated (l : Loads) (evs : List Event) : Prop :=
  deletions (exchanges evs) = creations l (exchanges evs)

theorem deletesCreated_additive : Additive DeletesCreated where
  nil _ := rfl
  append h₁ h₂ := by
    unfold DeletesCreated at *
    simp only [exchanges_append, deletions_append, creations_append, h₁, h₂]

theorem deletesCreated_say (l : Loads) (line : List Piece) : DeletesCreated l [.say line] := rfl

/-- A request that is neither a DELETE nor a POST to the collection neither deletes
nor creates. -/
theorem deletesCreated_exchange {r : Request} (hd : r.method ≠ "DELETE")
    (hc : r.method = "POST" → ∀ base p, r.url = [.text base, .text p] → p ≠ connectionMethodsPath)
    (l : Loads) (rep : Reply) : DeletesCreated l [.exchange r rep] := by
  have hcreated : creations l [(r, rep)] = [] := List.filterMap_eq_nil_iff.mpr fun q hq => by
    obtain rfl := List.mem_singleton.mp hq
    dsimp only
    split
    · split
      · rename_i hpost _ base p hurl
        simp [hc hpost base p hurl]
      · rfl
    · rfl
  simp [DeletesCreated, deletions, hd, hcreated]

/-- The id a reply to a POST names is what {lit}`createdOf` reads in the value
{lit}`make_request` makes of the reply; a reply that makes it raise names none. -/
theorem createdId_eq (l : Loads) (rep : Reply) :
    createdId l rep = (replyValue l "POST" rep).toOption.bind createdOf := by
  rcases rep with ⟨_, _, _ | text⟩ | ⟨_, _, _ | text⟩ | _
  · rfl
  · simp only [createdId, replyValue]
    by_cases he : text.isEmpty
    · simp [he]; rfl
    · simp only [he]
      cases l text <;> rfl
  · rfl
  · simp only [createdId, replyValue]
    cases l text <;> rfl
  · rfl

/-- A value that names a created id passes the checks {lit}`add_connection_method` makes. -/
theorem accepted_of_createdOf {v : Json} (h : createdOf v ≠ none) : accepted v = .ok true := by
  cases v with
  | obj kvs =>
    simp only [createdOf] at h
    split at h
    · exact absurd rfl h
    · rename_i herr
      have hne : kvs ≠ [] := by rintro rfl; exact h rfl
      simp [accepted, Json.truthy, Json.pyIn, hne, herr, Except.map]
  | _ => exact absurd rfl h

/-- A value that fails the checks names no created member. -/
theorem createdOf_eq_none {v : Json} (h : accepted v ≠ .ok true) : createdOf v = none :=
  Classical.byContradiction fun hne => h (accepted_of_createdOf hne)

/-- The POST {lit}`add_connection_method` opens. -/
def Tester.addRequest (t : Tester) (name address username password : String) : Request :=
  t.request [.text connectionMethodsPath] "POST"
    (some (connectionMethodDoc name address username password))

/-- {lit}`add_connection_method` returns a ConnectionMethod only when the reply to its POST
names a created id, and then it returns the value that names that id. -/
theorem addConnectionMethod_created (t : Tester) (name address username password : String)
    (w : World) :
    match t.addConnectionMethod name address username password w with
    | .ok (some v) _ => accepted v = .ok true ∧
        createdOf v = createdId w.loads (w.send w.sent (t.addRequest name address username password))
    | _ => createdId w.loads (w.send w.sent (t.addRequest name address username password)) = none := by
  unfold Tester.addConnectionMethod Tester.addRequest
  rw [bind_ok _ (print_eq _ _), bind_ok _ (print_eq _ _), bind_ok _ (print_eq _ _),
    bind_ok _ (print_eq _ _), bind_apply, makeRequest_eq]
  dsimp only
  generalize w.send w.sent _ = rep
  rw [createdId_eq]
  cases replyValue w.loads "POST" rep with
  | error e => rfl
  | ok v =>
    simp only [liftFault_ok]
    rw [bind_apply]
    cases ha : accepted v with
    | error e => exact createdOf_eq_none (by rw [ha]; nofun)
    | ok b =>
      cases b
      · exact createdOf_eq_none (by rw [ha]; nofun)
      · exact ⟨ha, rfl⟩

/-- A key is found exactly when some member has it. -/
theorem lookup_isSome (key : String) (kvs : List (String × Json)) :
    (kvs.lookup key).isSome = kvs.any (fun kv => kv.1 == key) := by
  rw [Bool.eq_iff_iff, List.lookup_isSome_iff, List.any_eq_true]
  simp only [beq_iff_eq, @eq_comm _ key]

/-- Given a value {lit}`add_connection_method` accepted, the cleanup deletes the member
the value names and nothing else. -/
theorem cleanUp_deletes (t : Tester) {v : Json} (hv : accepted v = .ok true) (l : Loads)
    (w : World) :
    ∃ evs, (Result.world (t.cleanUp (some v) w)).trace = w.trace ++ evs ∧
      deletions (exchanges evs) = ((createdOf v).map (.text t.baseUrl :: deletePath ·)).toList ∧
      creations l (exchanges evs) = [] := by
  have htruthy : v.truthy = true := by
    cases h : v.truthy <;> simp_all [accepted]
  unfold Tester.cleanUp
  simp only [htruthy, if_true]
  cases v with
  | obj kvs =>
    have herr : (kvs.any fun kv => kv.1 == "error") = false := by
      simpa [accepted, Json.pyIn, htruthy, Except.map] using hv
    simp only [Json.pyIn, createdOf, herr, Bool.false_eq_true, if_false]
    rw [bind_ok _ (liftFault_ok _ _), ← List.any_reverse, ← lookup_isSome]
    cases hid : kvs.reverse.lookup "Id" with
    | none => exact ⟨[], by simp [Result.world], rfl, rfl⟩
    | some methodId =>
      simp only [Option.isSome_some, if_true, Json.index, hid]
      rw [bind_ok _ (liftFault_ok _ _)]
      obtain ⟨-, -, evs, htr, hex⟩ := (OpensOnce.bind_quiet
        (OpensOnce.deleteConnectionMethod t methodId) fun _ => Logs.pure quiet_additive ()).run w
      exact ⟨evs, htr, by simp [hex, deletions, Tester.request], by simp [hex, creations, Tester.request]⟩
  | arr _ | str _ =>
    simp only [Json.pyIn, createdOf]
    rw [bind_ok _ (liftFault_ok _ _)]
    split
    · exact ⟨[], by rw [Json.index, bind_error _ (liftFault_error _ _)]; simp [Result.world],
        rfl, rfl⟩
    · exact ⟨[], by simp [Result.world], rfl, rfl⟩
  | _ => simp_all [accepted, Json.pyIn, Except.map]

/-- {lit}`add_connection_method` opens its {lit}`POST` and nothing else. -/
theorem OpensOnce.addConnectionMethod (t : Tester) (name address username password : String) :
    OpensOnce (t.addRequest name address username password)
      (t.addConnectionMethod name address username password) := by
  unfold Tester.addConnectionMethod
  refine OpensOnce.print_bind (OpensOnce.print_bind (OpensOnce.print_bind (OpensOnce.print_bind
    (OpensOnce.bind_quiet (OpensOnce.makeRequest _ _ _ _) fun _ =>
      (Logs.liftFault quiet_additive _).bind quiet_additive fun _ => ?_))))
  split
  · exact Logs.print_bind quiet_additive quiet_say <|
      Logs.print_bind quiet_additive quiet_say <| Logs.pure quiet_additive _
  · exact Logs.print_bind quiet_additive quiet_say (Logs.pure quiet_additive _)

/-- The POST of {lit}`add_connection_method` creates the member its reply names. -/
theorem creations_addRequest (t : Tester) (name address username password : String) (l : Loads)
    (rep : Reply) :
    creations l [(t.addRequest name address username password, rep)] =
      ((createdId l rep).map (.text t.baseUrl :: deletePath ·)).toList := by
  cases h : createdId l rep <;> simp [creations, Tester.addRequest, Tester.request, h]

/-- The POST of {lit}`add_connection_method` deletes nothing. -/
theorem deletions_addRequest (t : Tester) (name address username password : String)
    (rep : Reply) : deletions [(t.addRequest name address username password, rep)] = [] := by
  simp [deletions, Tester.addRequest, Tester.request]

/-- The property every log has. -/
theorem trivial_additive : Additive fun _ _ => True := ⟨fun _ => trivial, fun _ _ => trivial⟩

/-- Adding a ConnectionMethod and cleaning up after it deletes exactly what the POST
created. -/
theorem Logs.addCleanUp (t : Tester) (name address username password : String) :
    Logs DeletesCreated (t.addConnectionMethod name address username password >>= t.cleanUp) :=
  ⟨fun w => by
  obtain ⟨hs, hl, evs, htr, hex⟩ :=
    (OpensOnce.addConnectionMethod t name address username password).run w
  have hcreated := addConnectionMethod_created t name address username password w
  have hnone : createdId w.loads (w.send w.sent (t.addRequest name address username password)) =
      none → DeletesCreated w.loads evs := fun h => by
    simp only [DeletesCreated, hex, deletions_addRequest, creations_addRequest, h]; rfl
  rw [bind_apply]
  cases h : t.addConnectionMethod name address username password w with
  | error e w₁ =>
    simp only [h, Result.world] at hs hl htr hcreated
    exact ⟨hs, hl, evs, htr, hnone hcreated⟩
  | ok m w₁ =>
    simp only [h, Result.world] at hs hl htr hcreated
    cases m with
    | none => exact ⟨hs, hl, evs, htr, hnone hcreated⟩
    | some v =>
      obtain ⟨hacc, hcv⟩ := hcreated
      obtain ⟨evs₂, htr₂, hdel, hcre⟩ := cleanUp_deletes t hacc w.loads w₁
      obtain ⟨hs₂, hl₂, -⟩ := (Logs.cleanUp trivial_additive (fun _ _ => trivial) t (some v)
        fun _ _ _ => trivial).run w₁
      refine ⟨hs₂.trans hs, hl₂.trans hl, evs ++ evs₂, by rw [htr₂, htr, List.append_assoc], ?_⟩
      simp only [DeletesCreated, exchanges_append, hex, deletions_append, creations_append,
        deletions_addRequest, creations_addRequest, hdel, hcre, hcv, List.nil_append,
        List.append_nil]⟩

/-- A GET neither deletes nor creates. -/
theorem deletesCreated_get (t : Tester) (path : List Piece) (l : Loads) (rep : Reply) :
    DeletesCreated l [.exchange (t.request path "GET" none) rep] :=
  deletesCreated_exchange (by simp [Tester.request]) (fun h => by simp [Tester.request] at h) l rep

/-- Logging in neither deletes nor creates. -/
theorem deletesCreated_session (base username password : String) (l : Loads) (rep : Reply) :
    DeletesCreated l [.exchange (sessionRequest base username password) rep] :=
  deletesCreated_exchange (by simp [sessionRequest]) (fun _ _ _ h => by
    simp only [sessionRequest, List.cons.injEq, Piece.text.injEq, and_true] at h
    rw [← h.2]; decide) l rep

/-- The cleanup: over any run of the script, whatever the service answers and wherever an
exception ends the run, the members it deletes are exactly the members its requests
created, in order.  A member the {lit}`POST` created is deleted once, by the path
{lit}`add_connection_method`'s reply names, and nothing else is deleted.  Arguments and
replies are those of the model: no lone surrogate, and a standard output that prints
every character; a reply whose {lit}`Id` held a lone surrogate would make the
{lit}`print` before the {lit}`DELETE` raise. -/
theorem main_deletesCreated (args : Args) (w : World) :
    ∃ evs, (Result.world (main args w)).trace = w.trace ++ evs ∧
      deletions (exchanges evs) = creations w.loads (exchanges evs) := by
  have hQ := deletesCreated_additive
  have hsay := deletesCreated_say
  have hmain : Logs DeletesCreated (main args) :=
    Logs.main hQ hsay args (deletesCreated_session _ _ _) fun t =>
      Logs.runChecks hQ hsay t args (fun l path rep => deletesCreated_get t path l rep)
        fun _ => Logs.addCleanUp t _ _ _ _
  obtain ⟨-, -, evs, htr, h⟩ := hmain.run w
  exact ⟨evs, htr, h⟩

/-! ## Reading only -/

/-- With {lit}`--skip-add` the script only reads: apart from the login, every request it
opens is a {lit}`GET`, on every run and whatever the service answers. -/
theorem main_skipAdd_readOnly (args : Args) (w : World) :
    ∃ evs, (Result.world (main { args with skipAdd := true } w)).trace = w.trace ++ evs ∧
      ∀ q ∈ exchanges evs,
        q.1 = sessionRequest (rstripSlash args.url) args.username args.password ∨
          q.1.method = "GET" := by
  have hQ := sends_additive fun r =>
    r = sessionRequest (rstripSlash args.url) args.username args.password ∨ r.method = "GET"
  have hmain := Logs.main hQ (sends_say _) { args with skipAdd := true }
    (fun _ _ => sends_exchange (Or.inl rfl) _ _) fun t =>
      Logs.runChecks hQ (sends_say _) t _ (fun _ _ _ => sends_exchange (Or.inr rfl) _ _) nofun
  obtain ⟨-, -, evs, htr, h⟩ := hmain.run w
  exact ⟨evs, htr, h⟩

end Smoke
end Shoal

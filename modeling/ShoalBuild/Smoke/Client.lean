import ShoalBuild.Text

/-!
# Shoal smoke test - the AggregationService client

{lit}`scripts/test_aggregation_service.py` logs in to a running Redfish service,
reads the AggregationService resources, optionally adds a ConnectionMethod and
deletes it again, and reads the aggregated Managers and Systems collections.  This
module embeds the script: the tester's methods and {lit}`main`, in a monad over the
world they act on.

The network, {lit}`urllib` and the service behind it are a parameter of the world:
for the {lit}`n`-th request the script opens, the transport sees the request and
answers with a response, an {lit}`HTTPError` or another exception.  A response body
is given as what {lit}`.read().decode('utf-8')` makes of it, the text or the message
of the exception it raises, since the script never reads a body any other way.
{lit}`json.loads` is the other parameter.  Every theorem about worlds therefore holds
for every service and every transport.

JSON values are those {lit}`json.loads` returns, read with Python's rules: the truth
value of a value, {lit}`key in value` (dict keys, list elements, substrings; a
{lit}`TypeError` for anything else), {lit}`dict.get` and {lit}`value[key]`.  What
the script prints is kept as text with the values it formats, not as the
characters {lit}`json.dumps` and {lit}`str` would produce.

Strings here are Lean strings, whose characters are Unicode scalar values: command-line
arguments and decoded replies hold no lone surrogate, which Python admits (a JSON
{lit}`\ud800` escape decodes to one).  Standard output is taken to encode every
character, as UTF-8 does, so {lit}`print` never raises: a lone surrogate, or a
{lit}`✓` on an ASCII console, would make it raise {lit}`UnicodeEncodeError`, and
those runs are outside the model.

Main results:

- Lemma {lit}`bind_eq_ok`: a run of {lit}`x >>= f` that returns went through a
  return of {lit}`x`.
- Lemma {lit}`urlopen_eq`: the one primitive that talks to the service, with the
  exchange it logs.
-/

namespace Shoal
namespace Smoke

/-! ## Python values read from JSON -/

/-- What {lit}`json.loads` returns.  An object is the list of its members in
document order; a repeated key keeps its last value, as the {lit}`dict` built from
them does.  Its strings hold no lone surrogate. -/
inductive Json where
  | null
  | bool (b : Bool)
  | int (n : Int)
  | float (x : Float)
  | str (s : String)
  | arr (xs : List Json)
  | obj (kvs : List (String × Json))
deriving Inhabited

namespace Json

/-- {lit}`type(v).__name__`. -/
def typeName : Json → String
  | .null => "NoneType"
  | .bool _ => "bool"
  | .int _ => "int"
  | .float _ => "float"
  | .str _ => "str"
  | .arr _ => "list"
  | .obj _ => "dict"

/-- {lit}`bool(v)`. -/
def truthy : Json → Bool
  | .null => false
  | .bool b => b
  | .int n => n != 0
  | .float x => x != 0.0
  | .str s => !s.isEmpty
  | .arr xs => !xs.isEmpty
  | .obj kvs => !kvs.isEmpty

/-- Whether {lit}`v` is the string {lit}`key`: the only list elements a string
compares equal to. -/
def isStr (key : String) : Json → Bool
  | .str s => s == key
  | _ => false

/-- {lit}`v is None`. -/
def isNone : Json → Bool
  | .null => true
  | _ => false

end Json

/-! ## Exceptions the script does not catch -/

/-- The classes of the exceptions that can escape the script's own handlers. -/
inductive FaultClass where
  | typeError
  | attributeError
  | keyError
  /-- What {lit}`e.read().decode('utf-8')` raised inside the {lit}`HTTPError` handler. -/
  | bodyError
deriving DecidableEq, Repr

/-- An exception with the text Python shows for it. -/
structure Fault where
  cls : FaultClass
  msg : String

namespace Json

/-- {lit}`key in v` for a string {lit}`key`. -/
def pyIn (key : String) : Json → Except Fault Bool
  | .obj kvs => .ok (kvs.any fun kv => kv.1 == key)
  | .arr xs => .ok (xs.any (isStr key))
  | .str s => .ok (Build.hasSub key s)
  | v => .error ⟨.typeError, "argument of type '" ++ v.typeName ++ "' is not iterable"⟩

/-- {lit}`v.get(key, default)`. -/
def get : Json → String → Json → Except Fault Json
  | .obj kvs, key, default => .ok ((kvs.reverse.lookup key).getD default)
  | v, _, _ => .error ⟨.attributeError, "'" ++ v.typeName ++ "' object has no attribute 'get'"⟩

/-- {lit}`v[key]` for a string {lit}`key`. -/
def index (key : String) : Json → Except Fault Json
  | .obj kvs =>
    match kvs.reverse.lookup key with
    | some v => .ok v
    | none => .error ⟨.keyError, "'" ++ key ++ "'"⟩
  | .arr _ => .error ⟨.typeError, "list indices must be integers or slices, not str"⟩
  | .str _ => .error ⟨.typeError, "string indices must be integers, not 'str'"⟩
  | v => .error ⟨.typeError, "'" ++ v.typeName ++ "' object is not subscriptable"⟩

end Json

/-! ## Requests, replies and the world -/

/-- A piece of a text the script formats: literal text, {lit}`json.dumps(v, indent=2)`
or {lit}`str(v)`. -/
inductive Piece where
  | text (s : String)
  | dumped (v : Json)
  | shown (v : Json)

/-- A request as {lit}`urllib.request.Request` is built: the method, the URL
{lit}`f"{self.base_url}{path}"`, the headers in the order they are added, and the
JSON document whose {lit}`json.dumps(...).encode('utf-8')` is the body. -/
structure Request where
  method : String
  url : List Piece
  headers : List (String × Json)
  data : Option Json

/-- How {lit}`urlopen` ends.  A body is what {lit}`.read().decode('utf-8')` gives:
the text, or the message of the exception it raises. -/
inductive Reply where
  /-- A response, with its status and headers. -/
  | response (status : Nat) (headers : List (String × String)) (body : Except String String)
  /-- {lit}`urllib.error.HTTPError`, with its code and reason. -/
  | httpError (code : Nat) (reason : String) (body : Except String String)
  /-- Any other exception of {lit}`Request` or {lit}`urlopen`, with {lit}`str(e)`. -/
  | failure (msg : String)

/-- The network and the service behind it: the reply to the {lit}`n`-th request. -/
def Transport := Nat → Request → Reply

/-- What the script does that can be observed: a printed line, or a request with
the reply it got. -/
inductive Event where
  | say (line : List Piece)
  | exchange (r : Request) (reply : Reply)

/-- The state of a run of the script. -/
structure World where
  send : Transport
  /-- {lit}`json.loads`: the value, or the message of {lit}`JSONDecodeError`. -/
  loads : String → Except String Json
  /-- How many requests the run has opened. -/
  sent : Nat
  trace : List Event

/-- The script's functions: a value or an escaping exception, with the world reached. -/
abbrev Py := EStateM Fault World

/-- The world a run ends in, whether it returned or raised. -/
def Result.world {α : Type} : EStateM.Result Fault World α → World
  | .ok _ w => w
  | .error _ w => w

/-! ## Sequencing -/

section Sequencing

variable {α β : Type}

@[simp]
theorem pure_apply (a : α) (w : World) : (pure a : Py α) w = .ok a w := rfl

theorem bind_apply (x : Py α) (f : α → Py β) (w : World) :
    (x >>= f) w = match x w with
      | .ok a w' => f a w'
      | .error e w' => .error e w' := by
  show EStateM.bind x f w = _
  unfold EStateM.bind
  cases x w <;> rfl

/-- A step that returns hands its value and world to the rest of the run. -/
theorem bind_ok {x : Py α} {w w' : World} {a : α} (f : α → Py β) (h : x w = .ok a w') :
    (x >>= f) w = f a w' := by
  rw [bind_apply, h]

/-- A step that raises ends the run with its exception and world. -/
theorem bind_error {x : Py α} {w w' : World} {e : Fault} (f : α → Py β)
    (h : x w = .error e w') : (x >>= f) w = .error e w' := by
  rw [bind_apply, h]

/-- A run of {lit}`x >>= f` that returns went through a return of {lit}`x`. -/
theorem bind_eq_ok {x : Py α} {f : α → Py β} {w w' : World} {b : β}
    (h : (x >>= f) w = .ok b w') : ∃ a w₁, x w = .ok a w₁ ∧ f a w₁ = .ok b w' := by
  rw [bind_apply] at h
  split at h
  · exact ⟨_, _, ‹_›, h⟩
  · cases h

/-- An exception raised by Python code the script calls. -/
def raise (e : Fault) : Py α := fun w => .error e w

/-- A Python operation that returns or raises. -/
def liftFault : Except Fault α → Py α
  | .ok a => pure a
  | .error e => raise e

end Sequencing

/-! ## Primitive operations -/

/-- {lit}`print(...)`, the arguments joined by a space, on a standard output that
encodes every character. -/
def print (line : List Piece) : Py Unit := fun w =>
  .ok () { w with trace := w.trace ++ [.say line] }

/-- {lit}`urlopen(req)`: the transport answers the next request. -/
def urlopen (r : Request) : Py Reply := fun w =>
  .ok (w.send w.sent r) { w with sent := w.sent + 1, trace := w.trace ++ [.exchange r (w.send w.sent r)] }

/-- {lit}`json.loads(text)`, with the message of the error it raises. -/
def jsonLoads (text : String) : Py (Except String Json) := fun w => .ok (w.loads text) w

theorem print_eq (line : List Piece) (w : World) :
    print line w = .ok () { w with trace := w.trace ++ [.say line] } := rfl

theorem jsonLoads_eq (text : String) (w : World) : jsonLoads text w = .ok (w.loads text) w := rfl

theorem urlopen_eq (r : Request) (w : World) :
    urlopen r w = .ok (w.send w.sent r)
      { w with sent := w.sent + 1, trace := w.trace ++ [.exchange r (w.send w.sent r)] } := rfl

/-! ## The tester -/

/-- {lit}`AggregationServiceTester`: the base URL and the session token,
{lit}`None` until {lit}`authenticate` sets it. -/
structure Tester where
  baseUrl : String
  authToken : Json

/-- {lit}`base_url.rstrip("/")`. -/
def rstripSlash (s : String) : String :=
  ⟨(s.data.reverse.dropWhile (· == '/')).reverse⟩

/-- {lit}`AggregationServiceTester.__init__`. -/
def Tester.new (baseUrl : String) : Tester := ⟨rstripSlash baseUrl, .null⟩

/-- The document {lit}`authenticate` posts. -/
def credentials (username password : String) : Json :=
  .obj [("UserName", .str username), ("Password", .str password)]

/-- The request {lit}`authenticate` opens. -/
def sessionRequest (baseUrl username password : String) : Request :=
  ⟨"POST", [.text baseUrl, .text "/redfish/v1/SessionService/Sessions"],
    [("Content-Type", .str "application/json")], some (credentials username password)⟩

/-- {lit}`response.headers.get(name)`: the first header of that name, compared without
case ({lit}`http.client` reads header lines as Latin-1, where lowering a name can make
it equal an ASCII name only by lowering ASCII letters). -/
def headerGet (headers : List (String × String)) (name : String) : Option String :=
  (headers.find? fun h => h.1.toLower == name.toLower).map Prod.snd

/-- {lit}`json.loads(response.read().decode('utf-8')).get('X-Auth-Token')`, or the
message of the exception one of them raises. -/
def bodyToken (body : Except String String) : Py (Except String Json) :=
  match body with
  | .error msg => pure (.error msg)
  | .ok text => do
    match ← jsonLoads text with
    | .error msg => pure (.error msg)
    | .ok data =>
      match data.get "X-Auth-Token" .null with
      | .ok token => pure (.ok token)
      | .error e => pure (.error e.msg)

/-- The {lit}`except Exception as e` handler of {lit}`authenticate`. -/
def Tester.authFailure (t : Tester) (msg : String) : Py (Bool × Tester) := do
  print [.text ("   ✗ Failed to authenticate: " ++ msg)]
  print [.text ("   Make sure the service is running at " ++ t.baseUrl)]
  pure (false, t)

/-- {lit}`AggregationServiceTester.authenticate`: whether it returned {lit}`True`, and
the tester with the token it stored. -/
def Tester.authenticate (t : Tester) (username password : String) : Py (Bool × Tester) := do
  print [.text "1. Authenticating..."]
  match ← urlopen (sessionRequest t.baseUrl username password) with
  | .response _ headers body =>
    let headerToken : Json := ((headerGet headers "X-Auth-Token").map Json.str).getD .null
    let token ← if headerToken.truthy then pure (.ok headerToken) else bodyToken body
    match token with
    | .ok token =>
      if token.truthy then do
        print [.text "   ✓ Authenticated successfully"]
        pure (true, { t with authToken := token })
      else do
        print [.text "   ✗ Failed to get auth token"]
        pure (false, { t with authToken := token })
    | .error msg => Tester.authFailure { t with authToken := headerToken } msg
  | .httpError code reason _ => do
    print [.text ("   ✗ Authentication failed: " ++ toString code ++ " " ++ reason)]
    if code == 401 then print [.text "   Make sure admin/admin credentials are valid"]
    pure (false, t)
  | .failure msg => t.authFailure msg

/-- The headers {lit}`make_request` adds: the token when there is one, then the
content type when there is a body. -/
def Tester.headers (t : Tester) (requestData : Option Json) : List (String × Json) :=
  (if t.authToken.truthy then [("X-Auth-Token", t.authToken)] else []) ++
    (if requestData.isSome then [("Content-Type", .str "application/json")] else [])

/-- {lit}`{"error": str(e)}`. -/
def errorDoc (msg : String) : Json := .obj [("error", .str msg)]

/-- The request {lit}`make_request(path, method, data)` opens. -/
def Tester.request (t : Tester) (path : List Piece) (method : String) (data : Option Json) :
    Request :=
  ⟨method, .text t.baseUrl :: path, t.headers (data.filter Json.truthy), data.filter Json.truthy⟩

/-- What {lit}`make_request` returns for a response: {lit}`{}` for a {lit}`DELETE`
answered {lit}`204` and for an empty body, else the decoded body; an exception while
reading or decoding becomes an error document. -/
def responseValue (method : String) (status : Nat) (body : Except String String) : Py Json :=
  if method == "DELETE" && status == 204 then pure (.obj [])
  else
    match body with
    | .error msg => pure (errorDoc msg)
    | .ok text =>
      if text.isEmpty then pure (.obj [])
      else do
        match ← jsonLoads text with
        | .ok v => pure v
        | .error msg => pure (errorDoc msg)

/-- The {lit}`except urllib.error.HTTPError as e` handler of {lit}`make_request`:
reading the error body is outside the {lit}`try`, so an exception there escapes. -/
def httpErrorValue (code : Nat) (body : Except String String) : Py Json :=
  match body with
  | .error msg => raise ⟨.bodyError, msg⟩
  | .ok errorBody => do
    match ← jsonLoads errorBody with
    | .ok errorJson => pure (.obj [("error", errorJson), ("status", .int code)])
    | .error _ => pure (.obj [("error", .str errorBody), ("status", .int code)])

/-- {lit}`AggregationServiceTester.make_request`. -/
def Tester.makeRequest (t : Tester) (path : List Piece) (method : String) (data : Option Json) :
    Py Json := do
  match ← urlopen (t.request path method data) with
  | .response status _ body => responseValue method status body
  | .httpError code _ body => httpErrorValue code body
  | .failure msg => pure (errorDoc msg)

/-- {lit}`response and "error" not in response`, as a condition. -/
def accepted (response : Json) : Except Fault Bool :=
  if response.truthy then (response.pyIn "error").map (!·) else .ok false

/-- {lit}`AggregationServiceTester.check_service_root`. -/
def Tester.checkServiceRoot (t : Tester) : Py Bool := do
  print [.text "\n2. Checking Service Root..."]
  let response ← t.makeRequest [.text "/redfish/v1/"] "GET" none
  let found ← if response.truthy then liftFault (response.pyIn "AggregationService") else pure false
  if found then do
    print [.text "   ✓ AggregationService is available in Service Root"]
    pure true
  else do
    print [.text "   ✗ AggregationService not found in Service Root"]
    pure false

/-- The methods that {lit}`GET` one resource, print it and return it, or print the
failure and return {lit}`None`. -/
def Tester.fetch (t : Tester) (heading path failure : String) : Py (Option Json) := do
  print [.text heading]
  let response ← t.makeRequest [.text path] "GET" none
  if ← liftFault (accepted response) then do
    print [.text "   Response: ", .dumped response]
    pure (some response)
  else do
    print [.text (failure ++ " "), .shown response]
    pure none

/-- The methods that {lit}`GET` a collection: as {lit}`Tester.fetch`, and they also
print {lit}`response.get('Members@odata.count', 0)`. -/
def Tester.fetchCollection (t : Tester) (heading path noun failure : String) :
    Py (Option Json) := do
  print [.text heading]
  let response ← t.makeRequest [.text path] "GET" none
  if ← liftFault (accepted response) then do
    let count ← liftFault (response.get "Members@odata.count" (.int 0))
    print [.text "   Found ", .shown count, .text (" " ++ noun)]
    print [.text "   Response: ", .dumped response]
    pure (some response)
  else do
    print [.text (failure ++ " "), .shown response]
    pure none

/-- The path of the ConnectionMethods collection. -/
def connectionMethodsPath : String := "/redfish/v1/AggregationService/ConnectionMethods"

/-- {lit}`AggregationServiceTester.get_aggregation_service`. -/
def Tester.getAggregationService (t : Tester) : Py (Option Json) :=
  t.fetch "\n3. Getting AggregationService..." "/redfish/v1/AggregationService"
    "   ✗ Failed to get AggregationService:"

/-- {lit}`AggregationServiceTester.list_connection_methods`. -/
def Tester.listConnectionMethods (t : Tester) : Py (Option Json) :=
  t.fetch "\n4. Listing current ConnectionMethods..." connectionMethodsPath
    "   ✗ Failed to list ConnectionMethods:"

/-- {lit}`AggregationServiceTester.check_managers_collection`. -/
def Tester.checkManagersCollection (t : Tester) : Py (Option Json) :=
  t.fetchCollection "\n6. Checking aggregated Managers collection..." "/redfish/v1/Managers"
    "managers" "   ✗ Failed to get Managers collection:"

/-- {lit}`AggregationServiceTester.check_systems_collection`. -/
def Tester.checkSystemsCollection (t : Tester) : Py (Option Json) :=
  t.fetchCollection "\n7. Checking aggregated Systems collection..." "/redfish/v1/Systems"
    "systems" "   ✗ Failed to get Systems collection:"

/-- The document {lit}`add_connection_method` posts. -/
def connectionMethodDoc (name address username password : String) : Json :=
  .obj [("Name", .str name), ("ConnectionMethodType", .str "Redfish"),
    ("ConnectionMethodVariant.Address", .str address),
    ("ConnectionMethodVariant.Authentication",
      .obj [("Username", .str username), ("Password", .str password)])]

/-- {lit}`AggregationServiceTester.add_connection_method`. -/
def Tester.addConnectionMethod (t : Tester) (name address username password : String) :
    Py (Option Json) := do
  print [.text "\n5. Adding a new ConnectionMethod..."]
  print [.text ("   Name: " ++ name)]
  print [.text ("   Address: " ++ address)]
  print [.text "   Note: This will fail if the BMC is not reachable."]
  let response ← t.makeRequest [.text connectionMethodsPath] "POST"
    (some (connectionMethodDoc name address username password))
  if ← liftFault (accepted response) then do
    print [.text "   ✓ ConnectionMethod added successfully"]
    print [.text "   Response: ", .dumped response]
    pure (some response)
  else do
    print [.text "   ✗ Failed to add ConnectionMethod: ", .shown response]
    pure none

/-- The path {lit}`delete_connection_method` names:
{lit}`f"/redfish/v1/AggregationService/ConnectionMethods/{method_id}"`. -/
def deletePath (methodId : Json) : List Piece :=
  [.text (connectionMethodsPath ++ "/"), .shown methodId]

/-- {lit}`AggregationServiceTester.delete_connection_method`. -/
def Tester.deleteConnectionMethod (t : Tester) (methodId : Json) : Py Bool := do
  print [.text "\n8. Deleting ConnectionMethod ", .shown methodId, .text "..."]
  let response ← t.makeRequest (deletePath methodId) "DELETE" none
  let ok ← if response.isNone then pure false
    else liftFault ((response.pyIn "error").map (!·))
  if ok then do
    print [.text "   ✓ ConnectionMethod ", .shown methodId, .text " deleted successfully"]
    pure true
  else do
    print [.text "   ✗ Failed to delete ConnectionMethod: ", .shown response]
    pure false

/-! ## The script -/

/-- The parsed command line, whose strings hold no lone surrogate. -/
structure Args where
  url : String
  username : String
  password : String
  bmcAddress : String
  bmcUsername : String
  bmcPassword : String
  skipAdd : Bool

/-- The defaults of the argument parser. -/
def Args.defaults : Args :=
  ⟨"http://localhost:8080", "admin", "admin", "192.168.1.100", "admin", "password", false⟩

/-- The rule {lit}`main` prints around the run. -/
def banner : String := "========================================"

/-- {lit}`if method and "Id" in method: tester.delete_connection_method(method["Id"])`. -/
def Tester.cleanUp (t : Tester) (method : Option Json) : Py Unit :=
  match method with
  | none => pure ()
  | some m => do
    let hasId ← if m.truthy then liftFault (m.pyIn "Id") else pure false
    if hasId then do
      let methodId ← liftFault (m.index "Id")
      let _ ← t.deleteConnectionMethod methodId
      pure ()

/-- What {lit}`main` does once {lit}`authenticate` returned {lit}`True`. -/
def Tester.runChecks (tester : Tester) (args : Args) : Py Nat := do
  let _ ← tester.checkServiceRoot
  let _ ← tester.getAggregationService
  let _ ← tester.listConnectionMethods
  if !args.skipAdd then do
    let method ← tester.addConnectionMethod "Test BMC" args.bmcAddress args.bmcUsername
      args.bmcPassword
    tester.cleanUp method
  let _ ← tester.checkManagersCollection
  let _ ← tester.checkSystemsCollection
  print [.text ("\n" ++ banner)]
  print [.text "Test completed!"]
  print [.text banner]
  pure 0

/-- {lit}`main`, after the argument parser: the status it returns. -/
def main (args : Args) : Py Nat := do
  print [.text banner]
  print [.text "AggregationService API Test Script"]
  print [.text banner]
  let (ok, tester) ← (Tester.new args.url).authenticate args.username args.password
  if !ok then do
    print [.text "\n✗ Authentication failed. Cannot continue."]
    pure 1
  else tester.runChecks args

/-- {lit}`sys.exit(main())`: the status {lit}`main` returns, or {lit}`1` after the
traceback of an exception that escaped it. -/
def exitStatus : EStateM.Result Fault World Nat → Nat
  | .ok code _ => code
  | .error _ _ => 1

end Smoke
end Shoal

import SqlDraft.Json.Reader
import SqlDraft.Service

/-!
# The service over HTTP

There are two paths: one to ask whether the service is well, one to ask for a draft.  A request that
is not blank is answered with its draft, whether there is a script in it or not; what is no request
is answered with what is wrong with it.

* `Request.route?`: the path that is meant.
* `Ask.ofRequest`: the request for a draft in a body.
* `respond`: the response of a service.
-/

namespace SqlDraft.Http

/-- What comes in. -/
structure Request where
  method : Text
  /-- The path as it is written, with a query and a fragment after it or not. -/
  path : Text
  body : Option Text := none
  contentType : Option Text := none
  deriving DecidableEq, Repr

inductive Body
  | json (value : Json)
  | text (content : Text)
  deriving Repr

/-- What goes out. -/
structure Response where
  status : Nat
  body : Body
  deriving Repr

/-- An object with one field. -/
def single (name : Text) (value : Json) : Json := .object [(name, value)]

/-- A response with nothing but a detail. -/
def detail (status : Nat) (message : Text) : Response :=
  ⟨status, .json (single "detail" (.string message))⟩

/-- The response where something goes wrong that nobody takes care of. -/
def internalError : Response := ⟨500, .text "Internal Server Error"⟩

/-! ## Methods and paths -/

/-- The method, in capitals. -/
def Request.verb (request : Request) : Text := Text.upper request.method

inductive Route
  | health
  | generate
  deriving DecidableEq, Repr

def Route.path : Route → Text
  | .health => "/health"
  | .generate => "/generate"

def Route.method : Route → Text
  | .health => "GET"
  | .generate => "POST"

/-- The route of a path; a line end after the path does not count. -/
def Route.ofPath? (path : Text) : Option Route :=
  [Route.health, .generate].find? fun route => route.path == path || route.path ++ ['\n'] == path

/-- The path before a query and a fragment. -/
def barePath (path : Text) : Text := path.takeWhile fun c => c ≠ '?' ∧ c ≠ '#'

/-- The names of a path with those taken out that stand for a step back or for no step. -/
def withoutDots (path : Text) : Text :=
  let names := (Text.pieces '/' path).foldl (fun (names : List Text) name =>
    if name = ['.'] then names
    else if name = ['.', '.'] then if names = [[]] then names else names.dropLast
    else names ++ [name]) []
  Text.joinWith "/" names

/-- The path with escaped characters in place of their escapes.  An escaped byte counts as one
character: that is right for ASCII, and no route has another character in its path. -/
def unescaped : Text → Text
  | [] => []
  | [c] => [c]
  | [c, d] => [c, d]
  | c :: d :: e :: rest =>
    match Json.hexValue? d, Json.hexValue? e with
    | some high, some low =>
      if c = '%' then Char.ofNat (16 * high + low) :: unescaped rest
      else c :: unescaped (d :: e :: rest)
    | _, _ => c :: unescaped (d :: e :: rest)

/-- The path that is meant; one that is written without a slash in front has one all the same. -/
def Request.target (request : Request) : Text :=
  let path := barePath request.path
  let path := if path.head? = some '/' then path else '/' :: path
  unescaped (withoutDots path)

/-- The path with a slash at its end where it has none, and without any where it has. -/
def otherEnding (path : Text) : Text :=
  if path.getLast? = some '/' then Text.trimEnd (· == '/') path else path ++ ['/']

/-- The path would be that of a route if its end were different. -/
def isMisspelt (path : Text) : Bool := path != ['/'] && (Route.ofPath? (otherEnding path)).isSome

/-! ## Bodies -/

/-- The kind of a body, without its parameters. -/
def mediaType (contentType : Text) : Text :=
  Text.lower (Text.strip (Text.before [';'] contentType))

/-- What the kinds of JSON begin with: all but the name of the format. -/
def jsonFamily : Text := "application/"

def jsonName : Text := "json"

/-- A name after this sign says what a format builds on. -/
def jsonSuffix : Text := "+json"

/-- Bodies of this kind are JSON.  So are bodies of no kind. -/
def isJson : Option Text → Bool
  | none => true
  | some contentType =>
    contentType.isEmpty ||
      match Text.afterPrefix? jsonFamily (mediaType contentType) with
      | none => false
      | some format => !format.elem '/' && (format == jsonName || jsonSuffix.isSuffixOf format)

/-- What is wrong with a body. -/
inductive BodyFault
  /-- There is none. -/
  | absent
  /-- It is no JSON. -/
  | malformed (fault : Json.Fault)
  /-- It cannot be read. -/
  | unreadable
  /-- What it says is of the wrong kind. -/
  | wrong (issue : Issue) (value : Json)
  deriving Repr

/-- What a body says. -/
def bodyValue (request : Request) : Except BodyFault Json :=
  match request.body with
  | none | some [] => .error .absent
  | some body =>
    if isJson request.contentType then
      match Json.read ((Text.afterPrefix? ['\uFEFF'] body).getD body) with
      | .ok value => .ok value
      | .error fault =>
        .error (if fault.reason = .tooManyDigits then .unreadable else .malformed fault)
    else .ok (.string body)

/-- The text of the request that a body makes: empty if it names none. -/
def requestText (value : Json) : Except BodyFault Text :=
  match value with
  | .object fields =>
    match (Json.object fields).field? "request" with
    | none => .ok []
    | some (.string text) => .ok text
    | some other => .error (.wrong ⟨["body", "request"], .notText⟩ other)
  | other => .error (.wrong ⟨["body"], .notObject⟩ other)

/-! ## Responses -/

/-- One issue of a body, told with the value that it is about. -/
def invalid (code : Text) (location : List Json) (message : Text) (value : Json)
    (context : Fields) : Response :=
  if value.isWritable then
    let issue : Fields :=
      [("type", .string code), ("loc", .array location), ("msg", .string message),
        ("input", value)]
    ⟨422, .json (single "detail" (.array [.object (issue ++ context)]))⟩
  else internalError

/-- The response to a body with something wrong. -/
def BodyFault.response : BodyFault → Response
  | .absent =>
    invalid Issue.Reason.missing.code [.string "body"] Issue.Reason.missing.message .null []
  | .malformed fault =>
    invalid "json_invalid" [.string "body", Json.ofNat fault.position] "JSON decode error"
      (.object []) [("ctx", single "error" (.string fault.reason.message))]
  | .unreadable => detail 400 "There was an error parsing the body"
  | .wrong issue value =>
    invalid issue.reason.code (issue.location.map .string) issue.reason.message value []

/-- The response to an empty request. -/
def emptyRequest : Response := detail 400 "Please enter a request."

/-- The response for the answer of a service. -/
def answerResponse : Except Fault Draft → Response
  | .ok draft =>
    ⟨200, .json (.object
      [("script", .string draft.script), ("explanation", .string draft.explanation)])⟩
  | .error (.libraryMissing _) | .error (.libraryUnreadable _ _) =>
    detail 500 "template library unavailable"
  | .error _ => internalError

/-- What the log says about the answer of a service. -/
def answerRecords : Except Fault Draft → List Log.Record
  | .error (.libraryMissing directory) =>
    [⟨.error, .http, "template library unavailable", some (.libraryMissing directory)⟩]
  | .error (.libraryUnreadable directory cause) =>
    [⟨.error, .http, "template library unavailable", some (.libraryUnreadable directory cause)⟩]
  | _ => []

/-- The response to a request for a draft. -/
def respondWithDraft (service : Service) (files : Files.Tree) (moment : Moment)
    (request : Request) : Response × Service :=
  match bodyValue request >>= requestText with
  | .error fault => (fault.response, service)
  | .ok text =>
    if Text.isBlankText text then (emptyRequest, service)
    else
      let (answer, service) := service.generate files moment none text
      (answerResponse answer, { service with log := service.log ++ answerRecords answer })

/-- The response of a service to whatever comes in, body and all. -/
def fullResponse (service : Service) (files : Files.Tree) (moment : Moment) (request : Request) :
    Response × Service :=
  let path := request.target
  match Route.ofPath? path with
  | none =>
    (if isMisspelt path then ⟨307, .text []⟩ else detail 404 "Not Found", service)
  | some route =>
    if route.method ≠ request.verb then (detail 405 "Method Not Allowed", service)
    else
      match route with
      | .health => (⟨200, .json (single "status" (.string "healthy"))⟩, service)
      | .generate => respondWithDraft service files moment request

def headMethod : Text := "HEAD"

/-- The response of a service.  Where only the head of the response is asked for, it has no
body. -/
def respond (service : Service) (files : Files.Tree) (moment : Moment) (request : Request) :
    Response × Service :=
  let (response, service) := fullResponse service files moment request
  if request.verb = headMethod then (⟨response.status, .text []⟩, service)
  else (response, service)

end SqlDraft.Http

import CloudDirector.Client.Config
import CloudDirector.Client.Dialect
import CloudDirector.Client.Envelope
import CloudDirector.Client.Reply
import CloudDirector.Client.Request
import CloudDirector.Client.Session
import CloudDirector.Navigation.LinkHeader
import CloudDirector.Payload.Encode
import CloudDirector.Payload.Notices
import CloudDirector.Tasks.Polling

/-!
# Calls

A call is checked and encoded, sent, and its reply decoded; links and the task that it started are
taken from the reply.  In one dialect they are in the body, in the other in the headers, and a
task is then asked for with a call of its own.  Everything that could be refused without the
server is refused before anything is sent.

What arrives is given as a list, one arrival for each request that is sent, so that a call is a
function of that list; it tells which requests it sent and which arrivals are left.
-/

namespace CloudDirector

/-- A request as it is sent. -/
structure SentRequest where
  method : Web.Method
  url : Web.Url
  headers : Web.Headers
  body : Option String

/-- The place that a request is in messages. -/
def SentRequest.place (r : SentRequest) : Place := .request r.method.name r.url.render

/-- What a client works with. -/
structure Client where
  registry : Registry
  config : ClientConfig := {}
  session : Option Session := none
  downloads : DownloadStore := {}

/-- What has happened: the result, the requests sent, the notices told, and the arrivals left. -/
structure Exchange (α : Type) where
  result : Result α
  sent : List SentRequest := []
  notices : List Notice := []
  left : List Arrival

/-! ## Requests -/

/-- A call that has been checked and encoded. -/
structure Prepared where
  dialect : Dialect
  target : Option Target
  request : SentRequest

namespace Client

/-- The target of an expression, all of whose types are known. -/
def target (c : Client) (expression : String) : Result Target :=
  match Expression.parse expression with
  | .error r => .error r
  | .ok target =>
    match target.descriptor?.bind Descriptor.reference? with
    | some reference =>
      if c.registry.isRegistered reference then .ok target
      else (Result.fail (.notRegistered reference)).passing (.responseType expression)
    | none => .ok target

/-- The media type that a body has in a dialect unless another one is set: that of its schema, where
the dialect knows such types. -/
def bodyMediaType (c : Client) (dialect : Dialect) (body : Value) : String :=
  let ofSchema := match dialect, body with
    | .api, .record typeName _ =>
      match c.registry.schema typeName with
      | .ok s => s.mediaType
      | .error _ => none
    | _, _ => none
  ofSchema.getD dialect.mediaType

/-- Whether a media type says which version of the API is meant. -/
def saysVersion (mediaType : String) : Bool := Text.hasPart "version=".toList mediaType.toList

/-- The media type of a body with the version of the API. -/
def contentType (c : Client) (dialect : Dialect) (body : Value) (mediaType : Option String) :
    String :=
  let base := mediaType.getD (c.bodyMediaType dialect body)
  if saysVersion base then base else c.config.apiVersion.ofMediaType base

/-- The value of a header. -/
def headerValue (text : String) : Result String :=
  if Web.isHeaderValue text then .ok text else .failSetup (.badHeader text)

/-- What a reply is to become, if an expression says so. -/
def expectedTarget (c : Client) : Option String → Result (Option Target)
  | some expression => (c.target expression).map some
  | none => .ok none

/-- The headers and the body of a call. -/
def contents (c : Client) (request : CallRequest) (dialect : Dialect) (url : Web.Url) :
    Result (Web.Headers × Option String) := do
  let headers : Web.Headers := [("accept", ← headerValue (dialect.accept c.config.apiVersion))]
  let (headers, body) ← match request.body with
    | some value => do
      let json ← (Payload.encodeValue c.registry value).passing
        (.request request.method.name url.render)
      let contentType ← headerValue (c.contentType dialect value request.mediaType)
      pure (headers.set "content-type" contentType, some json.render)
    | none => pure (headers, none)
  match c.session with
  | some session => return (← session.apply headers, body)
  | none => return (headers, body)

/-- Checks and encodes a call. -/
def prepare (c : Client) (request : CallRequest) : Result Prepared := do
  let url ← readAddress request.address
  let dialect ← Dialect.ofUrl url
  let target ← c.expectedTarget request.expects
  let url := url.appendPairs request.query
  let (headers, body) ← c.contents request dialect url
  return { dialect, target, request := { method := request.method, url, headers, body } }

/-! ## Replies -/

/-- The body of a reply as JSON that nothing is declared for. -/
def rawOutput (reply : Reply) : Output :=
  if reply.isBodyEmpty then .nothing
  else match reply.json? with
    | some .null => .nothing
    | some json => .raw json
    | none => .raw (.string (Text.ofBytesLossy reply.body))

/-- What the body of a reply becomes, with the notices on the way. -/
def output (c : Client) (reply : Reply) (target : Option Target) : Result Output × List Notice :=
  match reply.isSuccess, target with
  | true, some .file =>
    match c.downloads.keep c.config.downloadDirectory reply.body with
    | .ok download => (.ok (.file download), [.kept])
    | .error r => (.error r, [])
  | true, some (.decode shape) =>
    if reply.isBodyEmpty then (.ok .nothing, [])
    else match reply.json? with
      | none => (.failValue .badBody, [])
      | some json =>
        ((Payload.decode c.registry json shape).map fun
            | some value => .decoded value
            | none => .nothing,
          Payload.notices c.registry json shape)
  | _, _ => (.ok (rawOutput reply), [])

/-! ## Links -/

/-- The links in what a body became. -/
def bodyLinks (c : Client) : Output → List Link
  | .decoded (.record typeName fields) =>
    let items := (Record.items? ⟨typeName, fields⟩ "link").getD []
    let links := (items.filterMap Value.record?).filter fun r =>
      c.registry.isDescendant r.typeName "Link"
    links.filterMap (Link.ofRecord? c.registry)
  | .raw json =>
    (((json.member? "link").bind Json.items?).getD []).filterMap Link.ofJson?
  | _ => []

/-- The links in the headers of a reply; a header that is not well formed is passed over. -/
def headerLinks (headers : Web.Headers) : List Link × List Notice :=
  let found := ((headers.values "link").filter Web.isPlainValue).map LinkHeader.parse
  (found.flatMap fun
      | .ok links => links
      | .error _ => [],
    found.filterMap fun
      | .ok _ => none
      | .error _ => some .badLinks)

/-- The links of a reply. -/
def links (c : Client) (dialect : Dialect) (headers : Web.Headers) (output : Output) :
    List Link × List Notice :=
  match dialect with
  | .api => (c.bodyLinks output, [])
  | .cloudApi => headerLinks headers

/-! ## Tasks in bodies -/

/-- The first task among those of a record, which are in a list or in a record of their own. -/
def firstTask? (tasks : Value) : Option Task :=
  let items := match tasks with
    | .list items => some items
    | .record typeName fields => Record.items? ⟨typeName, fields⟩ "task"
    | _ => none
  ((items.bind List.head?).bind Value.record?).bind Task.ofRecord?

/-- The first task among those of JSON, which are in an array or in an object of their own. -/
def firstRawTask? (tasks : Json) : Option Json :=
  match tasks with
  | .array items => items.head?
  | .object _ => ((tasks.member? "task").bind Json.items?).bind List.head?
  | _ => none

/-- Whether JSON says that it is a task. -/
def isRawTask (c : Client) (json : Json) : Bool :=
  match (json.member? discriminatorKey).bind Json.string? with
  | some discriminator =>
    match c.registry.resolveDiscriminator "Task" discriminator with
    | .ok _ => true
    | .error _ => false
  | none => false

/-- The task that JSON spells; one that cannot be decoded is passed over. -/
def rawTask (c : Client) (json : Json) : Option Task × List Notice :=
  let shape := Descriptor.polymorphic "Task"
  let told := Payload.notices c.registry json shape
  match Payload.decode c.registry json shape with
  | .ok value => ((value.bind Value.record?).bind Task.ofRecord?, told)
  | .error _ => (none, told ++ [.badTask])

/-- The task in what a body became: the body itself, or the first of its tasks. -/
def bodyTask (c : Client) : Output → Option Task × List Notice
  | .decoded (.record typeName fields) =>
    if c.registry.isDescendant typeName "Task" then (Task.ofRecord? ⟨typeName, fields⟩, [])
    else ((Members.get? fields "tasks").bind firstTask?, [])
  | .raw json =>
    let candidate :=
      if c.isRawTask json then some json else (json.member? "tasks").bind firstRawTask?
    match candidate with
    | some candidate => c.rawTask candidate
    | none => (none, [])
  | _ => (none, [])

/-- The task of the envelope that came of asking for it. -/
def taskOf (href : String) (envelope : Envelope) : Result Task :=
  match envelope.checked with
  | .error r => .error r
  | .ok envelope =>
    match envelope.record? with
    | some record => .ok ⟨(record.string? "href").getD href, record⟩
    | none => (Result.failValue (.missing "task in response")).passing (.task href)

/-- The request that asks for a task. -/
def taskRequest (href : String) : CallRequest := .get href "Task"

/-! ## Calls -/

/-- Nothing has arrived for a request. -/
def unanswered {α : Type} (prepared : Prepared) (r : Report) (left : List Arrival) :
    Exchange α where
  result := Result.passing prepared.request.place (.error r)
  sent := [prepared.request]
  notices := [.dispatching]
  left := left

/-- The notices that come before a body is read. -/
def replyNotices (reply : Reply) : List Notice :=
  .dispatching :: if reply.isSuccess then [] else [.unsuccessful]

/-- The address of the task that a reply points at. -/
def taskAddress? (dialect : Dialect) (reply : Reply) : Option String :=
  match dialect with
  | .api => none
  | .cloudApi => if reply.isSuccess then reply.headers.text? "location" else none

/-- Runs a call on what arrives. -/
def call (c : Client) (arrivals : List Arrival) (request : CallRequest) : Exchange Envelope :=
  match c.prepare request with
  | .error r => { result := .error r, left := arrivals }
  | .ok prepared =>
    match arrivals with
    | [] => unanswered prepared ⟨.transport "send request" "script exhausted", []⟩ []
    | .failure r :: left => unanswered prepared r left
    | .reply reply :: left =>
      let sent := [prepared.request]
      let (output, told) := c.output reply prepared.target
      let told := replyNotices reply ++ told
      match (output.passing prepared.request.place).passing (.httpStatus reply.status) with
      | .error r => { result := .error r, sent, notices := told, left }
      | .ok output =>
        let (links, linkNotices) := c.links prepared.dialect reply.headers output
        let envelope : Envelope :=
          { status := reply.status, headers := reply.headers, links, output }
        match taskAddress? prepared.dialect reply with
        | some href =>
          let fetched := call c left (taskRequest href)
          let told := told ++ linkNotices ++ .followingLocation :: fetched.notices
          let sent := sent ++ fetched.sent
          match Result.passing (.location href) (fetched.result.bind (taskOf href)) with
          | .error r => { result := .error r, sent, notices := told, left := fetched.left }
          | .ok task =>
            { result := .ok { envelope with task := some task }
              sent
              notices := told ++ [.completed]
              left := fetched.left }
        | none =>
          let (task, taskNotices) := match prepared.dialect with
            | .api => c.bodyTask output
            | .cloudApi => (none, [])
          { result := .ok { envelope with task }
            sent
            notices := told ++ linkNotices ++ taskNotices ++ [.completed]
            left }

/-- Asks for a task. -/
def fetchTask (c : Client) (arrivals : List Arrival) (href : String) : Exchange Task :=
  let fetched := c.call arrivals (taskRequest href)
  { fetched with result := fetched.result.bind (taskOf href) }

/-- What a client has sent and told while it waits, and the arrivals that are left: asking for a task
adds to it, and sleeping does not. -/
def surroundings (c : Client) : Surroundings (List SentRequest × List Notice × List Arrival) where
  sleep _ s := s
  fetch href s :=
    let (sent, told, arrivals) := s
    let fetched := c.fetchTask arrivals href
    let polled := match fetched.result with
      | .ok _ => [.polled]
      | .error _ => []
    (fetched.result, sent ++ fetched.sent, told ++ fetched.notices ++ polled, fetched.left)

/-- Waits for the end of a task, looking at the clock once before each time that it is asked for. -/
def waitForTask (c : Client) (task : Task) (m : Polling) (readings : List Nat)
    (arrivals : List Arrival) : Waiting Task × List SentRequest × List Notice × List Arrival :=
  task.wait m c.surroundings readings ([], [], arrivals)

end Client

end CloudDirector

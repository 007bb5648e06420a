import FileServer.Site.Answer

/-!
# Exchanges

What one request head is answered with. A request that the site may serve gets the site's answer;
a request with another method and a head that is no request get an error page. The fields that
every response has are added here, and the body is left out where only the head was asked for.

* `respond_of_error`: a rejected head is answered by the page of its error, whatever the site.
-/

namespace FileServer

/-- What was asked for and what was sent back on one connection. -/
structure Exchange where
  /-- The first line of what the client sent. -/
  requestLine : Text
  method : Option Method
  target : Option Text
  version : Option Version
  status : Status
  /-- The number of body bytes that were sent. -/
  bytes : Nat
  deriving DecidableEq, Repr

/-- An answer to a request head. -/
structure Reply where
  exchange : Exchange
  response : Response
  events : List Event

/-- The name that the server gives itself. -/
def serverName : Text := "static-httpd/0.1.0".toList

namespace Reply

/-- Reads a request head in bytes. -/
def parseHead (head : Bytes) : Except RequestError Request :=
  match Utf8.decode? head with
  | some text => Request.parse text
  | none => .error .encoding

/-- The page that answers a request which is not served. -/
def refusal (error : RequestError) : Draft Status := Draft.error error.status (some error.message)

/-- What a site makes of a request, with what is to be reported about it. -/
def ofRequest (site : Site) (disk : Disk) (request : Request) : Draft Status × List Event :=
  if request.method.isSupported then
    let outcome := site.answer disk request
    (outcome.draft, outcome.events)
  else (refusal (.method request.method.token), [])

/-- Completes a response with the fields that every response has. -/
def finish (now : Nat) (draft : Draft Status) : Response :=
  (((draft.header "Server".toList serverName).header "Date".toList (HttpDate.render now)).header
    "Connection".toList "close".toList).build

/-- The request line as it is logged. -/
def requestLine (head : Bytes) : Text := Text.firstLine (Utf8.decodeLossy head)

/-- The answer to a request. -/
def toRequest (site : Site) (disk : Disk) (now : Nat) (line : Text) (request : Request) : Reply :=
  let (draft, events) := ofRequest site disk request
  let full := finish now draft
  let response := if request.method = .head then full.withoutBody else full
  { exchange :=
      { requestLine := line
        method := some request.method
        target := some request.target
        version := some request.version
        status := response.status
        bytes := response.bodyLength }
    response
    events }

/-- The answer to a head that is no request. -/
def toError (now : Nat) (line : Text) (error : RequestError) : Reply :=
  let response := finish now (refusal error)
  { exchange :=
      { requestLine := line
        method := none
        target := none
        version := none
        status := response.status
        bytes := response.bodyLength }
    response
    events := [.requestRejected error line] }

/-- The answer to a request head, at a time in seconds since the beginning of 1970. -/
def respond (site : Site) (disk : Disk) (now : Nat) (head : Bytes) : Reply :=
  match parseHead head with
  | .ok request => toRequest site disk now (requestLine head) request
  | .error error => toError now (requestLine head) error

theorem respond_of_error {head : Bytes} {error : RequestError}
    (h : parseHead head = .error error) (site : Site) (disk : Disk) (now : Nat) :
    respond site disk now head = toError now (requestLine head) error := by
  simp [respond, h]

end Reply

end FileServer

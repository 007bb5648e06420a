import FileServer.Http.Response
import FileServer.Text.Html

/-!
# Drafts of responses

A draft collects a status, header fields and a body in any order; `build` completes it with the
length of the body. A draft whose status is still open has the type `Draft Unit`.

* `headers_build`: `Content-Length` comes last and states the length of the body, unless there is
  no body to measure and the draft asks to leave it out.
-/

namespace FileServer

/-- A response in the making. `status` is `Status`, or `Unit` while the status is open. -/
structure Draft (status : Type) where
  status : status
  headers : List Header
  body : Option Bytes
  /-- Whether an empty body has its length stated too. -/
  statesEmptyLength : Bool

namespace Draft

/-- The name of the field that states the length of the body. -/
def contentLength : Text := "Content-Length".toList

/-- A draft with nothing in it. -/
def empty : Draft Unit := ⟨(), [], none, true⟩

variable {σ : Type}

/-- Sets the status. -/
def withStatus (draft : Draft σ) (status : Status) : Draft Status :=
  ⟨status, draft.headers, draft.body, draft.statesEmptyLength⟩

/-- Adds a header field. A length is ignored: `build` measures the body itself. -/
def header (draft : Draft σ) (name value : Text) : Draft σ :=
  if sameName name contentLength then draft
  else { draft with headers := draft.headers ++ [⟨name, value⟩] }

/-- Replaces the body. -/
def withBody (draft : Draft σ) (body : Bytes) : Draft σ := { draft with body := some body }

/-- Sets whether an empty body has its length stated too. -/
def stateEmptyLength (draft : Draft σ) (flag : Bool) : Draft σ :=
  { draft with statesEmptyLength := flag }

/-- The length of the body; an absent body is empty. -/
def bodyLength (draft : Draft σ) : Nat := (draft.body.getD []).length

/-- The finished response. -/
def build (draft : Draft Status) : Response where
  status := draft.status
  headers :=
    if draft.bodyLength = 0 ∧ draft.statesEmptyLength = false then draft.headers
    else draft.headers ++ [⟨contentLength, Decimal.render draft.bodyLength⟩]
  body := draft.body

/-! ## Common drafts -/

/-- A fulfilled request. -/
def ok : Draft Status := empty.withStatus .ok

/-- A missing resource, without a page. -/
def notFound : Draft Status := empty.withStatus .notFound

/-- An unchanged resource: neither a body nor a length. -/
def notModified : Draft Status := (empty.withStatus .notModified).stateEmptyLength false

/-- A resource that has another location. -/
def movedPermanently (location : Text) : Draft Status :=
  (empty.withStatus .movedPermanently).header "Location".toList location

/-- The HTML page that explains a status. -/
def errorPage (status : Status) (message : Text) : Text :=
  "<!DOCTYPE HTML>\n".toList ++
  "<html lang=\"en\">\n".toList ++
  "<head>\n".toList ++
  "<meta charset=\"utf-8\">\n".toList ++
  "<title>Error response</title>\n".toList ++
  "</head>\n".toList ++
  "<body>\n".toList ++
  "<h1>Error response</h1>\n".toList ++
  "<p>Error code: ".toList ++ status.text ++ "</p>\n".toList ++
  "<p>Message: ".toList ++ Html.escape message ++ ".</p>\n".toList ++
  "<p>Error code explanation: ".toList ++ status.text ++ " - ".toList ++ status.explanation ++
    ".</p>\n".toList ++
  "</body>\n".toList ++
  "</html>\n".toList

/-- An error page with a message, or with the reason of the status for want of one. -/
def error (status : Status) (message : Option Text) : Draft Status :=
  ((empty.withStatus status).header "Content-Type".toList "text/html;charset=utf-8".toList).withBody
    (Utf8.encode (errorPage status (message.getD status.reason)))

/-! ## What a draft becomes -/

theorem headers_header {name : Text} (h : sameName name contentLength = false) (draft : Draft σ)
    (value : Text) : (draft.header name value).headers = draft.headers ++ [⟨name, value⟩] := by
  simp [header, h]

@[simp] theorem status_header (draft : Draft σ) (name value : Text) :
    (draft.header name value).status = draft.status := by
  unfold header; split <;> rfl

@[simp] theorem body_header (draft : Draft σ) (name value : Text) :
    (draft.header name value).body = draft.body := by
  unfold header; split <;> rfl

@[simp] theorem statesEmptyLength_header (draft : Draft σ) (name value : Text) :
    (draft.header name value).statesEmptyLength = draft.statesEmptyLength := by
  unfold header; split <;> rfl

@[simp] theorem bodyLength_header (draft : Draft σ) (name value : Text) :
    (draft.header name value).bodyLength = draft.bodyLength := by
  rw [bodyLength, body_header, bodyLength]

@[simp] theorem status_withBody (draft : Draft σ) (body : Bytes) :
    (draft.withBody body).status = draft.status := rfl

@[simp] theorem status_withStatus (draft : Draft σ) (status : Status) :
    (draft.withStatus status).status = status := rfl

@[simp] theorem status_error (status : Status) (message : Option Text) :
    (error status message).status = status := by
  rw [error, status_withBody, status_header, status_withStatus]

@[simp] theorem status_build (draft : Draft Status) : draft.build.status = draft.status := rfl

@[simp] theorem body_build (draft : Draft Status) : draft.build.body = draft.body := rfl

theorem headers_build (draft : Draft Status) :
    draft.build.headers =
      if draft.bodyLength = 0 ∧ draft.statesEmptyLength = false then draft.headers
      else draft.headers ++ [⟨contentLength, Decimal.render draft.build.bodyLength⟩] := rfl

end Draft

end FileServer

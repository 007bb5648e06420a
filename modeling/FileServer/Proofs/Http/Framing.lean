import FileServer.Http.Response
import FileServer.Proofs.Http.HeadGrammar
import FileServer.Proofs.Text.Cut
import FileServer.Proofs.Text.Lossy
import FileServer.Proofs.Text.Replacement

/-!
# Responses on the wire

A client finds the parts of a response by its separators alone: the head ends at the first blank
line, its lines end at CR LF, and a name ends at the first colon that a space follows
(`Frame.ofBytes?`). The parts that it finds are those of the response if all fields can be written
(`Response.IsWritable`): then no separator stands where none was written.

* `encode_head`: a head is its lines, each with its ending, and a blank line;
* `header?_lineBytes`: a field is found on its line;
* `cutAt?_wire`: the head is found, and the body after it;
* `ofBytes?_wire`: what is found in the bytes of a response are its parts;
* `render_eq_decodeLossy_wire`: a response is shown as its bytes are read.
-/

namespace FileServer

/-- The parts of a response, as a client finds them. -/
structure Frame where
  statusLine : Text
  headers : List Header
  body : Bytes
  deriving DecidableEq, Repr

namespace Frame

/-- The end of a line. -/
def crlf : Bytes := [0x0D, 0x0A]

/-- The field on a line, cut at the first colon that a space follows. -/
def header? (line : Bytes) : Option Header := do
  let (name, value) ← cutAt? [0x3A, 0x20] line
  return ⟨← Utf8.decode? name, ← Utf8.decode? value⟩

/-- The parts of a response: what stands before the first blank line is cut into lines, the first
of which is the status line, and the rest is the body. -/
def ofBytes? (bytes : Bytes) : Option Frame := do
  let (head, body) ← cutAt? (crlf ++ crlf) bytes
  match cutAll crlf head with
  | [] => none
  | statusLine :: lines =>
    return ⟨← Utf8.decode? statusLine, ← lines.mapM header?, body⟩

end Frame

namespace Response

/-- The status line without its ending. -/
def statusText (response : Response) : Text :=
  version.render ++ " ".toList ++ response.status.text ++ " ".toList ++ response.status.reason

/-- The parts of a response. -/
def frame (response : Response) : Frame :=
  ⟨response.statusText, response.headers, response.body.getD []⟩

/-- Whether the fields of a response can be written: the names are names and the values stay within
their lines. -/
def IsWritable (response : Response) : Prop :=
  ∀ header ∈ response.headers, Request.IsFieldName header.name ∧ Text.IsOneLine header.value

end Response

/-! ## Bytes of lines -/

/-- Encoded text that stays within a line holds no CR. -/
theorem Utf8.return_not_mem_encode {t : Text} (h : Text.IsOneLine t) : 0x0D ∉ encode t :=
  fun hmem => (Text.isOneLine_iff.1 h).1 (mem_of_mem_encode (by decide) hmem)

theorem Utf8.colon_not_mem_encode {t : Text} (h : ':' ∉ t) : 0x3A ∉ encode t :=
  fun hmem => h (mem_of_mem_encode (by decide) hmem)

namespace Response

/-- The bytes of a field line without its ending. -/
def lineBytes (header : Header) : Bytes :=
  Utf8.encode (header.name ++ ": ".toList ++ header.value)

/-- A head is its lines, each with its ending, and a blank line. -/
theorem encode_head (response : Response) : Utf8.encode response.head =
    (Utf8.encode response.statusText :: response.headers.map lineBytes).flatMap (· ++ Frame.crlf) ++
      Frame.crlf := by
  have hline : ∀ header : Header, Utf8.encode header.line = lineBytes header ++ Frame.crlf :=
    fun header => Utf8.encode_append _ _
  have hstatus : Utf8.encode response.statusLine =
      Utf8.encode response.statusText ++ Frame.crlf := Utf8.encode_append _ _
  rw [head, Utf8.encode_append, Utf8.encode_append, hstatus, Utf8.encode_flatMap,
    List.flatMap_cons, List.flatMap_map]
  simp only [hline]
  rfl

theorem isOneLine_statusText (response : Response) : Text.IsOneLine response.statusText := by
  have hstatus : ∀ status : Status, Text.IsOneLine
      (version.render ++ " ".toList ++ status.text ++ " ".toList ++ status.reason) := by
    intro status
    cases status <;> decide +kernel
  exact hstatus response.status

theorem header?_lineBytes {header : Header} (h : ':' ∉ header.name) :
    Frame.header? (lineBytes header) = some header := by
  have hcut : cutAt? [0x3A, 0x20] (lineBytes header) =
      some (Utf8.encode header.name, Utf8.encode header.value) := by
    rw [lineBytes, Utf8.encode_append, Utf8.encode_append]
    exact cutAt?_piece (Utf8.colon_not_mem_encode h) _
  simp [Frame.header?, hcut, Utf8.decode?_encode]

theorem mapM_header?_lineBytes {headers : List Header} (h : ∀ header ∈ headers, ':' ∉ header.name) :
    (headers.map lineBytes).mapM Frame.header? = some headers := by
  induction headers with
  | nil => rfl
  | cons header headers ih =>
    obtain ⟨hheader, hheaders⟩ := List.forall_mem_cons.1 h
    simp [header?_lineBytes hheader, ih hheaders]

/-- The bytes of the lines of a head, the status line first. -/
def lines (response : Response) : List Bytes :=
  Utf8.encode response.statusText :: response.headers.map lineBytes

variable {response : Response}

theorem forall_mem_lines (h : response.IsWritable) :
    ∀ line ∈ response.lines, line ≠ [] ∧ 0x0D ∉ line := by
  refine List.forall_mem_cons.2 ⟨⟨?_, ?_⟩, ?_⟩
  · exact Utf8.encode_ne_nil (by simp [statusText])
  · exact Utf8.return_not_mem_encode response.isOneLine_statusText
  · intro line hline
    obtain ⟨header, hheader, rfl⟩ := List.mem_map.1 hline
    obtain ⟨⟨-, -, hname⟩, hvalue⟩ := h header hheader
    refine ⟨Utf8.encode_ne_nil (by simp), Utf8.return_not_mem_encode ?_⟩
    rw [Text.isOneLine_append, Text.isOneLine_append]
    exact ⟨⟨hname, by decide⟩, hvalue⟩

/-- The head of a response ends with the first blank line on the wire. -/
theorem cutAt?_wire (h : response.IsWritable) :
    cutAt? (Frame.crlf ++ Frame.crlf) response.wire =
      some (Frame.crlf.intercalate response.lines, response.body.getD []) := by
  rw [wire_eq, encode_head, List.append_assoc]
  exact cutAt?_blankLine (by decide) (List.cons_ne_nil _ _) (forall_mem_lines h) _

/-- What a client finds in the bytes of a response are its parts. -/
theorem ofBytes?_wire (h : response.IsWritable) :
    Frame.ofBytes? response.wire = some response.frame := by
  have hcutAll : cutAll Frame.crlf (Frame.crlf.intercalate response.lines) = response.lines :=
    cutAll_intercalate (by simp [lines]) fun line hline => (forall_mem_lines h line hline).2
  have hheaders := mapM_header?_lineBytes fun header hheader => (h header hheader).1.2.1
  simp only [Frame.ofBytes?, cutAt?_wire h, Option.bind_eq_bind, Option.bind_some, hcutAll]
  simp [lines, hheaders, Utf8.decode?_encode, frame]

/-! ## Responses as text -/

/-- A response is shown as its bytes on the wire are read as a whole, with one replacement for each
ill-formed part: the head is encoded, so that no such part begins in it. -/
theorem render_eq_decodeLossy_wire (response : Response) :
    response.render = Utf8.decodeLossy response.wire ∧
      ∀ t, Utf8.IsLossyText response.wire t ↔ t = response.render := by
  have hread : Utf8.decodeLossy response.wire = response.render := by
    rw [wire_eq, render_eq, Utf8.decodeLossy_encode_append]
  refine ⟨hread.symm, fun t => ?_⟩
  rw [Utf8.isLossyText_iff, hread]

end Response

end FileServer

import FileServer.Disk.Walk
import FileServer.Text.Line

/-!
# Media types

The media type of a file is looked up by its extension: what follows the last point of its name,
unless the name begins with that point. Which type an extension has is not for the server to say.
It comes with a table (`MediaTypes`), of which it asks no more than that a type stays within a line.
A file whose extension has no type, or is not UTF-8, is a sequence of bytes.

* `isOneLine_ofName`: what is stated of the type of a file stays within a line.
-/

namespace FileServer

/-- The media types that go with extensions. -/
class MediaTypes where
  /-- The type of an extension, if it has one. -/
  ofExtension? : Text → Option Text
  isOneLine_ofExtension? {extension type : Text} (h : ofExtension? extension = some type) :
    Text.IsOneLine type

namespace MediaType

/-- The type of a file about which nothing is known. -/
def octetStream : Text := "application/octet-stream".toList

/-- The extension of a file name in bytes. -/
def extension? (name : Bytes) : Option Bytes :=
  let (reversed, rest) := name.reverse.span (· ≠ 0x2E)
  match rest with
  | _ :: _ :: _ => some reversed.reverse
  | _ => none

variable [MediaTypes]

/-- The type of a file with a name. -/
def ofName (name : Bytes) : Text :=
  (((extension? name).bind Utf8.decode?).bind MediaTypes.ofExtension?).getD octetStream

/-- The type of the file at a written path. -/
def ofPath (written : Bytes) : Text :=
  match Step.fileName? written with
  | some name => ofName name
  | none => octetStream

theorem isOneLine_ofName (name : Bytes) : Text.IsOneLine (ofName name) := by
  unfold ofName
  cases htype : ((extension? name).bind Utf8.decode?).bind MediaTypes.ofExtension? with
  | none =>
    rw [Option.getD_none]
    decide
  | some type =>
    obtain ⟨extension, -, htype⟩ := Option.bind_eq_some_iff.1 htype
    exact MediaTypes.isOneLine_ofExtension? htype

end MediaType

end FileServer

import FileServer.Disk.Walk
import FileServer.Http.Draft
import FileServer.Text.Lowercase
import FileServer.Text.Order
import FileServer.Text.Percent

/-!
# Directory listings

The page that lists a directory has one item per entry, a link under the entry's name. Items are
sorted by the lower case of the names; entries that do not differ in it keep their order.

* `sorted_perm`: sorting loses and invents no row.
-/

namespace FileServer

/-- What a listing shows of an entry. -/
structure Row where
  name : Text
  /-- Whether the entry is a directory, or a link to one. -/
  isDirectory : Bool
  isLink : Bool
  deriving DecidableEq, Repr

namespace Row

/-- The link to the entry. A directory has a slash at the end. -/
def link (row : Row) : Text :=
  Percent.encode row.name ++ (if row.isDirectory then ['/'] else [])

/-- The text of the link. A symbolic link is marked by `@` and other directories by a slash. -/
def label (row : Row) : Text :=
  row.name ++ (if row.isLink then ['@'] else if row.isDirectory then ['/'] else [])

/-- The item of the page. -/
def item (row : Row) : Text :=
  "<li><a href=\"".toList ++ row.link ++ "\">".toList ++ Html.escape row.label ++
    "</a></li>\n".toList

/-- What rows are sorted by. -/
def sortKey (row : Row) : Text := LetterCase.lowercase row.name

/-- Whether a row may stand before another. -/
def le (a b : Row) : Bool := Text.le a.sortKey b.sortKey

end Row

/-- A directory as its page shows it. -/
structure Listing where
  /-- The decoded path of the request. -/
  path : Text
  /-- The entries in the order of enumeration. -/
  rows : List Row
  deriving DecidableEq, Repr

namespace Listing

/-- The rows in the order of the page. -/
def sorted (listing : Listing) : List Row := listing.rows.mergeSort Row.le

/-- The title of the page. -/
def title (listing : Listing) : Text :=
  "Directory listing for ".toList ++ Html.escape listing.path

/-- The page. -/
def page (listing : Listing) : Text :=
  "<!DOCTYPE HTML>\n".toList ++
  "<html lang=\"en\">\n".toList ++
  "<head>\n".toList ++
  "<meta charset=\"utf-8\">\n".toList ++
  "<title>".toList ++ listing.title ++ "</title>\n".toList ++
  "</head>\n".toList ++
  "<body>\n".toList ++
  "<h1>".toList ++ listing.title ++ "</h1>\n".toList ++
  "<hr>\n".toList ++
  "<ul>\n".toList ++
  listing.sorted.flatMap Row.item ++
  "</ul>\n".toList ++
  "<hr>\n".toList ++
  "</body>\n".toList ++
  "</html>\n".toList

/-- The listing of a real directory whose entries are asked for under another path. -/
def ofDirectory (disk : Disk) (real path : Path) (title : Text) : Listing where
  path := title
  rows := (disk.children real).map fun entry =>
    { name := Utf8.decodeLossy entry.name
      isDirectory :=
        match disk.resolve (path ++ [entry.name]) with
        | .ok place => place.object.isDirectory
        | .error _ => false
      isLink := entry.node.isLink }

theorem sorted_perm (listing : Listing) : listing.sorted.Perm listing.rows :=
  List.mergeSort_perm _ _

end Listing

end FileServer

import FileServer.Http.MediaType

/-!
# A table of media types

The types of the usual extensions, with which a server comes when nothing else is said. A server
that is to know more extensions takes another table. Extensions are compared by Unicode case
folding.

* `isOneLine_of_find?`: every type in the table stays within a line.
-/

namespace FileServer.MediaTypes

/-- The media types and their extensions, separated by spaces. -/
def table : List (String × String) := [
  ("application/atom+xml", "atom"),
  ("application/epub+zip", "epub"),
  ("application/font-sfnt", "otf"),
  ("application/font-woff", "woff"),
  ("application/gzip", "gz"),
  ("application/java-archive", "jar war"),
  ("application/javascript", "mjs"),
  ("application/json", "json"),
  ("application/ld+json", "jsonld"),
  ("application/manifest+json", "webmanifest"),
  ("application/msword", "doc"),
  ("application/pdf", "pdf"),
  ("application/postscript", "eps ps"),
  ("application/powershell", "psc1"),
  ("application/rdf+xml", "rdf"),
  ("application/rss+xml", "rss"),
  ("application/rtf", "rtf"),
  ("application/vnd.android.package-archive", "apk"),
  ("application/vnd.denovo.fcselayout-link", "fe_launch"),
  ("application/vnd.lotus-1-2-3", "123"),
  ("application/vnd.ms-excel", "xls"),
  ("application/vnd.ms-excel.addin.macroenabled.12", "xlam"),
  ("application/vnd.ms-excel.sheet.macroenabled.12", "xlsm"),
  ("application/vnd.ms-fontobject", "eot"),
  ("application/vnd.ms-powerpoint", "ppt"),
  ("application/vnd.nokia.n-gage.symbian.install", "n-gage"),
  ("application/vnd.oasis.opendocument.presentation", "odp"),
  ("application/vnd.oasis.opendocument.spreadsheet", "ods"),
  ("application/vnd.oasis.opendocument.text", "odt"),
  ("application/vnd.openxmlformats-officedocument.presentationml.presentation", "pptx"),
  ("application/vnd.openxmlformats-officedocument.spreadsheetml.sheet", "xlsx"),
  ("application/vnd.openxmlformats-officedocument.wordprocessingml.document", "docx"),
  ("application/wasm", "wasm"),
  ("application/x-7z-compressed", "7z"),
  ("application/x-bittorrent", "torrent"),
  ("application/x-bzip2", "bz2"),
  ("application/x-compress", "z"),
  ("application/x-compressed", "tgz"),
  ("application/x-httpd-php", "php"),
  ("application/x-msdownload", "bat dll"),
  ("application/x-perl", "pl"),
  ("application/x-pkcs12", "p12"),
  ("application/x-rar-compressed", "rar"),
  ("application/x-sh", "sh"),
  ("application/x-shockwave-flash", "swf"),
  ("application/x-sql", "sql"),
  ("application/x-tar", "tar"),
  ("application/x-tex", "tex"),
  ("application/x-x509-ca-cert", "cer crt der pem"),
  ("application/x-xz", "xz"),
  ("application/xhtml+xml", "xht xhtml"),
  ("application/xml", "config"),
  ("application/zip", "zip"),
  ("audio/aac", "aac"),
  ("audio/flac", "flac"),
  ("audio/m4a", "m4a"),
  ("audio/mid", "mid midi"),
  ("audio/midi", "kar"),
  ("audio/mpeg", "mp3"),
  ("audio/ogg", "oga ogg opus"),
  ("audio/wav", "wav"),
  ("audio/webm", "weba"),
  ("audio/x-pn-realaudio-plugin", "rpm"),
  ("font/ttf", "ttf"),
  ("font/woff2", "woff2"),
  ("image/apng", "apng"),
  ("image/avif", "avif"),
  ("image/bmp", "bmp"),
  ("image/gif", "gif"),
  ("image/heic", "heic"),
  ("image/jpeg", "jfif jpe jpeg jpg"),
  ("image/png", "png"),
  ("image/svg+xml", "svg svgz"),
  ("image/tiff", "tif tiff"),
  ("image/webp", "webp"),
  ("image/x-icon", "ico"),
  ("message/rfc822", "eml mht"),
  ("text/cache-manifest", "appcache"),
  ("text/calendar", "ics"),
  ("text/coffeescript", "coffee"),
  ("text/css", "css"),
  ("text/csv", "csv"),
  ("text/html", "htm html"),
  ("text/javascript", "js jsx"),
  ("text/less", "less"),
  ("text/markdown", "markdown md"),
  ("text/plain", "c cc conf cpp h ini log map py text txt"),
  ("text/tab-separated-values", "tsv"),
  ("text/x-handlebars-template", "hbs"),
  ("text/x-lua", "lua"),
  ("text/x-rust", "rs"),
  ("text/x-sass", "sass"),
  ("text/x-scss", "scss"),
  ("text/x-toml", "toml"),
  ("text/x-vcard", "vcf"),
  ("text/x-yaml", "yaml yml"),
  ("text/xml", "xml xsl xslt"),
  ("video/3gpp", "3gp"),
  ("video/3gpp2", "3g2"),
  ("video/mp4", "mp4"),
  ("video/mpeg", "mpeg mpg"),
  ("video/ogg", "ogv"),
  ("video/quicktime", "mov"),
  ("video/vnd.dlna.mpeg-tts", "ts"),
  ("video/webm", "webm"),
  ("video/x-flv", "flv"),
  ("video/x-m4v", "m4v"),
  ("video/x-matroska", "mkv"),
  ("video/x-ms-wmv", "wmv"),
  ("video/x-msvideo", "avi")]

/-- The extensions of a row of the table. -/
def extensions (row : String × String) : List Text := splitOn ' ' row.2.toList

/-- A character as it counts when case is disregarded. Characters whose case folding is not all
ASCII occur in no extension of the table and may stand for themselves. -/
def foldChar (c : Char) : Text :=
  match c with
  | 'ſ' => ['s']
  | '\u212A' => ['k']
  | 'ß' | 'ẞ' | '𝾕' => ['s', 's']
  | 'ﬅ' | 'ﬆ' => ['s', 't']
  | 'ﬀ' => ['f', 'f']
  | 'ﬁ' => ['f', 'i']
  | 'ﬂ' => ['f', 'l']
  | 'ﬃ' => ['f', 'f', 'i']
  | 'ﬄ' => ['f', 'f', 'l']
  | _ => [c.toLower]

/-- A text as it counts when case is disregarded. -/
def foldCase (t : Text) : Text := t.flatMap foldChar

/-- The type of an extension in the table. -/
def find? (extension : Text) : Option Text :=
  (table.find? fun row => (extensions row).contains (foldCase extension)).map (·.1.toList)

theorem isOneLine_of_find? {extension type : Text} (h : find? extension = some type) :
    Text.IsOneLine type := by
  have hbytes : table.all (fun row =>
      row.1.toByteArray.data.toList.all fun b => b ≠ 0x0D && b ≠ 0x0A) = true := by
    decide +kernel
  obtain ⟨row, hrow, rfl⟩ := Option.map_eq_some_iff.1 h
  exact Text.isOneLine_toList (List.all_eq_true.1 hbytes row (List.mem_of_find?_eq_some hrow))

/-- The table as the one that a server comes with. -/
instance usual : MediaTypes := ⟨find?, isOneLine_of_find?⟩

end FileServer.MediaTypes

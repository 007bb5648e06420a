import FileServer.Proofs.Http.Rejections
import FileServer.Proofs.Http.VersionToken
import FileServer.Proofs.Reply

/-!
# Refused versions

The version on a request line is looked at before the fields and before the method. One from 2.0 on
is refused as unsupported as long as both of its numbers fit in a byte. A number that does not fit
makes the token malformed, so a version from 256.0 on is answered like a token that is no version.

* `parse_of_parse_version`: a version that is refused decides what a head is rejected for;
* `version_respond`: which versions are refused, and how a head with one of them is answered.
-/

namespace FileServer

/-- A version that is refused decides what a head is rejected for, whatever the method and the
fields. -/
theorem Request.parse_of_parse_version {method target versionToken rest : Text} {ending : LineEnd}
    (hmethod : IsToken method) (htarget : IsToken target) (htoken : IsToken versionToken)
    (hlast : ending = .missing → rest = []) {error : RequestError}
    (h : Version.parse versionToken = .error error) :
    parse (method ++ ' ' :: (target ++ ' ' :: versionToken) ++ ending.text ++ rest) =
      .error error := by
  rw [parse_of_requestLine (.intro hmethod htarget htoken hlast), h]

namespace Reply

theorem status_respond_of_parse {site : Site} {disk : Disk} {now : Nat} {text : Text}
    {error : RequestError} (h : Request.parse text = .error error) :
    (respond site disk now (Utf8.encode text)).response.status = error.status := by
  rw [status_respond, draft, parseHead_encode, h]
  exact Draft.status_error _ _

/-- A version token with two numbers, of any length and with any leading zeros, is refused as
unsupported if the first number is 2 or more and both are less than 256, and a token is malformed
if it is not one with two numbers less than 256. A head with an unsupported version is answered by
505 and one with a malformed version by 400, whatever else it consists of. -/
theorem version_respond (site : Site) (disk : Disk) (now : Nat) :
    (∀ major minor, Version.IsNumber major → Version.IsNumber minor → ∀ a b,
      Version.parse (Version.token major minor) = .error (.unsupportedVersion a b) ↔
        (a = Decimal.value major ∧ b = Decimal.value minor) ∧ 2 ≤ a ∧ a < 256 ∧ b < 256) ∧
    (∀ token, Version.parse token = .error (.version token) ↔
      ¬ ∃ major minor, Version.IsNumber major ∧ Version.IsNumber minor ∧
        token = Version.token major minor ∧
        Decimal.value major < 256 ∧ Decimal.value minor < 256) ∧
    ∀ method target token rest (ending : LineEnd),
      Request.IsToken method → Request.IsToken target → Request.IsToken token →
      (ending = .missing → rest = []) →
      let text := method ++ ' ' :: (target ++ ' ' :: token) ++ ending.text ++ rest
      let status := (respond site disk now (Utf8.encode text)).response.status
      (∀ a b, Version.parse token = .error (.unsupportedVersion a b) → status.code = 505) ∧
        (Version.parse token = .error (.version token) → status.code = 400) := by
  refine ⟨fun major minor hmajor hminor a b => ?_, fun token => Version.parse_eq_error_version_iff,
    fun method target token rest ending hmethod htarget htoken hlast =>
      ⟨fun a b h => ?_, fun h => ?_⟩⟩
  · rw [Version.parse_token hmajor hminor]
    constructor
    · intro h
      split at h
      · next hfits =>
        split at h
        · next hle =>
          obtain ⟨rfl, rfl⟩ := RequestError.unsupportedVersion.inj (Except.error.inj h)
          exact ⟨⟨rfl, rfl⟩, hle, hfits⟩
        · cases h
      · cases h
    · rintro ⟨⟨rfl, rfl⟩, hle, hfits⟩
      rw [if_pos hfits, if_pos hle]
  · rw [status_respond_of_parse
      (Request.parse_of_parse_version hmethod htarget htoken hlast h)]
    rfl
  · rw [status_respond_of_parse
      (Request.parse_of_parse_version hmethod htarget htoken hlast h)]
    rfl

/-- A version with leading zeros, on a request line that ends with the text. -/
theorem version_respond_of_zeros :
    Version.parse "HTTP/0002.10".toList = .error (.unsupportedVersion 2 10) ∧
      (respond ⟨[]⟩ ⟨[]⟩ 0
        (Utf8.encode "BREW /pot HTTP/0002.10".toList)).response.status.code = 505 := by
  obtain ⟨hparse, -, hstatus⟩ := version_respond ⟨[]⟩ ⟨[]⟩ 0
  have hunsupported : Version.parse "HTTP/0002.10".toList = .error (.unsupportedVersion 2 10) :=
    (hparse "0002".toList "10".toList (by decide) (by decide) 2 10).2 (by decide)
  refine ⟨hunsupported, ?_⟩
  exact (hstatus "BREW".toList "/pot".toList "HTTP/0002.10".toList [] .missing (by decide)
    (by decide) (by decide) (fun _ => rfl)).1 2 10 hunsupported

/-- A version that is too large is malformed. -/
theorem version_respond_of_large :
    Version.token "256".toList "0".toList = "HTTP/256.0".toList ∧
      2 ≤ Decimal.value "256".toList ∧
      Version.parse "HTTP/256.0".toList = .error (.version "HTTP/256.0".toList) ∧
      (respond ⟨[]⟩ ⟨[]⟩ 0
        (Utf8.encode "GET / HTTP/256.0\r\n\r\n".toList)).response.status.code = 400 := by
  decide +kernel

end Reply

end FileServer

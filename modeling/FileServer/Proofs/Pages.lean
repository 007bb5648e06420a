import FileServer.Proofs.Site.Links
import FileServer.Proofs.Text.Markup

/-!
# Pages

The server writes pages of two kinds, those that explain an error and listings. What a client sent
and what files are called stands on them as text or within a link, and is escaped in both places.
So the markup of a page is that of its kind: it does not depend on any of these texts, only on the
number of items.

* `fits_errorPage`, `fits_page`: the markup of a page is that of its kind, and its ampersands begin
  entities;
* `markup_respond`: every body is a file or such a page.
-/

namespace FileServer

open Html (markup HasEntities)

/-- A kind of page, with all that its markup depends on. -/
inductive PageKind where
  | error
  | listing (items : Nat)
  deriving DecidableEq, Repr

namespace PageKind

/-- The markup of the lines up to the body of a page, whose title has none. -/
def headMarkup : Text := "<><\"\"><><\"\"><><><>".toList

/-- The markup of an item: a list item and in it a link, with an attribute. -/
def itemMarkup : Text := "<><\"\"><><>".toList

/-- The markup of the pages of a kind. -/
def markup : PageKind → Text
  | error => headMarkup ++ "<><><><><><><><><><><>".toList
  | listing items =>
    headMarkup ++ "<><><><><>".toList ++ (List.replicate items itemMarkup).flatten ++
      "<><><><>".toList

/-- Whether a page is marked up like those of a kind, and what else stands on it is escaped. -/
structure Fits (kind : PageKind) (page : Text) : Prop where
  markup : Html.markup page = kind.markup
  entities : HasEntities page

end PageKind

/-! ## Pages of errors -/

/-- Nothing that a page states of a status has a meaning in it. -/
theorem Status.markup_eq_nil (status : Status) :
    markup status.text = [] ∧ markup status.explanation = [] := by
  cases status <;> decide +kernel

theorem Status.ampersand_not_mem (status : Status) :
    '&' ∉ status.text ∧ '&' ∉ status.explanation := by
  cases status <;> decide +kernel

namespace Draft

/-- The markup of the page of an error does not depend on the status or the message. -/
theorem markup_errorPage (status : Status) (message : Text) :
    markup (errorPage status message) = PageKind.error.markup := by
  unfold errorPage
  simp only [Html.markup_append, Html.markup_escape, status.markup_eq_nil]
  decide +kernel

theorem hasEntities_errorPage (status : Status) (message : Text) :
    HasEntities (errorPage status message) := by
  unfold errorPage
  -- the fixed pieces of the page have no ampersand
  repeat' with_reducible apply HasEntities.append
  any_goals (refine Html.hasEntities_of_not_mem ?_; decide +kernel)
  · exact Html.hasEntities_of_not_mem status.ampersand_not_mem.1
  · exact Html.hasEntities_escape message
  · exact Html.hasEntities_of_not_mem status.ampersand_not_mem.1
  · exact Html.hasEntities_of_not_mem status.ampersand_not_mem.2

theorem fits_errorPage (status : Status) (message : Text) :
    PageKind.error.Fits (errorPage status message) :=
  ⟨markup_errorPage status message, hasEntities_errorPage status message⟩

end Draft

/-! ## Listings -/

namespace Row

theorem markup_item (row : Row) : markup row.item = PageKind.itemMarkup := by
  have hlink : markup row.link = [] := by
    refine Html.markup_eq_nil fun c hc => ?_
    have hsign : c = '<' ∨ c = '>' ∨ c = '"' ∨ c = '\'' := by simpa using hc
    obtain rfl | rfl | rfl | rfl := hsign <;> exact row.not_mem_link (by decide)
  unfold item
  simp only [Html.markup_append, Html.markup_escape, hlink]
  decide +kernel

/-- A name that would end the link and open a tag. -/
example : markup (Row.item ⟨"\"></a><b>'&".toList, false, false⟩) = "<><\"\"><><>".toList := by
  decide +kernel

theorem hasEntities_item (row : Row) : HasEntities row.item := by
  unfold item
  repeat' with_reducible apply HasEntities.append
  any_goals (refine Html.hasEntities_of_not_mem ?_; decide +kernel)
  · exact Html.hasEntities_of_not_mem (row.not_mem_link (by decide))
  · exact Html.hasEntities_escape row.label

end Row

namespace Listing

/-- The markup of a listing depends on nothing but the number of its rows. -/
theorem markup_page (listing : Listing) :
    markup listing.page = (PageKind.listing listing.rows.length).markup := by
  have hitems : markup (listing.sorted.flatMap Row.item) =
      (List.replicate listing.rows.length PageKind.itemMarkup).flatten := by
    rw [Html.markup_flatMap Row.markup_item, listing.sorted_perm.length_eq]
  have htitle : markup listing.title = [] := by
    unfold title
    simp only [Html.markup_append, Html.markup_escape]
    decide +kernel
  unfold page PageKind.markup
  simp only [Html.markup_append, htitle, hitems]
  -- what stands before the items and what follows them are fixed
  rw [List.append_assoc, List.append_assoc, List.append_assoc]
  exact congrArg₂ (· ++ ·) (congrArg (· ++ _) (by decide +kernel)) (by decide +kernel)

theorem hasEntities_page (listing : Listing) : HasEntities listing.page := by
  have htitle : HasEntities listing.title := by
    refine HasEntities.append (Html.hasEntities_of_not_mem ?_) (Html.hasEntities_escape _)
    decide +kernel
  unfold page
  repeat' with_reducible apply HasEntities.append
  any_goals (refine Html.hasEntities_of_not_mem ?_; decide +kernel)
  · exact htitle
  · exact htitle
  · exact Html.hasEntities_flatMap Row.hasEntities_item _

theorem fits_page (listing : Listing) : (PageKind.listing listing.rows.length).Fits listing.page :=
  ⟨listing.markup_page, listing.hasEntities_page⟩

end Listing

/-! ## Replies -/

/-- What the drafts of a site have for a body: nothing, a file, or a page of one of the kinds. -/
theorem Outcome.body_draft_cases (outcome : Outcome) :
    (outcome.draft.body = none ∧ outcome.status ∈ [.movedPermanently, .notModified]) ∨
    (∃ mediaType modified contents, outcome = .file mediaType modified contents ∧
      outcome.draft.body = some contents) ∨
    (∃ listing, outcome = .listing listing ∧
      outcome.draft.body = some (Utf8.encode listing.page)) ∨
    400 ≤ outcome.status.code ∧ ∃ status message,
      outcome.draft.body = some (Utf8.encode (Draft.errorPage status message)) := by
  cases outcome with
  | redirect location =>
    exact .inl ⟨by rw [draft, Draft.movedPermanently, Draft.body_header]; rfl, by simp [status]⟩
  | notModified => exact .inl ⟨rfl, by simp [status]⟩
  | file mediaType modified contents => exact .inr (.inl ⟨_, _, _, rfl, rfl⟩)
  | listing listing => exact .inr (.inr (.inl ⟨_, rfl, rfl⟩))
  | failed fault =>
    refine .inr (.inr (.inr ?_))
    cases fault <;> exact ⟨by decide, _, _, rfl⟩
  | outside | slashAfterFile | unlistable =>
    exact .inr (.inr (.inr ⟨by simp [status, Status.code], _, _, rfl⟩))

namespace Reply

theorem le_code_refusal (error : RequestError) : 400 ≤ (refusal error).status.code := by
  rw [refusal, Draft.status_error]
  cases error <;> simp [RequestError.status, Status.code]

/-- No text of a client and no name of a file is markup. The body of a reply is a file that the
site sends, or the page of an error, or the listing of the directory that was asked for; it is left
out of a reply to `HEAD`, of a redirect and of an unchanged file. The markup of a page is that of
its kind, which for a listing depends on the number of entries, and its ampersands begin entities.
This holds for pages with any message, any title and any names on them. -/
theorem markup_respond (site : Site) (disk : Disk) (now : Nat) (head : Bytes) :
    let response := (respond site disk now head).response
    (∀ status message, PageKind.error.Fits (Draft.errorPage status message)) ∧
    (∀ listing : Listing, (PageKind.listing listing.rows.length).Fits listing.page) ∧
    ((response.body = none ∧
        (asksHeadOnly head ∨ response.status ∈ [.movedPermanently, .notModified])) ∨
      (∃ request mediaType modified contents, parseHead head = .ok request ∧
        site.answer disk request = .file mediaType modified contents ∧
        response.body = some contents) ∨
      (∃ page, response.body = some (Utf8.encode page) ∧ 400 ≤ response.status.code ∧
        PageKind.error.Fits page) ∨
      ∃ page request real access, response.body = some (Utf8.encode page) ∧
        response.status = .ok ∧ parseHead head = .ok request ∧
        disk.resolve (site.locate request.path) = .ok ⟨real, .directory access⟩ ∧
        (PageKind.listing (disk.children real).length).Fits page) := by
  intro response
  refine ⟨Draft.fits_errorPage, Listing.fits_page, ?_⟩
  cases honly : asksHeadOnly head with
  | true => exact .inl ⟨by rw [body_respond, honly, if_pos rfl], .inl rfl⟩
  | false =>
    have hbody : response.body = (draft site disk head).body := by
      rw [body_respond, honly, if_neg Bool.false_ne_true]
    have hstatus : response.status = (draft site disk head).status := status_respond
    rw [hbody, hstatus]
    obtain ⟨error, hdraft⟩ | ⟨request, hparse, -, hdraft⟩ := draft_cases site disk head <;>
      rw [hdraft]
    · exact .inr (.inr (.inl ⟨_, rfl, le_code_refusal error, Draft.fits_errorPage _ _⟩))
    · rw [Outcome.status_draft]
      obtain ⟨hnone, hother⟩ | ⟨_, _, contents, hfile, hcontents⟩ | ⟨listing, hlisting, hpage⟩ |
        ⟨hcode, status, message, hpage⟩ := (site.answer disk request).body_draft_cases
      · exact .inl ⟨hnone, .inr hother⟩
      · exact .inr (.inl ⟨request, _, _, contents, hparse, hfile, hcontents⟩)
      · obtain ⟨real, access, hplace, -, rfl⟩ : site.Warrants disk request (.listing listing) :=
          hlisting ▸ site.warrants_answer disk request
        have hok : (site.answer disk request).status = .ok := by
          rw [hlisting]
          rfl
        have hfits := Listing.fits_page
          (.ofDirectory disk real (site.locate request.path) (Site.decodePath request.path))
        rw [Listing.rows_ofDirectory, List.length_map] at hfits
        exact .inr (.inr (.inr ⟨_, request, real, access, hpage, hok, hparse, hplace, hfits⟩))
      · exact .inr (.inr (.inl ⟨_, hpage, hcode, Draft.fits_errorPage _ _⟩))

end Reply

end FileServer

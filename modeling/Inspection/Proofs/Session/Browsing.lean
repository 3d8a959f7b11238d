import Inspection.Proofs.Paging
import Inspection.Proofs.Store.Listing

/-!
# Browsing a listing while the store grows

A client asks for page after page of a listing and hands back the token of the
page before, while others go on working on the store.  What it has collected
is always the beginning of the listing, and its token tells how far it got:
both stay true when the store grows, because later listings begin with earlier
ones.
-/

namespace Inspection

namespace Store

theorem listed_eq_ok_iff {name : String} {paging : Paging}
    {listing : Except ServiceError (List String)} {document : Json} :
    listed name paging listing = .ok document ↔ ∃ results window,
      listing = .ok results ∧ paging.window = .ok window ∧
        document = (window.page results).document name := by
  simp only [listed, Outcome.bind_eq_ok_iff, pure, Except.pure, Except.ok.injEq]
  constructor
  · rintro ⟨results, hresults, window, hwindow, rfl⟩
    exact ⟨results, window, hresults, hwindow, rfl⟩
  · rintro ⟨results, window, hresults, hwindow, rfl⟩
    exact ⟨results, hresults, window, hwindow, rfl⟩

end Store

namespace Listing

/-- The answer with a page of names, and a token when there are more. -/
def answer (listing : Listing) (page : List String) (token : Option String) : Json :=
  .obj ((listing.field, .texts page) :: (token.map fun text => ("nextToken", .str text)).toList)

theorem answer_inj {listing : Listing} {page other : List String} {token next : Option String}
    (h : listing.answer page token = listing.answer other next) : page = other ∧ token = next := by
  simp only [answer, Json.obj.injEq, List.cons.injEq, Prod.mk.injEq, true_and] at h
  refine ⟨Json.texts_injective h.1, ?_⟩
  cases token <;> cases next <;> simp_all

theorem document_eq (listing : Listing) (page : Page) :
    page.document listing.field = listing.answer page.items (page.next.map Decimal.ofNat) := by
  cases hnext : page.next <;> simp [Page.document, answer, hnext]

/-- A request asks for a page of a listing from a token on: for at most some
positive number, of 64 bits, of the results that a given question is about. -/
structure AsksPage (listing : Listing) (question : Json) (size : Nat) (token : Option String)
    (parameters : Json) : Prop where
  same : ∀ key ∈ listing.asked, parameters.given? key = question.given? key
  size_eq : parameters.given? "maxResults" = some (.int size)
  size_pos : 0 < size
  size_lt : size < 2 ^ 64
  token_eq : parameters.given? "nextToken" = token.map .str

/-- A request asks for all results at once. -/
structure AsksAll (listing : Listing) (question parameters : Json) : Prop where
  same : ∀ key ∈ listing.asked, parameters.given? key = question.given? key
  no_size : parameters.given? "maxResults" = none
  no_token : parameters.given? "nextToken" = none

theorem AsksPage.window {listing : Listing} {question parameters : Json} {size : Nat}
    {token : Option String} (h : listing.AsksPage question size token parameters) :
    (Parameters.paging parameters).window =
      (Paging.offset token).map fun offset => ⟨offset, some size⟩ := by
  have htoken : Parameters.text? parameters "nextToken" = token := by
    rw [Parameters.text?, h.token_eq]
    cases token <;> rfl
  simp only [Parameters.paging, Paging.window, h.size_eq, htoken,
    Paging.size_int h.size_pos h.size_lt]
  rfl

theorem AsksAll.window {listing : Listing} {question parameters : Json}
    (h : listing.AsksAll question parameters) :
    (Parameters.paging parameters).window = .ok ⟨0, none⟩ := by
  simp only [Parameters.paging, Parameters.text?, h.no_size, h.no_token]
  rfl

end Listing

namespace Session

variable {ids : Nat → String} {listing : Listing} {question parameters : Json}
  {token next : Option String} {size : Nat} {session : Session} {on : Occasion}
  {collected page results : List String}

/-- Whatever is answered to a listing is some page, perhaps with a token. -/
theorem exists_answer_of_ok {document : Json}
    (h : (session.invoke on listing.action.name parameters).1 = .ok document) :
    ∃ page token, document = listing.answer page token := by
  rw [invoke_listing] at h
  obtain ⟨results, window, -, -, rfl⟩ := Store.listed_eq_ok_iff.mp h
  exact ⟨_, _, listing.document_eq _⟩

theorem answers_all (hresults : listing.results session.store question = .ok results)
    (hasks : listing.AsksAll question parameters) :
    (session.invoke on listing.action.name parameters).1 = .ok (listing.answer results none) := by
  rw [invoke_listing, Listing.results_congr hasks.same]
  apply Store.listed_eq_ok_iff.mpr
  refine ⟨results, _, hresults, hasks.window, ?_⟩
  rw [listing.document_eq, Window.page_rest (.inl (by decide))]
  rfl

/-- A request with a token that is read answers with the page from there on. -/
theorem answers_page (on : Occasion)
    (hresults : listing.results session.store question = .ok results)
    (hasks : listing.AsksPage question size token parameters) {offset : Nat}
    (hoffset : Paging.offset token = .ok offset) :
    let found := Window.page ⟨offset, some size⟩ results
    (session.invoke on listing.action.name parameters).1 =
      .ok (listing.answer found.items (found.next.map Decimal.ofNat)) := by
  intro found
  rw [invoke_listing, Listing.results_congr hasks.same]
  apply Store.listed_eq_ok_iff.mpr
  refine ⟨results, ⟨offset, some size⟩, hresults, ?_, (listing.document_eq found).symm⟩
  rw [hasks.window, hoffset]
  rfl

theorem exists_offset_of_answer (hasks : listing.AsksPage question size token parameters)
    {document : Json}
    (hanswer : (session.invoke on listing.action.name parameters).1 = .ok document) :
    ∃ offset, Paging.offset token = .ok offset := by
  rw [invoke_listing] at hanswer
  obtain ⟨results, window, -, hwindow, -⟩ := Store.listed_eq_ok_iff.mp hanswer
  rw [hasks.window] at hwindow
  cases hoffset : Paging.offset token with
  | error error => rw [hoffset] at hwindow; exact absurd hwindow (by simp [Except.map])
  | ok offset => exact ⟨offset, rfl⟩

/-- The page that follows the results so far, with its token. -/
theorem delivered_of_page (hresults : listing.results session.store question = .ok results)
    (hasks : listing.AsksPage question size token parameters) (hbegins : collected <+: results)
    (htoken : ∀ offset, Paging.offset token = .ok offset → offset = collected.length)
    (hanswer : (session.invoke on listing.action.name parameters).1 =
      .ok (listing.answer page next)) :
    Paging.Delivered (collected ++ page) next results := by
  obtain ⟨offset, hoffset⟩ := exists_offset_of_answer hasks hanswer
  obtain rfl := htoken offset hoffset
  have hpage := answers_page on hresults hasks hoffset
  have hsame := Except.ok.inj (hanswer.symm.trans hpage)
  obtain ⟨rfl, rfl⟩ := Listing.answer_inj hsame
  exact Paging.Delivered.append_page hbegins (Paging.offset_lt hoffset) size

/-- A client asks a question page by page from some session on.  The pages it
got so far, the token of the last one, and the session at that page: between
two pages there may be any calls. -/
inductive Browses (ids : Nat → String) (listing : Listing) (question : Json) (first : Session) :
    List (List String) → Option String → Session → Prop
  | first {now : Instant} {parameters : Json} {size : Nat} {page : List String}
      {token : Option String} (hasks : listing.AsksPage question size none parameters)
      (hanswer : (first.invoke ⟨ids, now⟩ listing.action.name parameters).1 =
        .ok (listing.answer page token)) :
      Browses ids listing question first [page] token first
  | next {pages : List (List String)} {text : String} {last : Session}
      (hbrowses : Browses ids listing question first pages (some text) last)
      (between : List Call) {now : Instant} {parameters : Json} {size : Nat} {page : List String}
      {token : Option String} (hasks : listing.AsksPage question size (some text) parameters)
      (hanswer : ((last.calls ids between).invoke ⟨ids, now⟩ listing.action.name parameters).1 =
        .ok (listing.answer page token)) :
      Browses ids listing question first (pages ++ [page]) token (last.calls ids between)

/-- What a client has that browsed.  A token counts the names that were
collected, so that it is read back as long as they are fewer than `2^64`. -/
structure Browsed (ids : Nat → String) (listing : Listing) (question : Json) (first : Session)
    (pages : List (List String)) (token : Option String) (last : Session) : Prop where
  goes_on : ∀ text, token = some text → pages.flatten.length < 2 ^ 64 →
    ∀ between now parameters size, listing.AsksPage question size (some text) parameters →
      ∃ page next, ((last.calls ids between).invoke ⟨ids, now⟩ listing.action.name parameters).1 =
        .ok (listing.answer page next)
  complete : token = none → ∀ now parameters, listing.AsksAll question parameters →
    (last.invoke ⟨ids, now⟩ listing.action.name parameters).1 =
      .ok (listing.answer pages.flatten none)
  covers : ∃ earliest,
    (∀ now parameters, listing.AsksAll question parameters →
      (first.invoke ⟨ids, now⟩ listing.action.name parameters).1 =
        .ok (listing.answer earliest none)) ∧
      (token = none → earliest <+: pages.flatten)
  nodup : pages.flatten.Nodup

variable {region : String} {first last : Session} {pages : List (List String)}

theorem delivered_of_browses (hcoherent : Coherent ids region first) (supply : IdSupply ids)
    (h : Browses ids listing question first pages token last) :
    Coherent ids region last ∧ ∃ earliest results,
      listing.results first.store question = .ok earliest ∧
        listing.results last.store question = .ok results ∧ earliest <+: results ∧
          Paging.Delivered pages.flatten token results := by
  induction h with
  | @first now parameters size page token hasks hanswer =>
      have hlisted := hanswer
      rw [invoke_listing, Listing.results_congr hasks.same] at hlisted
      obtain ⟨results, -, hresults, -, -⟩ := Store.listed_eq_ok_iff.mp hlisted
      refine ⟨hcoherent, results, results, hresults, hresults, List.prefix_refl _, ?_⟩
      have hstart : ∀ offset, Paging.offset none = .ok offset →
          offset = ([] : List String).length := by
        intro offset hoffset
        exact (Except.ok.inj hoffset).symm
      simpa using delivered_of_page hresults hasks List.nil_prefix hstart hanswer
  | @next pages text last _ between now parameters size page token hasks hanswer ih =>
      obtain ⟨hlast, earliest, results, hearliest, hresults, hbegins, hdelivered⟩ := ih
      obtain ⟨hcalls, hextends⟩ := kept_by_calls hlast supply between
      obtain ⟨later, hlater, hgrown⟩ :=
        Listing.results_extends hextends hresults hdelivered.results_ne_nil
      refine ⟨hcalls, earliest, later, hearliest, hlater, hbegins.trans hgrown, ?_⟩
      have hcount : ∀ offset, Paging.offset (some text) = .ok offset →
          offset = pages.flatten.length := by
        intro offset hoffset
        rw [hdelivered.token_spec.1] at hoffset
        exact Paging.eq_of_offset_ofNat hoffset
      have hpage := delivered_of_page hlater hasks (hdelivered.isPrefix.trans hgrown) hcount hanswer
      simpa using hpage

theorem browsed_of_browses (hcoherent : Coherent ids region first) (supply : IdSupply ids)
    (h : Browses ids listing question first pages token last) :
    Browsed ids listing question first pages token last := by
  obtain ⟨hlast, earliest, results, hearliest, hresults, hbegins, hdelivered⟩ :=
    delivered_of_browses hcoherent supply h
  refine ⟨?_, ?_, ?_, ?_⟩
  · rintro text rfl hlt between now parameters size hasks
    have hextends := (kept_by_calls hlast supply between).2
    obtain ⟨later, hlater, -⟩ :=
      Listing.results_extends hextends hresults hdelivered.results_ne_nil
    have hoffset : Paging.offset (some text) = .ok pages.flatten.length := by
      rw [hdelivered.token_spec.1]
      exact Paging.offset_ofNat hlt
    exact ⟨_, _, answers_page _ hlater hasks hoffset⟩
  · rintro rfl now parameters hasks
    rw [hdelivered.eq_of_no_token]
    exact answers_all hresults hasks
  · refine ⟨earliest, fun now parameters hasks => answers_all hearliest hasks, ?_⟩
    rintro rfl
    rw [hdelivered.eq_of_no_token]
    exact hbegins
  · exact (Listing.results_nodup hlast hresults).sublist hdelivered.isPrefix.sublist

/-- Whatever was done to a new store and is done to it between the pages, who
goes on from page to page gets the listing as it is at the last of them. -/
theorem browsing_delivers {ids : Nat → String} (supply : IdSupply ids) (region account : String)
    (steps : List Step) (listing : Listing) (question : Json) :
    let first := (start region account).run ids steps
    (∀ now parameters document,
      (first.invoke ⟨ids, now⟩ listing.action.name parameters).1 = .ok document →
        ∃ page token, document = listing.answer page token) ∧
      ∀ pages token last, Browses ids listing question first pages token last →
        Browsed ids listing question first pages token last := by
  intro first
  refine ⟨fun _ _ _ hanswer => exists_answer_of_ok hanswer, fun pages token last h => ?_⟩
  exact browsed_of_browses (coherent_run supply region account steps) supply h

/-- Two targets are listed, one a page, and a third one is created before the
second page is asked for. -/
theorem browsing_delivers_of_three_targets :
    let now := Instant.ofSeconds 1700000000
    let arn := fun n => Arn.target "eu-west-1" "123456789012" (IdSupply.counted n)
    let steps := [.command now (.createAssessmentTarget "one" none),
      .command now (.createAssessmentTarget "two" none)]
    let first := (start "eu-west-1" "123456789012").run IdSupply.counted steps
    let created : Call :=
      ⟨now, "CreateAssessmentTarget", .obj [("assessmentTargetName", .str "three")]⟩
    let last := first.calls IdSupply.counted [created]
    let pages := [[arn 0], [arn 1, arn 2]]
    IdSupply IdSupply.counted ∧
      Browses IdSupply.counted .targets (.obj []) first pages none last ∧
        Browsed IdSupply.counted .targets (.obj []) first pages none last := by
  intro now arn steps first created last pages
  have hfresh : ∀ m n, m ≠ n → arn m ≠ arn n := by
    intro m n hne heq
    have hends : Arn.EndsIn (IdSupply.counted n) (arn m) := heq ▸ Arn.endsIn_target _ _ _
    exact hne (IdSupply.counted_isSupply.eq_of_endsIn (Arn.endsIn_target _ _ _) hends)
  have hfirst : first.store.targets.keys = [arn 0, arn 1] := by
    have hnew : arn 1 ∉ [arn 0] := by simpa using hfresh 1 0 (by decide)
    exact Table.keys_insert_of_notMem _ hnew
  have hlast : last.store.targets.keys = [arn 0, arn 1, arn 2] := by
    have hnew : arn 2 ∉ first.store.targets.keys := by
      simpa [hfirst] using ⟨hfresh 2 0 (by decide), hfresh 2 1 (by decide)⟩
    have hread : Request.read .createAssessmentTarget created.parameters =
        .ok (.command (.createAssessmentTarget "three" none)) := rfl
    have hcreated : last = (first.createTarget ⟨IdSupply.counted, now⟩ "three" none).2 :=
      congrArg Prod.snd (invoke_of_read hread)
    have htargets : last.store.targets = first.store.targets.insert (arn 2)
        (.create "eu-west-1" "123456789012" (IdSupply.counted 2) now "three" none) := by
      have hregion : first.store.region = "eu-west-1" := rfl
      have haccount : first.store.account = "123456789012" := rfl
      have hdrawn : first.drawn = 2 := rfl
      simp only [hcreated, createTarget, Store.addTarget, hregion, haccount, hdrawn]
      rfl
    rw [htargets, Table.keys_insert_of_notMem _ hnew, hfirst]
    rfl
  have hcoherent : Coherent IdSupply.counted "eu-west-1" first :=
    coherent_run IdSupply.counted_isSupply "eu-west-1" "123456789012" steps
  have hgrows := (kept_by_calls hcoherent IdSupply.counted_isSupply [created]).1
  have hasksFirst : Listing.targets.AsksPage (.obj []) 1 none (.obj [("maxResults", .int 1)]) :=
    ⟨by decide, rfl, by decide, by decide, rfl⟩
  have hasksNext : Listing.targets.AsksPage (.obj []) 5 (some (Decimal.ofNat 1))
      (.obj [("maxResults", .int 5), ("nextToken", .str (Decimal.ofNat 1))]) :=
    ⟨by decide, rfl, by decide, by decide, rfl⟩
  have hbrowses : Browses IdSupply.counted .targets (.obj []) first pages none last := by
    have hlisted : Listing.targets.results first.store (.obj []) = .ok [arn 0, arn 1] :=
      (Store.listTargets_none hcoherent.targets).trans (congrArg Except.ok hfirst)
    have hgrown : Listing.targets.results last.store (.obj []) = .ok [arn 0, arn 1, arn 2] :=
      (Store.listTargets_none hgrows.targets).trans (congrArg Except.ok hlast)
    have hpage := answers_page ⟨IdSupply.counted, now⟩ hlisted hasksFirst rfl
    have hnext := answers_page ⟨IdSupply.counted, now⟩ hgrown hasksNext
      (Paging.offset_ofNat (by decide))
    exact .next (.first hasksFirst hpage) [created] hasksNext hnext
  refine ⟨IdSupply.counted_isSupply, hbrowses, ?_⟩
  have hdelivers := browsing_delivers IdSupply.counted_isSupply "eu-west-1" "123456789012" steps
    .targets (.obj [])
  exact hdelivers.2 _ _ _ hbrowses

end Session

end Inspection

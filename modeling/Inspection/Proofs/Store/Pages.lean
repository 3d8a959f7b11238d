import Inspection.Proofs.Request
import Inspection.Proofs.Session.Browsing
import Inspection.Proofs.Session.Codes

/-!
# Pages of a fixed list

What a client gets that asks for a page of a list: which parameters are
refused, and for all others the stretch of the list that is answered, with the
token of the next page when there is one.  Whoever goes from token to token
gets the whole list, in as many pages as the sizes that are asked for make.
-/

namespace Inspection

namespace Parameters

variable {parameters : Json}

/-- The parameters ask for some number of results, or for all. -/
def AsksFor (parameters : Json) : Option Nat → Prop
  | none => parameters.given? "maxResults" = none
  | some size => parameters.given? "maxResults" = some (.int size) ∧ 0 < size ∧ size < 2 ^ 64

/-- The parameters pass over the number of results that their token is, and
over none without a token; one that is no text does not count. -/
def PassesOver (parameters : Json) (offset : Nat) : Prop :=
  (∃ token, parameters.given? "nextToken" = some (.str token) ∧ Decimal.Writes token offset ∧
    offset < 2 ^ 64) ∨
  (∀ token, parameters.given? "nextToken" ≠ some (.str token)) ∧ offset = 0

def MalformedSize (parameters : Json) : Prop :=
  ∃ value, parameters.given? "maxResults" = some value ∧
    ∀ size : Nat, 0 < size → size < 2 ^ 64 → value ≠ .int size

def MalformedToken (parameters : Json) : Prop :=
  ∃ token, parameters.given? "nextToken" = some (.str token) ∧
    ∀ offset < 2 ^ 64, ¬ Decimal.Writes token offset

theorem size_eq_ok_iff {size : Option Nat} :
    Paging.size (parameters.given? "maxResults") = .ok size ↔ AsksFor parameters size := by
  cases hgiven : parameters.given? "maxResults" with
  | none => cases size <;> simp [Paging.size, AsksFor, hgiven]
  | some value =>
      rw [Paging.size_eq_ok_iff]
      cases size <;> simp [AsksFor, hgiven]

theorem offset_eq_ok_iff {offset : Nat} :
    Paging.offset (text? parameters "nextToken") = .ok offset ↔ PassesOver parameters offset := by
  cases htext : text? parameters "nextToken" with
  | none =>
      have hnone : ∀ token, parameters.given? "nextToken" ≠ some (.str token) := by
        intro token hgiven
        exact absurd (htext.symm.trans (text?_eq_some_iff.mpr hgiven)) (by simp)
      simp [Paging.offset, PassesOver, hnone, eq_comm]
  | some token =>
      have hgiven := text?_eq_some_iff.mp htext
      simp [Paging.offset_eq_ok_iff, PassesOver, hgiven]

theorem exists_asksFor_iff : (∃ size, AsksFor parameters size) ↔ ¬ MalformedSize parameters := by
  constructor
  · rintro ⟨_ | size, hasks⟩ ⟨value, hgiven, hother⟩
    · exact absurd (hasks.symm.trans hgiven) (by simp)
    · obtain rfl : .int size = value := Option.some.inj (hasks.1.symm.trans hgiven)
      exact hother size hasks.2.1 hasks.2.2 rfl
  · intro hwell
    cases hgiven : parameters.given? "maxResults" with
    | none => exact ⟨none, hgiven⟩
    | some value =>
        by_contra hnone
        refine hwell ⟨value, hgiven, ?_⟩
        rintro size hpos hlt rfl
        exact hnone ⟨some size, hgiven, hpos, hlt⟩

theorem exists_passesOver_iff :
    (∃ offset, PassesOver parameters offset) ↔ ¬ MalformedToken parameters := by
  constructor
  · rintro ⟨offset, ⟨token, hgiven, hwrites, hlt⟩ | ⟨hnone, -⟩⟩ ⟨other, hother, hmalformed⟩
    · obtain rfl : token = other := by simpa using hgiven.symm.trans hother
      exact hmalformed offset hlt hwrites
    · exact hnone other hother
  · intro hwell
    by_contra hnone
    have htext : ∀ token, parameters.given? "nextToken" ≠ some (.str token) := by
      intro token hgiven
      refine hwell ⟨token, hgiven, fun offset hlt hwrites => ?_⟩
      exact hnone ⟨offset, .inl ⟨token, hgiven, hwrites, hlt⟩⟩
    exact hnone ⟨0, .inr ⟨htext, rfl⟩⟩

theorem window_eq_ok_iff {window : Window} :
    (paging parameters).window = .ok window ↔
      AsksFor parameters window.size ∧ PassesOver parameters window.offset := by
  simp only [Paging.window, Outcome.bind_eq_ok_iff, pure, Except.pure, Except.ok.injEq, paging,
    size_eq_ok_iff, offset_eq_ok_iff]
  constructor
  · rintro ⟨size, hsize, offset, hoffset, rfl⟩
    exact ⟨hsize, hoffset⟩
  · rintro ⟨hsize, hoffset⟩
    exact ⟨_, hsize, _, hoffset, rfl⟩

end Parameters

namespace Listing

open Parameters

variable {listing : Listing} {results : List String} {parameters : Json}

/-- The answer with the page of a list that parameters ask for. -/
inductive Pages (listing : Listing) (results : List String) (parameters : Json) : Json → Prop
  | rest {offset : Nat} (hsize : AsksFor parameters none) (hoffset : PassesOver parameters offset) :
      Pages listing results parameters (listing.answer (results.drop offset) none)
  | part {offset size : Nat} (hsize : AsksFor parameters (some size))
      (hoffset : PassesOver parameters offset) :
      Pages listing results parameters (listing.answer ((results.drop offset).take size)
        (if offset + size < results.length then some (Decimal.ofNat (offset + size)) else none))

theorem document_rest (hlength : results.length < 2 ^ 64) (offset : Nat) :
    ((Window.mk offset none).page results).document listing.field =
      listing.answer (results.drop offset) none := by
  rw [Window.page_rest (.inr hlength), document_eq, Option.map_none]

theorem document_part (hlength : results.length < 2 ^ 64) (offset size : Nat) :
    ((Window.mk offset (some size)).page results).document listing.field =
      listing.answer ((results.drop offset).take size)
        (if offset + size < results.length then some (Decimal.ofNat (offset + size))
          else none) := by
  rw [Window.page_part hlength, document_eq]
  split <;> rfl

theorem listed_eq_ok_iff_pages (hlength : results.length < 2 ^ 64) {document : Json} :
    Store.listed listing.field (paging parameters) (.ok results) = .ok document ↔
      Pages listing results parameters document := by
  rw [Store.listed_eq_ok_iff]
  constructor
  · rintro ⟨_, ⟨offset, size⟩, hresults, hwindow, rfl⟩
    obtain rfl := Except.ok.inj hresults
    obtain ⟨hsize, hoffset⟩ := window_eq_ok_iff.mp hwindow
    cases size with
    | none =>
        rw [document_rest hlength]
        exact .rest hsize hoffset
    | some size =>
        rw [document_part hlength]
        exact .part hsize hoffset
  · intro hpages
    cases hpages with
    | @rest offset hsize hoffset =>
        exact ⟨results, ⟨offset, none⟩, rfl, window_eq_ok_iff.mpr ⟨hsize, hoffset⟩,
          (document_rest hlength offset).symm⟩
    | @part offset size hsize hoffset =>
        exact ⟨results, ⟨offset, some size⟩, rfl, window_eq_ok_iff.mpr ⟨hsize, hoffset⟩,
          (document_part hlength offset size).symm⟩

theorem exists_pages_iff (listing : Listing) (results : List String) :
    (∃ document, Pages listing results parameters document) ↔
      ¬ (MalformedSize parameters ∨ MalformedToken parameters) := by
  rw [not_or, ← exists_asksFor_iff, ← exists_passesOver_iff]
  constructor
  · rintro ⟨_, hpages⟩
    cases hpages with
    | rest hsize hoffset | part hsize hoffset => exact ⟨⟨_, hsize⟩, _, hoffset⟩
  · rintro ⟨⟨_ | size, hsize⟩, offset, hoffset⟩
    · exact ⟨_, .rest hsize hoffset⟩
    · exact ⟨_, .part hsize hoffset⟩

theorem listed_refused_iff (hlength : results.length < 2 ^ 64) :
    (∃ error, Store.listed listing.field (paging parameters) (.ok results) = .error error ∧
      error.code = .invalidInput) ↔ MalformedSize parameters ∨ MalformedToken parameters := by
  rw [← not_iff_not, ← exists_pages_iff listing results]
  simp only [← listed_eq_ok_iff_pages hlength]
  have hcode : RefusedWith [.invalidInput]
      (Store.listed listing.field (paging parameters) (.ok results)) :=
    RefusedWith.bind (.ok results) fun _ =>
      (Store.window_refusedWith _).bind fun _ => .ok _
  cases hanswer : Store.listed listing.field (paging parameters) (.ok results) with
  | ok document => simp
  | error error => simpa using List.mem_singleton.mp (hcode error hanswer)

/-! ## Going from token to token -/

/-- The token in an answer, if it has one. -/
def nextToken? : Except ServiceError Json → Option String
  | .ok document => (document.field? "nextToken").bind Json.text?
  | .error _ => none

@[simp]
theorem nextToken?_answer (listing : Listing) (items : List String) (token : Option String) :
    nextToken? (.ok (listing.answer items token)) = token := by
  cases listing <;> cases token <;> rfl

/-- The answers to a client that asks for pages of some sizes in turn and hands
back each token, until there is none. -/
def browse (listing : Listing) (results : List String) (request : Nat → Option String → Json) :
    Option String → List Nat → List (Except ServiceError Json)
  | _, [] => []
  | token, size :: sizes =>
    let answer := Store.listed listing.field (paging (request size token)) (.ok results)
    answer :: match nextToken? answer with
      | some next => browse listing results request (some next) sizes
      | none => []

/-- Requests that say of the page no more than its size and its token. -/
def Requests (request : Nat → Option String → Json) : Prop :=
  ∀ size token, (request size token).given? "maxResults" = some (.int size) ∧
    (request size token).given? "nextToken" = token.map .str

/-- Answers deliver a list page by page: every page but the last has its size,
and the last one has no token. -/
inductive Delivers (listing : Listing) :
    List Nat → List String → List (Except ServiceError Json) → Prop
  | last {size : Nat} {sizes : List Nat} {items : List String} (hsize : items.length ≤ size) :
      Delivers listing (size :: sizes) items [.ok (listing.answer items none)]
  | next {size : Nat} {sizes : List Nat} {items rest : List String}
      {answers : List (Except ServiceError Json)} (token : String) (hsize : items.length = size)
      (hrest : Delivers listing sizes rest answers) :
      Delivers listing (size :: sizes) (items ++ rest)
        (.ok (listing.answer items (some token)) :: answers)

variable {request : Nat → Option String → Json} {size offset : Nat} {token : Option String}

theorem listed_request (listing : Listing) (hlength : results.length < 2 ^ 64)
    (hrequest : Requests request) (hsize : 0 < size ∧ size < 2 ^ 64)
    (hoffset : Paging.offset token = .ok offset) :
    Store.listed listing.field (paging (request size token)) (.ok results) =
      .ok (listing.answer ((results.drop offset).take size)
        (if offset + size < results.length then some (Decimal.ofNat (offset + size))
          else none)) := by
  obtain ⟨hgiven, htoken⟩ := hrequest size token
  have htext : text? (request size token) "nextToken" = token := by
    rw [text?, htoken]
    cases token <;> rfl
  apply (listed_eq_ok_iff_pages hlength).mpr
  apply Pages.part ⟨hgiven, hsize⟩
  rw [← offset_eq_ok_iff, htext, hoffset]

/-- When there is more, the browsing goes on behind the page. -/
theorem browse_of_lt (hlength : results.length < 2 ^ 64) (hrequest : Requests request)
    (hsize : 0 < size ∧ size < 2 ^ 64) (hoffset : Paging.offset token = .ok offset)
    (hmore : offset + size < results.length) (sizes : List Nat) :
    browse listing results request token (size :: sizes) =
      .ok (listing.answer ((results.drop offset).take size)
          (some (Decimal.ofNat (offset + size)))) ::
        browse listing results request (some (Decimal.ofNat (offset + size))) sizes := by
  have hanswer := listed_request listing hlength hrequest hsize hoffset
  rw [if_pos hmore] at hanswer
  simp only [browse, hanswer, nextToken?_answer]

theorem browse_of_le (hlength : results.length < 2 ^ 64) (hrequest : Requests request)
    (hsize : 0 < size ∧ size < 2 ^ 64) (hoffset : Paging.offset token = .ok offset)
    (hlast : results.length ≤ offset + size) (sizes : List Nat) :
    browse listing results request token (size :: sizes) =
      [.ok (listing.answer (results.drop offset) none)] := by
  have hanswer := listed_request listing hlength hrequest hsize hoffset
  have hall : (results.drop offset).length ≤ size := by
    rw [List.length_drop]
    omega
  rw [if_neg (Nat.not_lt.mpr hlast), List.take_of_length_le hall] at hanswer
  simp only [browse, hanswer, nextToken?_answer]

/-- From a token on, what follows it is delivered, in no more pages than there
are results left, and at least one. -/
theorem delivers_browse (hlength : results.length < 2 ^ 64) (hrequest : Requests request)
    {sizes : List Nat} (hsizes : ∀ size ∈ sizes, 0 < size ∧ size < 2 ^ 64)
    (hoffset : Paging.offset token = .ok offset)
    (henough : max (results.length - offset) 1 ≤ sizes.length) :
    Delivers listing sizes (results.drop offset) (browse listing results request token sizes) ∧
      (browse listing results request token sizes).length ≤ max (results.length - offset) 1 := by
  induction sizes generalizing token offset with
  | nil => exact absurd henough (by simp)
  | cons size sizes ih =>
      obtain ⟨hsize, hsizes⟩ := List.forall_mem_cons.mp hsizes
      rw [List.length_cons] at henough
      by_cases hmore : offset + size < results.length
      · rw [browse_of_lt hlength hrequest hsize hoffset hmore]
        -- a positive size leaves fewer results than there were
        have hnext : Paging.offset (some (Decimal.ofNat (offset + size))) = .ok (offset + size) :=
          Paging.offset_ofNat (by omega)
        obtain ⟨hrest, hcount⟩ := ih hsizes hnext (by omega)
        have hitems : ((results.drop offset).take size).length = size := by
          rw [List.length_take, List.length_drop]
          omega
        constructor
        · have hpage := Delivers.next (Decimal.ofNat (offset + size)) hitems hrest
          rwa [← List.drop_drop, List.take_append_drop] at hpage
        · rw [List.length_cons]
          omega
      · rw [browse_of_le hlength hrequest hsize hoffset (Nat.le_of_not_lt hmore)]
        constructor
        · apply Delivers.last
          rw [List.length_drop]
          omega
        · exact Nat.le_max_right _ _

/-- Of a list of less than `2^64` items, paging is refused as faulty input
exactly when the size or the token is malformed, and answers otherwise the page
that is asked for, with no stretch out of range.  Whoever asks for positive
sizes and goes from token to token gets the whole list, in at most as many pages
as it has items, or in one. -/
theorem pages_of_list (listing : Listing) (results : List String)
    (hlength : results.length < 2 ^ 64) :
    (∀ parameters,
      let answer := Store.listed listing.field (paging parameters) (.ok results)
      ((∃ error, answer = .error error ∧ error.code = .invalidInput) ↔
        MalformedSize parameters ∨ MalformedToken parameters) ∧
      ((∃ document, answer = .ok document) ↔
        ¬ (MalformedSize parameters ∨ MalformedToken parameters)) ∧
      (∀ document, answer = .ok document ↔ Pages listing results parameters document) ∧
      ∀ window, (paging parameters).window = .ok window →
        (Window.slice? results (min window.offset results.length)
          (window.limit results.length)).isSome) ∧
    ∀ request sizes, Requests request → (∀ size ∈ sizes, 0 < size ∧ size < 2 ^ 64) →
      max results.length 1 ≤ sizes.length →
        Delivers listing sizes results (browse listing results request none sizes) ∧
          (browse listing results request none sizes).length ≤ max results.length 1 := by
  refine ⟨fun parameters => ⟨listed_refused_iff hlength, ?_, ?_, ?_⟩, ?_⟩
  · simp only [listed_eq_ok_iff_pages hlength]
    exact exists_pages_iff listing results
  · intro document
    exact listed_eq_ok_iff_pages hlength
  · intro window _
    rw [Window.slice?_page (.inr hlength)]
    rfl
  · intro request sizes hrequest hsizes henough
    have hstart : Paging.offset none = .ok 0 := rfl
    exact delivers_browse hlength hrequest hsizes hstart henough

/-- Three items in pages of two and of five, and a page as large and as far off
as can be asked for. -/
theorem pages_of_list_of_three_items :
    let results := ["a", "b", "c"]
    let request := fun (size : Nat) (token : Option String) => Json.obj
      [("maxResults", .int size), ("nextToken", .optionalText token)]
    let sizes := [2, 5, 1]
    let beyond := request 18446744073709551615 (some "+018446744073709551615")
    (results.length < 2 ^ 64 ∧ Requests request ∧ (∀ size ∈ sizes, 0 < size ∧ size < 2 ^ 64) ∧
      max results.length 1 ≤ sizes.length) ∧
      Delivers .targets sizes results (browse .targets results request none sizes) ∧
        Store.listed Listing.targets.field (paging beyond) (.ok results) =
          .ok (Listing.targets.answer [] none) := by
  intro results request sizes beyond
  have hlength : results.length < 2 ^ 64 := by decide
  have hrequest : Requests request := by
    intro size token
    cases token <;> exact ⟨rfl, rfl⟩
  have hsizes : ∀ size ∈ sizes, 0 < size ∧ size < 2 ^ 64 := by decide
  have henough : max results.length 1 ≤ sizes.length := by decide
  obtain ⟨hpage, hchain⟩ := pages_of_list .targets results hlength
  have htoken : Decimal.Writes "+018446744073709551615" 18446744073709551615 :=
    Decimal.unsigned?_eq_some_iff.mp (by decide)
  have hsize : AsksFor beyond (some 18446744073709551615) := ⟨rfl, by decide, by decide⟩
  have hoffset : PassesOver beyond 18446744073709551615 := .inl ⟨_, rfl, htoken, by decide⟩
  have hbeyond : Pages .targets results beyond (Listing.targets.answer [] none) :=
    .part hsize hoffset
  exact ⟨⟨hlength, hrequest, hsizes, henough⟩,
    (hchain request sizes hrequest hsizes henough).1, ((hpage beyond).2.2.1 _).mpr hbeyond⟩

end Listing

end Inspection

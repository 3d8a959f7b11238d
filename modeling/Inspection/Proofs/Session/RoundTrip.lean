import Inspection.Proofs.Session.Browsing
import Inspection.Proofs.Session.Description
import Mathlib.Data.List.Perm.Subperm

/-!
# From listing to describing

The names that a listing answers are described by one document each, in the
same order, at once and ever after.  Stored entities are looked up by name, one
name after the other.  Rules packages are not: they come in the order of the
catalog, which is that of the names because a page is a stretch of it.
-/

namespace Inspection

namespace Outcome

theorem exists_forall₂ {α β : Type} {R : α → β → Prop} {xs : List α}
    (h : ∀ x ∈ xs, ∃ y, R x y) : ∃ ys, List.Forall₂ R xs ys := by
  induction xs with
  | nil => exact ⟨[], .nil⟩
  | cons x xs ih =>
      obtain ⟨⟨y, hy⟩, hxs⟩ := List.forall_mem_cons.mp h
      obtain ⟨ys, hys⟩ := ih hxs
      exact ⟨y :: ys, .cons hy hys⟩

end Outcome

theorem Table.Filed.exists_of_mem_keys {E : Type} {ids : Nat → String} {region : String}
    {arn home : E → String} {drawn : Nat} {table : Table E}
    (h : Filed ids region arn home drawn table) {key : String} (hkey : key ∈ table.keys) :
    ∃ entity, table.get? key = some entity ∧ arn entity = key := by
  obtain ⟨entity, hentry⟩ := mem_keys_iff.mp hkey
  exact ⟨entity, get?_eq_some_iff.mpr hentry, (h _ hentry).own_arn⟩

/-- A document tells the name of what it describes. -/
def Json.Describes (document : Json) (arn : String) : Prop :=
  document.field? "arn" = some (.str arn)

namespace Kind

def names (kind : Kind) (store : Store) : List String :=
  match kind with
  | group => store.groups.keys
  | target => store.targets.keys
  | template => store.templates.keys
  | run => store.runs.keys
  | finding => store.findings.keys

theorem exists_document {ids : Nat → String} {region : String} {session : Session}
    (h : Session.Coherent ids region session) {kind : Kind} {arn : String}
    (harn : arn ∈ kind.names session.store) :
    ∃ document, kind.document? session.store arn = some document ∧ document.Describes arn := by
  have documented : ∀ {E : Type} {found : Option E} {name : E → String} (toDocument : E → Json),
      (∀ entity, (toDocument entity).Describes (name entity)) →
        (∃ entity, found = some entity ∧ name entity = arn) →
          ∃ document, found.map toDocument = some document ∧ document.Describes arn := by
    rintro E found name toDocument hdescribes ⟨entity, rfl, rfl⟩
    exact ⟨toDocument entity, rfl, hdescribes entity⟩
  cases kind with
  | group => exact documented _ (fun _ => rfl) (h.groups.exists_of_mem_keys harn)
  | target => exact documented _ (fun _ => rfl) (h.targets.exists_of_mem_keys harn)
  | template => exact documented _ (fun _ => rfl) (h.templates.exists_of_mem_keys harn)
  | run => exact documented _ (fun _ => rfl) (h.runs.exists_of_mem_keys harn)
  | finding => exact documented _ (fun _ => rfl) (h.findings.exists_of_mem_keys harn)

end Kind

/-- Of distinct names, those of a stretch of them are the stretch. -/
theorem filter_contains_of_sublist {part whole : List String} (h : part.Sublist whole)
    (hwhole : whole.Nodup) : whole.filter part.contains = part := by
  have hkept : part.filter part.contains = part := by simp
  have hsublist : part.Sublist (whole.filter part.contains) := by
    have hfilter := h.filter part.contains
    rwa [hkept] at hfilter
  have hsubset : whole.filter part.contains ⊆ part := by
    intro name hname
    exact List.contains_iff_mem.mp (List.mem_filter.mp hname).2
  have hlength := (List.subperm_of_subset (hwhole.filter _) hsubset).length_le
  exact (hsublist.eq_of_length_le hlength).symm

namespace Store

theorem map_describeRulesPackages {store : Store} {arns : List String}
    (h : arns.Sublist (Catalog.rulesPackageArns store.region)) :
    (store.describeRulesPackages arns).map (·.arn) = arns :=
  calc
    (store.describeRulesPackages arns).map (·.arn)
        = (Catalog.rulesPackageArns store.region).filter arns.contains := by
          rw [Catalog.rulesPackageArns, List.filter_map]
          rfl
    _ = arns := filter_contains_of_sublist h (Catalog.rulesPackageArns_nodup _)

end Store

namespace Listing

/-- The action that describes what a listing names. -/
def describing : Listing → Action
  | targets => .describeAssessmentTargets
  | templates => .describeAssessmentTemplates
  | runs => .describeAssessmentRuns
  | findings => .describeFindings
  | rulesPackages => .describeRulesPackages

/-- The field of the description that has the documents. -/
def subject : Listing → String
  | targets => "assessmentTargets"
  | templates => "assessmentTemplates"
  | runs => "assessmentRuns"
  | findings => "findings"
  | rulesPackages => "rulesPackages"

end Listing

namespace Session

variable {ids : Nat → String} {region : String} {session : Session} {arns : List String}

/-- In a store and all that extend it, some names are described by the
documents, in the same order. -/
def DescribesAs (session : Session) (listing : Listing) (arns : List String)
    (documents : List Json) : Prop :=
  List.Forall₂ (fun arn document => document.Describes arn) arns documents ∧
    ∀ later : Session, session.store.Extends later.store → ∀ on parameters,
      -- a description asks for its names in the field in which the listing answers them
      parameters.given? listing.field = some (.texts arns) →
        (later.invoke on listing.describing.name parameters).1 =
          .ok (.obj [(listing.subject, .arr documents), ("failedItems", .obj [])])

theorem exists_describesAs_of_kind (h : Coherent ids region session) (kind : Kind)
    {listing : Listing} (haction : kind.describing = listing.describing)
    (hasked : kind.asked = listing.field) (hfield : kind.field = listing.subject)
    (harns : ∀ arn ∈ arns, arn ∈ kind.names session.store) :
    ∃ documents, session.DescribesAs listing arns documents := by
  obtain ⟨documents, hdocuments⟩ :=
    Outcome.exists_forall₂ fun arn harn => Kind.exists_document h (harns arn harn)
  refine ⟨documents, hdocuments.imp fun _ _ hboth => hboth.2, ?_⟩
  intro later hextends on parameters hgiven
  rw [← hasked] at hgiven
  rw [← haction, ← hfield]
  exact invoke_describing on hgiven
    (hdocuments.imp fun _ _ hboth => Kind.document?_extends hextends hboth.1)

theorem exists_describesAs_rulesPackages
    (harns : arns.Sublist (Catalog.rulesPackageArns session.store.region)) :
    ∃ documents, session.DescribesAs .rulesPackages arns documents := by
  refine ⟨(session.store.describeRulesPackages arns).map RulesPackage.toJson, ?_, ?_⟩
  · rw [List.forall₂_map_right_iff]
    nth_rewrite 1 [← Store.map_describeRulesPackages harns]
    rw [List.forall₂_map_left_iff, List.forall₂_same]
    exact fun _ _ => rfl
  · intro later hextends on parameters hgiven
    have hread : Parameters.texts parameters "rulesPackageArns" = .ok arns :=
      Parameters.texts_eq_ok_iff.mpr hgiven
    rw [Listing.describing, invoke_fst]
    simp only [Request.read, hread, bind, Except.bind, pure, Except.pure, perform, Store.answer,
      Store.described, Store.describeRulesPackages, hextends.region_eq]
    rfl

theorem exists_describesAs (h : Coherent ids region session) {listing : Listing}
    (harns : arns.Sublist (listing.names session.store)) :
    ∃ documents, session.DescribesAs listing arns documents := by
  cases listing with
  | targets => exact exists_describesAs_of_kind h .target rfl rfl rfl harns.subset
  | templates => exact exists_describesAs_of_kind h .template rfl rfl rfl harns.subset
  | runs => exact exists_describesAs_of_kind h .run rfl rfl rfl harns.subset
  | findings => exact exists_describesAs_of_kind h .finding rfl rfl rfl harns.subset
  | rulesPackages => exact exists_describesAs_rulesPackages harns

/-- Whatever was done to a new store, the names that a listing answers are
distinct, and they are described one by one whatever is called later on. -/
theorem listed_names_are_described {ids : Nat → String} (supply : IdSupply ids)
    (region account : String) (steps : List Step) (listing : Listing) (now : Instant)
    (parameters answer : Json) :
    let session := (start region account).run ids steps
    (session.invoke ⟨ids, now⟩ listing.action.name parameters).1 = .ok answer →
      ∃ arns token documents, answer = listing.answer arns token ∧ arns.Nodup ∧
        List.Forall₂ (fun arn document => document.Describes arn) arns documents ∧
        ∀ later moment asking, asking.given? listing.field = some (.texts arns) →
          ((session.calls ids later).invoke ⟨ids, moment⟩ listing.describing.name asking).1 =
            .ok (.obj [(listing.subject, .arr documents), ("failedItems", .obj [])]) := by
  intro session hanswer
  have hcoherent : Coherent ids region session := coherent_run supply region account steps
  rw [invoke_listing] at hanswer
  obtain ⟨results, window, hresults, -, rfl⟩ := Store.listed_eq_ok_iff.mp hanswer
  have hpage : (window.page results).items.Sublist (listing.names session.store) :=
    (window.items_sublist results).trans (Listing.results_sublist hcoherent hresults)
  obtain ⟨documents, hdocuments, hdescribed⟩ := exists_describesAs hcoherent hpage
  refine ⟨_, _, documents, listing.document_eq _, ?_, hdocuments, ?_⟩
  · exact hpage.nodup (listing.names_nodup session.store)
  · intro later moment asking hasking
    have hextends := (kept_by_calls hcoherent supply later).2
    exact hdescribed _ hextends ⟨ids, moment⟩ asking hasking

/-- The finding of the second of two runs is listed on a page of its own, and
described after the template was subscribed to. -/
theorem listed_names_are_described_of_second_finding :
    let now := Instant.ofSeconds 1700000000
    let template := Arn.template "target" (IdSupply.counted 0)
    let steps := [.command now (.createAssessmentTemplate "target" "web" 900 [] []),
      .command now (.startAssessmentRun template none),
      .command now (.startAssessmentRun template none)]
    let finding := Arn.finding (Arn.run template (IdSupply.counted 4)) (IdSupply.counted 5)
    let session := (start "eu-west-1" "123456789012").run IdSupply.counted steps
    let subscribed : Call := ⟨now, "SubscribeToEvent", .obj [("resourceArn", .str template),
      ("event", .str "FINDING_REPORTED"), ("topicArn", .str "topic")]⟩
    IdSupply IdSupply.counted ∧
      (session.invoke ⟨IdSupply.counted, now⟩ "ListFindings"
        (.obj [("maxResults", .int 1), ("nextToken", .str "1")])).1 =
          .ok (.obj [("findingArns", .texts [finding])]) ∧
      ∃ document : Json, document.Describes finding ∧
        ((session.calls IdSupply.counted [subscribed]).invoke ⟨IdSupply.counted, now⟩
          "DescribeFindings" (.obj [("findingArns", .texts [finding])])).1 =
            .ok (.obj [("findings", .arr [document]), ("failedItems", .obj [])]) := by
  intro now template steps finding session subscribed
  have hanswer : (session.invoke ⟨IdSupply.counted, now⟩ "ListFindings"
      (.obj [("maxResults", .int 1), ("nextToken", .str "1")])).1 =
        .ok (Listing.findings.answer [finding] none) := by
    decide +kernel
  obtain ⟨arns, token, documents, hsame, -, hdocuments, hdescribed⟩ :=
    listed_names_are_described IdSupply.counted_isSupply "eu-west-1" "123456789012" steps .findings
      now _ _ hanswer
  obtain ⟨rfl, -⟩ := Listing.answer_inj hsame
  obtain ⟨document, hdocument, rfl⟩ : ∃ document : Json,
      document.Describes finding ∧ documents = [document] := by
    obtain ⟨document, rest, hdocument, hrest, rfl⟩ := List.forall₂_cons_left_iff.mp hdocuments
    obtain rfl := List.forall₂_nil_left_iff.mp hrest
    exact ⟨document, hdocument, rfl⟩
  refine ⟨IdSupply.counted_isSupply, hanswer, document, hdocument, ?_⟩
  exact hdescribed [subscribed] now _ rfl

end Session

end Inspection

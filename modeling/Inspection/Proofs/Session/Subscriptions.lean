import Inspection.Proofs.Request
import Inspection.Proofs.Session.Journal
import Inspection.Proofs.Topics

/-!
# Subscriptions of a session

A client can tell from its calls and their answers which templates there are
and who was subscribed to them.  The listing of subscriptions agrees with this:
it has every template and topic to which a subscription was made, once, with
all that were made.
-/

namespace Inspection

namespace Session

/-- A subscription, as the one who made it knows it. -/
structure Subscribed where
  templateArn : String
  event : String
  topicArn : String
  now : Instant
deriving DecidableEq

namespace Subscribed

def kept (made : Subscribed) : EventSubscription :=
  ⟨made.event, made.topicArn, made.now⟩

end Subscribed

namespace Exchange

variable {exchange : Exchange}

/-- The name of the template that a call created. -/
def created? (exchange : Exchange) : Option String :=
  match exchange.answer with
  | .error _ => none
  | .ok document =>
    if exchange.call.name = "CreateAssessmentTemplate" then
      Parameters.text? document "assessmentTemplateArn"
    else none

/-- The subscription that a call made. -/
def subscribed? (exchange : Exchange) : Option Subscribed :=
  match exchange.answer with
  | .error _ => none
  | .ok _ =>
    if exchange.call.name = "SubscribeToEvent" then do
      let templateArn ← Parameters.text? exchange.call.parameters "resourceArn"
      let event ← Parameters.text? exchange.call.parameters "event"
      let topicArn ← Parameters.text? exchange.call.parameters "topicArn"
      return ⟨templateArn, event, topicArn, exchange.call.now⟩
    else none

theorem created?_eq_none (h : exchange.call.name ≠ "CreateAssessmentTemplate") :
    exchange.created? = none := by
  unfold created?
  split
  · rfl
  · exact if_neg h

theorem subscribed?_eq_none (h : exchange.call.name ≠ "SubscribeToEvent") :
    exchange.subscribed? = none := by
  unfold subscribed?
  split
  · rfl
  · exact if_neg h

theorem Idle.nothing_done (h : exchange.Idle) :
    exchange.created? = none ∧ exchange.subscribed? = none := by
  rcases h with ⟨error, herror⟩ | hquestion
  · simp only [created?, subscribed?, herror, and_self]
  · have hcreate : exchange.call.name ≠ "CreateAssessmentTemplate" := by
      intro heq
      rw [heq] at hquestion
      exact absurd hquestion (by decide)
    have hsubscribe : exchange.call.name ≠ "SubscribeToEvent" := by
      intro heq
      rw [heq] at hquestion
      exact absurd hquestion (by decide)
    exact ⟨created?_eq_none hcreate, subscribed?_eq_none hsubscribe⟩

theorem subscribed?_of_read {call : Call} {templateArn event topicArn : String} (document : Json)
    (hname : call.name = "SubscribeToEvent")
    (hread : Request.read .subscribeToEvent call.parameters =
      .ok (.command (.subscribeToEvent templateArn event topicArn))) :
    subscribed? ⟨call, .ok document⟩ = some ⟨templateArn, event, topicArn, call.now⟩ := by
  have htext : ∀ {name read : String}, Parameters.text call.parameters name = .ok read →
      Parameters.text? call.parameters name = some read := fun h =>
    Parameters.text?_eq_some_iff.mpr (Parameters.text_eq_ok_iff.mp h)
  simp only [Request.read, Outcome.bind_eq_ok_iff, pure, Except.pure, Except.ok.injEq,
    Request.command.injEq, Command.subscribeToEvent.injEq] at hread
  obtain ⟨_, htemplate, _, hevent, _, htopic, rfl, rfl, rfl⟩ := hread
  simp [subscribed?, hname, htext htemplate, htext hevent, htext htopic]

end Exchange

namespace History

def created (history : List Exchange) : List String :=
  history.filterMap Exchange.created?

def subscribed (history : List Exchange) : List Subscribed :=
  history.filterMap Exchange.subscribed?

def subscribedTo (history : List Exchange) (templateArn : String) : List Subscribed :=
  (subscribed history).filter (·.templateArn = templateArn)

/-- The topics of a template, in the order in which they first came. -/
def topics (history : List Exchange) (templateArn : String) : List String :=
  ((subscribedTo history templateArn).map (·.topicArn)).eraseDups

/-- The templates and topics with a subscription: template by template, and
the topics of each in order. -/
def pairs (history : List Exchange) : List (String × String) :=
  (created history).flatMap fun templateArn => (topics history templateArn).map (templateArn, ·)

/-- The document for a template and a topic. -/
def entry (history : List Exchange) : String × String → Json
  | (templateArn, topicArn) =>
    let made := (subscribedTo history templateArn).filter (·.topicArn = topicArn)
    .obj [("resourceArn", .str templateArn), ("topicArn", .str topicArn),
      ("eventSubscriptions", .arr (made.map fun made =>
        .obj [("event", .str made.event), ("subscribedAt", .int made.now.seconds)]))]

variable {history : List Exchange} {exchange : Exchange} {templateArn topicArn : String}

theorem created_concat_of_none (history : List Exchange)
    (h : exchange.created? = none) :
    created (history ++ [exchange]) = created history := by
  simp [created, h]

theorem created_concat_of_some (history : List Exchange)
    (h : exchange.created? = some templateArn) :
    created (history ++ [exchange]) = created history ++ [templateArn] := by
  simp [created, h]

theorem subscribed_concat_of_none (history : List Exchange)
    (h : exchange.subscribed? = none) :
    subscribed (history ++ [exchange]) = subscribed history := by
  simp [subscribed, h]

theorem subscribed_concat_of_some (history : List Exchange) {made : Subscribed}
    (h : exchange.subscribed? = some made) :
    subscribed (history ++ [exchange]) = subscribed history ++ [made] := by
  simp [subscribed, h]

theorem mem_topics_iff : topicArn ∈ topics history templateArn ↔
    ∃ made ∈ subscribed history, made.templateArn = templateArn ∧ made.topicArn = topicArn := by
  simp [topics, subscribedTo, List.mem_eraseDups, and_assoc]

theorem pairs_nodup (h : (created history).Nodup) : (pairs history).Nodup := by
  refine List.nodup_flatMap.mpr ⟨fun templateArn _ => ?_, ?_⟩
  · have htopics := FirstPlaces.nodup_eraseDups
      ((subscribedTo history templateArn).map (·.topicArn))
    exact htopics.map (Prod.mk_right_injective templateArn)
  · refine h.imp fun hne => ?_
    intro pair hpair hother
    obtain ⟨_, -, rfl⟩ := List.mem_map.mp hpair
    obtain ⟨_, -, heq⟩ := List.mem_map.mp hother
    exact hne (congrArg Prod.fst heq).symm

/-- Every template has its own part of the pairs. -/
theorem filter_pairs (hnodup : (created history).Nodup) (h : templateArn ∈ created history) :
    (pairs history).filter (·.1 = templateArn) =
      (topics history templateArn).map (templateArn, ·) := by
  have hpart : ∀ arn, ((topics history arn).map (arn, ·)).filter (·.1 = templateArn) =
      if arn = templateArn then (topics history arn).map (arn, ·) else [] := by
    intro arn
    by_cases heq : arn = templateArn <;> simp [List.filter_map, Function.comp_def, heq]
  unfold pairs
  generalize created history = arns at hnodup h
  induction arns with
  | nil => exact absurd h List.not_mem_nil
  | cons first rest ih =>
      obtain ⟨hnew, hrest⟩ := List.nodup_cons.mp hnodup
      rw [List.flatMap_cons, List.filter_append, hpart]
      by_cases hfirst : first = templateArn
      · have hothers : ∀ arn ∈ rest,
            ((topics history arn).map (arn, ·)).filter (·.1 = templateArn) = [] := by
          rintro arn harn
          rw [hpart, if_neg]
          rintro rfl
          exact hnew (hfirst ▸ harn)
        rw [if_pos hfirst, List.filter_flatMap, List.flatMap_eq_nil_iff.mpr hothers, hfirst,
          List.append_nil]
      · have hlater := (List.mem_cons.mp h).resolve_left (Ne.symm hfirst)
        rw [if_neg hfirst, ih hrest hlater, List.nil_append]

end History

/-- A table has the templates of a history, each with its subscriptions. -/
structure Reflects (templates : Table AssessmentTemplate) (history : List Exchange) : Prop where
  created_eq : History.created history = templates.keys
  known : ∀ made ∈ History.subscribed history, made.templateArn ∈ templates.keys
  held : ∀ templateArn template, templates.get? templateArn = some template →
    template.subscriptions = (History.subscribedTo history templateArn).map Subscribed.kept

namespace Reflects

variable {templates : Table AssessmentTemplate} {history : List Exchange} {exchange : Exchange}

theorem empty : Reflects .empty [] where
  created_eq := rfl
  known := fun _ hmade => absurd hmade List.not_mem_nil
  held := fun _ _ hstored => by simp [Table.empty, Table.get?, Keyed.get?] at hstored

/-- An exchange that neither creates a template nor subscribes to one. -/
theorem noted (h : Reflects templates history) (hcreated : exchange.created? = none)
    (hsubscribed : exchange.subscribed? = none) : Reflects templates (history ++ [exchange]) where
  created_eq := (History.created_concat_of_none _ hcreated).trans h.created_eq
  known := by
    rw [History.subscribed_concat_of_none _ hsubscribed]
    exact h.known
  held := by
    simp only [History.subscribedTo, History.subscribed_concat_of_none _ hsubscribed]
    exact h.held

theorem insert (h : Reflects templates history) {template : AssessmentTemplate}
    (hnew : template.arn ∉ templates.keys) (hempty : template.subscriptions = [])
    (hcreated : exchange.created? = some template.arn) (hsubscribed : exchange.subscribed? = none) :
    Reflects (templates.insert template.arn template) (history ++ [exchange]) := by
  have hkeys := Table.keys_insert_of_notMem template hnew
  have hsame := History.subscribed_concat_of_none history hsubscribed
  refine ⟨?_, ?_, ?_⟩
  · rw [History.created_concat_of_some _ hcreated, h.created_eq, hkeys]
  · rw [hsame, hkeys]
    exact fun made hmade => List.mem_append_left _ (h.known made hmade)
  · intro templateArn found hfound
    simp only [History.subscribedTo, hsame]
    rw [Table.get?_eq_some_iff, Table.entries_insert_of_notMem template hnew, List.mem_append,
      List.mem_singleton] at hfound
    rcases hfound with hformer | heq
    · exact h.held templateArn found (Table.get?_eq_some_iff.mpr hformer)
    · -- nobody could subscribe to a template before it was there
      obtain ⟨rfl, rfl⟩ := Prod.mk.inj heq
      have hnone : (History.subscribed history).filter (·.templateArn = found.arn) = [] := by
        rw [List.filter_eq_nil_iff]
        intro made hmade harn
        exact hnew (of_decide_eq_true harn ▸ h.known made hmade)
      rw [hnone, hempty, List.map_nil]

theorem update (h : Reflects templates history) {made : Subscribed}
    (hstored : made.templateArn ∈ templates.keys) (hcreated : exchange.created? = none)
    (hsubscribed : exchange.subscribed? = some made) :
    Reflects
      (templates.update made.templateArn fun template =>
        template.subscribe made.now made.event made.topicArn)
      (history ++ [exchange]) := by
  have hmore := History.subscribed_concat_of_some history hsubscribed
  refine ⟨?_, ?_, ?_⟩
  · rw [History.created_concat_of_none _ hcreated, h.created_eq, Table.keys_update]
  · rw [hmore, Table.keys_update, List.forall_mem_append, List.forall_mem_singleton]
    exact ⟨h.known, hstored⟩
  · intro templateArn found hfound
    by_cases harn : templateArn = made.templateArn
    · subst harn
      rw [Table.get?_update_self, Option.map_eq_some_iff] at hfound
      obtain ⟨template, htemplate, rfl⟩ := hfound
      have hformer := h.held made.templateArn template htemplate
      simp [AssessmentTemplate.subscribe, hformer, History.subscribedTo, hmore, Subscribed.kept]
    · rw [Table.get?_update_ne harn] at hfound
      have hformer := h.held templateArn found hfound
      simp [hformer, History.subscribedTo, hmore, Ne.symm harn]

theorem of_effect {ids : Nat → String} {region : String} {session next : Session} {call : Call}
    {action : Action} {command : Command} {answer : Except ServiceError Json}
    (h : Reflects session.store.templates history) (hcoherent : Coherent ids region session)
    (supply : IdSupply ids) (hname : action.name = call.name)
    (hread : Request.read action call.parameters = .ok (.command command))
    (heffect : Effect ⟨ids, call.now⟩ session command answer next) :
    Reflects next.store.templates (history ++ [⟨call, answer⟩]) := by
  have hmade := Request.action_of_read_command hread
  have hcall : command.action.name = call.name := by rw [hmade, hname]
  cases heffect with
  | groupRefused | subscriptionRefused | runRefused => exact h.noted rfl rfl
  | groupAdded | targetAdded | runAdded =>
      refine h.noted (Exchange.created?_eq_none ?_) (Exchange.subscribed?_eq_none ?_)
      · rw [← hcall, Command.action]
        decide
      · rw [← hcall, Command.action]
        decide
  | templateAdded htemplate =>
      subst htemplate
      refine h.insert ?_ rfl ?_ (Exchange.subscribed?_eq_none ?_)
      · exact hcoherent.templates.notMem_keys supply (Nat.le_refl _) (Arn.endsIn_template _ _)
      · exact if_pos hcall.symm
      · rw [← hcall, Command.action]
        decide
  | subscribed hstored =>
      subst hmade
      have hsubscribed := Exchange.subscribed?_of_read (.obj []) hcall.symm hread
      refine h.update ?_ (Exchange.created?_eq_none ?_) hsubscribed
      · exact Table.mem_keys_iff.mpr ⟨_, Table.get?_eq_some_iff.mp hstored⟩
      · rw [← hcall, Command.action]
        decide

/-- What a template answers about its topics is what the history has of them. -/
theorem entries_topics (h : Reflects templates history) {template : AssessmentTemplate}
    (hstored : templates.get? template.arn = some template) :
    template.topics.map TopicSubscriptions.toJson =
      ((History.topics history template.arn).map (template.arn, ·)).map
        (History.entry history) := by
  have hheld := h.held template.arn template hstored
  have htopics : template.subscriptions.map (·.topicArn) =
      (History.subscribedTo history template.arn).map (·.topicArn) := by
    rw [hheld, List.map_map]
    rfl
  rw [AssessmentTemplate.topics_eq, htopics, List.map_map, List.map_map]
  refine List.map_congr_left fun topicArn _ => ?_
  simp only [Function.comp_apply, TopicSubscriptions.collect, TopicSubscriptions.toJson, hheld,
    History.entry, List.filter_map, List.map_map]
  rfl

end Reflects

namespace Journal

variable {ids : Nat → String} {region : String} {journal : Journal}

/-- How subscriptions are listed: by templates and topics as the history has
them. -/
structure ListsSubscriptions (ids : Nat → String) (journal : Journal) : Prop where
  created_eq : History.created journal.history = journal.session.store.templates.keys
  pairs_nodup : (History.pairs journal.history).Nodup
  mem_pairs_iff : ∀ templateArn topicArn,
    (templateArn, topicArn) ∈ History.pairs journal.history ↔
      ∃ made ∈ History.subscribed journal.history,
        made.templateArn = templateArn ∧ made.topicArn = topicArn
  topics_in_order : ∀ templateArn,
    let all := (History.subscribedTo journal.history templateArn).map (·.topicArn)
    (History.topics journal.history templateArn).Pairwise fun topic other =>
      all.idxOf topic < all.idxOf other
  answers_all : ∀ now parameters, Parameters.text? parameters "resourceArn" = none →
    (journal.session.invoke ⟨ids, now⟩ "ListEventSubscriptions" parameters).1 =
      .ok (.obj [("subscriptions", .arr ((History.pairs journal.history).map
        (History.entry journal.history)))])
  answers_template : ∀ now parameters templateArn,
    templateArn ∈ journal.session.store.templates.keys →
      Parameters.text? parameters "resourceArn" = some templateArn →
        (journal.session.invoke ⟨ids, now⟩ "ListEventSubscriptions" parameters).1 =
          .ok (.obj [("subscriptions", .arr
            (((History.pairs journal.history).filter (·.1 = templateArn)).map
              (History.entry journal.history)))])

theorem listsSubscriptions (hcoherent : Coherent ids region journal.session)
    (h : Reflects journal.session.store.templates journal.history) :
    ListsSubscriptions ids journal := by
  have hcreated : (History.created journal.history).Nodup := by
    rw [h.created_eq]
    exact journal.session.store.templates.keys_nodup
  have hinvoke : ∀ now parameters,
      (journal.session.invoke ⟨ids, now⟩ "ListEventSubscriptions" parameters).1 =
        (journal.session.store.listSubscriptions
          (Parameters.text? parameters "resourceArn")).map fun topics =>
            .obj [("subscriptions", .arr (topics.map TopicSubscriptions.toJson))] :=
    fun _ parameters => invoke_fst _ .listEventSubscriptions parameters _
  have htopics : ∀ entry ∈ journal.session.store.templates.entries,
      entry.2.topics.map TopicSubscriptions.toJson =
        ((History.topics journal.history entry.1).map (entry.1, ·)).map
          (History.entry journal.history) := by
    rintro ⟨arn, template⟩ hentry
    have hown : template.arn = arn := (hcoherent.templates _ hentry).own_arn
    subst hown
    exact h.entries_topics (Table.get?_eq_some_iff.mpr hentry)
  refine ⟨h.created_eq, History.pairs_nodup hcreated, ?_, ?_, ?_, ?_⟩
  · intro templateArn topicArn
    rw [← History.mem_topics_iff]
    constructor
    · intro hpair
      obtain ⟨arn, -, hmem⟩ := List.mem_flatMap.mp hpair
      obtain ⟨topic, htopic, heq⟩ := List.mem_map.mp hmem
      obtain ⟨rfl, rfl⟩ := Prod.mk.inj heq
      exact htopic
    · intro htopic
      obtain ⟨made, hmade, rfl, -⟩ := History.mem_topics_iff.mp htopic
      have hknown := h.known made hmade
      rw [← h.created_eq] at hknown
      exact List.mem_flatMap.mpr ⟨_, hknown, List.mem_map_of_mem htopic⟩
  · exact fun _ => FirstPlaces.pairwise_eraseDups _
  · intro now parameters hnone
    have hlisted : (journal.session.store.templates.values.flatMap (·.topics)).map
        TopicSubscriptions.toJson =
          (History.pairs journal.history).map (History.entry journal.history) := by
      rw [History.pairs, h.created_eq, Table.keys, Table.values, List.map_flatMap,
        List.map_flatMap, List.flatMap_map, List.flatMap_map]
      exact List.flatMap_congr htopics
    rw [hinvoke, hnone, ← hlisted]
    rfl
  · intro now parameters templateArn hstored hgiven
    obtain ⟨template, hentry⟩ := Table.mem_keys_iff.mp hstored
    have hfound := Table.get?_eq_some_iff.mpr hentry
    rw [← h.created_eq] at hstored
    rw [hinvoke, hgiven, Store.listSubscriptions, Store.template, hfound,
      History.filter_pairs hcreated hstored, ← htopics _ hentry]
    rfl

/-- Whatever was called on a new session, its subscriptions are listed as the
calls since the last reset and their answers have them. -/
theorem subscriptions_are_listed {ids : Nat → String} (supply : IdSupply ids)
    (region account : String) (moves : List Move) :
    ListsSubscriptions ids ((start region account).play ids moves) := by
  have hkept : Coherent ids region ((start region account).play ids moves).session ∧
      Reflects ((start region account).play ids moves).session.store.templates
        ((start region account).play ids moves).history := by
    -- only in a coherent session is a new template one that nobody subscribed to
    apply play_preserves (P := fun journal => Coherent ids region journal.session ∧
      Reflects journal.session.store.templates journal.history)
    · rintro journal call answer ⟨hcoherent, h⟩ hidle
      obtain ⟨hcreated, hsubscribed⟩ := hidle.nothing_done
      exact ⟨hcoherent, h.noted hcreated hsubscribed⟩
    · rintro journal call action command answer next ⟨hcoherent, h⟩ hname hread heffect
      exact ⟨hcoherent.of_effect supply heffect,
        h.of_effect hcoherent supply hname hread heffect⟩
    · rintro journal ⟨hcoherent, -⟩
      exact ⟨hcoherent.reset, .empty⟩
    · exact ⟨.empty ids region account 0, .empty⟩
  exact listsSubscriptions hkept.1 hkept.2

/-- Subscriptions to two topics, one of them subscribed to twice and one call
refused, are listed under their topics. -/
theorem subscriptions_are_listed_of_two_topics :
    let arn := Arn.template "target" (IdSupply.counted 0)
    let create : Call := ⟨.ofSeconds 1700000000, "CreateAssessmentTemplate",
      .obj [("assessmentTargetArn", .str "target"), ("assessmentTemplateName", .str "web"),
        ("durationInSeconds", .int 900)]⟩
    let subscribe := fun now templateArn event topicArn =>
      Move.call ⟨.ofSeconds now, "SubscribeToEvent", .obj [("event", .str event),
        ("resourceArn", .str templateArn), ("topicArn", .str topicArn)]⟩
    let journal := (start "eu-west-1" "123456789012").play IdSupply.counted
      [.call create, subscribe 1 arn "started" "one", subscribe 2 "other" "started" "two",
        subscribe 3 arn "started" "two", subscribe 4 arn "started" "one"]
    let document := fun topicArn seconds => Json.obj [("resourceArn", .str arn),
      ("topicArn", .str topicArn), ("eventSubscriptions", .arr (seconds.map fun second =>
        .obj [("event", .str "started"), ("subscribedAt", .int second)]))]
    IdSupply IdSupply.counted ∧
      (journal.session.invoke ⟨IdSupply.counted, .ofSeconds 5⟩ "ListEventSubscriptions" .null).1 =
        .ok (.obj [("subscriptions", .arr [document "one" [1, 4], document "two" [3]])]) := by
  intro arn create subscribe journal document
  have hlists : ListsSubscriptions IdSupply.counted journal :=
    subscriptions_are_listed IdSupply.counted_isSupply "eu-west-1" "123456789012" _
  have hpairs : History.pairs journal.history = [(arn, "one"), (arn, "two")] := by
    decide +kernel
  have hone : (History.subscribedTo journal.history arn).filter (·.topicArn = "one") =
      [⟨arn, "started", "one", .ofSeconds 1⟩, ⟨arn, "started", "one", .ofSeconds 4⟩] := by
    decide +kernel
  have htwo : (History.subscribedTo journal.history arn).filter (·.topicArn = "two") =
      [⟨arn, "started", "two", .ofSeconds 3⟩] := by
    decide +kernel
  refine ⟨IdSupply.counted_isSupply, (hlists.answers_all _ _ rfl).trans ?_⟩
  simp only [hpairs, History.entry, hone, htwo, List.map_cons, List.map_nil]
  rfl

end Journal

end Session

end Inspection

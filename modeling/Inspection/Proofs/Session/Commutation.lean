import Inspection.Proofs.Session.Subscriptions
import Inspection.Proofs.Store.Listing

/-!
# Subscribing and everything else

Two clients of a region do not know which of them comes first.  It makes no
difference to a subscription: what another call answers and leaves behind is the
same before it and after it, unless the call asks for subscriptions or makes one
for the same template.
-/

namespace Inspection

namespace Keyed

variable {α : Type} {key other : String} {change next : α → α}

theorem update_cons (key k : String) (value : α) (rest : List (String × α)) :
    update key change ((k, value) :: rest) =
      (k, if k = key then change value else value) :: update key change rest :=
  rfl

theorem filter_update {test : String × α → Bool}
    (htest : ∀ k value, test (k, change value) = test (k, value)) (key : String)
    (entries : List (String × α)) :
    (update key change entries).filter test = update key change (entries.filter test) := by
  rw [update, update, List.filter_map]
  congr 1
  refine List.filter_congr fun entry _ => ?_
  obtain ⟨k, value⟩ := entry
  by_cases hkey : k = key <;> simp [hkey, htest]

theorem update_comm (hne : other ≠ key) (entries : List (String × α)) :
    update other next (update key change entries) =
      update key change (update other next entries) := by
  simp only [update, List.map_map]
  refine List.map_congr_left fun entry _ => ?_
  by_cases hkey : entry.1 = key
  · simp [hkey, hne.symm]
  · simp [hkey]

end Keyed

namespace Table

variable {α β : Type} {key other : String} {change next : α → α} {table : Table α}

theorem eq_of_entries_eq {before after : Table α} (h : before.entries = after.entries) :
    before = after := by
  cases before
  cases after
  simpa using h

theorem entries_update (table : Table α) (key : String) (change : α → α) :
    (table.update key change).entries = Keyed.update key change table.entries :=
  rfl

theorem update_comm (hne : other ≠ key) (table : Table α) :
    (table.update key change).update other next = (table.update other next).update key change :=
  eq_of_entries_eq (Keyed.update_comm hne table.entries)

theorem insert_update (hnew : other ∉ table.keys) (hkey : key ∈ table.keys) (value : α) :
    (table.update key change).insert other value =
      (table.insert other value).update key change := by
  have hne : other ≠ key := by
    rintro rfl
    exact hnew hkey
  have hlater : other ∉ (table.update key change).keys := by rwa [keys_update]
  apply eq_of_entries_eq
  rw [entries_insert_of_notMem value hlater, entries_update, entries_update,
    entries_insert_of_notMem value hnew]
  simp only [Keyed.update, List.map_append, List.map_cons, List.map_nil, if_neg hne]

theorem get?_update (table : Table α) (key other : String) (change : α → α) :
    (table.update key change).get? other =
      (table.get? other).map fun value => if other = key then change value else value := by
  by_cases hother : other = key
  · simp only [hother, get?_update_self, if_true]
  · simp only [get?_update_ne hother, if_neg hother, Option.map_id']

theorem map_pick_update {see : α → β} (hsee : ∀ value, see (change value) = see value)
    (table : Table α) (key : String) (names : List String) :
    ((table.update key change).pick names).map see = (table.pick names).map see := by
  rw [pick, pick, List.map_filterMap, List.map_filterMap]
  refine List.filterMap_congr fun other _ => ?_
  rw [← get?_viewed, ← get?_viewed, viewed_update hsee]

end Table

namespace AssessmentTemplate

/-- No filter asks about subscriptions, and so none about one more. -/
theorem accepts_subscribe (now : Instant) (event topicArn : String) :
    ∀ rule ∈ Filter.templateRules, ∀ template value,
      rule.accepts (subscribe template now event topicArn) value = rule.accepts template value := by
  intro rule hrule template value
  calc
    rule.accepts (template.subscribe now event topicArn) value =
        rule.accepts (template.subscribe now event topicArn).unsubscribed value :=
      (accepts_unsubscribed rule hrule _ value).symm
    _ = rule.accepts template value := accepts_unsubscribed rule hrule template value

end AssessmentTemplate

namespace Store

variable {E : Type} {change : E → E}

theorem chosen_update {condition : E → Except ServiceError Bool}
    (hcondition : ∀ entity, condition (change entity) = condition entity) (key : String)
    (entries : List (String × E)) :
    chosen condition (Keyed.update key change entries) = chosen condition entries := by
  induction entries with
  | nil => rfl
  | cons entry rest ih =>
      obtain ⟨arn, entity⟩ := entry
      have hfirst : condition (if arn = key then change entity else entity) = condition entity := by
        split
        · exact hcondition entity
        · rfl
      rw [Keyed.update_cons, chosen, chosen, hfirst, ih]

theorem select_update {rules : List (Rule E)} {parent : E → String}
    (hparent : ∀ entity, parent (change entity) = parent entity)
    (hrules : ∀ rule ∈ rules, ∀ entity value,
      rule.accepts (change entity) value = rule.accepts entity value)
    (table : Table E) (key : String) (parents : Option (List String)) (filter : Option Filter) :
    select rules parent (table.update key change) parents filter =
      select rules parent table parents filter := by
  unfold select
  rw [Table.entries_update, Keyed.filter_update]
  · cases filter with
    | none => exact congrArg Except.ok (Keyed.keys_update key change _)
    | some given =>
        refine chosen_update (fun entity => ?_) key _
        exact Filter.accepts_congr (fun rule hrule => hrules rule hrule entity) given
  · intro _ entity
    simp only [hparent]

/-- Nothing but the listing of subscriptions shows them. -/
theorem answer_subscribe {query : Query} (hquery : ∀ arn, query ≠ .listEventSubscriptions arn)
    (store : Store) (now : Instant) (templateArn event topicArn : String) :
    (store.subscribe now templateArn event topicArn).answer query = store.answer query := by
  cases query with
  | listEventSubscriptions arn => exact absurd rfl (hquery arn)
  | listAssessmentTemplates targets filter paging =>
      have hlisted : (store.subscribe now templateArn event topicArn).listTemplates targets filter =
          store.listTemplates targets filter := by
        apply select_update
        · exact fun _ => rfl
        · exact AssessmentTemplate.accepts_subscribe now event topicArn
      rw [answer, answer, hlisted]
  | describeAssessmentTemplates arns =>
      have hpicked : ((store.subscribe now templateArn event topicArn).templates.pick arns).map
          AssessmentTemplate.toJson =
            (store.templates.pick arns).map AssessmentTemplate.toJson := by
        apply Table.map_pick_update
        exact fun _ => rfl
      rw [answer, answer, hpicked]
  | describeResourceGroups | listAssessmentTargets | describeAssessmentTargets
  | listAssessmentRuns | describeAssessmentRuns | listFindings | describeFindings
  | listRulesPackages | describeRulesPackages => rfl

end Store

namespace Request

variable {parameters : Json} {templateArn event topicArn : String}

theorem read_subscribeToEvent
    (htemplate : parameters.given? "resourceArn" = some (.str templateArn))
    (hevent : parameters.given? "event" = some (.str event))
    (htopic : parameters.given? "topicArn" = some (.str topicArn)) :
    read .subscribeToEvent parameters =
      .ok (.command (.subscribeToEvent templateArn event topicArn)) := by
  simp only [read, Parameters.text, htemplate, hevent, htopic]
  rfl

theorem given?_of_read_subscribeToEvent
    (h : read .subscribeToEvent parameters =
      .ok (.command (.subscribeToEvent templateArn event topicArn))) :
    parameters.given? "resourceArn" = some (.str templateArn) := by
  simp only [read, Outcome.bind_eq_ok_iff, pure, Except.pure, Except.ok.injEq,
    Request.command.injEq, Command.subscribeToEvent.injEq] at h
  obtain ⟨_, htemplate, _, -, _, -, rfl, -, -⟩ := h
  exact Parameters.text_eq_ok_iff.mp htemplate

theorem action_of_read_listEventSubscriptions {action : Action} {arn : Option String}
    (h : read action parameters = .ok (.query (.listEventSubscriptions arn))) :
    action = .listEventSubscriptions := by
  cases action
  case listEventSubscriptions => rfl
  all_goals simp [read, Outcome.bind_eq_ok_iff, pure, Except.pure] at h

end Request

/-! ## Calls beside a subscription -/

namespace Session

variable {ids : Nat → String} {region : String} {session next : Session} {made : Subscribed}
  {call : Call}

/-- A session with one more subscription. -/
def noting (made : Subscribed) (session : Session) : Session :=
  { session with
    store := session.store.subscribe made.now made.templateArn made.event made.topicArn }

/-- What a command does and answers after a subscription is what it does and
answers without, with the subscription added. -/
theorem effect_noting (h : Coherent ids region session) (supply : IdSupply ids)
    (hstored : made.templateArn ∈ session.store.templates.keys) {now : Instant}
    {command : Command} {answer : Except ServiceError Json}
    (hcommand : ∀ event topicArn, command ≠ .subscribeToEvent made.templateArn event topicArn)
    (heffect : Effect ⟨ids, now⟩ session command answer next) :
    Effect ⟨ids, now⟩ (session.noting made) command answer (next.noting made) := by
  have hfound : ∀ arn, (session.noting made).store.templates.get? arn =
      (session.store.templates.get? arn).map fun template =>
        if arn = made.templateArn then
          template.subscribe made.now made.event made.topicArn
        else template :=
    fun arn => Table.get?_update _ _ arn _
  cases heffect with
  | groupRefused htags => exact .groupRefused htags
  | groupAdded htags hgroup => exact .groupAdded htags hgroup
  | targetAdded htarget => exact .targetAdded htarget
  | @templateAdded _ _ _ _ _ template htemplate =>
      -- a new name is not that of the template that is subscribed to
      have hnew : template.arn ∉ session.store.templates.keys := by
        rw [htemplate]
        exact h.templates.notMem_keys supply (Nat.le_refl _) (Arn.endsIn_template _ _)
      have htemplates : (session.noting made).store.templates.insert template.arn template =
          (session.store.templates.insert template.arn template).update made.templateArn
            fun former => former.subscribe made.now made.event made.topicArn :=
        Table.insert_update hnew hstored template
      have hnext : noting made ⟨session.store.addTemplate template, session.drawn + 1⟩ =
          ⟨(session.noting made).store.addTemplate template, session.drawn + 1⟩ := by
        simp only [noting, Store.addTemplate, Store.subscribe] at htemplates ⊢
        rw [htemplates]
      rw [hnext]
      exact .templateAdded htemplate
  | @subscriptionRefused arn _ _ hnone =>
      refine .subscriptionRefused ?_
      rw [hfound, hnone, Option.map_none]
  | @subscribed arn event topicArn template hsome =>
      have hne : arn ≠ made.templateArn := by
        rintro rfl
        exact hcommand event topicArn rfl
      have hnext : noting made ⟨session.store.subscribe now arn event topicArn, session.drawn⟩ =
          ⟨(session.noting made).store.subscribe now arn event topicArn, session.drawn⟩ := by
        simp only [noting, Store.subscribe, Table.update_comm hne]
      have hagain : (session.noting made).store.templates.get? arn = some template := by
        rw [hfound, hsome, Option.map_some, if_neg hne]
      rw [hnext]
      exact .subscribed hagain
  | @runRefused arn _ hnone =>
      refine .runRefused ?_
      rw [hfound, hnone, Option.map_none]
  | @runAdded arn name template run finding hsome hrun hfinding =>
      -- a run copies nothing of the subscriptions of its template
      refine .runAdded ((hfound arn).trans (congrArg _ hsome)) ?_ hfinding
      rw [hrun]
      split <;> rfl

theorem invoke_subscription {parameters : Json}
    (hread : Request.read .subscribeToEvent parameters =
      .ok (.command (.subscribeToEvent made.templateArn made.event made.topicArn)))
    (hstored : made.templateArn ∈ session.store.templates.keys) :
    session.invoke ⟨ids, made.now⟩ "SubscribeToEvent" parameters =
      (.ok (.obj []), session.noting made) := by
  obtain ⟨template, hentry⟩ := Table.mem_keys_iff.mp hstored
  have heffect : Effect ⟨ids, made.now⟩ session
      (.subscribeToEvent made.templateArn made.event made.topicArn) (.ok (.obj []))
      (session.noting made) :=
    .subscribed (Table.get?_eq_some_iff.mpr hentry)
  calc
    session.invoke ⟨ids, made.now⟩ "SubscribeToEvent" parameters =
        session.perform ⟨ids, made.now⟩
          (.command (.subscribeToEvent made.templateArn made.event made.topicArn)) :=
      invoke_of_read hread
    _ = (.ok (.obj []), session.noting made) := execute_of_effect heffect

/-- A call that neither lists subscriptions nor makes one for a template. -/
def Call.Beside (templateArn : String) (call : Call) : Prop :=
  call.name ≠ "ListEventSubscriptions" ∧
    ¬ (call.name = "SubscribeToEvent" ∧
      call.parameters.given? "resourceArn" = some (.str templateArn))

/-- A call answers the same after a subscription, and adds the same. -/
theorem invoke_noting (h : Coherent ids region session) (supply : IdSupply ids)
    (hstored : made.templateArn ∈ session.store.templates.keys)
    (hcall : call.Beside made.templateArn) :
    (session.noting made).invoke ⟨ids, call.now⟩ call.name call.parameters =
      ((session.invoke ⟨ids, call.now⟩ call.name call.parameters).1,
        (session.invoke ⟨ids, call.now⟩ call.name call.parameters).2.noting made) := by
  obtain ⟨now, name, parameters⟩ := call
  obtain ⟨hlisting, hsubscribing⟩ := hcall
  cases haction : Action.ofName? name with
  | none => simp only [invoke, haction]
  | some action =>
      obtain rfl := Action.name_of_ofName?_eq_some haction
      cases hread : Request.read action parameters with
      | error error => simp only [invoke_of_read_error hread]
      | ok request =>
          simp only [invoke_of_read hread]
          cases request with
          | query query =>
              refine Prod.ext (Store.answer_subscribe ?_ _ _ _ _ _) rfl
              rintro arn rfl
              obtain rfl := Request.action_of_read_listEventSubscriptions hread
              exact hlisting rfl
          | command command =>
              apply execute_of_effect
              apply effect_noting h supply hstored
              · rintro event topicArn rfl
                obtain rfl := Request.action_of_read_command hread
                exact hsubscribing ⟨rfl, Request.given?_of_read_subscribeToEvent hread⟩
              · exact effect_execute _ _ _

/-- Any number of calls go on as if there had been no subscription, and leave it
where it is. -/
theorem play_noting (made : Subscribed) (journal : Journal)
    (h : Coherent ids region journal.session) (supply : IdSupply ids)
    (hstored : made.templateArn ∈ journal.session.store.templates.keys)
    {calls : List Call} (hcalls : ∀ call ∈ calls, call.Beside made.templateArn) :
    Journal.play ids ⟨journal.session.noting made, journal.history⟩ (calls.map .call) =
      ⟨(journal.play ids (calls.map .call)).session.noting made,
        (journal.play ids (calls.map .call)).history⟩ := by
  induction calls generalizing journal with
  | nil => rfl
  | cons call rest ih =>
      obtain ⟨hcall, hrest⟩ := List.forall_mem_cons.mp hcalls
      obtain ⟨hcoherent, hkept⟩ := kept_by_invoke h supply call.now call.name call.parameters
      have hmove : Journal.move ids ⟨journal.session.noting made, journal.history⟩ (.call call) =
          ⟨(journal.move ids (.call call)).session.noting made,
            (journal.move ids (.call call)).history⟩ := by
        simp only [Journal.move, invoke_noting h supply hstored hcall]
      rw [List.map_cons, Journal.play, Journal.play, List.foldl_cons, List.foldl_cons, hmove]
      -- tables only grow, so that the template is still stored for the rest
      exact ih _ hcoherent (hkept.templates.keys_prefix.subset hstored) hrest

theorem play_calls_session (journal : Journal) (calls : List Call) :
    (journal.play ids (calls.map .call)).session = journal.session.calls ids calls := by
  induction calls generalizing journal with
  | nil => rfl
  | cons call rest ih => exact ih (journal.move ids (.call call))

/-- A subscription to a stored template and any other call can change places,
unless the call lists subscriptions or makes one for the same template: both are
answered the same in either order, and the session is the same in the end.  So
can the subscription and any number of such calls. -/
theorem subscribing_commutes {ids : Nat → String} (supply : IdSupply ids)
    (region account : String) (steps : List Step) {templateArn event topicArn : String}
    (hstored : templateArn ∈ ((start region account).run ids steps).store.templates.keys)
    {subscription : Call} (hname : subscription.name = "SubscribeToEvent")
    (htemplate : subscription.parameters.given? "resourceArn" = some (.str templateArn))
    (hevent : subscription.parameters.given? "event" = some (.str event))
    (htopic : subscription.parameters.given? "topicArn" = some (.str topicArn))
    {call : Call} (hcall : call.Beside templateArn) :
    let session := (start region account).run ids steps
    let invoke := fun (call : Call) (session : Session) =>
      session.invoke ⟨ids, call.now⟩ call.name call.parameters
    let subscribed := invoke subscription session
    let called := invoke call session
    subscribed.1 = .ok (.obj []) ∧
      (invoke call subscribed.2).1 = called.1 ∧
      (invoke subscription called.2).1 = subscribed.1 ∧
      (invoke call subscribed.2).2 = (invoke subscription called.2).2 ∧
      ∀ calls : List Call, (∀ other ∈ calls, other.Beside templateArn) →
        let plain := Journal.play ids ⟨session, []⟩ (calls.map .call)
        let later := Journal.play ids ⟨subscribed.2, []⟩ (calls.map .call)
        later.history = plain.history ∧
          invoke subscription plain.session = (subscribed.1, later.session) := by
  intro session invoke subscribed called
  have h : Coherent ids region session := coherent_run supply region account steps
  let made : Subscribed := ⟨templateArn, event, topicArn, subscription.now⟩
  have hmake : ∀ session : Session, templateArn ∈ session.store.templates.keys →
      invoke subscription session = (.ok (.obj []), session.noting made) := by
    intro session hstored
    have hread : Request.read .subscribeToEvent subscription.parameters =
        .ok (.command (.subscribeToEvent made.templateArn made.event made.topicArn)) :=
      Request.read_subscribeToEvent htemplate hevent htopic
    simp only [invoke, hname]
    exact invoke_subscription hread hstored
  have hlater : templateArn ∈ called.2.store.templates.keys :=
    (kept_by_invoke h supply call.now call.name call.parameters).2.templates.keys_prefix.subset
      hstored
  have hfirst : subscribed = (.ok (.obj []), session.noting made) := hmake session hstored
  have hlast : invoke subscription called.2 = (.ok (.obj []), called.2.noting made) :=
    hmake called.2 hlater
  have hother : invoke call (session.noting made) = (called.1, called.2.noting made) :=
    invoke_noting h supply hstored hcall
  refine ⟨congrArg Prod.fst hfirst, ?_, ?_, ?_, fun calls hcalls => ?_⟩
  · rw [hfirst, hother]
  · rw [hlast, hfirst]
  · rw [hfirst, hother, hlast]
  · intro plain later
    have hlate : later = ⟨plain.session.noting made, plain.history⟩ := by
      simp only [later, plain, hfirst]
      exact play_noting made ⟨session, []⟩ h supply hstored hcalls
    have hkept : templateArn ∈ plain.session.store.templates.keys := by
      rw [play_calls_session]
      exact (kept_by_calls h supply calls).2.templates.keys_prefix.subset hstored
    rw [hlate, hmake plain.session hkept, hfirst]
    exact ⟨rfl, rfl⟩

/-- One run or two are started of the template that is subscribed to. -/
theorem subscribing_commutes_of_started_run :
    let steps := [Step.command (.ofSeconds 1700000000)
      (.createAssessmentTemplate "target" "web" 900 [] [])]
    let templateArn := "target/template/0-Id000001"
    let subscription : Call := ⟨.ofSeconds 1700000001, "SubscribeToEvent",
      .obj [("resourceArn", .str templateArn), ("event", .str "FINDING_REPORTED"),
        ("topicArn", .str "topic")]⟩
    let call : Call := ⟨.ofSeconds 1700000002, "StartAssessmentRun",
      .obj [("assessmentTemplateArn", .str templateArn)]⟩
    let session := (start "us-east-1" "123456789012").run IdSupply.counted steps
    let invoke := fun (call : Call) (session : Session) =>
      session.invoke ⟨IdSupply.counted, call.now⟩ call.name call.parameters
    (invoke call session).1.isOk = true ∧
      (invoke call (invoke subscription session).2).1 = (invoke call session).1 ∧
      (invoke call (invoke subscription session).2).2 =
        (invoke subscription (invoke call session).2).2 ∧
      (Journal.play IdSupply.counted ⟨(invoke subscription session).2, []⟩
          [.call call, .call call]).history =
        (Journal.play IdSupply.counted ⟨session, []⟩ [.call call, .call call]).history := by
  intro steps templateArn subscription call session invoke
  have hstored : templateArn ∈ session.store.templates.keys := by
    decide +kernel
  have hstarted : (invoke call session).1.isOk = true := by
    decide +kernel
  have hname : subscription.name = "SubscribeToEvent" := rfl
  have hcall : call.Beside templateArn :=
    ⟨by decide, fun h => absurd h.1 (by decide)⟩
  obtain ⟨-, hanswer, -, hsession, hcalls⟩ := subscribing_commutes IdSupply.counted_isSupply
    "us-east-1" "123456789012" steps hstored hname rfl rfl rfl hcall
  refine ⟨hstarted, hanswer, hsession, (hcalls [call, call] ?_).1⟩
  intro other hother
  simp only [List.mem_cons, List.not_mem_nil, or_false, or_self] at hother
  rw [hother]
  exact hcall

end Session

end Inspection

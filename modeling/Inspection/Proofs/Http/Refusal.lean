import Inspection.Proofs.Http.Handling

/-!
# Refusals leave no trace

An action that is refused, or that only asks, leaves its store and the supply
of ids as they are, and so does a request that is not answered with the status
200, for the stores of all regions.
-/

namespace Inspection

namespace Http

/-- Whatever the state, the name and the parameters, a refused invocation and
one that lists or describes change nothing; nor does any request whose
response has another status than 200. -/
theorem unchanged_of_refusal_or_question (explain : ByteArray → String) :
    (∀ (on : Occasion) (name : String) (parameters : Json) (session : Session),
      (∃ error, (session.invoke on name parameters).1 = .error error) ∨
          Action.NamesQuestion name →
        (session.invoke on name parameters).2 = session) ∧
    ∀ (on : Occasion) (request : Request) (endpoint : Endpoint),
      (endpoint.handle explain on request).1.status ≠ 200 →
        (endpoint.handle explain on request).2 = endpoint := by
  constructor
  · rintro on name parameters session (⟨error, herror⟩ | hquestion)
    · exact Session.invoke_eq_self_of_error herror
    · exact Session.invoke_eq_self_of_namesQuestion hquestion
  · intro on request endpoint hstatus
    exact (Endpoint.handled_handle explain on request endpoint).eq_self_of_status_ne hstatus

/-- With a template and its subscription stored, a run of another template, a
listing, and a request for that run. -/
theorem unchanged_of_refused_run :
    let explain : ByteArray → String := fun _ => "EOF while parsing an object at line 1 column 1"
    let on : Occasion := ⟨Decimal.ofNat, .ofSeconds 1700000000⟩
    let created := ((Session.start "eu-west-1" "123456789012").createTemplate on "target" "weekly"
      900 ["package"] []).2
    let session := (created.subscribe on "target/template/0-0" "ASSESSMENT_RUN_STARTED" "topic").2
    let parameters : Json := .obj [("assessmentTemplateArn", .str "template")]
    let endpoint : Endpoint :=
      ⟨(Registry.build ["eu-west-1"] "us-east-1" "123456789012").replace "eu-west-1" session.store,
        session.drawn⟩
    let request : Request := ⟨"POST", "/",
      [("X-Amz-Target", "InspectorService.StartAssessmentRun"),
        ("Authorization", "AWS4-HMAC-SHA256 Credential=key/20240101/eu-west-1/inspector")],
      "\x7b\"assessmentTemplateArn\":\"template\"\x7d".toUTF8⟩
    (session.store.templates.keys = ["target/template/0-0"] ∧ session.drawn = 1 ∧
        session.store.templates.values.map (fun template => template.subscriptions.map (·.topicArn))
          = [["topic"]]) ∧
      (session.invoke on "StartAssessmentRun" parameters).2 = session ∧
      (session.invoke on "ListAssessmentTemplates" (.obj [])).2 = session ∧
      (endpoint.handle explain on request).1.status = 400 ∧
      (endpoint.handle explain on request).2 = endpoint := by
  intro explain on created session parameters endpoint request
  have hstatus : (endpoint.handle explain on request).1.status = 400 := by decide +kernel
  refine ⟨by decide +kernel, ?_, ?_, hstatus, ?_⟩
  · exact (unchanged_of_refusal_or_question explain).1 on _ _ session
      (.inl ⟨.noSuchTemplate "template", by decide +kernel⟩)
  · exact (unchanged_of_refusal_or_question explain).1 on _ _ session (.inr (by decide))
  · exact (unchanged_of_refusal_or_question explain).2 on request endpoint (by rw [hstatus]; decide)

end Http

end Inspection

import Inspection.Proofs.Session.Growth

/-!
# Journals

What a client knows of a session over time: the calls made since the session
was new or was last reset, each with the answer to it.
-/

namespace Inspection

namespace Session

/-- A call and the answer to it. -/
structure Exchange where
  call : Call
  answer : Except ServiceError Json

/-- An exchange from which alone one can tell that nothing was done. -/
def Exchange.Idle (exchange : Exchange) : Prop :=
  (∃ error, exchange.answer = .error error) ∨ Action.NamesQuestion exchange.call.name

/-- What a client can do to a session. -/
inductive Move where
  | call (call : Call)
  | reset

/-- A session with the exchanges since it was new or last reset. -/
structure Journal where
  session : Session
  history : List Exchange

namespace Journal

variable {ids : Nat → String} {journal : Journal}

def start (region account : String) : Journal :=
  ⟨Session.start region account, []⟩

def move (ids : Nat → String) (journal : Journal) : Move → Journal
  | .call call =>
    let (answer, next) := journal.session.invoke ⟨ids, call.now⟩ call.name call.parameters
    ⟨next, journal.history ++ [⟨call, answer⟩]⟩
  | .reset => ⟨journal.session.reset, []⟩

def play (ids : Nat → String) (journal : Journal) (moves : List Move) : Journal :=
  moves.foldl (move ids) journal

/-- A call leaves the session as it is and is idle, or has the effect of a
command. -/
theorem move_call_cases (ids : Nat → String) (journal : Journal) (call : Call) :
    (∃ answer, Exchange.Idle ⟨call, answer⟩ ∧
        journal.move ids (.call call) =
          ⟨journal.session, journal.history ++ [⟨call, answer⟩]⟩) ∨
      ∃ action command answer next, action.name = call.name ∧
        Request.read action call.parameters = .ok (.command command) ∧
        Effect ⟨ids, call.now⟩ journal.session command answer next ∧
        journal.move ids (.call call) = ⟨next, journal.history ++ [⟨call, answer⟩]⟩ := by
  rcases invoke_outcomes ⟨ids, call.now⟩ call.name call.parameters journal.session with
    ⟨error, hrefused⟩ | ⟨action, request, haction, hread, hperform⟩
  · refine .inl ⟨.error error, .inl ⟨error, rfl⟩, ?_⟩
    simp only [move, hrefused]
  · have hname := Action.name_of_ofName?_eq_some haction
    cases request with
    | query query =>
        have hquestion := Request.namesQuestion_of_read_query hread
        refine .inl ⟨journal.session.store.answer query, .inr (hname ▸ hquestion), ?_⟩
        simp only [move, hperform, perform]
    | command command =>
        have heffect := effect_execute ⟨ids, call.now⟩ command journal.session
        refine .inr ⟨action, command, _, _, hname, hread, heffect, ?_⟩
        simp only [move, hperform, perform]

/-- What idle exchanges, the effects of commands and the reset keep is kept by
every sequence of moves. -/
theorem play_preserves {P : Journal → Prop}
    (hidle : ∀ journal call answer, P journal → Exchange.Idle ⟨call, answer⟩ →
      P ⟨journal.session, journal.history ++ [⟨call, answer⟩]⟩)
    (heffect : ∀ journal call action command answer next, P journal → action.name = call.name →
      Request.read action call.parameters = .ok (.command command) →
        Effect ⟨ids, call.now⟩ journal.session command answer next →
          P ⟨next, journal.history ++ [⟨call, answer⟩]⟩)
    (hreset : ∀ journal, P journal → P ⟨journal.session.reset, []⟩)
    (h : P journal) (moves : List Move) : P (journal.play ids moves) := by
  induction moves generalizing journal with
  | nil => exact h
  | cons first rest ih =>
      apply ih
      cases first with
      | reset => exact hreset journal h
      | call call =>
          rcases move_call_cases ids journal call with
            ⟨answer, hquiet, hmove⟩ | ⟨action, command, answer, next, hname, hread, hdone, hmove⟩
          · rw [hmove]
            exact hidle journal call answer h hquiet
          · rw [hmove]
            exact heffect journal call action command answer next h hname hread hdone

end Journal

end Session

end Inspection

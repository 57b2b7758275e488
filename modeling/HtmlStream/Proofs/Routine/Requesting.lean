import HtmlStream.Proofs.Routine.Yielding
import HtmlStream.Script.Statement

/-!
Bodies that ask for tokens and return. Such a body asks for the same tokens in the same order,
whatever it is answered, and only names that it looks up have to be defined. The main statements are
`hasAsked_resume`, for one advance of such a body, and `Routine.Requests.unique`.
-/
namespace HtmlStream

/-- A body hands out the request for a token: it yields the token, or waits for it. -/
def Suspension.AsksFor (suspension : Suspension) (token : Token) : Prop :=
  suspension = .effect (.token token) ∨ suspension = .wait (.value (.token token))

def Progress.AsksFor (progress : Progress) (token : Token) : Prop :=
  progress = .produced (.token token) ∨ progress = .waiting (.value (.token token))

namespace Routine

/-- A routine that asks for some tokens in order, whatever it is answered, and returns. It is not
noticed when it is closed on the way. -/
inductive Requests (lookup : String → Reply) : List Token → Routine → Prop
  | returns (value : Value) : Requests lookup [] (.finish (.ok value))
  | asks {token : Token} {tokens : List Token} {suspension : Suspension} {next : Reply → Routine}
      (asked : suspension.AsksFor token)
      (answered : ∀ value, Requests lookup tokens (next (.ok value)))
      (closed : next (.error .exit) = .finish (.error .exit)) :
      Requests lookup (token :: tokens) (.suspend suspension next)
  | looksUp {name : String} {value : Value} {tokens : List Token} {next : Reply → Routine}
      (defined : lookup name = .ok value) (goesOn : Requests lookup tokens (next (.ok value))) :
      Requests lookup tokens (.act (.lookup name) next)

/-- What a routine asks for is determined by it. -/
theorem Requests.unique {lookup : String → Reply} {routine : Routine} {tokens others : List Token}
    (requests : Requests lookup tokens routine) (alike : Requests lookup others routine) :
    tokens = others := by
  induction requests generalizing others with
  | returns value =>
      cases alike
      rfl
  | asks asked answered closed induction =>
      cases alike with
      | asks asked' answered' _ =>
          rw [induction .null (answered' .null)]
          rcases asked with rfl | rfl
          all_goals
            rcases asked' with same | same
            all_goals cases same
            rfl
  | looksUp defined goesOn induction =>
      cases alike with
      | looksUp defined' goesOn' =>
          rw [defined] at defined'
          cases defined'
          exact induction goesOn'

end Routine

/-- How a body goes on that is suspended itself. -/
def RoutineState.next? : RoutineState → Option (Reply → Routine)
  | .suspended next | .waiting _ next => some next
  | .unstarted _ | .delegating .. | .running | .finished _ => none

namespace Session

/-- Advancing a body with a reply runs a routine. -/
inductive IsBefore (session : Session) (index : Nat) (kind : RoutineKind) :
    Reply → Routine → Prop
  | unstarted {body : Routine}
      (found : session.routine? index = some ⟨kind, .unstarted body⟩) :
      IsBefore session index kind (.ok .null) body
  | suspended {state : RoutineState} {next : Reply → Routine} (reply : Reply)
      (found : session.routine? index = some ⟨kind, state⟩) (goesOn : state.next? = some next) :
      IsBefore session index kind reply (next reply)

variable (library : Library) {session : Session} {index : Nat} {kind : RoutineKind}

theorem IsBefore.keeps {after : Session} {reply : Reply} {routine : Routine}
    (ready : session.IsBefore index kind reply routine) (keeps : Keeps session after) :
    after.IsBefore index kind reply routine := by
  cases ready with
  | unstarted found => exact .unstarted (keeps _ _ found)
  | suspended reply found goesOn => exact .suspended reply (keeps _ _ found) goesOn

theorem resume_of_isBefore {reply : Reply} {routine : Routine}
    (ready : session.IsBefore index kind reply routine) :
    session.resume library index reply
      = run library (resumeWithin library 999) index kind routine
          (session.setState index .running) := by
  cases ready with
  | unstarted found => exact resume_of_routine? library found _
  | @suspended state next reply found goesOn =>
      rw [resume_of_routine? library found]
      cases state with
      | suspended | waiting =>
          cases goesOn
          rfl
      | _ => cases goesOn

theorem IsBefore.exists_object {reply : Reply} {routine : Routine}
    (ready : session.IsBefore index kind reply routine) :
    ∃ state, session.routine? index = some ⟨kind, state⟩ := by
  cases ready with
  | unstarted found | suspended _ found _ => exact ⟨_, found⟩

/-- Names stand for what they stood for, and the bodies that there were are as they were. -/
structure Extends (before after : Session) : Prop where
  keeps : Keeps before after
  names_eq : after.names = before.names

/-- The same, up to one body. -/
structure ExtendsBeside (index : Nat) (before after : Session) : Prop where
  keeps : KeepsBeside index before after
  names_eq : after.names = before.names

theorem lookup_congr {before after : Session} (names : after.names = before.names) :
    after.lookup = before.lookup := by
  funext name
  unfold lookup
  rw [names]

namespace Extends

variable {before between after : Session}

theorem refl (session : Session) : Extends session session := ⟨fun _ _ => id, rfl⟩

theorem trans (earlier : Extends before between) (later : Extends between after) :
    Extends before after :=
  ⟨earlier.keeps.trans later.keeps, later.names_eq.trans earlier.names_eq⟩

theorem of_eq (routines : after.routines = before.routines) (names : after.names = before.names) :
    Extends before after :=
  ⟨.of_routines_eq routines, names⟩

theorem addRoutine (session : Session) (kind : RoutineKind) (name : String) (body : Routine) :
    Extends session (session.addRoutine kind name body).2 where
  keeps := by
    have same : KeepsBeside session.routines.size (session.addRoutine kind name body).2
      (session.addRoutine kind name body).2 := fun _ _ _ => id
    exact same.of_addRoutine
  names_eq := rfl

/-- A body that was not there before may change. -/
theorem beside (earlier : Extends before between) (fresh : before.routine? index = none)
    (later : ExtendsBeside index between after) : Extends before after where
  keeps other object found := by
    have different : other ≠ index := by
      rintro rfl
      rw [fresh] at found
      cases found
    exact later.keeps other object different (earlier.keeps other object found)
  names_eq := later.names_eq.trans earlier.names_eq

end Extends

theorem ExtendsBeside.setState (session : Session) (index : Nat) (state : RoutineState) :
    ExtendsBeside index session (session.setState index state) :=
  ⟨.setState session index state, rfl⟩

theorem ExtendsBeside.trans {before between after : Session}
    (earlier : ExtendsBeside index before between) (later : ExtendsBeside index between after) :
    ExtendsBeside index before after :=
  ⟨earlier.keeps.trans later.keeps, later.names_eq.trans earlier.names_eq⟩

/-- What an advance of a body came to that asks for tokens: it returned, or it asks for the first of
them and goes on with the others. -/
inductive HasAsked (before : Session) (index : Nat) (kind : RoutineKind) :
    List Token → Progress × Session → Prop
  | returned {after : Session} (value : Value) (extends_ : ExtendsBeside index before after) :
      HasAsked before index kind [] (.returned value, after)
  | asked {token : Token} {tokens : List Token} {progress : Progress} {state : RoutineState}
      {next : Reply → Routine} {after : Session} (asks : progress.AsksFor token)
      (extends_ : ExtendsBeside index before after)
      (found : after.routine? index = some ⟨kind, state⟩) (goesOn : state.next? = some next)
      (answered : ∀ value, (next (.ok value)).Requests before.lookup tokens)
      (closed : next (.error .exit) = .finish (.error .exit)) :
      HasAsked before index kind (token :: tokens) (progress, after)

theorem HasAsked.of_extends {before between : Session} {tokens : List Token}
    {advanced : Progress × Session} (earlier : Extends before between)
    (asked : HasAsked between index kind tokens advanced) :
    HasAsked before index kind tokens advanced := by
  have beside : ∀ {after : Session}, ExtendsBeside index between after →
      ExtendsBeside index before after :=
    fun later => ⟨earlier.keeps.beside.trans later.keeps, later.names_eq.trans earlier.names_eq⟩
  cases asked with
  | returned value later => exact .returned value (beside later)
  | asked asks later found goesOn answered closed =>
      rw [lookup_congr earlier.names_eq] at answered
      exact .asked asks (beside later) found goesOn answered closed

theorem hasAsked_run {tokens : List Token} {routine : Routine} (resume : Resumption)
    (running : session.routine? index = some ⟨kind, .running⟩)
    (requests : routine.Requests session.lookup tokens) :
    HasAsked session index kind tokens (run library resume index kind routine session) := by
  induction requests with
  | returns value =>
      have ended : run library resume index kind (.finish (.ok value)) session
          = (.returned value, session.setState index (.finished (.ok value))) := by
        cases kind <;> rfl
      rw [ended]
      exact .returned value (.setState session index _)
  | asks asked answered closed _ =>
      have found := fun state => routine?_setState_self running state
      rcases asked with rfl | rfl
      · exact .asked (.inl rfl) (.setState session index _) (found _) rfl answered closed
      · exact .asked (.inr rfl) (.setState session index _) (found _) rfl answered closed
  | looksUp defined goesOn induction =>
      unfold run carryOut
      dsimp only
      rw [defined]
      exact induction

theorem hasAsked_resume {reply : Reply} {routine : Routine} {tokens : List Token}
    (ready : session.IsBefore index kind reply routine)
    (requests : routine.Requests session.lookup tokens) :
    HasAsked session index kind tokens (session.resume library index reply) := by
  rcases ready.exists_object with ⟨state, found⟩
  have started : ExtendsBeside index session (session.setState index .running) :=
    .setState session index .running
  have ran := hasAsked_run library (resumeWithin library 999)
    (routine?_setState_self found .running) requests
  rw [resume_of_isBefore library ready]
  generalize run library (resumeWithin library 999) index kind routine _ = advanced at ran ⊢
  cases ran with
  | returned value after => exact .returned value (started.trans after)
  | asked asks after found goesOn answered closed =>
      exact .asked asks (started.trans after) found goesOn answered closed

/-- A body that waits for what it has asked for is closed without anything else happening. -/
theorem closeRoutine_of_asked {state : RoutineState} {next : Reply → Routine}
    (found : session.routine? index = some ⟨kind, state⟩) (goesOn : state.next? = some next)
    (closed : next (.error .exit) = .finish (.error .exit)) :
    ∃ after, session.closeRoutine library index = (none, after) ∧
      ExtendsBeside index session after := by
  have exited : session.resume library index (.error .exit)
      = (.raised .exit, (session.setState index .running).setState index
          (.finished (.error .exit))) := by
    rw [resume_of_isBefore library (.suspended (.error .exit) found goesOn), closed]
    cases kind <;> rfl
  unfold closeRoutine close
  rw [found]
  cases state with
  | suspended | waiting =>
      dsimp only
      rw [exited]
      exact ⟨_, rfl, (ExtendsBeside.setState session index _).trans (.setState _ index _)⟩
  | _ => cases goesOn

end Session

/-! ## Scripts -/

namespace Script

/-- The statement that asks for the token that a global name stands for. -/
def askFor (name : String) : Statement := .operation (.request (.named name)) none

theorem requests_pieceOfAll {lookup : String → Reply} (kind : RoutineKind) {names : List String}
    {tokens : List Token}
    (defined : List.Forall₂ (fun name token => lookup name = .ok (.token token)) names tokens)
    {rest : PieceResult → Routine} (ends : (rest ⟨[], .ok .proceed⟩).Requests lookup [])
    (closed : rest ⟨[], .error .exit⟩ = .finish (.error .exit)) :
    (pieceOfAll kind (names.map askFor) [] rest).Requests lookup tokens := by
  induction defined with
  | nil => exact ends
  | @cons name token names tokens found defined induction =>
      show Routine.Requests lookup _ (.act (.lookup name) _)
      refine .looksUp found ?_
      cases kind with
      | generator => exact .asks (.inl rfl) (fun _ => induction) closed
      | asyncGenerator => exact .asks (.inl rfl) (fun _ => induction) closed
      | coroutine => exact .asks (.inr rfl) (fun _ => induction) closed

theorem requests_bodyOfStatements {lookup : String → Reply} (kind : RoutineKind)
    {names : List String} {tokens : List Token}
    (defined : List.Forall₂ (fun name token => lookup name = .ok (.token token)) names tokens) :
    (bodyOfStatements kind (names.map askFor) []).Requests lookup tokens :=
  requests_pieceOfAll kind defined (.returns .null) rfl

end Script
end HtmlStream

import HtmlStream.Proofs.Renderer.Reporting

/-!
Cycles of requests as the driver reports them. Where bodies raise no reports of their own, a turn fails
with a cycle only for a token that a live frame provides at that moment. The main statements are
`recurs_turn`, `recurs_afterWait` and `recurs_opening`.
-/
namespace HtmlStream

namespace Renderer

/-- A turn that fails with a cycle fails with one for a token that a live frame provides. -/
def Recurs (turned : Turned) : Prop :=
  ∀ context labels, turned.1 = .failed (.engine (.contextCycle context labels)) →
    ∃ token ∈ tokensOf turned.2.1.frames, context = .token token

variable {library : Library} {renderer : Renderer} {session : Session}

/-! ## Turns that fail otherwise -/

theorem recurs_of_goesOn {turn : Turn} (going : turn.GoesOn) : Recurs (turn, renderer, session) := by
  rintro context labels rfl
  exact going.elim

theorem recurs_of_wait (wait : Wait) : Recurs (.wait wait, renderer, session) :=
  nofun

theorem recurs_of_plain {failure : Failure} (plain : failure.IsPlain) :
    Recurs (.failed failure, renderer, session) := by
  rintro context labels ⟨⟩
  cases plain trivial

theorem recurs_writing (text : Except Fault String) : Recurs (renderer.writing text session) := by
  unfold writing
  split
  · exact recurs_of_goesOn (Turn.goesOn_ofText _)
  · exact recurs_of_plain trivial

theorem recurs_writeStyle (style : Style) : Recurs (renderer.writeStyle style session) := by
  unfold writeStyle
  split
  · exact recurs_of_goesOn (Turn.goesOn_ofText _)
  · exact recurs_of_goesOn trivial

theorem recurs_finish (value : Value) : Recurs (renderer.finish value session) := by
  unfold finish
  split
  · exact nofun
  · unfold deliver
    split
    · exact recurs_of_goesOn trivial
    · exact recurs_writing _

theorem recurs_finishFailing {failure : Failure} (plain : failure.IsPlain) :
    Recurs (renderer.finishFailing failure session) := by
  unfold finishFailing
  split
  · exact recurs_finish .null
  · exact recurs_of_plain plain

theorem recurs_unsupportedEffect (producer : RoutineReference) (effect : Value) :
    Recurs (.failed (renderer.unsupportedEffect producer effect session), renderer, session) := by
  unfold unsupportedEffect
  split
  · exact nofun
  · exact recurs_of_plain trivial

/-! ## Turns that may fail with a cycle -/

section Acting

variable (candidLibrary : library.IsCandid) (candid : session.IsCandid)

include candidLibrary candid

theorem recurs_push (inner : Frame) : Recurs (renderer.push library inner session) := by
  have closes := (candid.closeFrame candidLibrary inner).1
  unfold push
  split
  · split
    · next closed => exact recurs_of_plain (closes _ (congrArg Prod.fst closed))
    · exact nofun
  · exact recurs_of_goesOn trivial

theorem recurs_runProvider (token : Token) (provider : Provider) :
    Recurs (renderer.runProvider library token provider session) := by
  unfold runProvider
  extract_lets noted
  have notedCandid : noted.IsCandid := candid.of_eq rfl rfl
  obtain ⟨raised, called⟩ := Session.candidly_call candidLibrary
    (Session.keepsCandor_resume candidLibrary) notedCandid provider.source []
  generalize noted.call library (Session.resume library) provider.source [] = result
    at raised called ⊢
  rcases result with ⟨reply, after⟩
  cases reply with
  | error failure => exact recurs_of_plain raised
  | ok value =>
      cases value with
      | routine body => exact recurs_push candidLibrary called _
      | _ => exact nofun

/-- The only place where a cycle is found. -/
theorem recurs_resolve (token : Token) : Recurs (renderer.resolve library token session) := by
  unfold resolve
  split
  · exact nofun
  · next provider _ =>
      split
      · exact recurs_of_goesOn trivial
      all_goals
        split
        · next providing =>
            rintro context labels ⟨⟩
            exact ⟨token, (isProviding_iff token).mp providing, rfl⟩
        · exact recurs_runProvider candidLibrary candid token provider

theorem recurs_handleWait (producer : RoutineReference) (pending : Pending) :
    Recurs (renderer.handleWait library producer pending session) := by
  unfold handleWait
  split
  · exact recurs_resolve candidLibrary candid _
  · split
    · exact recurs_of_wait _
    · exact recurs_of_plain trivial

theorem recurs_handle (producer : RoutineReference) (effect : Value) :
    Recurs (renderer.handle library producer effect session) := by
  unfold handle
  cases effect with
  | token token => exact recurs_resolve candidLibrary candid token
  | style style => exact recurs_writeStyle style
  | marker role type attributes children =>
      cases role with
      | opening | closing =>
          dsimp only
          split
          · exact recurs_writing _
          · exact recurs_of_goesOn trivial
      | unspecified => exact recurs_unsupportedEffect producer _
  | null => exact recurs_of_goesOn trivial
  | text | markup | integer | float | notANumber => exact recurs_writing _
  | element identity type attributes children =>
      exact recurs_push candidLibrary
        (candid.addRoutine .generator "element" (Element.isCandid_body _)) _
  | routine reference => exact recurs_push candidLibrary candid _
  | _ => exact recurs_unsupportedEffect producer _

theorem recurs_react (producer : RoutineReference) {progress : Progress} (came : progress.IsPlain) :
    Recurs (renderer.react library producer progress session) := by
  cases progress with
  | produced effect => exact recurs_handle candidLibrary candid producer effect
  | waiting pending => exact recurs_handleWait candidLibrary candid producer pending
  | returned value => exact recurs_finish value
  | raised failure => exact recurs_finishFailing came

theorem recurs_turn (plain : renderer.IsPlain) : Recurs (renderer.turn library session) := by
  unfold turn
  split
  · exact nofun
  · next frame outer frames =>
      have first := (isPlain_of_cons frames plain).1
      have noted : (session.withLiveFrames (outer.length + 1)).IsCandid := candid.of_eq rfl rfl
      dsimp only
      split
      · exact recurs_of_wait _
      · obtain ⟨came, after⟩ := Session.keepsCandor_resume candidLibrary frame.routine.index
          (Frame.isPlain_reply first) noted
        exact recurs_react candidLibrary after frame.routine came

theorem recurs_afterWait (wait : Wait) {reply : Reply} (answered : Reply.IsPlain reply) :
    Recurs (renderer.afterWait library wait reply session) := by
  unfold afterWait
  split
  · exact recurs_handle candidLibrary candid _ _
  · exact recurs_finishFailing answered
  · exact recurs_of_goesOn trivial
  · exact recurs_of_goesOn trivial
  · exact recurs_of_plain answered

theorem recurs_opening (root : Value) : Recurs (renderer.opening library root session) := by
  unfold opening
  cases root with
  | element identity type attributes children =>
      exact recurs_push candidLibrary
        (candid.addRoutine .generator "element" (Element.isCandid_body _)) _
  | routine reference => exact recurs_push candidLibrary candid _
  | _ => exact nofun

end Acting

end Renderer
end HtmlStream

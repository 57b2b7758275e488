import HtmlStream.Proofs.Renderer.Renumbering
import HtmlStream.Proofs.Routine.Blindness

/-!
Renders that cannot tell numbers. Where components, providers and the event loop read nothing but the
meaning of a number, bodies that belong together ask for the same in sessions that correspond. The
main statement is `inStep_advance`.
-/
namespace HtmlStream

open Session

/-- What the event loop answers does not depend on numbers. -/
def LoopAnswers.IsBlind (base : Pairing) (answers : LoopAnswers) : Prop :=
  ∀ {pairing : Pairing} {left right : Session}, Corresponds base pairing left right →
    ∀ {wait twin : Wait}, pairing.Relates wait twin →
      InStep base pairing left right (answers wait left) (answers twin right)

/-- Nothing that a render is given can tell numbers, apart from those that a base keeps. -/
structure Interpreter.IsBlind (base : Pairing) (interpreter : Interpreter) : Prop where
  library : interpreter.library.IsBlind base
  answers : interpreter.answers.IsBlind base
  providers : base.Relates interpreter.providers interpreter.providers

/-- Two demands are the same but for their numbers, with the styles and the sessions then. -/
def Session.InDemand (base pairing : Pairing) (left right : Session) (first second : Demanded) :
    Prop :=
  InStep base pairing left right ((first.1, first.2.1), first.2.2) ((second.1, second.2.1), second.2.2)

variable {base pairing : Pairing} {left right : Session}

theorem Element.relates_of_toValue (inhabited : ∃ numbers, pairing.Allows numbers) {node : Element}
    {value : Value} (related : pairing.Relates node.toValue value) :
    ∃ twin : Element, value = twin.toValue ∧ pairing.Relates node twin := by
  refine related.made (fun first second equal => ?_) (fun numbers node => ?_) inhabited ?_
  · cases first
    cases second
    cases equal
    rfl
  · show Value.element _ _ (Value.renumberedEntries numbers node.attributes)
      (Value.renumberedAll numbers node.children) = _
    rw [Value.renumberedEntries_eq, Value.renumberedAll_eq]
    rfl
  · exact ⟨related.lacks.1, (Value.entriesLackProbes_iff _).mp related.lacks.2.1,
      (Value.allLackProbes_iff _).mp related.lacks.2.2⟩

theorem Session.InStep.inDemand {first second : Demand × Session} {styles others : StyleSet}
    (step : InStep base pairing left right first second) (written : pairing.Relates styles others) :
    InDemand base pairing left right (first.1, styles, first.2) (second.1, others, second.2) := by
  rcases step with ⟨later, grows, same, related⟩
  exact ⟨later, grows, same, Pairing.relates_pair related (grows.extend.relates written)⟩

theorem Session.InDemand.after {between : Pairing} {leftBetween rightBetween : Session}
    (grows : Grows pairing left right between leftBetween rightBetween) {first second : Demanded}
    (step : InDemand base between leftBetween rightBetween first second) :
    InDemand base pairing left right first second :=
  InStep.after grows step

namespace Interpreter

/-- The demand for a body that has just been made, which provides no token. -/
def opened (styles : StyleSet) (made : RoutineReference × Session) : Demanded :=
  (.nested made.1 none, styles, made.2)

variable {interpreter : Interpreter} (same : Corresponds base pairing left right)

include same

/-! ## What is asked of the renderer -/

theorem labels_eq : interpreter.labels right = interpreter.labels left := by
  rcases same.inhabited with ⟨numbers, allows⟩
  unfold labels
  rw [(same.relates_context? interpreter.context).equal allows]
  cases left.context? interpreter.context <;> rfl

theorem token_eq {token twin : Token} (tokens : pairing.Relates token twin) :
    twin.name = token.name ∧ twin.label = token.label := by
  rcases same.inhabited with ⟨numbers, allows⟩
  rw [tokens.equal allows]
  exact ⟨rfl, rfl⟩

variable (blind : interpreter.IsBlind base)

include blind

theorem inStep_provide {token twin : Token} (tokens : pairing.Relates token twin)
    {provider other : Provider} (providers : pairing.Relates provider other) :
    InStep base pairing left right (interpreter.provide token provider left)
      (interpreter.provide twin other right) := by
  have sources : pairing.Relates provider.source other.source :=
    ⟨providers.lacks, fun allows => congrArg Provider.source (providers.equal allows)⟩
  unfold provide
  dsimp only
  have noted : Corresponds base pairing (left.noteRequest token provider)
      (right.noteRequest twin other) := same.record _ _
  have bare : pairing.Relates ([] : Entries) [] := Pairing.relates_nil
  rcases (inStep_call noted (isBlind_resume blind.library) blind.library sources bare).exists with
    ⟨later, reply, answer, leftAfter, rightAfter, onLeft, onRight, grows, sameAfter, replies⟩
  rw [onLeft, onRight]
  have grown : Grows pairing left right pairing (left.noteRequest token provider)
      (right.noteRequest twin other) := .of_same rfl rfl
  refine .after (grown.trans grows) ?_
  have given := grows.extend.relates sources
  cases reply with
  | error failure =>
      rcases replies.made (fun _ _ => Except.error.inj) (fun _ _ => rfl) sameAfter.inhabited
        replies.lacks with ⟨raised, rfl, failures⟩
      exact sameAfter.inStep (.map isUniform_fail failures)
  | ok result =>
      rcases replies.made (fun _ _ => Except.ok.inj) (fun _ _ => rfl) sameAfter.inhabited
        replies.lacks with ⟨outcome, rfl, results⟩
      have refused : later.Relates
          (Demand.fail (.engine (.invalidComponent provider.source result)))
          (.fail (.engine (.invalidComponent other.source outcome))) := {
        lacks := ⟨given.lacks, results.lacks⟩
        equal := fun allows => by
          rw [given.equal allows, results.equal allows]
          rfl }
      rcases sameAfter.inhabited with ⟨numbers, allows⟩
      cases results.equal allows
      cases result with
      | routine body =>
          refine sameAfter.inStep (Pairing.relates_nested
            ⟨trivial, fun allows => Value.routine.inj (results.equal allows)⟩
            (Pairing.relates_some (grows.extend.relates tokens)))
      | _ => exact sameAfter.inStep refused

theorem inStep_request {tokens others : List Token} (provided : pairing.Relates tokens others)
    {token twin : Token} (asked : pairing.Relates token twin) :
    InStep base pairing left right (interpreter.request tokens token left)
      (interpreter.request others twin right) := by
  have label : twin.label = token.label := (token_eq same asked).2
  have member : twin ∈ others ↔ token ∈ tokens := by
    rcases same.inhabited with ⟨numbers, allows⟩
    rw [provided.equal allows, asked.equal allows]
    refine List.mem_map_of_injective fun first second equal => ?_
    rw [← beq_iff_eq, ← Registry.token_beq numbers, beq_iff_eq]
    exact equal
  have found : pairing.Relates (interpreter.providers.get? token) (interpreter.providers.get? twin) := {
    lacks := Registry.lacksProbe_get? blind.providers.lacks token
    equal := fun {numbers} allows => by
      have told := Registry.get?_renumbered numbers interpreter.providers token
      rwa [← asked.equal allows, ← blind.providers.equal (same.extend.allows allows)] at told }
  unfold request
  rw [labels_eq same, label]
  rcases found.option_cases same.inhabited with
    ⟨onLeft, onRight⟩ | ⟨provider, other, onLeft, onRight, providers⟩
  · rw [onLeft, onRight]
    refine same.inStep ⟨trivial, fun allows => ?_⟩
    rw [asked.equal allows]
    rfl
  · rw [onLeft, onRight]
    have kind : other.kind = provider.kind := by
      rcases same.inhabited with ⟨numbers, allows⟩
      rw [providers.equal allows]
      rfl
    dsimp only
    rw [kind]
    split
    · exact same.inStep (.map isUniform_goOn (Pairing.relates_ok
        ⟨providers.lacks, fun allows => congrArg Provider.source (providers.equal allows)⟩))
    · rw [if_congr member rfl rfl]
      split
      · refine same.inStep ⟨trivial, fun allows => ?_⟩
        rw [asked.equal allows]
        rfl
      · exact inStep_provide same blind asked providers

omit blind in
theorem inDemand_writeStyle {style twin : Style} (written : pairing.Relates style twin)
    {styles others : StyleSet} (related : pairing.Relates styles others) :
    InDemand base pairing left right (interpreter.writeStyle style styles left)
      (interpreter.writeStyle twin others right) := by
  rcases same.inhabited with ⟨numbers, allows⟩
  have told := Serializer.styleBlock_renumbered numbers styles style
  rw [← written.equal allows, ← related.equal allows] at told
  have kept : pairing.Relates (Serializer.styleBlock styles style).2
      (Serializer.styleBlock others twin).2 := {
    lacks := Serializer.lacksProbe_styleBlock related.lacks style
    equal := fun {changed} allowsToo => by
      rw [written.equal allowsToo, related.equal allowsToo, Serializer.styleBlock_renumbered] }
  have shown : (Serializer.styleBlock others twin).1 = (Serializer.styleBlock styles style).1 := by
    rw [told]
  unfold writeStyle
  generalize Serializer.styleBlock styles style = mine at kept shown
  generalize Serializer.styleBlock others twin = yours at kept shown
  rcases mine with ⟨block?, mine⟩
  rcases yours with ⟨_, yours⟩
  cases shown
  cases block? with
  | none =>
      have skipped : pairing.Relates Demand.skip Demand.skip :=
        Pairing.relates_self trivial fun _ => rfl
      exact same.inStep (Pairing.relates_pair skipped kept)
  | some block =>
      have counted : Corresponds base pairing (left.countStyle interpreter.context)
          (right.countStyle interpreter.context) :=
        same.modifyContext _ (fun _ => id) fun _ _ => rfl
      have wrote : pairing.Relates (Demand.write block) (.write block) :=
        Pairing.relates_self trivial fun _ => rfl
      have grown : Grows pairing left right pairing (left.countStyle interpreter.context)
          (right.countStyle interpreter.context) := .of_same rfl rfl
      have both := Pairing.relates_pair wrote kept
      exact .after grown (counted.inStep both)

omit blind in
theorem describe_eq {producer twin : RoutineReference} (bodies : pairing.Relates producer twin) :
    (Value.routine twin).describe = (Value.routine producer).describe := by
  rcases same.inhabited with ⟨numbers, allows⟩
  rw [bodies.equal allows]
  exact Value.describe_renumbered numbers (.routine producer)

omit blind in
theorem relates_refuse {producer twin : RoutineReference}
    (described : (Value.routine twin).describe = (Value.routine producer).describe)
    {effect other : Value} (effects : pairing.Relates effect other) :
    pairing.Relates (interpreter.refuse producer effect left)
      (interpreter.refuse twin other right) := by
  rcases same.inhabited with ⟨numbers, allows⟩
  have writable : other.isWritable = effect.isWritable := by
    rw [effects.equal allows]
    exact Value.isWritable_renumbered numbers effect
  unfold refuse
  rw [labels_eq same, writable, described]
  split
  · refine ⟨effects.lacks, fun allows => ?_⟩
    rw [effects.equal allows]
    rfl
  · exact Pairing.relates_self trivial fun _ => rfl

omit blind in
/-- The tag of a marker, unless it is that of a text. -/
theorem inDemand_tagDemand {type other : Value} (isText : other.isText = type.isText)
    {tag : Except Fault String} (plain : pairing.Relates (Demand.ofText tag) (.ofText tag))
    {styles written : StyleSet} (related : pairing.Relates styles written) :
    InDemand base pairing left right (tagDemand type tag, styles, left)
      (tagDemand other tag, written, right) := by
  unfold tagDemand
  rw [isText]
  split
  · exact same.inStep (Pairing.relates_pair plain related)
  · have skipped : pairing.Relates Demand.skip Demand.skip :=
      Pairing.relates_self trivial fun _ => rfl
    exact same.inStep (Pairing.relates_pair skipped related)

omit blind in
theorem inDemand_opened {node twin : Element} (nodes : pairing.Relates node twin)
    {styles written : StyleSet} (related : pairing.Relates styles written) :
    InDemand base pairing left right (opened styles (left.addRoutine .generator "element" node.body))
      (opened written (right.addRoutine .generator "element" twin.body)) := by
  rcases (same.addRoutine .generator "element" (Element.runs_body nodes)).exists with
    ⟨later, body, begun, leftAfter, rightAfter, onLeft, onRight, grows, sameAfter, bodies⟩
  rw [onLeft, onRight]
  exact .after grows (sameAfter.inStep (Pairing.relates_pair
    (Pairing.relates_nested bodies Pairing.relates_none) (grows.extend.relates related)))

theorem inDemand_demandOf {tokens others : List Token} (provided : pairing.Relates tokens others)
    {producer twin : RoutineReference}
    (described : (Value.routine twin).describe = (Value.routine producer).describe)
    {effect other : Value} (effects : pairing.Relates effect other)
    {styles written : StyleSet} (related : pairing.Relates styles written) :
    InDemand base pairing left right (interpreter.demandOf tokens producer effect styles left)
      (interpreter.demandOf others twin other written right) := by
  have plainly {demand : Demand} (plain : pairing.Relates demand demand) :
      InDemand base pairing left right (demand, styles, left) (demand, written, right) :=
    same.inStep (Pairing.relates_pair plain related)
  have skipped : InDemand base pairing left right (.skip, styles, left) (.skip, written, right) :=
    plainly (Pairing.relates_self trivial fun _ => rfl)
  have refused : InDemand base pairing left right
      (interpreter.refuse producer effect left, styles, left)
      (interpreter.refuse twin other right, written, right) :=
    same.inStep (Pairing.relates_pair (relates_refuse same described effects) related)
  rcases same.inhabited with ⟨numbers, allows⟩
  have shown := Serializer.text_renumbered numbers interpreter.settings.autoescape effect
  have text : InDemand base pairing left right
      (.ofText (Serializer.text interpreter.settings.autoescape effect), styles, left)
      (.ofText (Serializer.text interpreter.settings.autoescape (effect.renumbered numbers)),
        written, right) := by
    rw [shown]
    exact plainly (Pairing.relates_ofText (.text _ effect))
  cases effects.equal allows
  cases effect with
  | null => exact skipped
  | text | markup | integer | float | notANumber => exact text
  | style style =>
      exact inDemand_writeStyle same
        ⟨trivial, fun allows => Value.style.inj (effects.equal allows)⟩ related
  | marker role type attributes children =>
      have isText : (type.renumbered numbers).isText = type.isText :=
        Value.isText_renumbered numbers type
      cases role with
      | opening =>
          have tag := Serializer.openingTag_renumbered numbers interpreter.settings.autoescape type
            attributes
          show InDemand base pairing left right (tagDemand type _, styles, left)
            (tagDemand (type.renumbered numbers) _, written, right)
          rw [tag]
          exact inDemand_tagDemand same isText (Pairing.relates_ofText (.openingTag _ _)) related
      | closing =>
          have tag := Serializer.closingTag_renumbered numbers type attributes
          show InDemand base pairing left right (tagDemand type _, styles, left)
            (tagDemand (type.renumbered numbers) _, written, right)
          rw [tag]
          exact inDemand_tagDemand same isText (Pairing.relates_ofText (.closingTag _)) related
      | unspecified => exact refused
  | token token =>
      exact (inStep_request same blind provided
        ⟨trivial, fun allows => Value.token.inj (effects.equal allows)⟩).inDemand related
  | element identity type attributes children =>
      rcases Element.relates_of_toValue same.inhabited
        (show pairing.Relates (Element.mk identity type attributes children).toValue _ from effects)
        with ⟨twin, found, nodes⟩
      rw [found]
      exact inDemand_opened same nodes related
  | routine body =>
      exact same.inStep (Pairing.relates_pair (Pairing.relates_nested
        ⟨trivial, fun allows => Value.routine.inj (effects.equal allows)⟩ Pairing.relates_none)
        related)
  | _ => exact refused

/-! ## Advancing bodies -/

omit same blind in
theorem isUniform_getD : IsUniform fun reply : Reply => reply.toOption.getD .null where
  renumbered numbers reply := by cases reply <;> rfl
  lacksProbe reply lacks := by
    cases reply with
    | ok value => exact lacks
    | error failure => trivial

theorem inDemand_demandOfAsync {tokens others : List Token} (provided : pairing.Relates tokens others)
    {body twin : RoutineReference} (bodies : pairing.Relates body twin) {answer other : Value}
    (answers : pairing.Relates answer other) {styles written : StyleSet}
    (related : pairing.Relates styles written) :
    InDemand base pairing left right (interpreter.demandOfAsync tokens body answer styles left)
      (interpreter.demandOfAsync others twin other written right) := by
  have waits : pairing.Relates (Wait.step body answer) (.step twin other) :=
    ⟨answers.lacks, fun allows => congrArg₂ Wait.step (bodies.equal allows) (answers.equal allows)⟩
  rcases (blind.answers same waits).exists with
    ⟨later, reply, told, leftAfter, rightAfter, onLeft, onRight, grows, sameAfter, replies⟩
  unfold demandOfAsync
  rw [onLeft, onRight]
  refine .after grows ?_
  cases reply with
  | ok effect =>
      rcases replies.made (fun _ _ => Except.ok.inj) (fun _ _ => rfl) sameAfter.inhabited
        replies.lacks with ⟨outcome, rfl, effects⟩
      exact inDemand_demandOf sameAfter blind (grows.extend.relates provided)
        (describe_eq same bodies) effects (grows.extend.relates related)
  | error failure =>
      rcases replies.made (fun _ _ => Except.error.inj) (fun _ _ => rfl) sameAfter.inhabited
        replies.lacks with ⟨raised, rfl, failures⟩
      exact sameAfter.inStep (Pairing.relates_pair (.map isUniform_ofFailure failures)
        (grows.extend.relates related))

omit blind in
theorem isOver_eq {pending other : Pending} (waits : pairing.Relates pending other) :
    right.isOver other = left.isOver pending := by
  rcases same.inhabited with ⟨numbers, allows⟩
  cases waits.equal allows
  cases pending with
  | value awaited => rfl
  | forever => rfl
  | task index =>
      have paired := same.routine_of_forced fun allows => Pending.task.inj (waits.equal allows)
      rcases same.object paired with ⟨⟨_, mine⟩, ⟨_, yours⟩, onLeft, onRight, ⟨rfl, got⟩⟩
      show right.hasEnded _ = left.hasEnded index
      unfold hasEnded
      rw [onLeft, onRight]
      cases got <;> rfl

theorem inStep_await {pending other : Pending} (waits : pairing.Relates pending other) :
    InStep base pairing left right (interpreter.await pending left)
      (interpreter.await other right) := by
  have settles : pairing.Relates (Wait.settle pending) (.settle other) :=
    ⟨waits.lacks, fun allows => congrArg Wait.settle (waits.equal allows)⟩
  rcases (blind.answers same settles).exists with
    ⟨later, reply, told, leftAfter, rightAfter, onLeft, onRight, grows, sameAfter, replies⟩
  unfold await
  rw [onLeft, onRight]
  refine .after grows ?_
  rcases sameAfter.inhabited with ⟨numbers, allows⟩
  cases reply with
  | ok effect =>
      rcases replies.made (fun _ _ => Except.ok.inj) (fun _ _ => rfl) sameAfter.inhabited
        replies.lacks with ⟨outcome, rfl, _⟩
      dsimp only
      rw [isOver_eq sameAfter (grows.extend.relates waits)]
      split <;> exact sameAfter.inStep_plain trivial fun _ => rfl
  | error failure =>
      rcases replies.made (fun _ _ => Except.error.inj) (fun _ _ => rfl) sameAfter.inhabited
        replies.lacks with ⟨raised, rfl, failures⟩
      cases failures.equal allows
      cases failure with
      | raised kind message =>
          cases kind with
          | cancelled => exact sameAfter.inStep_plain trivial fun _ => rfl
          | _ => exact sameAfter.inStep (.map isUniform_fail failures)
      | _ => exact sameAfter.inStep (.map isUniform_fail failures)

theorem inStep_demandOfWait {tokens others : List Token} (provided : pairing.Relates tokens others)
    {body twin : RoutineReference} (bodies : pairing.Relates body twin) {pending other : Pending}
    (waits : pairing.Relates pending other) :
    InStep base pairing left right (interpreter.demandOfWait tokens body pending left)
      (interpreter.demandOfWait others twin other right) := by
  have kind : twin.kind = body.kind := (same.exists_reference bodies).1
  have settled : InStep base pairing left right
      (if body.kind = .coroutine then interpreter.await pending left
        else (.fail (.fault .coroutineInGenerator), left))
      (if twin.kind = .coroutine then interpreter.await other right
        else (.fail (.fault .coroutineInGenerator), right)) := by
    rw [kind]
    split
    · exact inStep_await same blind waits
    · exact same.inStep_plain trivial fun _ => rfl
  rcases same.inhabited with ⟨numbers, allows⟩
  cases waits.equal allows
  cases pending with
  | forever | task => exact settled
  | value awaited =>
      cases awaited with
      | token token =>
          exact inStep_request same blind provided ⟨trivial, fun allows =>
            Value.token.inj (Pending.value.inj (waits.equal allows))⟩
      | _ => exact settled

/-- With other numbers and at another depth, a body asks for the same. -/
theorem inDemand_advance (depth other : Nat) {tokens others : List Token}
    (provided : pairing.Relates tokens others) {body twin : RoutineReference}
    (bodies : pairing.Relates body twin) {reply answer : Reply}
    (replies : pairing.Relates reply answer) {styles written : StyleSet}
    (related : pairing.Relates styles written) :
    InDemand base pairing left right (interpreter.advance depth tokens body reply styles left)
      (interpreter.advance other others twin answer written right) := by
  rcases same.exists_reference bodies with ⟨kind, _, paired⟩
  have live := same.withLiveFrames depth other
  have grown : Grows pairing left right pairing (left.withLiveFrames depth)
      (right.withLiveFrames other) := .of_same rfl rfl
  unfold advance
  dsimp only
  rw [kind]
  split
  · have answers : pairing.Relates (reply.toOption.getD .null) (answer.toOption.getD .null) :=
      .map isUniform_getD replies
    exact .after grown (inDemand_demandOfAsync live blind provided bodies answers related)
  · rcases (isBlind_resume blind.library live paired replies).exists with
      ⟨later, progress, came, leftAfter, rightAfter, onLeft, onRight, grows, sameAfter, progresses⟩
    refine .after (grown.trans grows) ?_
    rw [onLeft, onRight]
    have written := grows.extend.relates related
    cases progresses.sameProgress sameAfter.inhabited with
    | produced effects =>
        exact inDemand_demandOf sameAfter blind (grows.extend.relates provided)
          (describe_eq same bodies) effects written
    | waiting waits =>
        exact (inStep_demandOfWait sameAfter blind (grows.extend.relates provided)
          (grows.extend.relates bodies) waits).inDemand written
    | returned values =>
        exact sameAfter.inStep (Pairing.relates_pair (.map isUniform_finish values) written)
    | raised failures =>
        exact sameAfter.inStep (Pairing.relates_pair (.map isUniform_ofFailure failures) written)

end Interpreter
end HtmlStream

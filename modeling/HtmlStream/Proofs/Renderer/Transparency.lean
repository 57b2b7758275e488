import HtmlStream.Proofs.Renderer.Room
import HtmlStream.Proofs.Renderer.Wrapping

/-!
Wrapping children is transparent. Where a render with wrappers around children comes to its end, and
no frame is refused meanwhile, the render without them writes the same texts and ends alike. The main
statement is `wrapping_is_transparent`.
-/
namespace HtmlStream

open Session

theorem Account.after_after (account : Account) (first second : List String) :
    (account.after second).after first = account.after (first ++ second) :=
  congrArg (fun texts => { account with texts }) (List.append_assoc ..).symm

namespace Interpreter

/-- A body whose close is not noticed is left without anything else happening. -/
theorem leave_of_isClosable {interpreter : Interpreter} {body : RoutineReference} {account : Account}
    (kind : body.kind = .generator) (closable : account.session.IsClosable body.index)
    (broken : ∀ value, account.ending ≠ .returned value) (depth : Nat) :
    ∃ after, interpreter.leave depth (.of body none) account = { account with session := after } ∧
      ActsAlone body.index account.session after := by
  rcases account with ⟨texts, ending, styles, session⟩
  cases ending with
  | returned value => exact (broken value rfl).elim
  | stranded failure => exact ⟨session, rfl, .nothing⟩
  | failed failure =>
      have counted : (session.withLiveFrames depth).IsClosable body.index := closable.of_eq rfl
      rcases closeRoutine_alone interpreter.library counted with ⟨after, closed, alone⟩
      refine ⟨after, ?_, (ActsAlone.nothing.counts depth).trans alone⟩
      have frame : (session.leaveFrame interpreter.context (.of body none)).withLiveFrames depth
        = session.withLiveFrames depth := rfl
      unfold leave
      dsimp only
      rw [frame]
      unfold closeFrame Frame.isAsyncGenerator Frame.of
      dsimp only
      rw [kind, if_neg (by decide), closed]

/-- What the second of two bodies comes to, and how far the first one is then. Where the second has
returned, the first goes on; where it has failed, the first has failed alike. -/
inductive Outcome (interpreter : Interpreter) (base pairing : Pairing) (left right : Session)
    (depth : Nat) (tokens : List Token) (body twin : RoutineReference) (reply : Reply)
    (styles : StyleSet) (more : List (Except Failure Value)) (yours : Account) : Prop
  | goesOn {later : Pairing} {leftAfter : Session} {next : Reply} {wrote : StyleSet}
      {effects : List (Except Failure Value)}
      (returned : yours.ending = .returned .null)
      (grows : GrowsBeside body.index twin.index pairing left right later leftAfter yours.session)
      (same : Corresponds base later leftAfter yours.session)
      (performs : leftAfter.Performs body.index next (.yieldAll effects))
      (unfolds : Unfolds later interpreter.library effects more)
      (related : later.Relates wrote yours.styles)
      (onward : ∀ account, interpreter.Fits depth tokens body next wrote leftAfter account →
        interpreter.Fits depth tokens body reply styles left (account.after yours.texts))
  | fails {later : Pairing} {mine : Account}
      (fits : interpreter.Fits depth tokens body reply styles left mine)
      (texts : yours.texts = mine.texts)
      (broken : ∀ value, yours.ending ≠ .returned value)
      (grows : GrowsBeside body.index twin.index pairing left right later mine.session yours.session)
      (same : Corresponds base later mine.session yours.session)
      (related : later.Relates (mine.ending, mine.styles) (yours.ending, yours.styles))
      (closable : mine.session.IsClosable body.index ∧ yours.session.IsClosable twin.index)

variable {interpreter : Interpreter} {base pairing between : Pairing}
  {left right leftBetween rightBetween : Session} {depth : Nat} {tokens : List Token}
  {body twin : RoutineReference} {reply next : Reply} {styles wrote : StyleSet}
  {more : List (Except Failure Value)} {yours : Account}

theorem Outcome.after {texts : List String}
    (grows : GrowsBeside body.index twin.index pairing left right between leftBetween rightBetween)
    (onward : ∀ account, interpreter.Fits depth tokens body next wrote leftBetween account →
      interpreter.Fits depth tokens body reply styles left (account.after texts))
    (outcome : Outcome interpreter base between leftBetween rightBetween depth tokens body twin next
      wrote more yours) :
    Outcome interpreter base pairing left right depth tokens body twin reply styles more
      (yours.after texts) := by
  cases outcome with
  | goesOn returned growsOn same performs unfolds related onwardLater =>
      refine .goesOn returned (grows.trans growsOn (.inl rfl) (.inl rfl)) same performs unfolds related
        fun account fits => ?_
      have whole := onward _ (onwardLater account fits)
      rwa [account.after_after] at whole
  | fails fits same broken growsOn corresponds related closable =>
      exact .fails (onward _ fits) (congrArg (texts ++ ·) same) broken
        (grows.trans growsOn (.inl rfl) (.inl rfl)) corresponds related closable

/-- A body that has nothing left to yield ends. -/
theorem exists_finishes (kind : body.kind = .generator)
    (performs : left.Performs body.index reply (.yieldAll [])) (depth : Nat) (tokens : List Token)
    (styles : StyleSet) :
    ∃ after, interpreter.Fits depth tokens body reply styles left ⟨[], .returned .null, styles, after⟩ ∧
      ActsAlone body.index left after := by
  rcases @advance_performs interpreter _ _ _ _ kind performs depth tokens styles with
    ⟨after, demanded, alone, _⟩
  exact ⟨after, .finishes demanded, alone⟩

/-! ## Settling -/

variable (interpreter base) in
/-- Whatever body accompanies one that comes to an account, there is an outcome. -/
def Settles (deeper : Nat) (others : List Token) (twin : RoutineReference) (answer : Reply)
    (written : StyleSet) (right : Session) (yours : Account) : Prop :=
  ∀ {pairing : Pairing} {left : Session} {depth : Nat} {tokens : List Token}
    {body : RoutineReference} {reply : Reply} {styles : StyleSet}
    {more : List (Except Failure Value)},
    Accompanies interpreter.library base pairing left right body twin reply answer more →
    depth ≤ deeper → pairing.Relates tokens others → pairing.Relates styles written →
    Outcome interpreter base pairing left right depth tokens body twin reply styles more yours

variable (blind : interpreter.IsBlind base) {deeper : Nat} {others : List Token} {answer : Reply}
  {written : StyleSet} {after : Session}

include blind

theorem settles_write {text : String} {rest : Account}
    (demanded : interpreter.advance deeper others twin answer written right
      = (.write text, wrote, after))
    (later : Settles interpreter base deeper others twin (.ok .null) wrote after rest) :
    Settles interpreter base deeper others twin answer written right
      (rest.after (piecesOf text)) := by
  intro pairing left depth tokens body reply styles more together shallow provided related
  cases together.meets blind depth deeper provided related with
  | writes asked offered onward =>
      cases demanded.symm.trans offered
      have extend := onward.grows.extend
      have outcome := later (onward.goesOn .null .null) shallow (extend.relates provided)
        onward.related
      exact outcome.after onward.grows fun account fits => .writes asked fits
  | goesOn _ offered | nests _ offered | enters _ offered | opens offered | ends offered
  | fails _ offered => cases demanded.symm.trans offered

theorem settles_goOn {onwards : Reply}
    (demanded : interpreter.advance deeper others twin answer written right
      = (.goOn onwards, wrote, after))
    (later : Settles interpreter base deeper others twin onwards wrote after yours) :
    Settles interpreter base deeper others twin answer written right yours := by
  intro pairing left depth tokens body reply styles more together shallow provided related
  cases together.meets blind depth deeper provided related with
  | @goesOn value other _ _ _ _ _ asked offered onward =>
      cases demanded.symm.trans offered
      have extend := onward.grows.extend
      have outcome := later (onward.goesOn value other) shallow (extend.relates provided) onward.related
      have step (account : Account)
          (fits : interpreter.Fits depth tokens body (.ok value) _ _ account) :
          interpreter.Fits depth tokens body reply styles left account := .goesOn asked fits
      have whole : Outcome interpreter base pairing left right depth tokens body twin reply styles more
          (yours.after []) := outcome.after onward.grows step
      exact whole
  | writes _ offered | nests _ offered | enters _ offered | opens offered | ends offered
  | fails _ offered => cases demanded.symm.trans offered

theorem settles_finish {value : Value}
    (demanded : interpreter.advance deeper others twin answer written right
      = (.finish value, wrote, after)) :
    Settles interpreter base deeper others twin answer written right
      ⟨[], .returned value, wrote, after⟩ := by
  intro pairing left depth tokens body reply styles more together shallow provided related
  cases together.meets blind depth deeper provided related with
  | ends offered alone performs unfolds =>
      cases demanded.symm.trans offered
      exact .goesOn rfl (.of_alone .nothing alone) (together.tandem.alone .nothing alone).same
        performs unfolds related fun account fits => fits
  | writes _ offered | goesOn _ offered | nests _ offered | enters _ offered | opens offered
  | fails _ offered => cases demanded.symm.trans offered

theorem settles_fail {failure : Failure}
    (demanded : interpreter.advance deeper others twin answer written right
      = (.fail failure, wrote, after)) :
    Settles interpreter base deeper others twin answer written right
      ⟨[], .failed failure, wrote, after⟩ := by
  intro pairing left depth tokens body reply styles more together shallow provided related
  cases together.meets blind depth deeper provided related with
  | fails asked offered grows same failures closable =>
      cases demanded.symm.trans offered
      exact .fails (.fails asked) rfl nofun grows same failures closable
  | writes _ offered | goesOn _ offered | nests _ offered | enters _ offered | opens offered
  | ends offered => cases demanded.symm.trans offered

/-- The second body goes on after one that came first and has returned. -/
theorem settles_nested_returned {inner : RoutineReference} {token? : Option Token} {value : Value}
    {account rest : Account}
    (demanded : interpreter.advance deeper others twin answer written right
      = (.nested inner token?, wrote, after))
    (room : deeper < interpreter.settings.maxDepth)
    (within : interpreter.Fits (deeper + 1) (token?.toList ++ others) inner (.ok .null) wrote
      (after.enterFrame interpreter.context (.of inner token?)) account)
    (settles : Settles interpreter base (deeper + 1) (token?.toList ++ others) inner (.ok .null) wrote
      (after.enterFrame interpreter.context (.of inner token?)) account)
    (returned : account.ending = .returned value)
    (later : Settles interpreter base deeper others twin (.ok value) account.styles
      (account.session.leaveFrame interpreter.context (.of inner token?)) rest) :
    Settles interpreter base deeper others twin answer written right (rest.after account.texts) := by
  intro pairing left depth tokens body reply styles more together shallow provided related
  cases together.meets blind depth deeper provided related with
  | @nests first _ token _ between leftAfter _ next _ asked offered onward frames =>
      cases demanded.symm.trans offered
      have same := (onward.goesOn .null .null).tandem.same
      have extend := onward.grows.extend
      rcases exists_fits_of_corresponds blind within (same.enterFrame frames interpreter.context)
        (Nat.succ_le_succ shallow) (frames.provided same.inhabited (extend.relates provided))
        frames.routine Pairing.relates_null onward.related with ⟨mine, fits, inside⟩
      rcases inside.returned frames interpreter.context returned with
        ⟨last, result, mineEnding, grown, outside, values, wroteInside⟩
      have before := onward.goesOn result value
      have still := before.grows (.of_grows grown) outside before.tandem.leftThere.ne
        before.tandem.rightThere.ne
      have outcome := later still shallow (grown.extend.relates (extend.relates provided)) wroteInside
      rw [inside.1]
      exact outcome.after (onward.grows.trans (.of_grows grown) (.inl rfl) (.inl rfl))
        fun account others => .nests asked (shallow.trans_lt room) fits mineEnding others
  | @enters first _ between leftAfter _ next _ asked offered onward leftFresh rightFresh inside =>
      cases demanded.symm.trans offered
      have extend := onward.grows.extend
      cases settles inside (Nat.succ_le_succ shallow) (extend.relates provided) onward.related with
      | fails _ _ broken => exact (broken value returned).elim
      | @goesOn last leftLast _ wroteInside effects ended growsOn same performs unfolds related
          goesIn =>
          cases unfolds
          cases returned.symm.trans ended
          rcases @exists_finishes interpreter _ _ _ inside.kind performs (depth + 1) tokens
            wroteInside with ⟨leftEnd, finishes, alone⟩
          have tandem := (inside.tandem.grows growsOn same).alone alone .nothing
          have grown := growsOn.trans (.of_alone alone .nothing) (.inl rfl) (.inl rfl)
          have before := onward.goesOn .null .null
          have leftOther : body.index ≠ first.index :=
            (together.tandem.leftThere.trans_le leftFresh).ne
          have rightOther : twin.index ≠ inner.index :=
            (together.tandem.rightThere.trans_le rightFresh).ne
          have still := before.grows grown tandem.same leftOther rightOther
          have outcome := later still shallow (grown.extend.relates (extend.relates provided)) related
          have entered := goesIn _ finishes
          unfold Account.after at entered
          rw [List.append_nil] at entered
          refine outcome.after (onward.grows.trans grown (.inr leftFresh) (.inr rightFresh))
            fun last others => ?_
          have whole := Fits.nests asked (shallow.trans_lt room) entered rfl others
          exact whole
  | @opens _ _ kept offered alone fresh inside goesOn =>
      cases demanded.symm.trans offered
      cases settles inside (shallow.trans (Nat.le_succ deeper)) provided related with
      | fails _ _ broken => exact (broken value returned).elim
      | @goesOn last leftLast reached wroteInside effects ended growsOn same performs unfolds related
          goesIn =>
          have rightOther : twin.index ≠ inner.index :=
            (together.tandem.rightThere.trans_le fresh).ne
          have opened := together.tandem.alone .nothing alone
          have kept := growsOn.keepsRight opened.rightThere rightOther opened.rightSingle
          have grown := (GrowsBeside.of_alone .nothing alone).trans growsOn (.inl rfl) (.inr fresh)
          have still : Accompanies interpreter.library base last leftLast account.session body twin
              reached (.ok value) more :=
            ⟨together.tandem.grows grown same, together.kind, together.twinKind, effects, _, _, performs,
              (goesOn value).of_eq kept, .yields _, unfolds⟩
          have outcome := later still shallow (grown.extend.relates provided) related
          exact outcome.after grown goesIn
  | writes _ offered | goesOn _ offered | ends offered | fails _ offered =>
      cases demanded.symm.trans offered

/-- The second body fails with one that came first. -/
theorem settles_nested_failed {inner : RoutineReference} {token? : Option Token} {account : Account}
    (demanded : interpreter.advance deeper others twin answer written right
      = (.nested inner token?, wrote, after))
    (room : deeper < interpreter.settings.maxDepth)
    (within : interpreter.Fits (deeper + 1) (token?.toList ++ others) inner (.ok .null) wrote
      (after.enterFrame interpreter.context (.of inner token?)) account)
    (settles : Settles interpreter base (deeper + 1) (token?.toList ++ others) inner (.ok .null) wrote
      (after.enterFrame interpreter.context (.of inner token?)) account)
    (broken : ∀ value, account.ending ≠ .returned value) :
    Settles interpreter base deeper others twin answer written right
      (interpreter.leave deeper (.of inner token?) account) := by
  intro pairing left depth tokens body reply styles more together shallow provided related
  cases together.meets blind depth deeper provided related with
  | @nests first _ token _ between leftAfter _ next _ asked offered onward frames =>
      cases demanded.symm.trans offered
      have same := (onward.goesOn .null .null).tandem.same
      have extend := onward.grows.extend
      rcases exists_fits_of_corresponds blind within (same.enterFrame frames interpreter.context)
        (Nat.succ_le_succ shallow) (frames.provided same.inhabited (extend.relates provided))
        frames.routine Pairing.relates_null onward.related with ⟨mine, fits, inside⟩
      have leaving := (inAccount_leave blind.library depth deeper frames inside).after
        (Corresponds.grows_enterFrame interpreter.context)
      rcases leaving with ⟨texts, last, grown, outside, ends⟩
      have before := onward.goesOn .null .null
      have still := before.grows (.of_grows grown) outside before.tandem.leftThere.ne
        before.tandem.rightThere.ne
      exact .fails (.breaks asked (shallow.trans_lt room) fits (inside.not_returned broken)) texts
        (ending_leave broken) (onward.grows.trans (.of_grows grown) (.inl rfl) (.inl rfl)) outside ends
        still.isClosable
  | @enters first _ between leftAfter _ next _ asked offered onward leftFresh rightFresh inside =>
      cases demanded.symm.trans offered
      have extend := onward.grows.extend
      cases settles inside (Nat.succ_le_succ shallow) (extend.relates provided) onward.related with
      | goesOn ended => exact (broken _ ended).elim
      | @fails last mine fits texts _ growsOn same ends closable =>
          have failed := ends.fst.not_returned same.inhabited broken
          rcases @leave_of_isClosable interpreter _ _ inside.kind closable.1 failed depth with
            ⟨leftEnd, leftLeft, leftAlone⟩
          rcases @leave_of_isClosable interpreter _ _ inside.twinKind closable.2 broken deeper with
            ⟨rightEnd, rightLeft, rightAlone⟩
          have tandem := (inside.tandem.grows growsOn same).alone leftAlone rightAlone
          have grown := growsOn.trans (.of_alone leftAlone rightAlone) (.inl rfl) (.inl rfl)
          have before := onward.goesOn .null .null
          have leftOther : body.index ≠ first.index :=
            (together.tandem.leftThere.trans_le leftFresh).ne
          have rightOther : twin.index ≠ inner.index :=
            (together.tandem.rightThere.trans_le rightFresh).ne
          have still := before.grows grown tandem.same leftOther rightOther
          have whole := Fits.breaks asked (shallow.trans_lt room) fits failed
          rw [leftLeft] at whole
          rw [rightLeft]
          exact .fails whole texts broken
            (onward.grows.trans grown (.inr leftFresh) (.inr rightFresh)) tandem.same ends
            still.isClosable
  | @opens _ _ kept offered alone fresh inside goesOn =>
      cases demanded.symm.trans offered
      cases settles inside (shallow.trans (Nat.le_succ deeper)) provided related with
      | goesOn ended => exact (broken _ ended).elim
      | @fails last mine fits texts _ growsOn same ends closable =>
          rcases @leave_of_isClosable interpreter _ _ inside.twinKind closable.2 broken deeper with
            ⟨rightEnd, rightLeft, rightAlone⟩
          have tandem := (inside.tandem.grows growsOn same).alone .nothing rightAlone
          have opened := together.tandem.alone .nothing alone
          have rightOther : twin.index ≠ inner.index :=
            (together.tandem.rightThere.trans_le fresh).ne
          have grownInside := growsOn.trans (.of_alone .nothing rightAlone) (.inl rfl) (.inl rfl)
          have twinKept := grownInside.keepsRight opened.rightThere rightOther opened.rightSingle
          have grown :=
            (GrowsBeside.of_alone .nothing alone).trans grownInside (.inl rfl) (.inr fresh)
          rw [rightLeft]
          exact .fails fits texts broken grown tandem.same ends
            ⟨closable.1, (goesOn .null).closable.of_eq twinKept⟩
  | writes _ offered | goesOn _ offered | ends offered | fails _ offered =>
      cases demanded.symm.trans offered

/-- There is an outcome whatever the second body comes to. The induction is on its demands. -/
theorem settles_of_fits
    (fits : interpreter.Fits deeper others twin answer written right yours) :
    Settles interpreter base deeper others twin answer written right yours := by
  induction fits with
  | writes demanded _ later => exact settles_write blind demanded later
  | goesOn demanded _ later => exact settles_goOn blind demanded later
  | nests demanded room within returned _ settles later =>
      exact settles_nested_returned blind demanded room within settles returned later
  | breaks demanded room within broken settles =>
      exact settles_nested_failed blind demanded room within settles broken
  | finishes demanded => exact settles_finish blind demanded
  | fails demanded => exact settles_fail blind demanded

end Interpreter

/-! ## From the root on -/

/-- The texts of two renders are the same, and so are the failures that ended them, but for
numbers. -/
structure Transcript.IsLike (plain other : Transcript) : Prop where
  texts : other.texts = plain.texts
  failure : ∃ numbers : Renumbering, other.failure? = renumbered numbers plain.failure?

theorem Transcript.IsLike.says {plain other : Transcript} (like : plain.IsLike other) :
    other.failure?.map Failure.kind = plain.failure?.map Failure.kind ∧
      ∀ palette, other.failure?.map (Failure.message palette)
        = plain.failure?.map (Failure.message palette) := by
  rcases like.failure with ⟨numbers, same⟩
  rw [same]
  constructor
  · refine (Option.map_map ..).trans ?_
    exact congrFun (congrArg Option.map (funext (Failure.kind_renumbered numbers))) _
  · intro palette
    refine (Option.map_map ..).trans ?_
    exact congrFun (congrArg Option.map (funext (Failure.message_renumbered numbers palette))) _

namespace Interpreter

variable {interpreter : Interpreter} {base pairing : Pairing}

theorem isLike_conclude (inhabited : ∃ numbers, pairing.Allows numbers) {mine yours : Account}
    (texts : yours.texts = mine.texts) (related : pairing.Relates mine.ending yours.ending) :
    (interpreter.conclude mine).IsLike (interpreter.conclude yours) := by
  rcases mine with ⟨written, ending, styles, session⟩
  rcases yours with ⟨_, ended, others, last⟩
  cases texts
  have same := related.sameEnding inhabited
  rcases inhabited with ⟨numbers, allows⟩
  cases same with
  | @returned value other values =>
      have told : Serializer.resultText interpreter.settings.autoescape other
          = Serializer.resultText interpreter.settings.autoescape value := by
        rw [values.equal allows]
        exact Serializer.resultText_renumbered numbers interpreter.settings.autoescape value
      have plain := ShowsNone.resultText interpreter.settings.autoescape value
      unfold conclude
      dsimp only
      rw [told]
      cases shown : Serializer.resultText interpreter.settings.autoescape value with
      | ok text => exact ⟨rfl, numbers, rfl⟩
      | error fault =>
          have fixed := (plain fault shown).1 numbers
          exact ⟨rfl, numbers, congrArg (fun fault => some (Failure.fault fault)) fixed.symm⟩
  | failed failures | stranded failures =>
      exact ⟨rfl, numbers, congrArg some (failures.equal allows)⟩

end Interpreter

/-- A component that asks for the number of live frames. -/
def Component.depthReader (name : String) : Component where
  reference := ⟨name, some .generator, true⟩
  signature := ⟨[], [], [], none⟩
  body _ := Work.toRoutine do
    let depth ← Work.act (.call .depthProbe [])
    Work.yield (.text (if depth.integer? = some 3 then "shallow" else "deep"))

/-- An element, and the same one with wrappers around its children and theirs. -/
structure Element.WrapsInside (pairing : Pairing) (library : Library) (node twin : Element) :
    Prop where
  tag : node.type.isTagType = true
  type : twin.type = node.type
  attributes : pairing.Relates node.attributes twin.attributes
  children : WrapsAll pairing library node.children twin.children

theorem Element.WrapsInside.unfolds {pairing : Pairing} {library : Library} {node twin : Element}
    (wraps : node.WrapsInside pairing library twin) (inhabited : ∃ numbers, pairing.Allows numbers) :
    Unfolds pairing library node.allEffects twin.allEffects :=
  .allEffects wraps.tag wraps.type wraps.attributes wraps.children.isEmpty_eq
    (wraps.children.unfolds inhabited)

namespace Interpreter

variable {interpreter : Interpreter} {base : Pairing} {session : Session} {node twin : Element}

theorem frameOf_element (plain : node.type.isCallable = false) :
    Renderer.frameOf? node.toValue session
      = some (.of ⟨.generator, session.routines.size, "element"⟩ none,
          (session.addRoutine .generator "element" (.yieldAll node.allEffects)).2) := by
  rw [← node.body_eq_yieldAll plain]
  rfl

/-- With wrappers around children, a render that fits writes the same and ends alike as without
them. -/
theorem FitsRoot.exists_unwrapped (blind : interpreter.IsBlind base)
    (same : Corresponds base base session session)
    (wraps : node.WrapsInside base interpreter.library twin) {transcript : Transcript}
    (fits : interpreter.FitsRoot twin.toValue session transcript) :
    ∃ plain, interpreter.FitsRoot node.toValue session plain ∧ plain.IsLike transcript := by
  have plain : node.type.isCallable = false := Value.isCallable_of_isTagType wraps.tag
  have framed := @frameOf_element session node plain
  have unfolds := wraps.unfolds same.inhabited
  rw [← twin.allEffects.append_nil] at unfolds
  rcases fits with @⟨frame, opened, account, twinFramed, room, within⟩
  cases twinFramed.symm.trans (@frameOf_element session twin (wraps.type ▸ plain))
  have corresponds := (same.addRoutineLeft .generator "element" (.yieldAll node.allEffects)).addRoutineRight
    .generator "element" (.yieldAll twin.allEffects)
  have begun := Performs.unstarted
    (routine?_addRoutine_self session .generator "element" (.yieldAll node.allEffects))
  have twinBegun := Performs.unstarted
    (routine?_addRoutine_self session .generator "element" (.yieldAll twin.allEffects))
  have together : Accompanies interpreter.library base base _ _
      ⟨.generator, session.routines.size, "element"⟩ ⟨.generator, session.routines.size, "element"⟩
      (.ok .null) (.ok .null) [] :=
    ⟨⟨corresponds, begun.there, twinBegun.there, same.not_paired_size.1, same.not_paired_size.2⟩, rfl,
      rfl, node.allEffects, _, twin.allEffects, begun, twinBegun, .yields _, unfolds⟩
  cases settles_of_fits blind within together le_rfl Pairing.relates_nil Pairing.relates_nil with
  | @goesOn later leftAfter next wrote effects returned grows sameAfter performs rest related onward =>
      cases rest
      rcases @exists_finishes interpreter _ _ _ rfl performs 1 [] wrote with ⟨ended, finishes, _⟩
      have ends := onward _ finishes
      refine ⟨_, .intro framed room ends, ?_⟩
      rw [leave_of_returned rfl, leave_of_returned returned]
      refine isLike_conclude sameAfter.inhabited (List.append_nil _).symm ?_
      rw [returned]
      exact Pairing.relates_self trivial fun _ => rfl
  | @fails later mine fitsMine texts broken grows sameAfter related closable =>
      have failed := related.fst.not_returned sameAfter.inhabited broken
      rcases @leave_of_isClosable interpreter _ mine rfl closable.1 failed 0 with ⟨ended, left, _⟩
      rcases @leave_of_isClosable interpreter ⟨.generator, session.routines.size, "element"⟩ account rfl
        closable.2 broken 0 with ⟨last, right, _⟩
      refine ⟨_, .intro framed room fitsMine, ?_⟩
      rw [left, right]
      exact isLike_conclude sameAfter.inhabited texts related.fst

/-- Wrapping is transparent. Any children of tags and fragments, however deep, may stand in lists,
tuples, fragments and components that pass their children on. As long as the largest depth is enough
for the frames of the render with these wrappers, it writes the texts that the render without them
writes, and ends in the same way. -/
theorem wrapping_is_transparent (blind : interpreter.IsBlind base)
    (same : Corresponds base base session session)
    (wraps : node.WrapsInside base interpreter.library twin)
    (enough : Renderer.peak interpreter.library interpreter.answers interpreter.renderer twin.toValue
      session ≤ interpreter.settings.maxDepth) :
    let render (root : Element) := (Run.start interpreter.renderer root.toValue).transcript
      interpreter.library interpreter.answers (.ok .null) session
    (interpreter.answers.IsFaithful → ∃ wrapped, render twin = some wrapped) ∧
    ∀ wrapped, render twin = some wrapped → ∃ plain, render node = some plain ∧
      wrapped.texts = plain.texts ∧
      wrapped.failure?.map Failure.kind = plain.failure?.map Failure.kind ∧
      ∀ palette, wrapped.failure?.map (Failure.message palette)
        = plain.failure?.map (Failure.message palette) := by
  intro render
  have agrees := Run.transcript_eq_interpretRoot interpreter twin.toValue session
  constructor
  · intro faithful
    rcases Option.isSome_iff_exists.mp (agrees.2 faithful) with ⟨wrapped, found⟩
    exact ⟨wrapped, agrees.1.trans found⟩
  · intro wrapped given
    have plain : twin.type.isCallable = false :=
      wraps.type ▸ Value.isCallable_of_isTagType wraps.tag
    have fits := interpreter.fitsRoot_of_peak_le (frameOf_element plain) enough given
    rcases fits.exists_unwrapped blind same wraps with ⟨transcript, fitsPlain, like⟩
    exact ⟨transcript, fitsPlain.transcript_eq, like.texts, like.says⟩

/-- A paragraph with a text in it, and the same one with a wrapper around the text. -/
theorem wrapping_is_transparent_paragraph :
    let pass := Component.passThrough "Pass"
    let plain : Element := ⟨1, .text "p", [], [.text "x"]⟩
    let twin : Element := ⟨1, .text "p", [], [.element 2 (.component pass.reference) [] [.list [.text "x"]]]⟩
    let interpreter : Interpreter := ⟨[pass], Renderer.cancelling, [], Settings.standard, 0⟩
    let base : Pairing := ⟨fun _ _ => False, fun _ _ => False⟩
    interpreter.IsBlind base ∧ Corresponds base base Session.empty Session.empty ∧
    plain.WrapsInside base interpreter.library twin ∧
    Renderer.peak interpreter.library interpreter.answers interpreter.renderer twin.toValue
      Session.empty ≤ interpreter.settings.maxDepth ∧
    ∃ wrapped plainly,
      (Run.start interpreter.renderer twin.toValue).transcript interpreter.library
        interpreter.answers (.ok .null) Session.empty = some wrapped ∧
      (Run.start interpreter.renderer plain.toValue).transcript interpreter.library
        interpreter.answers (.ok .null) Session.empty = some plainly ∧
      wrapped.texts = plainly.texts := by
  intro pass plain twin interpreter base
  have blind : interpreter.IsBlind base := {
    library := by
      intro component member
      cases List.mem_singleton.mp member
      exact Component.isBlind_passThrough base "Pass"
    answers := fun same _ _ _ => same.inStep_plain trivial fun _ => rfl
    providers := Pairing.relates_nil }
  have same : Corresponds base base Session.empty Session.empty := {
    extend := .refl base
    inhabited := ⟨⟨Equiv.refl _, Equiv.refl _⟩, nofun, nofun⟩
    identityBound := nofun
    object := nofun
    names := Pairing.relates_nil
    contexts := Pairing.relates_nil
    current := rfl
    registry := Pairing.relates_nil
    loop := Pairing.relates_self nofun fun _ => rfl }
  have wraps : plain.WrapsInside base interpreter.library twin := {
    tag := rfl
    type := rfl
    attributes := Pairing.relates_nil
    children := .cons (.inComponent 2 "Pass" rfl (.inList (.same (Pairing.relates_self trivial
      fun _ => rfl)))) .nil }
  have enough : Renderer.peak interpreter.library interpreter.answers interpreter.renderer twin.toValue
      Session.empty ≤ interpreter.settings.maxDepth := by
    have finished : (Renderer.unlimited interpreter.library interpreter.answers interpreter.renderer
        twin.toValue Session.empty 14).2.1 = .finished := by cbv
    exact (Renderer.peak_le_of_finished _ _ _ _ _ rfl finished).trans (Nat.cast_le.mpr (by decide))
  have both := wrapping_is_transparent blind same wraps enough
  rcases both.1 Renderer.isFaithful_cancelling with ⟨wrapped, given⟩
  rcases both.2 wrapped given with ⟨plainly, rendered, texts, _⟩
  exact ⟨blind, same, wraps, enough, wrapped, plainly, given, rendered, texts⟩

/-- A wrapper is a frame of its own, so a component that asks for the number of live frames is told
another one. -/
theorem wrapping_shows_in_depth :
    let reader := Component.depthReader "Depth"
    let child : Value := .element 1 (.component reader.reference) [] []
    let plain : Element := ⟨2, .text "p", [], [child]⟩
    let twin : Element := ⟨2, .text "p", [], [.element 3 .fragment [] [child]]⟩
    let interpreter : Interpreter := ⟨[reader], Renderer.cancelling, [], Settings.standard, 0⟩
    let session : Session := { Session.empty with nextIdentity := 4 }
    let base : Pairing := ⟨fun _ _ => False, fun number other => other = number ∧ number < 4⟩
    let render (root : Element) := (Run.start interpreter.renderer root.toValue).transcript
      interpreter.library interpreter.answers (.ok .null) session
    Corresponds base base session session ∧ plain.WrapsInside base interpreter.library twin ∧
    Renderer.peak interpreter.library interpreter.answers interpreter.renderer twin.toValue
      session ≤ interpreter.settings.maxDepth ∧
    (∃ after, render plain = some ⟨["<p>", "shallow", "</p>"], none, after⟩) ∧
    ∃ after, render twin = some ⟨["<p>", "deep", "</p>"], none, after⟩ := by
  intro reader child plain twin interpreter session base render
  have readable : interpreter.library.ReadsOnly (· ≠ .maxDepth) := by
    intro component member
    cases List.mem_singleton.mp member
    intro bindings
    refine ⟨trivial, fun reply => ?_⟩
    cases reply with
    | ok depth => exact fun _ => trivial
    | error failure => trivial
  have alike : session.DiffersInDepth session :=
    ⟨⟨_, rfl⟩, Session.contextsLookAlike_of_eq rfl, fun _ _ found => nomatch found⟩
  -- Both renders are followed to their last turn.
  have ends {root : Element} {texts : List String} {reached : List String × Turned}
      (reaches : Renderer.unlimited interpreter.library interpreter.answers interpreter.renderer
        root.toValue session 14 = reached) (wrote : reached.1 = texts)
      (finished : reached.2.1 = .finished) :
      Renderer.peak interpreter.library interpreter.answers interpreter.renderer root.toValue
        session ≤ interpreter.settings.maxDepth ∧
      ∃ after, render root = some ⟨texts, none, after⟩ := by
    rcases reached with ⟨_, _, last, after⟩
    cases wrote
    cases finished
    have room : 14 + 1 ≤ interpreter.settings.maxDepth := by decide
    have enough := (Renderer.peak_le_of_finished _ _ _ _ _ rfl
      (congrArg (fun reached => reached.2.1) reaches)).trans (Nat.cast_le.mpr room)
    exact ⟨enough, (Renderer.transcript_iff_of_peak_le readable ignoreDepth_cancelling rfl
      root.toValue alike interpreter.settings.maxDepth_pos enough _ _).mpr (.finishes reaches)⟩
  have alone := @ends plain ["<p>", "shallow", "</p>"] _ rfl (by cbv) (by cbv)
  have wrapped := @ends twin ["<p>", "deep", "</p>"] _ rfl (by cbv) (by cbv)
  have corresponds : Corresponds base base session session := {
    extend := .refl base
    inhabited := ⟨⟨Equiv.refl _, Equiv.refl _⟩, False.elim, fun paired => paired.1.symm⟩
    identityBound := fun paired => ⟨paired.2, paired.1 ▸ paired.2⟩
    object := False.elim
    names := Pairing.relates_nil
    contexts := Pairing.relates_nil
    current := rfl
    registry := Pairing.relates_nil
    loop := Pairing.relates_self (fun _ due => absurd due List.not_mem_nil) fun _ => rfl }
  have held : base.Relates child child := ⟨⟨trivial, trivial, trivial⟩, fun allows =>
    congrArg (Value.element · _ [] []) (allows.identity ⟨rfl, by decide⟩).symm⟩
  have wraps : plain.WrapsInside base interpreter.library twin := {
    tag := rfl
    type := rfl
    attributes := Pairing.relates_nil
    children := .cons (.inFragment 3 [] (.same held)) .nil }
  exact ⟨corresponds, wraps, wrapped.1, alone.2, wrapped.2⟩

end Interpreter
end HtmlStream

import HtmlStream.Proofs.Element.Wrapping
import HtmlStream.Proofs.Renderer.Lockstep
import HtmlStream.Proofs.Routine.Solitude

/-!
Wrappers around children do not show. A body that yields the effects of wrapped children opens more
bodies than one that yields those without wrappers, and they write the same and end alike.
-/
namespace HtmlStream

open Session

/-! ## What stands around wrapped children -/

/-- A body that comes to the same as if it yielded some effects. -/
inductive Offers (library : Library) : Routine → List (Except Failure Value) → Prop
  | yields (effects : List (Except Failure Value)) : Offers library (.yieldAll effects) effects
  | calls (identity : Nat) (name : String) (children : List Value)
      (found : library.find? (Component.passThrough name).reference
        = some (Component.passThrough name)) :
      Offers library
        (Element.mk identity (.component (Component.passThrough name).reference) [] children).body
        (Element.effectsOf (Value.leavesOf children))
  | passes (name : String) (children : List Value) :
      Offers library ((Component.passThrough name).body [(childrenKey, .list children)])
        (Element.effectsOf (Value.leavesOf children))

theorem Value.isCallable_of_isTagType {type : Value} (tag : type.isTagType = true) :
    type.isCallable = false := by
  cases type with
  | text | markup | fragment => rfl
  | _ => cases tag

namespace Element

variable {pairing : Pairing}

theorem isOfChild_of_relates (inhabited : ∃ numbers, pairing.Allows numbers) {failure other : Failure}
    (ofChild : IsOfChild (.error failure)) (related : pairing.Relates failure other) :
    IsOfChild (.error other) := by
  rcases inhabited with ⟨numbers, allows⟩
  cases related.equal allows
  cases failure with
  | raised => cases ofChild
  | _ => trivial

/-- The boundaries of a tag and its twin, without what is between them. -/
theorem relates_marker {node twin : Element} (tag : node.type.isTagType = true)
    (type : twin.type = node.type) (attributes : pairing.Relates node.attributes twin.attributes)
    (role : MarkerRole) :
    pairing.Relates (Value.marker role node.type (.mapping node.attributes) .null)
      (.marker role twin.type (.mapping twin.attributes) .null) := by
  have lacks : node.type.LacksProbe := by
    cases typed : node.type with
    | text | markup | fragment => trivial
    | _ =>
        rw [typed] at tag
        cases tag
  have plain (numbers : Renumbering) : node.type.renumbered numbers = node.type := by
    cases typed : node.type with
    | text | markup | fragment => rfl
    | _ =>
        rw [typed] at tag
        cases tag
  refine ⟨⟨lacks, (Value.entriesLackProbes_iff _).mpr attributes.lacks, trivial⟩,
    fun {numbers} allows => ?_⟩
  have entries := Value.renumberedEntries_eq numbers node.attributes
  show _ = Value.marker role (node.type.renumbered numbers)
    (.mapping (Value.renumberedEntries numbers node.attributes)) .null
  rw [plain, entries, type, attributes.equal allows]

end Element

/-- A demand that does not end its body and raises nothing in it. -/
def Demand.IsQuiet : Demand → Prop
  | .finish _ | .goOn (.error _) => False
  | _ => True

theorem Demand.isQuiet_ofText (text : Except Fault String) : (Demand.ofText text).IsQuiet := by
  cases text <;> trivial

namespace Interpreter

/-! ## What effects of children ask for -/

section Effects

variable {interpreter : Interpreter} {effect : Value}

theorem ofFailure_of_isOfChild {failure : Failure} (ofChild : Element.IsOfChild (.error failure)) :
    Demand.ofFailure failure = .fail failure := by
  cases failure with
  | raised => cases ofChild
  | _ => rfl

/-- What a child stands for does not depend on the body that yields it. -/
theorem demandOf_of_isOfChild (ofChild : Element.IsOfChild (.ok effect)) (tokens : List Token)
    (producer other : RoutineReference) (styles : StyleSet) (session : Session) :
    interpreter.demandOf tokens producer effect styles session
      = interpreter.demandOf tokens other effect styles session := by
  cases effect with
  | text | markup | element | style | routine => rfl
  | _ => exact ofChild.elim

theorem isQuiet_writeStyle (style : Style) (styles : StyleSet) (session : Session) :
    (interpreter.writeStyle style styles session).1.IsQuiet := by
  unfold writeStyle
  rcases Serializer.styleBlock styles style with ⟨_ | block, after⟩
  · exact True.intro
  · exact True.intro

theorem isQuiet_demandOf (ofChild : Element.IsOfChild (.ok effect)) (tokens : List Token)
    (producer : RoutineReference) (styles : StyleSet) (session : Session) :
    (interpreter.demandOf tokens producer effect styles session).1.IsQuiet := by
  cases effect with
  | text | markup =>
      unfold demandOf
      dsimp only
      exact Demand.isQuiet_ofText _
  | element | routine => trivial
  | style style => exact isQuiet_writeStyle style styles session
  | _ => cases ofChild

/-- A boundary of a tag does not depend on what is between the boundaries. -/
theorem demandOf_marker {node : Element} {role : MarkerRole} (isBoundary : role ≠ .unspecified)
    (tokens : List Token) (producer other : RoutineReference) (styles : StyleSet)
    (session : Session) :
    interpreter.demandOf tokens producer (node.marker role) styles session
      = interpreter.demandOf tokens other (.marker role node.type (.mapping node.attributes) .null)
          styles session := by
  cases role with
  | opening | closing => rfl
  | unspecified => exact (isBoundary rfl).elim

theorem isQuiet_marker {node : Element} {role : MarkerRole} (isBoundary : role ≠ .unspecified)
    (tokens : List Token) (producer : RoutineReference) (styles : StyleSet) (session : Session) :
    (interpreter.demandOf tokens producer (node.marker role) styles session).1.IsQuiet := by
  cases role with
  | opening | closing =>
      unfold Element.marker demandOf tagDemand
      dsimp only
      split
      · exact Demand.isQuiet_ofText _
      · trivial
  | unspecified => exact (isBoundary rfl).elim

end Effects

/-- A body has put another one before itself, which offers the first of its effects, and goes on with
the rest whatever is answered. -/
inductive Opens (library : Library) (session : Session) (body : RoutineReference)
    (styles : StyleSet) (hidden rest : List (Except Failure Value)) : Demanded → Prop
  | intro {inner : RoutineReference} {routine : Routine} {after : Session}
      (alone : ActsAlone body.index session after) (fresh : session.routines.size ≤ inner.index)
      (kind : inner.kind = .generator) (performs : after.Performs inner.index (.ok .null) routine)
      (offers : Offers library routine hidden)
      (goesOn : ∀ value, after.Performs body.index (.ok value) (.yieldAll rest)) :
      Opens library session body styles hidden rest (.nested inner none, styles, after)

variable {interpreter : Interpreter} {session before : Session} {body : RoutineReference}
  {styles : StyleSet} {effects hidden rest : List (Except Failure Value)} {reply : Reply}

theorem opens_addRoutine {library : Library} (alone : ActsAlone body.index session before)
    (goesOn : ∀ value, before.Performs body.index (.ok value) (.yieldAll rest)) (name : String)
    {routine : Routine} (offers : Offers library routine hidden) :
    Opens library session body styles hidden rest
      (opened styles (before.addRoutine .generator name routine)) := by
  refine .intro (alone.opens ..) alone.size_le rfl
    (.unstarted (routine?_addRoutine_self before .generator name routine)) offers fun value => ?_
  exact (goesOn value).of_eq
    (routine?_addRoutine_of_ne before .generator name routine (goesOn value).there.ne)

/-- A body that yields asks for its first effect. -/
theorem advance_performs (kind : body.kind = .generator)
    (performs : session.Performs body.index reply (.yieldAll effects)) (depth : Nat)
    (tokens : List Token) (styles : StyleSet) :
    ∃ after, interpreter.advance depth tokens body reply styles session
        = interpreter.demandAt tokens body styles (progressOf effects, after) ∧
      ActsAlone body.index session after ∧ after.YieldsOn body.index effects := by
  have counted : (session.withLiveFrames depth).Performs body.index reply (.yieldAll effects) :=
    performs.of_eq rfl
  rcases resume_performs interpreter.library counted with ⟨after, came, alone, goesOn⟩
  refine ⟨after, ?_, (ActsAlone.nothing.counts depth).trans alone, goesOn⟩
  unfold advance
  dsimp only
  rw [kind, if_neg (by decide), came]

/-- A body that is advanced runs in a session in which nothing but its own state has changed. -/
theorem exists_begun {routine : Routine} (kind : body.kind = .generator)
    (performs : session.Performs body.index reply routine) (depth : Nat) (tokens : List Token)
    (styles : StyleSet) :
    ∃ begun, ActsAlone body.index session begun ∧
      begun.routine? body.index = some ⟨.generator, .running⟩ ∧
      interpreter.advance depth tokens body reply styles session
        = interpreter.demandAt tokens body styles
            (run interpreter.library (resumeWithin interpreter.library 999) body.index .generator
              routine begun) := by
  have counted : (session.withLiveFrames depth).Performs body.index reply routine :=
    performs.of_eq rfl
  rcases counted.ready.exists_object with ⟨state, found⟩
  refine ⟨(session.withLiveFrames depth).setState body.index .running,
    (ActsAlone.nothing.counts depth).getsTo .running, routine?_setState_self found .running, ?_⟩
  unfold advance
  dsimp only
  rw [kind, if_neg (by decide), resume_of_isBefore interpreter.library counted.ready]

/-- An element that calls a wrapper opens the body of that wrapper. -/
theorem opens_calls (kind : body.kind = .generator) {identity : Nat} {name : String}
    {children : List Value}
    (found : interpreter.library.find? (Component.passThrough name).reference
      = some (Component.passThrough name))
    (performs : session.Performs body.index reply
      (Element.mk identity (.component (Component.passThrough name).reference) [] children).body)
    (depth : Nat) (tokens : List Token) (styles : StyleSet) :
    Opens interpreter.library session body styles (Element.effectsOf (Value.leavesOf children)) []
      (interpreter.advance depth tokens body reply styles session) := by
  rcases @exists_begun interpreter _ _ _ _ kind performs depth tokens styles with
    ⟨begun, started, running, advanced⟩
  have came := Component.expand_passThrough found (resumeWithin interpreter.library 999) children
    begun
  have calls : ∃ next, (Element.mk identity (.component (Component.passThrough name).reference) []
        children).body
      = .act (.expand (.component (Component.passThrough name).reference) [] children) next ∧
      ∀ result, next (.ok result) = .yieldAll [.ok result] := ⟨_, rfl, fun _ => rfl⟩
  rcases calls with ⟨next, calls, yields⟩
  rw [advanced, calls, run, carryOut, came]
  dsimp only
  rw [yields]
  have there := (Array.getElem?_eq_some_iff.mp running).1
  have offered : Offers interpreter.library _ _ := .passes name children
  generalize (Component.passThrough name).body [(childrenKey, .list children)] = routine at offered
  have still := (routine?_addRoutine_of_ne begun .generator name routine there.ne).trans running
  have made := routine?_addRoutine_self begun .generator name routine
  refine .intro ((started.opens ..).getsTo _) started.size_le rfl ?_ offered fun value => ?_
  · have other := routine?_setState_of_ne (begun.addRoutine .generator name routine).2 there.ne'
    exact .unstarted ((other _).trans made)
  · exact .yielded still [] value

/-- The body of a wrapper opens a fragment of its children. -/
theorem opens_passes (kind : body.kind = .generator) {name : String} {children : List Value}
    (performs : session.Performs body.index reply
      ((Component.passThrough name).body [(childrenKey, .list children)]))
    (depth : Nat) (tokens : List Token) (styles : StyleSet) :
    Opens interpreter.library session body styles (Element.effectsOf (Value.leavesOf children)) []
      (interpreter.advance depth tokens body reply styles session) := by
  rcases @exists_begun interpreter _ _ _ _ kind performs depth tokens styles with
    ⟨begun, started, running, advanced⟩
  rcases Component.exists_passThrough name [(childrenKey, .list children)] with
    ⟨onward, nexts, given, opens, _, ends⟩
  have starts : (Component.passThrough name).body [(childrenKey, .list children)]
      = .reserve 1 fun identity => .suspend (.effect (.element identity .fragment []
          [.list children])) (nexts (.list children) identity) :=
    given.trans (opens (.list children))
  have goesOn := ends (.list children)
  generalize nexts (.list children) = next at starts goesOn
  rw [advanced, starts, run, run]
  have offered : Offers interpreter.library
      (Element.mk begun.nextIdentity .fragment [] [.list children]).body
      (Element.effectsOf (Value.leavesOf children)) := by
    have body := Element.body_eq_yieldAll
      (Element.mk begun.nextIdentity .fragment [] [.list children]) rfl
    have effects : (Element.mk begun.nextIdentity .fragment [] [.list children]).allEffects
        = Element.effectsOf (Value.leavesOf children) :=
      congrArg Element.effectsOf (Value.leavesOf_singleton (.list children))
    rw [body, effects]
    exact .yields _
  have still : Session.routine? { begun with nextIdentity := begun.nextIdentity + 1 } body.index
      = some ⟨.generator, .running⟩ := running
  have found := routine?_setState_self still (.suspended (next begun.nextIdentity))
  refine opens_addRoutine ((started.makes 1).getsTo _) (fun value => ?_) "element" offered
  have performs := Performs.suspended found (goesOn _).2 (.ok value)
  rwa [(goesOn _).1] at performs

/-- A body that stands around wrapped children, and does not yield their effects itself, opens one that
does. -/
theorem opens_of_offers {routine : Routine} (kind : body.kind = .generator)
    (performs : session.Performs body.index reply routine)
    (offers : Offers interpreter.library routine effects) (depth : Nat) (tokens : List Token)
    (styles : StyleSet) :
    routine = .yieldAll effects ∨
      Opens interpreter.library session body styles effects []
        (interpreter.advance depth tokens body reply styles session) := by
  cases offers with
  | yields => exact .inl rfl
  | calls identity name children found =>
      exact .inr (opens_calls kind found performs depth tokens styles)
  | passes name children => exact .inr (opens_passes kind performs depth tokens styles)

/-! ## Bodies side by side -/

/-- Two bodies of corresponding sessions, of which the first yields some effects. The second one offers
the same, wrappers unfolded, up to where some more begin that others offer. -/
structure Accompanies (library : Library) (base pairing : Pairing) (left right : Session)
    (body twin : RoutineReference) (reply answer : Reply) (more : List (Except Failure Value)) :
    Prop where
  tandem : InTandem base pairing left right body.index twin.index
  kind : body.kind = .generator
  twinKind : twin.kind = .generator
  unfolds : ∃ effects routine inner, left.Performs body.index reply (.yieldAll effects) ∧
    right.Performs twin.index answer routine ∧ Offers library routine inner ∧
    Unfolds pairing library effects (inner ++ more)

variable {library : Library} {base pairing later : Pairing} {left right leftAfter rightAfter : Session}
  {twin : RoutineReference} {answer : Reply} {more : List (Except Failure Value)}

/-- Others have gone on. -/
theorem Accompanies.grows {first second : Nat}
    (together : Accompanies library base pairing left right body twin reply answer more)
    (grows : GrowsBeside first second pairing left right later leftAfter rightAfter)
    (same : Corresponds base later leftAfter rightAfter) (leftOther : body.index ≠ first)
    (rightOther : twin.index ≠ second) :
    Accompanies library base later leftAfter rightAfter body twin reply answer more := by
  rcases together with ⟨tandem, kind, twinKind, effects, routine, inner, performs, twinPerforms, offers,
    unfolds⟩
  exact ⟨tandem.grows grows same, kind, twinKind, effects, routine, inner,
    performs.of_eq (grows.keepsLeft tandem.leftThere leftOther tandem.leftSingle),
    twinPerforms.of_eq (grows.keepsRight tandem.rightThere rightOther tandem.rightSingle), offers,
    unfolds.extend grows.extend⟩

theorem Accompanies.isClosable
    (together : Accompanies library base pairing left right body twin reply answer more) :
    left.IsClosable body.index ∧ right.IsClosable twin.index := by
  rcases together.unfolds with ⟨_, _, _, performs, twinPerforms, _, _⟩
  exact ⟨performs.closable, twinPerforms.closable⟩

/-- Both bodies have come to where they are answered. -/
structure Onward (library : Library) (base pairing : Pairing) (left right : Session)
    (body twin : RoutineReference) (more : List (Except Failure Value)) (later : Pairing)
    (leftAfter rightAfter : Session) (styles written : StyleSet) : Prop where
  grows : GrowsBeside body.index twin.index pairing left right later leftAfter rightAfter
  related : later.Relates styles written
  goesOn : ∀ value other,
    Accompanies library base later leftAfter rightAfter body twin (.ok value) (.ok other) more

/-- What two bodies do next that accompany each other. Unless the second one opens a wrapper or has
come to its end, both ask for the same. -/
inductive Meets (interpreter : Interpreter) (base pairing : Pairing) (left right : Session)
    (depth deeper : Nat) (tokens others : List Token) (body twin : RoutineReference)
    (reply answer : Reply) (styles written : StyleSet) (more : List (Except Failure Value)) : Prop
  | writes {text : String} {later : Pairing} {leftAfter rightAfter : Session} {next wrote : StyleSet}
      (asked : interpreter.advance depth tokens body reply styles left
        = (.write text, next, leftAfter))
      (offered : interpreter.advance deeper others twin answer written right
        = (.write text, wrote, rightAfter))
      (onward : Onward interpreter.library base pairing left right body twin more later leftAfter
        rightAfter next wrote)
  | goesOn {value other : Value} {later : Pairing} {leftAfter rightAfter : Session}
      {next wrote : StyleSet}
      (asked : interpreter.advance depth tokens body reply styles left
        = (.goOn (.ok value), next, leftAfter))
      (offered : interpreter.advance deeper others twin answer written right
        = (.goOn (.ok other), wrote, rightAfter))
      (onward : Onward interpreter.library base pairing left right body twin more later leftAfter
        rightAfter next wrote)
  | nests {first second : RoutineReference} {token? twin? : Option Token} {later : Pairing}
      {leftAfter rightAfter : Session} {next wrote : StyleSet}
      (asked : interpreter.advance depth tokens body reply styles left
        = (.nested first token?, next, leftAfter))
      (offered : interpreter.advance deeper others twin answer written right
        = (.nested second twin?, wrote, rightAfter))
      (onward : Onward interpreter.library base pairing left right body twin more later leftAfter
        rightAfter next wrote)
      (frames : later.RelatesFrame (.of first token?) (.of second twin?))
  | enters {first second : RoutineReference} {later : Pairing} {leftAfter rightAfter : Session}
      {next wrote : StyleSet}
      (asked : interpreter.advance depth tokens body reply styles left
        = (.nested first none, next, leftAfter))
      (offered : interpreter.advance deeper others twin answer written right
        = (.nested second none, wrote, rightAfter))
      (onward : Onward interpreter.library base pairing left right body twin more later leftAfter
        rightAfter next wrote)
      (leftFresh : left.routines.size ≤ first.index)
      (rightFresh : right.routines.size ≤ second.index)
      (within : Accompanies interpreter.library base later leftAfter rightAfter first second
        (.ok .null) (.ok .null) [])
  | opens {inner : RoutineReference} {after : Session} {rest : List (Except Failure Value)}
      (offered : interpreter.advance deeper others twin answer written right
        = (.nested inner none, written, after))
      (alone : ActsAlone twin.index right after) (fresh : right.routines.size ≤ inner.index)
      (within : Accompanies interpreter.library base pairing left after body inner reply (.ok .null)
        (rest ++ more))
      (goesOn : ∀ value, after.Performs twin.index (.ok value) (.yieldAll rest))
  | ends {after : Session} {effects : List (Except Failure Value)}
      (offered : interpreter.advance deeper others twin answer written right
        = (.finish .null, written, after))
      (alone : ActsAlone twin.index right after)
      (performs : left.Performs body.index reply (.yieldAll effects))
      (unfolds : Unfolds pairing interpreter.library effects more)
  | fails {failure other : Failure} {later : Pairing} {leftAfter rightAfter : Session}
      {next wrote : StyleSet}
      (asked : interpreter.advance depth tokens body reply styles left
        = (.fail failure, next, leftAfter))
      (offered : interpreter.advance deeper others twin answer written right
        = (.fail other, wrote, rightAfter))
      (grows : GrowsBeside body.index twin.index pairing left right later leftAfter rightAfter)
      (same : Corresponds base later leftAfter rightAfter)
      (related : later.Relates (Ending.failed failure, next) (.failed other, wrote))
      (closable : leftAfter.IsClosable body.index ∧ rightAfter.IsClosable twin.index)

variable {depth deeper : Nat} {tokens others : List Token} {written : StyleSet}

/-- The second body opens a wrapper. -/
theorem meets_of_opens (tandem : InTandem base pairing left right body.index twin.index)
    (kind : body.kind = .generator) (performs : left.Performs body.index reply (.yieldAll effects))
    (unfolds : Unfolds pairing interpreter.library effects (hidden ++ (rest ++ more)))
    (opens : Opens interpreter.library right twin written hidden rest
      (interpreter.advance deeper others twin answer written right)) :
    Meets interpreter base pairing left right depth deeper tokens others body twin reply answer styles
      written more := by
  generalize offered : interpreter.advance deeper others twin answer written right = demanded at opens
  cases opens with
  | @intro inner routine after alone fresh innerKind innerPerforms offers goesOn =>
      have after := tandem.alone .nothing alone
      refine .opens offered alone fresh ⟨?_, kind, innerKind, effects, routine, hidden, performs,
        innerPerforms, offers, unfolds⟩ goesOn
      exact {
        same := after.same
        leftThere := tandem.leftThere
        rightThere := innerPerforms.there
        leftSingle := tandem.leftSingle
        rightSingle := fun index paired =>
          absurd (tandem.same.routine_lt paired).2 (Nat.not_lt.mpr fresh) }

/-- Both bodies have yielded the same. -/
theorem meets_of_inDemand {mine yours : Demanded}
    (asked : interpreter.advance depth tokens body reply styles left = mine)
    (offered : interpreter.advance deeper others twin answer written right = yours)
    (grows : GrowsBeside body.index twin.index pairing left right pairing leftAfter rightAfter)
    (goesOn : ∀ value other, Accompanies interpreter.library base pairing leftAfter rightAfter body
      twin (.ok value) (.ok other) more)
    (step : InDemand base pairing leftAfter rightAfter mine yours) (quiet : mine.1.IsQuiet) :
    Meets interpreter base pairing left right depth deeper tokens others body twin reply answer styles
      written more := by
  rcases yours with ⟨demand, wrote, rightLast⟩
  rcases step.exists with ⟨later, wanted, next, leftLast, rfl, steps, same, demands, related⟩
  have grown : GrowsBeside body.index twin.index pairing left right later leftLast rightLast :=
    grows.trans (.of_grows steps) (.inl rfl) (.inl rfl)
  have onward (value other : Value) :
      Accompanies interpreter.library base later leftLast rightLast body twin (.ok value) (.ok other)
        more := by
    have together := goesOn value other
    have beside : GrowsBeside leftAfter.routines.size rightAfter.routines.size pairing leftAfter
        rightAfter later leftLast rightLast := .of_grows steps
    exact together.grows beside same together.tandem.leftThere.ne together.tandem.rightThere.ne
  have both := Onward.mk grown related onward
  cases demands with
  | write text => exact .writes asked offered both
  | @goOn answered other replies =>
      rcases same.inhabited with ⟨numbers, allows⟩
      cases answered with
      | ok value =>
          cases replies.equal allows
          exact .goesOn asked offered both
      | error failure => exact quiet.elim
  | nested bodies provided => exact .nests asked offered both ⟨bodies, provided⟩
  | finish values => exact quiet.elim
  | fail failures =>
      exact .fails asked offered grown same
        (Pairing.relates_pair (.map isUniform_failedEnding failures) related)
        (onward .null .null).isClosable

/-- Both bodies have yielded an element, of which the second has wrappers inside. -/
theorem meets_of_elements {effects inner : List (Except Failure Value)} {name : String}
    (asked : interpreter.advance depth tokens body reply styles left
      = opened styles (leftAfter.addRoutine .generator name (.yieldAll effects)))
    (offered : interpreter.advance deeper others twin answer written right
      = opened written (rightAfter.addRoutine .generator name (.yieldAll inner)))
    (grows : GrowsBeside body.index twin.index pairing left right pairing leftAfter rightAfter)
    (goesOn : ∀ value other, Accompanies interpreter.library base pairing leftAfter rightAfter body
      twin (.ok value) (.ok other) more)
    (inside : Unfolds pairing interpreter.library effects inner)
    (related : pairing.Relates styles written) :
    Meets interpreter base pairing left right depth deeper tokens others body twin reply answer styles
      written more := by
  have tandem := (goesOn .null .null).tandem
  have leftOpened (index : Nat) : ActsAlone index leftAfter
      (leftAfter.addRoutine .generator name (.yieldAll effects)).2 := .opens .nothing ..
  have rightOpened (index : Nat) : ActsAlone index rightAfter
      (rightAfter.addRoutine .generator name (.yieldAll inner)).2 := .opens .nothing ..
  have after := tandem.alone (leftOpened _) (rightOpened _)
  have begun := Performs.unstarted
    (routine?_addRoutine_self leftAfter .generator name (.yieldAll effects))
  have twinBegun := Performs.unstarted
    (routine?_addRoutine_self rightAfter .generator name (.yieldAll inner))
  have singles := tandem.same.not_paired_size
  have grown := grows.trans (.of_alone (leftOpened _) (rightOpened _)) (.inl rfl) (.inl rfl)
  refine .enters asked offered ⟨grown, related, fun value other => ?_⟩ grows.leftSize
    grows.rightSize ?_
  · exact (goesOn value other).grows (.of_alone (leftOpened _) (rightOpened _)) after.same
      tandem.leftThere.ne tandem.rightThere.ne
  · rw [← inner.append_nil] at inside
    exact ⟨⟨after.same, begun.there, twinBegun.there, singles.1, singles.2⟩, rfl, rfl,
      effects, _, inner, begun, twinBegun, .yields inner, inside⟩

/-- Two bodies that both yield. What they do next is settled by the first effect that the second one
has left, and by what the first one yields for it. -/
theorem meets_of_yields (blind : interpreter.IsBlind base) {inner : List (Except Failure Value)}
    (tandem : InTandem base pairing left right body.index twin.index)
    (kind : body.kind = .generator) (twinKind : twin.kind = .generator)
    (performs : left.Performs body.index reply (.yieldAll effects))
    (twinPerforms : right.Performs twin.index answer (.yieldAll inner))
    (unfolds : Unfolds pairing interpreter.library effects (inner ++ more))
    (depth deeper : Nat) (provided : pairing.Relates tokens others)
    (related : pairing.Relates styles written) :
    Meets interpreter base pairing left right depth deeper tokens others body twin reply answer styles
      written more := by
  rcases @advance_performs interpreter _ _ _ _ twinKind twinPerforms deeper others written with
    ⟨rightAfter, offered, aloneRight, rightRest⟩
  rcases @advance_performs interpreter _ _ _ _ kind performs depth tokens styles with
    ⟨leftAfter, asked, aloneLeft, leftRest⟩
  have grows : GrowsBeside body.index twin.index pairing left right pairing leftAfter rightAfter :=
    .of_alone aloneLeft aloneRight
  have after := tandem.alone aloneLeft aloneRight
  have goesOn {rest kept : List (Except Failure Value)}
      (leftRest : ∀ value, leftAfter.Performs body.index (.ok value) (.yieldAll rest))
      (rightRest : ∀ value, rightAfter.Performs twin.index (.ok value) (.yieldAll kept))
      (unfolds : Unfolds pairing interpreter.library rest (kept ++ more)) (value other : Value) :
      Accompanies interpreter.library base pairing leftAfter rightAfter body twin (.ok value)
        (.ok other) more :=
    ⟨after, kind, twinKind, rest, _, kept, leftRest value, rightRest other, .yields kept, unfolds⟩
  cases inner with
  | nil => exact .ends offered aloneRight performs unfolds
  | cons head kept =>
      rw [List.cons_append] at unfolds
      cases unfolds with
      | @fails failure other _ _ ofChild failures =>
          have unraised := Element.isOfChild_of_relates after.same.inhabited ofChild failures
          exact .fails (asked.trans (congrArg (·, styles, leftAfter) (ofFailure_of_isOfChild ofChild)))
            (offered.trans (congrArg (·, written, rightAfter) (ofFailure_of_isOfChild unraised)))
            grows after.same (Pairing.relates_pair (.map isUniform_failedEnding failures) related)
            ⟨leftRest, rightRest⟩
      | same ofChild effects later =>
          have independent := @demandOf_of_isOfChild interpreter _ ofChild tokens body twin styles
            leftAfter
          exact meets_of_inDemand (asked.trans independent) offered grows
            (goesOn leftRest rightRest later)
            (inDemand_demandOf after.same blind provided rfl effects related)
            (isQuiet_demandOf ofChild ..)
      | @marker node twinNode role rest _ isBoundary tag type attributes later =>
          have mine := @demandOf_marker interpreter node role isBoundary tokens body twin styles
            leftAfter
          have yours := @demandOf_marker interpreter twinNode role isBoundary others twin twin written
            rightAfter
          have effects := Element.relates_marker tag type attributes role
          exact meets_of_inDemand (asked.trans mine) (offered.trans yours) grows
            (goesOn leftRest rightRest later)
            (inDemand_demandOf after.same blind provided rfl effects related)
            (mine ▸ isQuiet_marker isBoundary ..)
      | @element node twinNode rest _ tag type inside later =>
          have plain : node.type.isCallable = false := Value.isCallable_of_isTagType tag
          have mine := node.body_eq_yieldAll plain
          have yours := twinNode.body_eq_yieldAll (type ▸ plain)
          have wanted : interpreter.advance depth tokens body reply styles left
              = opened styles (leftAfter.addRoutine .generator "element" node.body) := asked
          have given : interpreter.advance deeper others twin answer written right
              = opened written (rightAfter.addRoutine .generator "element" twinNode.body) := offered
          rw [mine] at wanted
          rw [yours] at given
          exact meets_of_elements wanted given grows (goesOn leftRest rightRest later) inside related
      | @fragment twinNode _ _ isFragment later =>
          have given : interpreter.advance deeper others twin answer written right
              = opened written (rightAfter.addRoutine .generator "element" twinNode.body) := offered
          have plain : twinNode.type.isCallable = false := isFragment ▸ rfl
          have opens : Opens interpreter.library right twin written twinNode.allEffects kept _ :=
            opens_addRoutine aloneRight rightRest "element" (.yields twinNode.allEffects)
          rw [← twinNode.body_eq_yieldAll plain, ← given] at opens
          exact meets_of_opens tandem kind performs later opens
      | @component identity name children _ _ found later =>
          have opens : Opens interpreter.library right twin written
              (Element.effectsOf (Value.leavesOf children)) kept _ :=
            opens_addRoutine aloneRight rightRest "element" (.calls identity name children found)
          rw [← (show _ = opened written _ from offered)] at opens
          exact meets_of_opens tandem kind performs later opens

/-- What two bodies do next that accompany each other. -/
theorem Accompanies.meets (blind : interpreter.IsBlind base)
    (together : Accompanies interpreter.library base pairing left right body twin reply answer more)
    (depth deeper : Nat) (provided : pairing.Relates tokens others)
    (related : pairing.Relates styles written) :
    Meets interpreter base pairing left right depth deeper tokens others body twin reply answer styles
      written more := by
  rcases together with ⟨tandem, kind, twinKind, effects, routine, inner, performs, twinPerforms, offers,
    unfolds⟩
  rcases opens_of_offers twinKind twinPerforms offers deeper others written with rfl | opens
  · exact meets_of_yields blind tandem kind twinKind performs twinPerforms unfolds depth deeper provided
      related
  · have unfolded : Unfolds pairing interpreter.library effects (inner ++ ([] ++ more)) := unfolds
    exact meets_of_opens tandem kind performs unfolded opens

end Interpreter
end HtmlStream

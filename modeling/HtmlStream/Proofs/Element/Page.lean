import HtmlStream.Proofs.Element.Account
import HtmlStream.Proofs.Element.Flattening
import HtmlStream.Proofs.Element.Tag
import HtmlStream.Proofs.Renderer.Nesting
import HtmlStream.Proofs.Routine.Yielding

/-!
Interpreting an element gives its page. The induction is on how many frames an element needs; inside
one element it is on the leaves among its children. A body that is interpreted later never disturbs
one that waits for its result.
-/
namespace HtmlStream

/-- Tags and fragments only yield. -/
theorem Element.body_of_isTagType {node : Element} (tag : node.type.isTagType = true) :
    node.body = .yieldAll node.effects := by
  rcases node with ⟨identity, type, attributes, children⟩
  cases type with
  | text | markup | fragment => rfl
  | _ => cases tag

namespace Interpreter

variable (interpreter : Interpreter)

/-- Interpreting a body comes to its end with an account of some pieces. The body can be closed
then, and others are as they were. -/
def Completes (depth : Nat) (tokens : List Token) (body : RoutineReference) (styles : StyleSet)
    (session : Session) (written : List Nat) (pieces : Except Fault (List PagePiece)) : Prop :=
  ∃ account, interpreter.interpret depth tokens body (.ok .null) styles session = some account ∧
    account.IsOf written pieces ∧ session.KeepsBeside body.index account.session ∧
    account.session.IsClosable body.index

/-- The same of a frame that comes first. Bodies are as they were before its own was made. -/
def CompletesNested (depth : Nat) (tokens : List Token) (frame : Frame) (styles : StyleSet)
    (before session : Session) (written : List Nat) (pieces : Except Fault (List PagePiece)) :
    Prop :=
  ∃ account, interpreter.interpretNested depth tokens frame styles session = some account ∧
    account.IsOf written pieces ∧ before.Keeps account.session

variable {interpreter} {depth : Nat} {tokens : List Token} {body : RoutineReference}
  {styles next : StyleSet} {session after : Session} {written : List Nat}
  {first rest : Except Fault (List PagePiece)}

/-- A body that goes on after it has written something, or after nothing. -/
theorem Completes.after_text {text : String} {pieces : List PagePiece} {between : List Nat}
    (completes : interpreter.Completes depth tokens body next after between rest)
    (interpreted : interpreter.interpret depth tokens body (.ok .null) styles session
      = (interpreter.interpret depth tokens body (.ok .null) next after).map
          (Account.after · (piecesOf text)))
    (writes : PagePiece.Writes written pieces text between)
    (keeps : session.KeepsBeside body.index after) :
    interpreter.Completes depth tokens body styles session written
      (PagePiece.inOrder (.ok pieces) rest) := by
  rcases completes with ⟨account, found, isOf, kept, closable⟩
  refine ⟨account.after (piecesOf text), ?_, ?_, keeps.trans kept, closable⟩
  · rw [interpreted, found]
    rfl
  · exact isOf.after (by rw [join_piecesOf]; exact writes)

theorem Completes.of_write {text : String} {pieces : List PagePiece} {between : List Nat}
    (completes : interpreter.Completes depth tokens body next after between rest)
    (demanded : interpreter.advance depth tokens body (.ok .null) styles session
      = (.write text, next, after))
    (writes : PagePiece.Writes written pieces text between)
    (keeps : session.KeepsBeside body.index after) :
    interpreter.Completes depth tokens body styles session written
      (PagePiece.inOrder (.ok pieces) rest) := by
  refine completes.after_text ?_ writes keeps
  rw [interpret.eq_1, demanded]
  exact Option.map_eq_bind.symm

theorem Completes.of_skip {pieces : List PagePiece} {between : List Nat}
    (completes : interpreter.Completes depth tokens body next after between rest)
    (demanded : interpreter.advance depth tokens body (.ok .null) styles session
      = (.skip, next, after))
    (writes : PagePiece.Writes written pieces "" between)
    (keeps : session.KeepsBeside body.index after) :
    interpreter.Completes depth tokens body styles session written
      (PagePiece.inOrder (.ok pieces) rest) := by
  refine completes.after_text ?_ writes keeps
  rw [interpret.eq_1, demanded]
  exact Option.map_id'.symm

theorem completes_of_finish
    (demanded : interpreter.advance depth tokens body (.ok .null) styles session
      = (.finish .null, next, after))
    (records : next.Records written) (keeps : session.KeepsBeside body.index after)
    (closable : after.IsClosable body.index) :
    interpreter.Completes depth tokens body styles session written (.ok []) := by
  refine ⟨⟨[], .returned .null, next, after⟩, ?_, ⟨rfl, rfl, records⟩, keeps, closable⟩
  rw [interpret.eq_1, demanded]

theorem completes_of_fail {fault : Fault}
    (demanded : interpreter.advance depth tokens body (.ok .null) styles session
      = (.fail (.fault fault), next, after))
    (keeps : session.KeepsBeside body.index after) (closable : after.IsClosable body.index) :
    interpreter.Completes depth tokens body styles session written (.error fault) := by
  refine ⟨⟨[], .failed (.fault fault), next, after⟩, ?_, rfl, keeps, closable⟩
  rw [interpret.eq_1, demanded]

/-! ## Bodies inside others -/

theorem exists_leave {frame : Frame} {account : Account} {pieces : Except Fault (List PagePiece)}
    (isOf : account.IsOf written pieces) (generator : frame.routine.kind = .generator)
    (closable : account.session.IsClosable frame.routine.index) :
    (interpreter.leave depth frame account).IsOf written pieces ∧
      account.session.KeepsBeside frame.routine.index
        (interpreter.leave depth frame account).session := by
  have left : ((account.session.leaveFrame interpreter.context frame).withLiveFrames
      depth).routines = account.session.routines :=
    account.session.routines_leaveFrame interpreter.context frame
  cases pieces with
  | ok pieces =>
      rw [leave_of_returned isOf.1]
      exact ⟨isOf, (Session.Keeps.of_routines_eq left).beside⟩
  | error fault =>
      rcases Session.closeRoutine_of_isClosable interpreter.library
        (closable.keeps (.of_routines_eq left)) with ⟨closed, equal, keeps⟩
      have closing := (Session.closeFrame_of_generator _ generator _).trans equal
      rw [leave_of_closed isOf closing]
      exact ⟨isOf, (Session.Keeps.of_routines_eq left).beside.trans keeps⟩

theorem Completes.nested {frame : Frame} {pieces : Except Fault (List PagePiece)}
    (completes : interpreter.Completes (depth + 1) (frame.token?.toList ++ tokens) frame.routine
      styles (session.enterFrame interpreter.context frame) written pieces)
    (room : depth < interpreter.settings.maxDepth) (generator : frame.routine.kind = .generator)
    {before : Session} (fresh : ∀ after, session.KeepsBeside frame.routine.index after →
      before.Keeps after) :
    interpreter.CompletesNested depth tokens frame styles before session written pieces := by
  rcases completes with ⟨account, found, isOf, keeps, closable⟩
  rcases exists_leave isOf generator closable with ⟨left, kept⟩
  refine ⟨_, interpretNested_of_room room found, left, fresh _ ?_⟩
  exact (Session.Keeps.of_routines_eq
    (session.routines_enterFrame interpreter.context frame)).beside.trans (keeps.trans kept)

/-- A body goes on after one inside it, unless that one failed. -/
theorem completes_of_nested {inner : RoutineReference} {between : Session}
    {effects : List (Except Failure Value)}
    (demanded : interpreter.advance depth tokens body (.ok .null) styles session
      = (.nested inner none, next, after))
    (nested : interpreter.CompletesNested depth tokens (.of inner none) next between after written
      first)
    (keeps : session.KeepsBeside body.index between) (yields : between.Yields body.index effects)
    (goesOn : ∀ pieces styles session, first = .ok pieces →
      styles.Records (PagePiece.writtenAfter written pieces) →
      session.Yields body.index effects →
      interpreter.Completes depth tokens body styles session
        (PagePiece.writtenAfter written pieces) rest) :
    interpreter.Completes depth tokens body styles session written
      (PagePiece.inOrder first rest) := by
  rcases nested with ⟨account, found, isOf, kept⟩
  have still := yields.keeps kept
  cases first with
  | ok pieces =>
      rcases isOf with ⟨returned, joined, records⟩
      rcases goesOn pieces _ _ rfl records still
        with ⟨later, foundLater, isOfLater, keptLater, closable⟩
      refine ⟨_, interpret_of_nested_returned demanded found returned foundLater, ?_,
        (keeps.trans kept.beside).trans keptLater, closable⟩
      exact isOfLater.after (by rw [joined]; exact PagePiece.writes_textOf written pieces)
  | error fault =>
      have failed : ∀ value, account.ending ≠ .returned value :=
        fun value returned => Ending.noConfusion (isOf.symm.trans returned)
      exact ⟨_, interpret_of_nested_failed demanded found failed, isOf, keeps.trans kept.beside,
        still.isClosable⟩

/-! ## Bodies that yield -/

theorem advance_of_generator (generator : body.kind = .generator) :
    interpreter.advance depth tokens body (.ok .null) styles session
      = interpreter.demandAt tokens body styles
          ((session.withLiveFrames depth).resume interpreter.library body.index (.ok .null)) :=
  if_neg (by rw [generator]; exact nofun)

theorem advance_yields (generator : body.kind = .generator) (depth : Nat) (tokens : List Token)
    (styles : StyleSet) {effects : List (Except Failure Value)}
    (yields : session.Yields body.index effects) :
    ∃ after, interpreter.advance depth tokens body (.ok .null) styles session
        = interpreter.demandAt tokens body styles (Session.progressOf effects, after) ∧
      session.KeepsBeside body.index after ∧ after.YieldsRest body.index effects := by
  have noted : session.Keeps (session.withLiveFrames depth) := .of_routines_eq rfl
  rcases Session.resume_yields interpreter.library (yields.keeps noted)
    with ⟨after, resumed, keeps, left⟩
  refine ⟨after, ?_, noted.beside.trans keeps, left⟩
  rw [advance_of_generator generator, resumed]

/-! ## The leaves among the children -/

inductive LeafEffect (interpreter : Interpreter) (leaf : Value) : Prop
  | silent (pieces : List PagePiece) (effect : leaf.childEffect = .ok none)
      (page : leaf.page interpreter.settings.autoescape = .ok pieces)
      (silent : ∀ written, PagePiece.Writes written pieces "" written)
  | text (effect : Value) (content : String) (effective : leaf.childEffect = .ok (some effect))
      (page : leaf.page interpreter.settings.autoescape = .ok [.text content])
      (demanded : ∀ tokens producer styles session,
        interpreter.demandOf tokens producer effect styles session
          = (.write content, styles, session))
  | style (sheet : Style) (equal : leaf = .style sheet)
  | element (identity : Nat) (type : Value) (attributes : Entries) (children : List Value)
      (equal : leaf = .element identity type attributes children)
  | failing (fault : Fault) (effect : leaf.childEffect = .error (.fault fault))
      (page : leaf.page interpreter.settings.autoescape = .error fault)

theorem writes_empty (autoescape : Bool) (written : List Nat) :
    PagePiece.Writes written [.text (Value.pageText autoescape "")] "" written := by
  have empty : Value.pageText autoescape "" = "" := by cases autoescape <;> rfl
  rw [empty]
  exact PagePiece.writes_text ""

theorem demandOf_text (content : String) (tokens : List Token) (producer : RoutineReference)
    (styles : StyleSet) (session : Session) :
    interpreter.demandOf tokens producer (.text content) styles session
      = (.write (Value.pageText interpreter.settings.autoescape content), styles, session) := rfl

theorem leafEffect_of_text {leaf : Value} (content : String)
    (effective : leaf.childEffect = .ok (some (.text content)))
    (page : leaf.page interpreter.settings.autoescape
      = .ok [.text (Value.pageText interpreter.settings.autoescape content)]) :
    LeafEffect interpreter leaf :=
  .text _ _ effective page (demandOf_text content)

theorem leafEffect_of_markup {leaf : Value} (content : String)
    (effect : leaf.childEffect = .ok (Value.markupEffect content))
    (page : leaf.page interpreter.settings.autoescape = .ok [.text content]) :
    LeafEffect interpreter leaf := by
  unfold Value.markupEffect at effect
  by_cases empty : content.isEmpty
  · rw [if_pos empty] at effect
    rw [String.isEmpty_iff.mp empty] at page
    exact .silent _ effect page fun written => PagePiece.writes_text ""
  · rw [if_neg empty] at effect
    exact .text _ content effect page fun _ _ _ _ => rfl

theorem leafEffect_of_isLeaf {leaf : Value} (isLeaf : leaf.items? = none) (tree : leaf.isTree) :
    LeafEffect interpreter leaf := by
  cases leaf with
  | null | boolean value => exact .silent [] rfl rfl fun _ => PagePiece.writes_nil
  | integer value =>
      by_cases short : (Value.integer value).isWritable
      · have written : (Value.integer value).written = .ok (Value.integer value).toText := if_pos short
        apply leafEffect_of_text (Value.integer value).toText
        · rw [Value.childEffect, written]
          rfl
        · rw [Value.page, written]
          rfl
      · have unwritten : (Value.integer value).written = .error .integerTooLong := if_neg short
        apply LeafEffect.failing .integerTooLong
        · rw [Value.childEffect, unwritten]
          rfl
        · rw [Value.page, unwritten]
          rfl
  | float value => exact leafEffect_of_text _ rfl rfl
  | notANumber identity => exact leafEffect_of_text _ rfl rfl
  | text content =>
      by_cases empty : content.isEmpty
      · have effect : (Value.text content).childEffect = .ok none :=
          congrArg Except.ok (if_pos empty)
        rw [String.isEmpty_iff.mp empty] at effect ⊢
        exact .silent _ effect rfl (writes_empty _)
      · exact leafEffect_of_text content (congrArg Except.ok (if_neg empty)) rfl
  | markup content => exact leafEffect_of_markup content rfl rfl
  | safe identity content => exact leafEffect_of_markup content rfl rfl
  | style sheet => exact .style sheet rfl
  | element identity type attributes children => exact .element _ _ _ _ rfl
  | list | tuple => cases isLeaf
  | _ => cases tree

theorem Completes.of_silent {pieces : List PagePiece}
    (completes : interpreter.Completes depth tokens body styles session written rest)
    (silent : PagePiece.Writes written pieces "" written) :
    interpreter.Completes depth tokens body styles session written
      (PagePiece.inOrder (.ok pieces) rest) := by
  rcases completes with ⟨account, found, isOf, keeps, closable⟩
  have silently : (account.after []).IsOf written (PagePiece.inOrder (.ok pieces) rest) :=
    isOf.after silent
  exact ⟨account, found, silently, keeps, closable⟩

theorem completes_style (generator : body.kind = .generator) {sheet : Style}
    {effects : List (Except Failure Value)} (records : styles.Records written)
    (yields : session.Yields body.index (.ok (.style sheet) :: effects))
    (goesOn : ∀ styles session written, styles.Records written →
      session.Yields body.index effects →
      interpreter.Completes depth tokens body styles session written rest) :
    interpreter.Completes depth tokens body styles session written
      (PagePiece.inOrder (.ok [.style sheet]) rest) := by
  rcases advance_yields generator depth tokens styles yields with ⟨after, demanded, keeps, yields⟩
  replace demanded : interpreter.advance depth tokens body (.ok .null) styles session
      = interpreter.writeStyle sheet styles after := demanded
  unfold writeStyle at demanded
  by_cases again : sheet.identity ∈ written
  · rw [records.styleBlock_again again] at demanded
    exact (goesOn styles after written records yields).of_skip demanded
      (PagePiece.writes_style_again again) keeps
  · rw [records.styleBlock_first again] at demanded
    have counted : after.Keeps (after.countStyle interpreter.context) := .of_routines_eq rfl
    exact (goesOn _ _ _ records.cons (yields.keeps counted)).of_write demanded
      (PagePiece.writes_style_first again) (keeps.trans counted.beside)

/-- Elements complete that need no more than a given number of frames. -/
def CompletesWithin (interpreter : Interpreter) (frames depth : Nat) (tokens : List Token) : Prop :=
  ∀ (node : Element) styles session written, node.toValue.IsLeafWithin frames →
    styles.Records written →
    interpreter.CompletesNested depth tokens
      (.of (Session.addRoutine session .generator "element" node.body).1 none) styles session
      (Session.addRoutine session .generator "element" node.body).2 written
      (node.toValue.page interpreter.settings.autoescape)

/-- A leaf completes if whatever comes after it does. -/
theorem completes_leaf {frames : Nat} (generator : body.kind = .generator)
    (elements : interpreter.CompletesWithin frames depth tokens) {leaf : Value}
    (within : leaf.IsLeafWithin frames) {others : List Value}
    {effects : List (Except Failure Value)} (records : styles.Records written)
    (yields : session.Yields body.index (Element.childEffects (leaf :: others) ++ effects))
    (goesOn : ∀ styles session written, styles.Records written →
      session.Yields body.index (Element.childEffects others ++ effects) →
      interpreter.Completes depth tokens body styles session written rest) :
    interpreter.Completes depth tokens body styles session written
      (PagePiece.inOrder (leaf.page interpreter.settings.autoescape) rest) := by
  rw [Element.childEffects] at yields
  rcases leafEffect_of_isLeaf within.isLeaf within.isTree with
    ⟨pieces, effect, page, silent⟩ | ⟨effect, content, effective, page, demands⟩ |
    ⟨sheet, rfl⟩ | ⟨identity, type, attributes, children, rfl⟩ | ⟨fault, effect, page⟩
  · rw [effect] at yields
    rw [page]
    exact (goesOn styles session written records yields).of_silent (silent written)
  · rw [effective] at yields
    rw [page]
    rcases advance_yields generator depth tokens styles yields
      with ⟨after, demanded, keeps, yields⟩
    have written := demanded.trans (demands tokens body styles after)
    exact (goesOn styles after _ records yields).of_write written
      (PagePiece.writes_text content) keeps
  · exact completes_style generator records yields goesOn
  · rcases advance_yields generator depth tokens styles yields
      with ⟨after, demanded, keeps, yields⟩
    refine completes_of_nested demanded
      (elements ⟨identity, type, attributes, children⟩ styles after written within records)
      keeps yields ?_
    intro pieces styles session _ records yields
    exact goesOn styles session _ records yields
  · rw [effect] at yields
    rw [page]
    rcases advance_yields generator depth tokens styles yields
      with ⟨after, demanded, keeps, closable⟩
    exact completes_of_fail demanded keeps closable

/-- The children of an element that needs a given number of frames complete if the elements among
them do. -/
theorem completes_leaves {frames : Nat} (generator : body.kind = .generator)
    (elements : interpreter.CompletesWithin frames depth tokens)
    {effects : List (Except Failure Value)}
    (goesOn : ∀ styles session written, styles.Records written →
      session.Yields body.index effects →
      interpreter.Completes depth tokens body styles session written rest)
    (leaves : List Value) (within : ∀ leaf ∈ leaves, leaf.IsLeafWithin frames)
    (records : styles.Records written)
    (yields : session.Yields body.index (Element.childEffects leaves ++ effects)) :
    interpreter.Completes depth tokens body styles session written
      (PagePiece.inOrder (Value.pages interpreter.settings.autoescape leaves) rest) := by
  induction leaves generalizing styles session written with
  | nil =>
      rw [Value.pages, PagePiece.nil_inOrder]
      exact goesOn styles session written records yields
  | cons leaf others induction =>
      rw [Value.pages, PagePiece.inOrder_assoc]
      apply completes_leaf generator elements (within leaf List.mem_cons_self) records yields
      intro styles session written records yields
      exact induction (fun other member => within other (List.mem_cons_of_mem leaf member)) records
        yields

/-! ## Elements -/

theorem completes_yields_nil (generator : body.kind = .generator) (records : styles.Records written)
    (yields : session.Yields body.index []) :
    interpreter.Completes depth tokens body styles session written (.ok []) := by
  rcases advance_yields generator depth tokens styles yields
    with ⟨after, demanded, keeps, closable⟩
  exact completes_of_finish demanded records keeps closable

theorem tagged_eq_inOrder (autoescape : Bool) (name : String) (attributes : Entries)
    (children : List Value) (inner : Except Fault (List PagePiece)) :
    Value.tagged autoescape name attributes children inner
      = PagePiece.inOrder
          ((Value.pageAttributes autoescape attributes).map fun attributes =>
            [.text ("<" ++ name ++ attributes ++ ">")])
          (PagePiece.inOrder inner (.ok (if Element.hasClosing name children
            then [.text ("</" ++ name ++ ">")] else []))) := by
  unfold Value.tagged Element.hasClosing
  cases Value.pageAttributes autoescape attributes with
  | error fault => rfl
  | ok attributes =>
      cases inner with
      | error fault => rfl
      | ok inner =>
          cases Template.isVoid name with
          | false => cases children.isEmpty <;> rfl
          | true =>
              cases children.isEmpty with
              | false => rfl
              | true => exact congrArg (fun pieces => Except.ok (_ :: pieces)) (List.append_nil _).symm

theorem completes_closing (generator : body.kind = .generator) {node : Element} {name : String}
    (named : node.type.written = .ok name) (isText : node.type.isText = true)
    (records : styles.Records written)
    (yields : session.Yields body.index (if Element.hasClosing name node.children
      then [.ok (node.marker .closing)] else [])) :
    interpreter.Completes depth tokens body styles session written
      (.ok (if Element.hasClosing name node.children then [.text ("</" ++ name ++ ">")] else [])) := by
  cases closing : Element.hasClosing name node.children with
  | false =>
      rw [closing] at yields
      exact completes_yields_nil generator records yields
  | true =>
      rw [closing] at yields
      rcases advance_yields generator depth tokens styles yields
        with ⟨after, demanded, keeps, yields⟩
      replace demanded : interpreter.advance depth tokens body (.ok .null) styles session
          = (tagDemand node.type (Serializer.closingTag ⟨node.type, .mapping node.attributes⟩),
              styles, after) := demanded
      rw [tagDemand, if_pos isText, Value.closingTag_eq name _ _ named] at demanded
      exact (completes_yields_nil generator records yields).of_write demanded
        (PagePiece.writes_text _) keeps

theorem completes_opening (generator : body.kind = .generator) {node : Element} {name : String}
    (named : node.type.written = .ok name) (isText : node.type.isText = true)
    {effects : List (Except Failure Value)}
    (yields : session.Yields body.index (.ok (node.marker .opening) :: effects))
    (goesOn : ∀ session, session.Yields body.index effects →
      interpreter.Completes depth tokens body styles session written rest) :
    interpreter.Completes depth tokens body styles session written
      (PagePiece.inOrder
        ((Value.pageAttributes interpreter.settings.autoescape node.attributes).map fun attributes =>
          [.text ("<" ++ name ++ attributes ++ ">")]) rest) := by
  rcases advance_yields generator depth tokens styles yields with ⟨after, demanded, keeps, yields⟩
  replace demanded : interpreter.advance depth tokens body (.ok .null) styles session
      = (tagDemand node.type (Serializer.openingTag interpreter.settings.autoescape
          ⟨node.type, .mapping node.attributes⟩), styles, after) := demanded
  rw [tagDemand, if_pos isText, Value.openingTag_eq_pageAttributes _ name _ named] at demanded
  cases shown : Value.pageAttributes interpreter.settings.autoescape node.attributes with
  | error fault =>
      rw [shown] at demanded
      exact completes_of_fail demanded keeps yields.isClosable
  | ok attributes =>
      rw [shown] at demanded
      exact (goesOn after yields).of_write demanded (PagePiece.writes_text _) keeps

theorem completes_children {frames : Nat} (generator : body.kind = .generator)
    (elements : interpreter.CompletesWithin frames depth tokens)
    {effects : List (Except Failure Value)}
    (goesOn : ∀ styles session written, styles.Records written →
      session.Yields body.index effects →
      interpreter.Completes depth tokens body styles session written rest)
    {children : List Value} (trees : Value.areTrees children = true)
    (fits : Value.framesNeededByAll children ≤ frames) (records : styles.Records written)
    (yields : session.Yields body.index
      (Element.childEffects (flattenChildren children) ++ effects)) :
    interpreter.Completes depth tokens body styles session written
      (PagePiece.inOrder (Value.pages interpreter.settings.autoescape children) rest) := by
  rw [flattenChildren_eq_leavesOf] at yields
  rw [← Value.pages_leavesOf]
  apply completes_leaves generator elements goesOn _ _ records yields
  intro leaf member
  exact (Value.isLeafWithin_of_mem_leavesOf children trees leaf member).mono fits

theorem completes_tag {frames : Nat} (generator : body.kind = .generator)
    (elements : interpreter.CompletesWithin frames depth tokens) {node : Element} {name : String}
    (named : node.type.written = .ok name) (isText : node.type.isText = true)
    (trees : Value.areTrees node.children = true)
    (fits : Value.framesNeededByAll node.children ≤ frames) (records : styles.Records written)
    (yields : session.Yields body.index (.ok (node.marker .opening)
      :: (Element.childEffects (flattenChildren node.children)
        ++ (if Element.hasClosing name node.children then [.ok (node.marker .closing)] else [])))) :
    interpreter.Completes depth tokens body styles session written
      (Value.tagged interpreter.settings.autoescape name node.attributes node.children
        (Value.pages interpreter.settings.autoescape node.children)) := by
  rw [tagged_eq_inOrder]
  apply completes_opening generator named isText yields
  intro session yields
  apply completes_children generator elements _ trees fits records yields
  intro styles session written records yields
  exact completes_closing generator named isText records yields

theorem completes_effects {frames : Nat} (generator : body.kind = .generator)
    (elements : interpreter.CompletesWithin frames depth tokens) {node : Element}
    (tree : node.toValue.isTree = true) (fits : node.toValue.framesNeeded ≤ frames + 1)
    (records : styles.Records written) (yields : session.Yields body.index node.effects) :
    interpreter.Completes depth tokens body styles session written
      (node.toValue.page interpreter.settings.autoescape) := by
  rcases node with ⟨identity, type, attributes, children⟩
  rcases Bool.and_eq_true_iff.mp tree with ⟨tag, trees⟩
  have childrenFit : Value.framesNeededByAll children ≤ frames := Nat.le_of_succ_le_succ fits
  cases type with
  | text name | markup name =>
      exact completes_tag generator elements rfl rfl trees childrenFit records yields
  | fragment =>
      have completes := completes_children generator elements
        (fun _ _ _ records yields => completes_yields_nil generator records yields) trees
        childrenFit records (by rw [List.append_nil]; exact yields)
      rw [PagePiece.inOrder_nil] at completes
      exact completes
  | _ => cases tag

/-- An element that fits completes. Its own frame is one of those that it needs. -/
theorem completesWithin_of_room (frames : Nat) (depth : Nat) (tokens : List Token)
    (room : depth + frames ≤ interpreter.settings.maxDepth) :
    interpreter.CompletesWithin frames depth tokens := by
  induction frames generalizing depth with
  | zero =>
      intro node _ _ _ within
      exact absurd within.framesNeeded_le (Nat.not_succ_le_zero _)
  | succ frames induction =>
      intro node styles session written within records
      have elements := induction (depth + 1) (by omega)
      have tag := (Bool.and_eq_true_iff.mp within.isTree).1
      apply Completes.nested _ (by omega) rfl
      · intro after keeps
        exact keeps.of_addRoutine
      · apply completes_effects rfl elements within.isTree within.framesNeeded_le records
        refine .unstarted ?_
        rw [Element.body_of_isTagType tag]
        exact session.routine?_addRoutine_self _ _ _

end Interpreter
end HtmlStream

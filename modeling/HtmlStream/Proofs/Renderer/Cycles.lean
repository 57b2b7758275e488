import HtmlStream.Proofs.Context.Graph
import HtmlStream.Proofs.Renderer.Driving

/-!
Cycles of providers are detected exactly. Where every factory asks for a fixed list of tokens,
resolving a token is a depth-first search of the graph of its registry, and the path of the search
lies on the stack. The main statements are `settles_resolve`, by induction on how many factories are
not on the path, and `cycles_detected_exactly`.
-/
namespace HtmlStream

open Relation

namespace Session

variable (session : Session) (context : Nat) (frame : Frame)

@[simp] theorem names_enterFrame : (session.enterFrame context frame).names = session.names := by
  unfold enterFrame
  split <;> rfl

@[simp] theorem names_leaveFrame : (session.leaveFrame context frame).names = session.names := by
  unfold leaveFrame
  split <;> rfl

end Session

namespace Renderer

/-! ## Requests -/

/-- The innermost body asks for a token: it yields the token, or waits for it, or the event loop
brings the token from an async generator. -/
inductive IsRequest (library : Library) (renderer : Renderer) (session : Session) (token : Token) :
    Turned → Prop
  | advanced (producer : RoutineReference) {progress : Progress} (asks : progress.AsksFor token) :
      IsRequest library renderer session token
        (renderer.react library producer progress session)
  | answered (generator : RoutineReference) (answer : Value) :
      IsRequest library renderer session token
        (renderer.afterWait library (.step generator answer) (.ok (.token token)) session)

variable {library : Library} {renderer : Renderer} {session : Session} {token : Token}
  {turned : Turned}

theorem IsRequest.eq_resolve (request : IsRequest library renderer session token turned) :
    turned = renderer.resolve library token session := by
  cases request with
  | advanced producer asks => rcases asks with rfl | rfl <;> rfl
  | answered generator answer => rfl

/-- What the frames that a request opens come to. They answer the innermost frame of those before
them, or fail; then closing those that are left raises nothing. -/
inductive Settles (library : Library) (base : Renderer) (frame : Frame) (outer : List Frame)
    (before : Session) (resolvable : Prop) (refuses : Failure → Prop) : Turned → Prop
  | answers (value : Value) {later : Session} (holds : resolvable)
      (keeps : before.Extends later) :
      Settles library base frame outer before resolvable refuses
        (.proceed, base.withFrames (frame.receiving (.ok value) :: outer), later)
  | fails {failure : Failure} (because : refuses failure) (inner : List Frame)
      {later closed : Session} (keeps : before.Extends closed)
      (closes : later.closeFrames library base.context (inner ++ frame :: outer)
        = closed.closeFrames library base.context (frame :: outer)) :
      Settles library base frame outer before resolvable refuses
        (.failed failure, base.withFrames (inner ++ frame :: outer), later)

variable {base : Renderer} {frame : Frame} {outer : List Frame} {lookup : String → Reply}
  {tokens : List Token}

section Bodies

variable (library : Library) {body : RoutineReference} (notAsync : body.kind ≠ .asyncGenerator)
  (token? : Option Token)

include notAsync

theorem isAsyncGenerator_of : ¬ (Frame.of body token?).isAsyncGenerator = true := by
  simpa [Frame.isAsyncGenerator, Frame.of] using notAsync

/-- The turn of a body that asks for tokens. -/
theorem exists_turn_of_requests (base : Renderer) {reply : Reply} (outer : List Frame)
    {routine : Routine} (ready : session.IsBefore body.index body.kind reply routine)
    (requests : routine.Requests session.lookup tokens) :
    ∃ progress after,
      (base.withFrames ((Frame.of body token?).receiving reply :: outer)).turn library session
        = (base.withFrames (.of body token? :: outer)).react library body progress after ∧
      session.HasAsked body.index body.kind tokens (progress, after) := by
  let noted := session.withLiveFrames (outer.length + 1)
  have noting : session.Extends noted := .of_eq rfl rfl
  have looksUp : noted.lookup = session.lookup := Session.lookup_congr noting.names_eq
  have asked := Session.hasAsked_resume library (ready.keeps noting.keeps) (looksUp ▸ requests)
  refine ⟨_, _, ?_, asked.of_extends noting⟩
  rw [turn_eq_delivering library (Frame.isIdle_of body token?) reply rfl]
  unfold delivering
  rw [if_neg (isAsyncGenerator_of notAsync token?)]
  rfl

/-- Closing a frame whose body waits for what it has asked for raises nothing. -/
theorem exists_closeFrames_of_asked {state : RoutineState} {next : Reply → Routine}
    (found : session.routine? body.index = some ⟨body.kind, state⟩)
    (goesOn : state.next? = some next) (closed : next (.error .exit) = .finish (.error .exit))
    (context : Nat) (outer : List Frame) :
    ∃ after, session.closeFrames library context (.of body token? :: outer)
        = after.closeFrames library context outer ∧ session.ExtendsBeside body.index after := by
  let left := (session.leaveFrame context (.of body token?)).withLiveFrames outer.length
  have leaves : session.Extends left := .of_eq (by simp [left, Session.withLiveFrames])
    (by simp [left, Session.withLiveFrames])
  rcases Session.closeRoutine_of_asked library (leaves.keeps _ _ found) goesOn closed with
    ⟨after, quiet, alters⟩
  have closing : left.closeFrame library (.of body token?) = (none, after) :=
    (if_neg (isAsyncGenerator_of notAsync token?)).trans quiet
  refine ⟨after, ?_, leaves.keeps.beside.trans alters.keeps,
    alters.names_eq.trans leaves.names_eq⟩
  rw [Session.closeFrames]
  dsimp only [left] at closing ⊢
  rw [closing]

end Bodies

theorem Settles.mono {before : Session} {resolvable further : Prop} {refuses others : Failure → Prop}
    (settles : Settles library base frame outer before resolvable refuses turned)
    (implies : resolvable → further) (includes : ∀ failure, refuses failure → others failure) :
    Settles library base frame outer before further others turned := by
  cases settles with
  | answers value holds keeps => exact .answers value (implies holds) keeps
  | fails because inner keeps closes => exact .fails (includes _ because) inner keeps closes

section Asking

variable {resolvable : Token → Prop} {refuses : Token → Failure → Prop} {body : RoutineReference}

/-- A provider whose requests are settled one after another settles the request for its own token.
The induction is on what it still asks for. -/
theorem settles_of_requests (notAsync : body.kind ≠ .asyncGenerator) (token? : Option Token)
    (settles : ∀ other ∈ tokens, ∀ session : Session, session.lookup = lookup →
      ∃ last,
        ProceedsTo library (outer.length + 2)
          ((base.withFrames (.of body token? :: frame :: outer)).resolve library other session)
          last ∧
        Settles library base (.of body token?) (frame :: outer) session (resolvable other)
          (refuses other) last)
    {before : Session} (same : before.lookup = lookup)
    (fresh : before.routine? body.index = none) (keeps : before.Extends session) {value : Value}
    {routine : Routine} (ready : session.IsBefore body.index body.kind (.ok value) routine)
    (requests : routine.Requests lookup tokens) :
    ∃ last,
      ProceedsTo library (outer.length + 1) (.proceed, base.withFrames
        ((Frame.of body token?).receiving (.ok value) :: frame :: outer), session) last ∧
      Settles library base frame outer before (∀ other ∈ tokens, resolvable other)
        (fun failure => ∃ other ∈ tokens, refuses other failure) last := by
  induction tokens generalizing session value routine with
  | nil =>
      have looksUp := (Session.lookup_congr keeps.names_eq).trans same
      rcases exists_turn_of_requests library notAsync token? base (frame :: outer) ready
        (looksUp ▸ requests) with ⟨_, after, turn, asked⟩
      cases asked with
      | returned value alters =>
          refine ⟨_, .turns (Nat.lt_succ_self _) (.here _), ?_⟩
          rw [turn]
          refine .answers value (fun _ member => absurd member List.not_mem_nil) ?_
          exact (keeps.beside fresh alters).trans (.of_eq (by simp) (by simp))
  | cons token tokens induction =>
      have looksUp := (Session.lookup_congr keeps.names_eq).trans same
      rcases exists_turn_of_requests library notAsync token? base (frame :: outer) ready
        (looksUp ▸ requests) with ⟨progress, after, turn, asked⟩
      cases asked with
      | asked asks alters found goesOn answered closed =>
          have started := keeps.beside fresh alters
          replace turn := turn.trans (IsRequest.eq_resolve (.advanced body asks))
          rcases settles token List.mem_cons_self after
            ((Session.lookup_congr started.names_eq).trans same) with ⟨between, proceeds, settled⟩
          have goesTo := ProceedsTo.turns (Nat.lt_succ_self (outer.length + 1))
            (turn ▸ proceeds.mono (Nat.le_succ _))
          cases settled with
          | answers value resolvable later =>
              have settlesRest := fun other member => settles other (List.mem_cons_of_mem _ member)
              rcases induction settlesRest (started.trans later)
                (.suspended (.ok value) (later.keeps _ _ found) goesOn)
                (looksUp ▸ answered value) with ⟨last, rest, ended⟩
              refine ⟨last, goesTo.trans rest, ended.mono ?_ ?_⟩
              · intro others other member
                rcases List.mem_cons.mp member with rfl | member
                · exact resolvable
                · exact others other member
              · rintro failure ⟨other, member, because⟩
                exact ⟨other, List.mem_cons_of_mem _ member, because⟩
          | fails because inner later closes =>
              rcases exists_closeFrames_of_asked library notAsync token? (later.keeps _ _ found)
                goesOn closed base.context (frame :: outer) with ⟨left, closesOwn, altersOwn⟩
              rw [List.append_cons] at goesTo closes
              exact ⟨_, goesTo, .fails ⟨token, List.mem_cons_self, because⟩ _
                ((started.trans later).beside fresh altersOwn) (closes.trans closesOwn)⟩

end Asking

/-! ## The search -/

theorem resolve_of_factory {provider : Provider}
    (found : renderer.providers.get? token = some provider) (factory : provider.kind ≠ .value) :
    renderer.resolve library token session =
      if renderer.isProviding token then
        (.failed (.engine (.contextCycle (.token token) (renderer.labels session))),
          renderer, session)
      else renderer.runProvider library token provider session := by
  unfold resolve
  rw [found]
  cases kind : provider.kind with
  | value => exact absurd kind factory
  | sync | async => simp only [kind]

/-- Running a factory puts a new body on the stack. -/
theorem exists_runProvider {provider : Provider}
    (requests : provider.Requests library session.lookup tokens) (renderer : Renderer)
    (token : Token) :
    ∃ (body : RoutineReference) (routine : Routine) (after : Session),
      body.kind ≠ .asyncGenerator ∧ routine.Requests session.lookup tokens ∧
      session.Extends after ∧ session.routine? body.index = none ∧
      after.routine? body.index = some ⟨body.kind, .unstarted routine⟩ ∧
      renderer.runProvider library token provider session
        = renderer.push library (.of body (some token)) after := by
  rcases requests.exists_call with ⟨kind, name, routine, notAsync, asks, called⟩
  let noted := session.noteRequest token provider
  have noting : session.Extends noted := .of_eq rfl rfl
  refine ⟨⟨kind, noted.routines.size, name⟩, routine, (noted.addRoutine kind name routine).2,
    notAsync, asks, noting.trans (.addRoutine noted kind name routine), session.routine?_size,
    noted.routine?_addRoutine_self kind name routine, ?_⟩
  unfold runProvider
  dsimp only
  rw [called]

section Searching

variable (library) (lookup) (base)

/-- The stack spells a path of the graph: each token on it leads to the one that is asked for. -/
structure IsPath (frames : List Frame) (token : Token) : Prop where
  depth : frames.length ≤ (tokensOf frames).length + 1
  distinct : (tokensOf frames).Nodup
  known : tokensOf frames ⊆ base.providers.factories
  reaches : ∀ other ∈ tokensOf frames, TransGen (base.providers.Asks library lookup) other token

variable {library lookup base}

namespace IsPath

variable {frames : List Frame} {other : Token} {body : RoutineReference}

theorem length_lt (path : IsPath library base lookup frames token)
    (factory : token ∈ base.providers.factories) (fresh : token ∉ tokensOf frames) :
    (tokensOf frames).length < base.providers.factories.length := by
  have distinct := List.nodup_cons.mpr ⟨fresh, path.distinct⟩
  exact (distinct.subperm (List.cons_subset.mpr ⟨factory, path.known⟩)).length_le

theorem cons (path : IsPath library base lookup frames token)
    (factory : token ∈ base.providers.factories) (fresh : token ∉ tokensOf frames)
    (asks : base.providers.Asks library lookup token other) :
    IsPath library base lookup (.of body (some token) :: frames) other where
  depth := Nat.succ_le_succ path.depth
  distinct := List.nodup_cons.mpr ⟨fresh, path.distinct⟩
  known := List.cons_subset.mpr ⟨factory, path.known⟩
  reaches := by
    intro live member
    rcases List.mem_cons.mp member with rfl | member
    · exact .single asks
    · exact (path.reaches live member).tail asks

end IsPath

/-- What a request comes to in a search. -/
def SettlesRequest (library : Library) (lookup : String → Reply) (base : Renderer) (frame : Frame)
    (outer : List Frame) (session : Session) (token : Token) : Turned → Prop :=
  Settles library base frame outer session (base.providers.IsResolvable library lookup token)
    (base.providers.Refuses library lookup token)

/-- A request settles if it does where it opens a frame. -/
theorem settles_of_opens (path : IsPath library base lookup (frame :: outer) token)
    (opens : ∀ provider, base.providers.get? token = some provider → provider.kind ≠ .value →
      token ∉ tokensOf (frame :: outer) → ∃ last,
        ProceedsTo library (outer.length + 1)
          ((base.withFrames (frame :: outer)).runProvider library token provider session) last ∧
        SettlesRequest library lookup base frame outer session token last) :
    ∃ last,
      ProceedsTo library (outer.length + 1)
        ((base.withFrames (frame :: outer)).resolve library token session) last ∧
      SettlesRequest library lookup base frame outer session token last := by
  cases registered : base.providers.get? token with
  | none =>
      have missing : (base.withFrames (frame :: outer)).resolve library token session
          = (.failed (.engine (.missingContext (.token token)
              ((base.withFrames (frame :: outer)).labels session ++ [token.label]))),
            base.withFrames (frame :: outer), session) := by
        unfold resolve
        rw [show (base.withFrames (frame :: outer)).providers.get? token = none from registered]
      rw [missing]
      exact ⟨_, .here _, .fails (.missing _ .refl registered) [] (.refl session) rfl⟩
  | some provider =>
      by_cases factory : provider.kind = .value
      · have answered : (base.withFrames (frame :: outer)).resolve library token session
            = (.proceed, base.withFrames (frame.receiving (.ok provider.source) :: outer),
              session) := by
          unfold resolve
          rw [show (base.withFrames (frame :: outer)).providers.get? token = some provider
            from registered]
          dsimp only
          rw [factory]
          rfl
        rw [answered]
        refine ⟨_, .here _, .answers provider.source (Acc.intro _ ?_) (.refl session)⟩
        rintro other ⟨found, _, registered', factory', _⟩
        rw [registered] at registered'
        cases registered'
        exact absurd factory factory'
      · rw [resolve_of_factory (show (base.withFrames (frame :: outer)).providers.get? token
          = some provider from registered) factory]
        by_cases live : token ∈ tokensOf (frame :: outer)
        · rw [if_pos ((isProviding_iff token).mpr live)]
          exact ⟨_, .here _,
            .fails (.cyclic _ .refl (path.reaches token live)) [] (.refl session) rfl⟩
        · rw [if_neg fun providing => live ((isProviding_iff token).mp providing)]
          exact opens provider registered factory live

/-- A factory's body settles the request if the requests settle that it makes itself. -/
theorem settles_runProvider (room : outer.length + 1 < base.settings.maxDepth)
    {provider : Provider} (registered : base.providers.get? token = some provider)
    (factory : provider.kind ≠ .value) (requests : provider.Requests library lookup tokens)
    (same : session.lookup = lookup)
    (nested : ∀ body other, base.providers.Asks library lookup token other →
      ∀ session : Session, session.lookup = lookup → ∃ last,
        ProceedsTo library (outer.length + 2)
          ((base.withFrames (.of body (some token) :: frame :: outer)).resolve library other session)
          last ∧
        SettlesRequest library lookup base (.of body (some token)) (frame :: outer) session other
          last) :
    ∃ last,
      ProceedsTo library (outer.length + 1)
        ((base.withFrames (frame :: outer)).runProvider library token provider session) last ∧
      SettlesRequest library lookup base frame outer session token last := by
  subst same
  have asks : ∀ other, base.providers.Asks library session.lookup token other ↔ other ∈ tokens := by
    intro other
    constructor
    · rintro ⟨found, others, registered', _, requests', member⟩
      rw [registered] at registered'
      cases registered'
      rwa [requests.unique requests']
    · exact fun member => ⟨provider, tokens, registered, factory, requests, member⟩
  rcases exists_runProvider requests (base.withFrames (frame :: outer)) token with
    ⟨body, routine, after, notAsync, routineRequests, keeps, fresh, found, opened⟩
  have entered : after.Extends (after.enterFrame base.context (.of body (some token))) :=
    .of_eq (by simp) (by simp)
  rcases settles_of_requests notAsync (some token)
    (fun other member => nested body other ((asks other).mpr member)) rfl fresh
    (keeps.trans entered) (.unstarted (entered.keeps _ _ found)) routineRequests with
    ⟨last, proceeds, settles⟩
  rw [opened, push_of_room library _ _ (show (base.withFrames (frame :: outer)).frames.length < _
    from room)]
  refine ⟨last, proceeds, settles.mono ?_ ?_⟩
  · exact fun resolvable => Acc.intro _ fun other edge => resolvable other ((asks other).mp edge)
  · rintro failure ⟨other, member, refuses⟩
    exact refuses.of_asks ((asks other).mpr member)

/-- A request settles. The induction is on how many factories may still come onto the path. -/
theorem settles_resolve (requesting : base.providers.IsRequesting library lookup)
    (room : base.providers.factories.length < base.settings.maxDepth) (left : Nat)
    (fits : base.providers.factories.length ≤ (tokensOf (frame :: outer)).length + left)
    (path : IsPath library base lookup (frame :: outer) token)
    (same : session.lookup = lookup) :
    ∃ last,
      ProceedsTo library (outer.length + 1)
        ((base.withFrames (frame :: outer)).resolve library token session) last ∧
      SettlesRequest library lookup base frame outer session token last := by
  induction left generalizing frame outer token session with
  | zero =>
      apply settles_of_opens path
      intro provider registered factory fresh
      have shorter := path.length_lt (Registry.mem_factories registered factory) fresh
      exact absurd fits (Nat.not_le.mpr shorter)
  | succ left induction =>
      apply settles_of_opens path
      intro provider registered factory fresh
      have known := Registry.mem_factories registered factory
      have shorter := path.length_lt known fresh
      have depth : outer.length + 1 ≤ (tokensOf (frame :: outer)).length + 1 := path.depth
      rcases requesting token provider registered factory with ⟨tokens, requests⟩
      apply settles_runProvider (by omega) registered factory requests same
      intro body other asks session same
      apply induction _ (path.cons known fresh asks) same
      rw [show (tokensOf (.of body (some token) :: frame :: outer)).length
        = (tokensOf (frame :: outer)).length + 1 from rfl]
      omega

end Searching

/-! ## Requests of the root -/

/-- The request of the only frame is answered. -/
def Answers (library : Library) (renderer : Renderer) (frame : Frame) (turned : Turned) : Prop :=
  ∃ value later, ProceedsTo library 1 turned
    (.proceed, renderer.withFrames [frame.receiving (.ok value)], later)

/-- The request of the only frame fails the render. What it has opened is closed without a failure, so
that its own failure comes out unless closing the only frame raises another one. -/
def FailsWith (library : Library) (renderer : Renderer) (frame : Frame) (failure : Failure)
    (turned : Turned) : Prop :=
  ∃ inner later closed,
    ProceedsTo library 1 turned (.failed failure, renderer.withFrames (inner ++ [frame]), later) ∧
    Run.proceed library turned = Run.abort library failure (renderer.withFrames [frame]) closed

theorem FailsWith.unique {failure other : Failure}
    (fails : FailsWith library renderer frame failure turned)
    (alike : FailsWith library renderer frame other turned) : failure = other := by
  rcases fails with ⟨_, _, _, proceeds, _⟩
  rcases alike with ⟨_, _, _, proceedsToo, _⟩
  have same := proceeds.unique proceedsToo (fun equal => by cases equal) fun equal => by cases equal
  exact Turn.failed.inj (congrArg Prod.fst same)

theorem Answers.not_failsWith (answers : Answers library renderer frame turned) (failure : Failure) :
    ¬ FailsWith library renderer frame failure turned := by
  rintro ⟨_, _, _, proceeds, _⟩
  rcases answers with ⟨_, _, proceedsToo⟩
  have same := proceeds.unique proceedsToo (fun equal => by cases equal) fun _ => Nat.le_refl 1
  cases congrArg Prod.fst same

/-- A request of the root is answered, or refused, and answered only if no path from it is infinite. -/
theorem answers_or_failsWith (only : renderer.frames = [frame]) (root : frame.token? = none)
    (requesting : renderer.providers.IsRequesting library session.lookup)
    (room : renderer.providers.factories.length < renderer.settings.maxDepth)
    (request : IsRequest library renderer session token turned) :
    (Answers library renderer frame turned ∧
      renderer.providers.IsResolvable library session.lookup token) ∨
    ∃ failure, FailsWith library renderer frame failure turned ∧
      renderer.providers.Refuses library session.lookup token failure := by
  have alone : tokensOf [frame] = [] := by simp [tokensOf, root]
  have path : IsPath library renderer session.lookup [frame] token := by
    refine ⟨Nat.le_add_left _ _, ?_, ?_, ?_⟩ <;> simp [alone]
  have whole : renderer.withFrames [frame] = renderer := by
    rw [← only]
    rfl
  rcases settles_resolve requesting room _ (Nat.le_add_left _ _) path rfl with
    ⟨last, proceeds, settles⟩
  rw [whole, ← request.eq_resolve] at proceeds
  cases settles with
  | answers value resolvable => exact .inl ⟨⟨value, _, proceeds⟩, resolvable⟩
  | @fails failure refuses inner later closed _ closes =>
      refine .inr ⟨failure, ⟨inner, later, closed, proceeds, ?_⟩, refuses⟩
      rw [proceeds.proceed_eq]
      show Run.abort library failure (renderer.withFrames (inner ++ [frame])) later = _
      unfold Run.abort Run.closeFrames
      dsimp only [withFrames]
      rw [closes]

/-- A token that no live frame provides is not reported to lie on a cycle. -/
theorem resolve_ne_cycle
    (requesting : renderer.providers.IsRequesting library session.lookup)
    (fresh : token ∉ tokensOf renderer.frames) (asked : Value) (labels : List String) :
    (renderer.resolve library token session).1
      ≠ .failed (.engine (.contextCycle asked labels)) := by
  cases registered : renderer.providers.get? token with
  | none =>
      unfold resolve
      rw [registered]
      simp
  | some provider =>
      by_cases factory : provider.kind = .value
      · unfold resolve
        rw [registered]
        simp [factory]
      · rcases requesting token provider registered factory with ⟨tokens, requests⟩
        rcases exists_runProvider requests renderer token with
          ⟨body, routine, after, notAsync, _, _, _, found, opened⟩
        rw [resolve_of_factory registered factory,
          if_neg fun providing => fresh ((isProviding_iff token).mp providing), opened]
        by_cases full : renderer.settings.maxDepth ≤ renderer.frames.length
        · have closed : after.closeFrame library (.of body (some token))
              = (none, after.setState body.index (.finished (.ok .null))) := by
            refine (if_neg (isAsyncGenerator_of notAsync (some token))).trans ?_
            unfold Session.closeRoutine Session.close
            dsimp only [Frame.of]
            rw [found]
          rw [push_of_full library full, closed]
          simp
        · rw [push_of_room library _ _ (Nat.lt_of_not_le full)]
          simp

/-- Where every factory asks for a fixed list of tokens, and there is room for all of them at once,
each request of the root is answered or fails, never for want of room. It is answered if everything
that it leads to is registered and lies on no cycle. If everything is registered and a cycle can be
reached, it fails with a cycle for a token that can be reached and lies on one. A token whose
provider has ended is no longer provided, in any course of any render, and a request for a token that
is not being provided is never reported as a cycle. -/
theorem cycles_detected_exactly (only : renderer.frames = [frame]) (root : frame.token? = none)
    (requesting : renderer.providers.IsRequesting library session.lookup)
    (room : renderer.providers.factories.length < renderer.settings.maxDepth)
    (request : IsRequest library renderer session token turned) :
    let asks := renderer.providers.Asks library session.lookup
    let areRegistered := ∀ other, ReflTransGen asks token other →
      (renderer.providers.get? other).isSome
    ((Answers library renderer frame turned ∨
        ∃ failure, FailsWith library renderer frame failure turned) ∧
      ∀ limit code labels,
        ¬ FailsWith library renderer frame (.engine (.depthExceeded limit code labels)) turned) ∧
    (areRegistered → (∀ other, ReflTransGen asks token other → ¬ TransGen asks other other) →
      Answers library renderer frame turned) ∧
    (areRegistered → (∃ other, ReflTransGen asks token other ∧ TransGen asks other other) →
      ∃ other labels, ReflTransGen asks token other ∧ TransGen asks other other ∧
        FailsWith library renderer frame (.engine (.contextCycle (.token other) labels)) turned) ∧
    (∀ (start : Renderer) (labels texts : List String) (root : Value) (first : Session)
        (last : Turned), start.frames = [] → first.stack? start.context = some labels →
      Course library (start.opening library root first) texts last →
      ∀ inner outer other, last.2.1.frames = inner :: outer → inner.token? = some other →
        ∀ value, other ∉ tokensOf (deliveredTo value outer)) ∧
    (∀ (next : Renderer) (later : Session) (other : Token), next.providers = renderer.providers →
      later.lookup = session.lookup → other ∉ tokensOf next.frames → ∀ asked labels,
        (next.resolve library other later).1 ≠ .failed (.engine (.contextCycle asked labels))) := by
  intro asks areRegistered
  have settles := answers_or_failsWith only root requesting room request
  refine ⟨⟨?_, ?_⟩, ?_, ?_, ?_, ?_⟩
  · rcases settles with ⟨answers, _⟩ | ⟨failure, fails, _⟩
    · exact .inl answers
    · exact .inr ⟨failure, fails⟩
  · intro limit code labels exceeds
    rcases settles with ⟨answers, _⟩ | ⟨failure, fails, refuses⟩
    · exact answers.not_failsWith _ exceeds
    · rw [fails.unique exceeds] at refuses
      cases refuses
  · intro registered acyclic
    rcases settles with ⟨answers, _⟩ | ⟨failure, fails, refuses⟩
    · exact answers
    · rcases refuses.exists_cycle registered with ⟨other, _, reaches, cycle, _⟩
      exact absurd cycle (acyclic other reaches)
  · rintro registered ⟨other, reaches, cycle⟩
    rcases settles with ⟨_, resolvable⟩ | ⟨failure, fails, refuses⟩
    · exact absurd cycle (resolvable.of_reaches reaches).not_cyclic
    · rcases refuses.exists_cycle registered with ⟨found, labels, reaches, cycle, rfl⟩
      exact ⟨found, labels, reaches, cycle, fails⟩
  · intro start labels texts root first last empty stacked course inner outer other frames provides
      value
    have distinct := (isSound_course library (isSound_opening library root empty stacked)
      course).distinct
    rw [frames, tokensOf_cons, provides] at distinct
    rw [tokensOf_deliveredTo]
    exact (List.nodup_cons.mp distinct).1
  · intro next later other providers looksUp fresh
    exact resolve_ne_cycle (providers ▸ looksUp ▸ requesting) fresh

end Renderer

/-! ## A graph with a shared provider and a loop -/

namespace Sample.Asking

def top : Token := ⟨0, some "top"⟩

def left : Token := ⟨1, some "left"⟩

def right : Token := ⟨2, some "right"⟩

def shared : Token := ⟨3, some "shared"⟩

def loop : Token := ⟨4, some "loop"⟩

/-- A component that asks for the tokens with some global names. -/
def asking (name : String) (kind : RoutineKind) (names : List String) : Component where
  reference := ⟨name, some kind, true⟩
  signature := ⟨[], [], [], none⟩
  body := Script.bodyOfStatements kind (names.map Script.askFor)

def askingLibrary : Library :=
  [asking "Top" .generator ["left", "right"], asking "Left" .coroutine ["shared"],
    asking "Right" .generator ["shared"], asking "Shared" .coroutine [],
    asking "Loop" .generator ["top", "loop"]]

def askingRegistry : Registry :=
  [(top, ⟨.sync, .component ⟨"Top", some .generator, true⟩⟩),
    (left, ⟨.async, .component ⟨"Left", some .coroutine, true⟩⟩),
    (right, ⟨.sync, .component ⟨"Right", some .generator, true⟩⟩),
    (shared, ⟨.async, .component ⟨"Shared", some .coroutine, true⟩⟩),
    (loop, ⟨.sync, .component ⟨"Loop", some .generator, true⟩⟩)]

def askingSession : Session :=
  { session with
    names := [("top", .token top), ("left", .token left), ("right", .token right),
      ("shared", .token shared), ("loop", .token loop)] }

/-- What the provider of a token asks for. -/
def askedBy (token : Token) : List Token :=
  if token = top then [left, right]
  else if token = left ∨ token = right then [shared]
  else if token = loop then [top, loop]
  else []

theorem requests_asking {token : Token} {provider : Provider}
    (found : askingRegistry.get? token = some provider) :
    provider.Requests askingLibrary askingSession.lookup (askedBy token) := by
  have member := Registry.mem_of_get? found
  simp only [askingRegistry, List.mem_cons, Prod.mk.injEq, List.not_mem_nil, or_false] at member
  rcases member with ⟨rfl, rfl⟩ | ⟨rfl, rfl⟩ | ⟨rfl, rfl⟩ | ⟨rfl, rfl⟩ | ⟨rfl, rfl⟩
  all_goals
    refine .intro rfl rfl rfl (by decide) (Script.requests_bodyOfStatements _ ?_)
  · exact .cons rfl (.cons rfl .nil)
  · exact .cons rfl .nil
  · exact .cons rfl .nil
  · exact .nil
  · exact .cons rfl (.cons rfl .nil)

variable {token other : Token}

theorem asks_iff : askingRegistry.Asks askingLibrary askingSession.lookup token other
    ↔ other ∈ askedBy token := by
  constructor
  · rintro ⟨provider, tokens, found, _, requests, member⟩
    rwa [requests.unique (requests_asking found)] at member
  · intro member
    have registered : ∃ provider, askingRegistry.get? token = some provider ∧
        provider.kind ≠ .value := by
      unfold askedBy at member
      split_ifs at member with isTop isBetween isLoop
      · subst isTop
        exact ⟨_, rfl, by decide⟩
      · rcases isBetween with rfl | rfl <;> exact ⟨_, rfl, by decide⟩
      · subst isLoop
        exact ⟨_, rfl, by decide⟩
      · cases member
    rcases registered with ⟨provider, found, factory⟩
    exact ⟨provider, _, found, factory, requests_asking found, member⟩

/-- How far a token is from the one that asks for nothing. -/
def level (token : Token) : Nat :=
  if token = shared then 0 else if token = top then 2 else 1

theorem level_lt_of_askedBy (member : other ∈ askedBy token) :
    (askingRegistry.get? other).isSome ∧
      (token ≠ loop → other ≠ loop ∧ level other < level token) := by
  unfold askedBy at member
  split_ifs at member with isTop isBetween isLoop
  all_goals simp only [List.mem_cons, List.not_mem_nil, or_false] at member
  · subst isTop
    rcases member with rfl | rfl <;> decide
  · subst member
    rcases isBetween with rfl | rfl <;> decide
  · subst isLoop
    rcases member with rfl | rfl <;> decide

theorem isSome_of_reaches (registered : (askingRegistry.get? token).isSome)
    (reaches : ReflTransGen (askingRegistry.Asks askingLibrary askingSession.lookup) token other) :
    (askingRegistry.get? other).isSome := by
  cases reaches with
  | refl => exact registered
  | tail _ asks => exact (level_lt_of_askedBy (asks_iff.mp asks)).1

/-- What the top leads to lies on no cycle. -/
theorem not_cyclic_of_reaches
    (reaches : ReflTransGen (askingRegistry.Asks askingLibrary askingSession.lookup) top other) :
    ¬ TransGen (askingRegistry.Asks askingLibrary askingSession.lookup) other other := by
  have outside : other ≠ loop := by
    induction reaches with
    | refl => decide
    | tail _ asks induction => exact ((level_lt_of_askedBy (asks_iff.mp asks)).2 induction).1
  have falls : ∀ {last}, TransGen (askingRegistry.Asks askingLibrary askingSession.lookup) other
      last → last ≠ loop ∧ level last < level other := by
    intro last path
    induction path with
    | single asks => exact (level_lt_of_askedBy (asks_iff.mp asks)).2 outside
    | tail _ asks induction =>
        have lower := (level_lt_of_askedBy (asks_iff.mp asks)).2 induction.1
        exact ⟨lower.1, lower.2.trans induction.2⟩
  exact fun cycle => Nat.lt_irrefl _ (falls cycle).2

def askingPage : Frame := .of ⟨.generator, 0, "Page"⟩ none

def asker : Renderer := (Renderer.start askingRegistry Settings.standard 0).withFrames [askingPage]

/-- The turn in which the page asks for a token. -/
def requestOf (token : Token) : Turned :=
  asker.react askingLibrary askingPage.routine (.produced (.token token)) askingSession

end Sample.Asking

open Sample.Asking in
/-- The page gets the top, for which one provider is run twice, and fails with a cycle when it asks
for the loop. -/
theorem Renderer.cycles_detected_exactly_asking :
    Answers askingLibrary asker askingPage (requestOf top) ∧
      ∃ other labels, FailsWith askingLibrary asker askingPage
        (.engine (.contextCycle (.token other) labels)) (requestOf loop) := by
  have requesting : askingRegistry.IsRequesting askingLibrary askingSession.lookup :=
    fun token provider found _ => ⟨askedBy token, requests_asking found⟩
  have request : ∀ token, IsRequest askingLibrary asker askingSession token (requestOf token) :=
    fun token => .advanced _ (.inl rfl)
  constructor
  · have exactly := cycles_detected_exactly rfl rfl requesting (by decide) (request top)
    exact exactly.2.1 (fun _ => isSome_of_reaches rfl) fun _ => not_cyclic_of_reaches
  · have exactly := cycles_detected_exactly rfl rfl requesting (by decide) (request loop)
    have loops : askingRegistry.Asks askingLibrary askingSession.lookup loop loop :=
      asks_iff.mpr (by decide)
    rcases exactly.2.2.1 (fun _ => isSome_of_reaches rfl) ⟨loop, .refl, .single loops⟩ with
      ⟨other, labels, _, _, fails⟩
    exact ⟨other, labels, fails⟩

end HtmlStream

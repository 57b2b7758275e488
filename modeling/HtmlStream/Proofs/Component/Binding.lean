import HtmlStream.Proofs.Component.Inspection

/-!
What a component receives. An element offers its children and its attributes under their names. Every
parameter that can be given by name is bound to what is offered under its name, else to its default;
what no parameter takes goes to the rest, if there is one. A call fails exactly if a parameter is left
without a value. The main statement is `expand_receives`.
-/
namespace HtmlStream

/-! ## Keys that are texts -/

namespace Value

/-- A key that is a text of this content. -/
def IsNamed (key : Value) (name : String) : Prop :=
  key = .text name ∨ key = .markup name

theorem matchesItem_text {key : Value} {name : String} :
    key.matchesItem (.text name) = true ↔ key.IsNamed name := by
  cases key <;> simp [matchesItem, equalsAs, atomEquals, integer?, IsNamed]

namespace IsNamed

variable {key : Value} {name : String} (named : key.IsNamed name)

include named

theorem matchesItem_eq (other : String) : key.matchesItem (.text other) = (name == other) := by
  rcases named with rfl | rfl <;> rfl

theorem accepts_eq (signature : Signature) :
    signature.accepts key = (signature.rest.isSome || signature.declares name) := by
  rcases named with rfl | rfl <;> rfl

end IsNamed

end Value

namespace Entries

@[simp] theorem get?_cons (entry : Value × Value) (rest : Entries) (key : Value) :
    get? (entry :: rest) key = if entry.1.matchesItem key then some entry.2 else get? rest key := by
  unfold get?
  rw [List.find?_cons]
  split <;> simp_all

theorem get?_insert_text (entries : Entries) (key name : String) (value : Value) :
    (entries.insert (.text key) value).get? (.text name)
      = if name = key then some value else entries.get? (.text name) := by
  have own : (Value.text key).IsNamed key := .inl rfl
  induction entries with
  | nil =>
      rw [insert, get?_cons, own.matchesItem_eq]
      by_cases same : name = key
      · simp [same]
      · simp [same, Ne.symm same]
  | cons entry rest induction =>
      unfold insert
      split
      · next taken =>
          have named := Value.matchesItem_text.mp taken
          by_cases same : name = key
          · simp [named.matchesItem_eq, same]
          · simp [named.matchesItem_eq, same, Ne.symm same]
      · next free =>
          by_cases same : name = key
          · subst same
            simp [free, induction]
          · simp [induction, same]

/-- Leaving entries out, but none or all of those with a certain name. -/
theorem get?_filter_text {name : String} {verdict : Bool} {keeps : Value × Value → Bool}
    (same : ∀ entry, entry.1.IsNamed name → keeps entry = verdict) (entries : Entries) :
    get? (entries.filter keeps) (.text name)
      = if verdict then entries.get? (.text name) else none := by
  induction entries with
  | nil => cases verdict <;> rfl
  | cons entry rest induction =>
      rw [List.filter_cons, get?_cons]
      cases found : entry.1.matchesItem (.text name) with
      | true =>
          rw [same entry (Value.matchesItem_text.mp found)]
          cases verdict <;> simp [found, induction]
      | false => cases keeps entry <;> simp [found, induction]

/-- Attributes as components can be given them: each key is a text, and none is the name under which
a component finds itself. -/
def AreGivable (entries : Entries) : Prop :=
  ∀ entry ∈ entries, ∃ name, entry.1.IsNamed name ∧ name ≠ Signature.receiverName

theorem AreGivable.insert {entries : Entries} (givable : entries.AreGivable) {key : String}
    (other : key ≠ Signature.receiverName) (value : Value) :
    (Entries.insert (.text key) value entries).AreGivable := by
  induction entries with
  | nil => exact List.forall_mem_singleton.mpr ⟨key, .inl rfl, other⟩
  | cons entry rest induction =>
      obtain ⟨first, later⟩ := List.forall_mem_cons.mp givable
      unfold Entries.insert
      split
      · exact List.forall_mem_cons.mpr ⟨first, later⟩
      · exact List.forall_mem_cons.mpr ⟨first, induction later⟩

end Entries

/-! ## Arguments -/

namespace Signature

/-- An argument as an entry again. -/
def Argument.toEntry (argument : Argument) : Value × Value :=
  (argument.key, argument.value)

theorem exists_namedArguments {entries : Entries} (givable : entries.AreGivable) :
    ∃ arguments, namedArguments entries = .ok arguments ∧
      arguments.map Argument.toEntry = entries ∧
      ∀ argument ∈ arguments, argument.key.IsNamed argument.name ∧
        argument.name ≠ receiverName := by
  induction entries with
  | nil => exact ⟨[], rfl, rfl, nofun⟩
  | cons entry rest induction =>
      obtain ⟨⟨name, named, other⟩, later⟩ := List.forall_mem_cons.mp givable
      obtain ⟨arguments, given, same, each⟩ := induction later
      obtain ⟨key, value⟩ := entry
      refine ⟨⟨key, name, value⟩ :: arguments, ?_, congrArg _ same,
        List.forall_mem_cons.mpr ⟨⟨named, other⟩, each⟩⟩
      rcases named with rfl | rfl <;> simp only [namedArguments, given] <;> rfl

/-- Arguments with the names of their keys. -/
def AreNamed (arguments : List Argument) : Prop :=
  ∀ argument ∈ arguments, argument.key.IsNamed argument.name

theorem valueOf?_eq {arguments : List Argument} (named : AreNamed arguments)
    (parameter : Parameter) :
    valueOf? arguments parameter
      = (Entries.get? (arguments.map Argument.toEntry) (.text parameter.name)).or
          parameter.default := by
  induction arguments with
  | nil => rfl
  | cons argument rest induction =>
      obtain ⟨first, later⟩ := List.forall_mem_cons.mp named
      have tail := induction later
      unfold valueOf? at tail ⊢
      rw [List.find?_cons, List.map_cons, Entries.get?_cons, Argument.toEntry,
        first.matchesItem_eq]
      cases argument.name == parameter.name <;> simp_all

theorem missing_eq_nil_iff {arguments : List Argument} {parameters : List Parameter} :
    missing arguments parameters = [] ↔
      ∀ parameter ∈ parameters, (valueOf? arguments parameter).isSome := by
  simp [missing, List.filter_eq_nil_iff, ← Option.isSome_iff_ne_none]

theorem mem_bound {arguments : List Argument} {parameters : List Parameter} {parameter : Parameter}
    (member : parameter ∈ parameters) {value : Value}
    (given : valueOf? arguments parameter = some value) :
    (parameter.name, value) ∈ bound arguments parameters :=
  List.mem_filterMap.mpr ⟨parameter, member, by rw [given]; rfl⟩

theorem names_bound {arguments : List Argument} {parameters : List Parameter}
    (complete : missing arguments parameters = []) :
    (bound arguments parameters).map Prod.fst = parameters.map Parameter.name := by
  have each := missing_eq_nil_iff.mp complete
  induction parameters with
  | nil => rfl
  | cons parameter rest induction =>
      obtain ⟨first, later⟩ := List.forall_mem_cons.mp each
      obtain ⟨value, given⟩ := Option.isSome_iff_exists.mp first
      have tail := induction (missing_eq_nil_iff.mpr later) later
      unfold bound at tail ⊢
      rw [List.filterMap_cons, given]
      exact congrArg _ tail

theorem argumentFault?_eq_none {signature : Signature} {arguments : List Argument}
    (accepted : ∀ argument ∈ arguments,
      (signature.rest.isSome || signature.declares argument.name) = true)
    (others : ∀ argument ∈ arguments, argument.name ≠ receiverName) (component : String)
    (receiver : Option Value) :
    signature.argumentFault? component receiver arguments = none := by
  refine List.findSome?_eq_none_iff.mpr fun argument member => ?_
  have known := accepted argument member
  rw [Bool.or_comm] at known
  have apart : (argument.name == receiverName) = false :=
    beq_eq_false_iff_ne.mpr (others argument member)
  rw [apart, Bool.and_false, if_neg Bool.false_ne_true, if_pos known]

/-- The rest gets the arguments that are not declared. -/
theorem get?_surplus (signature : Signature) {arguments : List Argument}
    (named : AreNamed arguments) (name : String) :
    Entries.get? ((signature.surplus arguments).map Argument.toEntry) (.text name)
      = if signature.declares name then none
        else Entries.get? (arguments.map Argument.toEntry) (.text name) := by
  induction arguments with
  | nil => cases signature.declares name <;> rfl
  | cons argument rest induction =>
      obtain ⟨first, later⟩ := List.forall_mem_cons.mp named
      have tail := induction later
      have found : argument.toEntry.1.matchesItem (.text name) = (argument.name == name) :=
        first.matchesItem_eq name
      unfold surplus at tail ⊢
      rw [List.filter_cons, List.map_cons, Entries.get?_cons, found]
      by_cases same : argument.name = name
      · subst same
        cases declared : signature.declares argument.name <;> simp_all
      · cases signature.declares argument.name <;> simp_all

/-! ## Binding in one step -/

/-- What arguments are bound to, if none of them is at fault. -/
def boundTo (signature : Signature) (receiver : Option Value) (arguments : List Argument) :
    Bindings :=
  receiver.toList.map (fun value => (receiverName, value)) ++ bound [] signature.positionalOnly
    ++ bound arguments signature.byName
    ++ match signature.rest with
      | some name =>
          [(name, Value.mapping ((signature.surplus arguments).map fun argument =>
            (argument.key, argument.value)))]
      | none => []

/-- Bind arguments that have names. -/
def bindNamed (signature : Signature) (component : String) (receiver : Option Value)
    (arguments : List Argument) : Except Fault Bindings :=
  let positional := missing [] signature.positionalOnly ++ missing arguments signature.positional
  let keywords := missing arguments signature.keywordOnly
  match signature.argumentFault? component receiver arguments with
  | some fault => .error fault
  | none =>
      if !positional.isEmpty then .error (.missingPositional component positional)
      else if !keywords.isEmpty then .error (.missingKeywordOnly component keywords)
      else .ok (signature.boundTo receiver arguments)

theorem bind_eq (signature : Signature) (component : String) (receiver : Option Value)
    (entries : Entries) :
    signature.bind component receiver entries
      = match namedArguments entries with
        | .error fault => .error fault
        | .ok arguments => signature.bindNamed component receiver arguments := by
  unfold bind bindNamed boundTo
  cases namedArguments entries with
  | error fault => rfl
  | ok arguments =>
      simp only [Bind.bind, Except.bind]
      cases signature.argumentFault? component receiver arguments with
      | some fault => rfl
      | none =>
          dsimp only
          split
          · rfl
          · split <;> rfl

/-! ## Values for all parameters -/

/-- Whether a parameter is left without a value. What is offered does not reach a positional-only
one. -/
def Lacks (signature : Signature) (offered : String → Option Value) : Prop :=
  (∃ parameter ∈ signature.positionalOnly, parameter.default = none) ∨
    ∃ parameter ∈ signature.byName, offered parameter.name = none ∧ parameter.default = none

/-- Arguments that give the parameters what is offered under their names. -/
def Gives (signature : Signature) (arguments : List Argument)
    (offered : String → Option Value) : Prop :=
  ∀ parameter ∈ signature.byName,
    valueOf? arguments parameter = (offered parameter.name).or parameter.default

variable {signature : Signature} {arguments : List Argument} {offered : String → Option Value}

theorem not_lacks_iff (gives : signature.Gives arguments offered) :
    ¬ signature.Lacks offered ↔ missing [] signature.positionalOnly = [] ∧
      missing arguments signature.positional = [] ∧
      missing arguments signature.keywordOnly = [] := by
  have byDefault : missing [] signature.positionalOnly = [] ↔
      ¬ ∃ parameter ∈ signature.positionalOnly, parameter.default = none := by
    simp [missing_eq_nil_iff, valueOf?, Option.isSome_iff_ne_none]
  have byName : missing arguments signature.positional = [] ∧
        missing arguments signature.keywordOnly = [] ↔
      ¬ ∃ parameter ∈ signature.byName, offered parameter.name = none ∧
        parameter.default = none := by
    rw [missing_eq_nil_iff, missing_eq_nil_iff, ← List.forall_mem_append]
    simp only [not_exists, not_and]
    refine forall₂_congr fun parameter member => ?_
    rw [gives parameter member]
    cases offered parameter.name <;> simp [Option.isSome_iff_ne_none]
  rw [Lacks, not_or, byDefault, byName]

variable {component : String} {receiver : Option Value}
  (faultless : signature.argumentFault? component receiver arguments = none)

include faultless

theorem exists_fault_of_lacks (gives : signature.Gives arguments offered)
    (lacks : signature.Lacks offered) : ∃ fault : Fault, fault.kind = .type ∧
      signature.bindNamed component receiver arguments = .error fault := by
  have incomplete := fun complete => (not_lacks_iff gives).mpr complete lacks
  unfold bindNamed
  rw [faultless]
  dsimp only
  split
  · exact ⟨_, rfl, rfl⟩
  · split
    · exact ⟨_, rfl, rfl⟩
    · simp_all

theorem bindNamed_of_not_lacks (gives : signature.Gives arguments offered)
    (complete : ¬ signature.Lacks offered) :
    signature.bindNamed component receiver arguments
      = .ok (signature.boundTo receiver arguments) := by
  obtain ⟨positionalOnly, positional, keywordOnly⟩ := (not_lacks_iff gives).mp complete
  unfold bindNamed
  simp [faultless, positionalOnly, positional, keywordOnly]

end Signature

/-! ## What components receive -/

namespace Component

/-- The names a call binds: that of the component itself, those of its parameters, and that of the
rest. -/
def boundNames (component : Component) : List String :=
  (if component.reference.hashable then [] else [Signature.receiverName])
    ++ component.signature.positionalOnly.map Parameter.name
    ++ component.signature.byName.map Parameter.name ++ component.signature.rest.toList

/-- What an element offers under a name: the list of its children, or an attribute. -/
def offered (attributes : Entries) (children : List Value) (name : String) : Option Value :=
  if name = childrenKey then some (.list children) else attributes.get? (.text name)

/-- Bindings of just the names that a component declares. A parameter has what is offered under its
name, else its default; a positional-only one has its default. The rest has what is offered under the
other names. -/
structure Receives (component : Component) (attributes : Entries) (children : List Value)
    (bindings : Bindings) : Prop where
  names : bindings.map Prod.fst = component.boundNames
  itself : component.reference.hashable = false →
    bindings.lookup Signature.receiverName = some (.component component.reference)
  positionalOnly : ∀ parameter ∈ component.signature.positionalOnly,
    bindings.lookup parameter.name = parameter.default
  byName : ∀ parameter ∈ component.signature.byName, bindings.lookup parameter.name
    = (offered attributes children parameter.name).or parameter.default
  rest : ∀ name ∈ component.signature.rest, ∃ entries,
    bindings.lookup name = some (.mapping entries) ∧
      entries.Sublist (attributes.insert (.text childrenKey) (.list children)) ∧
      ∀ other, Entries.get? entries (.text other)
        = if component.signature.declares other then none else offered attributes children other

/-- The component itself, if it is passed to its own call. -/
def receiver? (component : Component) : Option Value :=
  if component.reference.hashable then none else some (.component component.reference)

theorem lookup_of_mem {bindings : Bindings} (distinct : (bindings.map Prod.fst).Nodup)
    {name : String} {value : Value} (member : (name, value) ∈ bindings) :
    bindings.lookup name = some value := by
  obtain ⟨before, later, rfl⟩ := List.append_of_mem member
  refine List.lookup_eq_some_iff.mpr ⟨before, later, rfl, fun entry earlier => ?_⟩
  rw [List.map_append, List.map_cons] at distinct
  have apart := (List.nodup_append.mp distinct).2.2 _ (List.mem_map_of_mem earlier) name
    List.mem_cons_self
  simpa using apart.symm

variable {component : Component} {attributes : Entries} {children : List Value}

/-- What reaches a component under a name that it accepts is what is offered under it. -/
theorem get?_argumentsFor {signature : Signature} {name : String}
    (accepts : (signature.rest.isSome || signature.declares name) = true) :
    Entries.get? (argumentsFor (some signature) attributes children) (.text name)
      = offered attributes children name := by
  have same : ∀ entry : Value × Value, entry.1.IsNamed name → signature.accepts entry.1 = true :=
    fun entry named => (named.accepts_eq signature).trans accepts
  have all := attributes.get?_insert_text childrenKey name (.list children)
  exact (Entries.get?_filter_text same _).trans ((if_pos rfl).trans all)

theorem areGivable_argumentsFor (givable : attributes.AreGivable) (children : List Value)
    (signature : Signature) :
    Entries.AreGivable (argumentsFor (some signature) attributes children) := by
  have apart : childrenKey ≠ Signature.receiverName := by decide
  intro entry member
  exact givable.insert apart (.list children) entry (List.mem_filter.mp member).1

/-- Arguments that convey what an element offers, as far as the component accepts it. -/
structure Conveys (component : Component) (attributes : Entries) (children : List Value)
    (arguments : List Signature.Argument) : Prop where
  gives : component.signature.Gives arguments (offered attributes children)
  faultless : ∀ name receiver, component.signature.argumentFault? name receiver arguments = none
  inOrder : ((component.signature.surplus arguments).map Signature.Argument.toEntry).Sublist
    (attributes.insert (.text childrenKey) (.list children))
  rest : component.signature.rest.isSome = true → ∀ name,
    Entries.get? ((component.signature.surplus arguments).map Signature.Argument.toEntry)
        (.text name)
      = if component.signature.declares name then none else offered attributes children name

theorem exists_conveys (component : Component) (givable : attributes.AreGivable)
    (children : List Value) : ∃ arguments,
      Signature.namedArguments (argumentsFor (some component.signature) attributes children)
          = .ok arguments ∧
        component.Conveys attributes children arguments := by
  obtain ⟨arguments, read, entries, each⟩ := Signature.exists_namedArguments
    (areGivable_argumentsFor givable children component.signature)
  have named : Signature.AreNamed arguments := fun argument member => (each argument member).1
  refine ⟨arguments, read, ⟨?_, ?_, ?_, ?_⟩⟩
  · intro parameter member
    have declared : component.signature.declares parameter.name = true :=
      List.any_eq_true.mpr ⟨parameter, member, beq_self_eq_true parameter.name⟩
    rw [Signature.valueOf?_eq named, entries, get?_argumentsFor (by simp [declared])]
  · refine Signature.argumentFault?_eq_none (fun argument member => ?_)
      (fun argument member => (each argument member).2)
    have reaches : argument.toEntry ∈ argumentsFor (some component.signature) attributes children :=
      entries ▸ List.mem_map_of_mem member
    rw [← (named argument member).accepts_eq]
    exact (List.mem_filter.mp reaches).2
  · have surplus : (component.signature.surplus arguments).Sublist arguments :=
      List.filter_sublist
    have entered := surplus.map Signature.Argument.toEntry
    rw [entries] at entered
    exact entered.trans List.filter_sublist
  · intro taken name
    rw [Signature.get?_surplus _ named, entries, get?_argumentsFor (by simp [taken])]

theorem receives_boundTo (distinct : component.boundNames.Nodup)
    {arguments : List Signature.Argument}
    (conveys : component.Conveys attributes children arguments)
    (complete : ¬ component.signature.Lacks (offered attributes children)) :
    component.Receives attributes children
      (component.signature.boundTo component.receiver? arguments) := by
  obtain ⟨positionalOnly, positional, keywordOnly⟩ :=
    (Signature.not_lacks_iff conveys.gives).mp complete
  have byName : Signature.missing arguments component.signature.byName = [] := by
    simp_all [Signature.missing, Signature.byName]
  have names : (component.signature.boundTo component.receiver? arguments).map Prod.fst
      = component.boundNames := by
    have own : (component.receiver?.toList.map fun value => (Signature.receiverName, value)).map
          Prod.fst
        = if component.reference.hashable then [] else [Signature.receiverName] := by
      unfold receiver?
      split <;> rfl
    unfold Signature.boundTo boundNames
    rw [List.map_append, List.map_append, List.map_append, Signature.names_bound positionalOnly,
      Signature.names_bound byName, own]
    cases component.signature.rest <;> rfl
  have found : ∀ {name value},
      (name, value) ∈ component.signature.boundTo component.receiver? arguments →
        (component.signature.boundTo component.receiver? arguments).lookup name = some value :=
    lookup_of_mem (names ▸ distinct)
  refine ⟨names, fun unhashable => ?_, fun parameter member => ?_, fun parameter member => ?_,
    fun name taken => ?_⟩
  · exact found (by simp [Signature.boundTo, receiver?, unhashable])
  · obtain ⟨value, given⟩ := Option.isSome_iff_exists.mp
      (Signature.missing_eq_nil_iff.mp positionalOnly parameter member)
    have bound := Signature.mem_bound member given
    exact (found (by simp [Signature.boundTo, bound])).trans given.symm
  · obtain ⟨value, given⟩ := Option.isSome_iff_exists.mp
      (Signature.missing_eq_nil_iff.mp byName parameter member)
    have bound := Signature.mem_bound member given
    rw [← conveys.gives parameter member, given]
    exact found (by simp [Signature.boundTo, bound])
  · have rest : component.signature.rest = some name := taken
    refine ⟨_, found (?_ : (name, Value.mapping _) ∈ _), conveys.inOrder,
      conveys.rest (by rw [rest]; rfl)⟩
    unfold Signature.boundTo
    rw [rest]
    exact List.mem_append_right _ List.mem_cons_self

end Component

/-! ## Calls of components -/

namespace Session

/-- What the call of a component gives once its parameters are bound. -/
def beginCall (resume : Resumption) (component : Component) (bindings : Bindings)
    (session : Session) : Reply × Session :=
  match component.reference.kind with
  | some kind =>
      let (body, session) :=
        session.addRoutine kind component.reference.name (component.body bindings)
      (.ok (.routine body), session)
  | none =>
      let (body, session) :=
        session.addRoutine .generator component.reference.name (component.body bindings)
      match resume body.index (.ok .null) session with
      | (.returned value, session) => (.ok value, session)
      | (.raised failure, session) => (.error failure, session)
      | (_, session) => (.ok .null, session)

/-- What an element makes of what the call of its component gave: a body that yields effects, or a
refusal of anything else. -/
def receiveResult (resume : Resumption) (component : Value) : Reply × Session → Reply × Session
  | (.error failure, session) => (.error failure, session)
  | (.ok result, session) =>
      let refused := Failure.engine (.invalidComponent component result)
      match result with
      | .routine reference =>
          match reference.kind with
          | .generator | .asyncGenerator => (.ok result, session)
          | .coroutine =>
              match close resume reference.index session with
              | (some failure, session) => (.error failure, session)
              | (none, session) => (.error refused, session)
      | _ => (.error refused, session)

variable {library : Library} {component : Component} {attributes : Entries}

theorem expand_eq_receiveResult (library : Library) (resume : Resumption) (component : Value)
    (attributes : Entries) (children : List Value) (session : Session) :
    expand library resume component attributes children session
      = receiveResult resume component (call library resume component
          (Component.argumentsFor (signature? library component) attributes children) session) :=
  rfl

theorem call_component (found : library.find? component.reference = some component)
    (resume : Resumption) (arguments : Entries) (session : Session) :
    call library resume (.component component.reference) arguments session
      = match component.signature.bind component.reference.name component.receiver? arguments with
        | .error fault => (.error (.fault fault), session)
        | .ok bindings => beginCall resume component bindings session := by
  unfold call callComponent
  dsimp only
  rw [found]
  rfl

/-- An element of a component calls it with bindings of just what the component declares, unless a
parameter is left without a value; then the call fails for the type of its arguments, and nothing else
happens. It is the same whatever components were inspected before. -/
theorem expand_receives (found : library.find? component.reference = some component)
    (distinct : component.boundNames.Nodup) (givable : attributes.AreGivable)
    (children : List Value) (resume : Resumption) (session : Session) :
    (component.signature.Lacks (Component.offered attributes children) →
      ∃ fault : Fault, fault.kind = .type ∧
        expand library resume (.component component.reference) attributes children session
          = (.error (.fault fault), session)) ∧
    (¬ component.signature.Lacks (Component.offered attributes children) →
      ∃ bindings, component.Receives attributes children bindings ∧
        expand library resume (.component component.reference) attributes children session
          = receiveResult resume (.component component.reference)
              (beginCall resume component bindings session)) ∧
    ∀ earlier, expand library resume (.component component.reference) attributes children session
      = receiveResult resume (.component component.reference)
          (call library resume (.component component.reference)
            (Inspection.argumentsFor library (.component component.reference) attributes children
              (Inspection.after library earlier)).1 session) := by
  have signed : signature? library (.component component.reference) = some component.signature :=
    congrArg (Option.map Component.signature) found
  obtain ⟨arguments, read, conveys⟩ := component.exists_conveys givable children
  have faultless := conveys.faultless component.reference.name component.receiver?
  have bound : component.signature.bind component.reference.name component.receiver?
      (Component.argumentsFor (some component.signature) attributes children)
        = component.signature.bindNamed component.reference.name component.receiver? arguments := by
    rw [Signature.bind_eq, read]
  rw [expand_eq_receiveResult, signed, call_component found, bound]
  refine ⟨fun lacks => ?_, fun complete => ?_, fun earlier => ?_⟩
  · obtain ⟨fault, kind, refused⟩ := Signature.exists_fault_of_lacks faultless conveys.gives lacks
    exact ⟨fault, kind, by rw [refused]; rfl⟩
  · refine ⟨_, Component.receives_boundTo distinct conveys complete, ?_⟩
    rw [Signature.bindNamed_of_not_lacks faultless conveys.gives complete]
  · rw [Inspection.argumentsFor_after, signed, call_component found, bound]

end Session

namespace Sample

/-- A component that is no key. Its size has a default, its title has none. -/
def card : Component where
  reference := ⟨"Card", some .generator, false⟩
  signature := ⟨[⟨"size", some (.integer 1)⟩], [⟨"title", none⟩, ⟨childrenKey, none⟩],
    [⟨"kind", some (.text "plain")⟩], some "others"⟩
  body _ := .finish (.ok .null)

/-- Attributes for a card, two of which it does not take under their names. -/
def cardAttributes : Entries :=
  [(.text "size", .integer 2), (.text childrenKey, .null), (.text "title", .text "Lean"),
    (.markup "lang", .text "en")]

end Sample

namespace Session

/-- A card with its attributes gets its own size, and one without attributes lacks its title. -/
theorem expand_receives_card :
    (∃ bindings : Bindings,
      bindings.map Prod.fst = ["self", "size", "title", "children", "kind", "others"] ∧
      bindings.lookup "size" = some (.integer 1) ∧
      bindings.lookup "title" = some (.text "Lean") ∧
      bindings.lookup "children" = some (.list [.text "Hello"]) ∧
      bindings.lookup "kind" = some (.text "plain") ∧
      (∃ entries, bindings.lookup "others" = some (.mapping entries) ∧
        Entries.get? entries (.text "size") = some (.integer 2) ∧
        Entries.get? entries (.text "lang") = some (.text "en") ∧
        Entries.get? entries (.text "title") = none) ∧
      (expand [Sample.card] (resume [Sample.card]) (.component Sample.card.reference)
          Sample.cardAttributes [.text "Hello"] .empty).1
        = .ok (.routine ⟨.generator, 0, "Card"⟩)) ∧
    ∃ fault : Fault, fault.kind = .type ∧
      expand [Sample.card] (resume [Sample.card]) (.component Sample.card.reference) []
          [.text "Hello"] .empty = (.error (.fault fault), .empty) := by
  have found : Library.find? [Sample.card] Sample.card.reference = some Sample.card := rfl
  have distinct : Sample.card.boundNames.Nodup := by decide
  have givable : Entries.AreGivable Sample.cardAttributes := by
    simp [Entries.AreGivable, Sample.cardAttributes, Value.IsNamed, Signature.receiverName,
      childrenKey]
  have complete : ¬ Sample.card.signature.Lacks
      (Component.offered Sample.cardAttributes [.text "Hello"]) := by
    rintro (⟨parameter, member, lacks⟩ | ⟨parameter, member, absent, lacks⟩)
    · cases List.mem_singleton.mp member
      cases lacks
    · simp only [Signature.byName, Sample.card, List.cons_append, List.nil_append, List.mem_cons,
        List.not_mem_nil, or_false] at member
      rcases member with rfl | rfl | rfl
      · exact Option.some_ne_none (Value.text "Lean") absent
      · exact Option.some_ne_none (Value.list [.text "Hello"]) absent
      · cases lacks
  have untitled : Sample.card.signature.Lacks (Component.offered [] [.text "Hello"]) :=
    .inr ⟨⟨"title", none⟩, List.mem_cons_self, rfl, rfl⟩
  obtain ⟨bindings, receives, begun⟩ := (expand_receives found distinct givable [.text "Hello"]
    (resume [Sample.card]) .empty).2.1 complete
  obtain ⟨entries, others, -, given⟩ := receives.rest "others" rfl
  have bare : Entries.AreGivable [] := List.forall_mem_nil _
  have refused := (expand_receives found distinct bare [.text "Hello"] (resume [Sample.card])
    .empty).1 untitled
  refine ⟨⟨bindings, receives.names, receives.positionalOnly _ List.mem_cons_self,
    receives.byName ⟨"title", none⟩ List.mem_cons_self,
    receives.byName ⟨childrenKey, none⟩ (List.mem_cons_of_mem _ List.mem_cons_self),
    receives.byName ⟨"kind", some (.text "plain")⟩
      (List.mem_cons_of_mem _ (List.mem_cons_of_mem _ List.mem_cons_self)),
    ⟨entries, others, given "size", given "lang", given "title"⟩, ?_⟩, refused⟩
  rw [begun]
  rfl

end Session

end HtmlStream

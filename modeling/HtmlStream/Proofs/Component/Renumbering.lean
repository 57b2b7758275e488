import HtmlStream.Component.Library
import HtmlStream.Context.Registry
import HtmlStream.Context.RenderContext
import HtmlStream.Proofs.Component.Binding
import HtmlStream.Proofs.Failure.Renumbering

/-!
Arguments, registries and render contexts under other numbers. What a component receives, and what a
token or a name stands for, is the same with other numbers.
-/
namespace HtmlStream

variable (numbers : Renumbering)

/-! ## Attributes -/

namespace Entries

theorem insert_renumbered (key value : Value) (entries : Entries) :
    insert (key.renumbered numbers) (value.renumbered numbers) (renumbered numbers entries)
      = renumbered numbers (insert key value entries) := by
  induction entries with
  | nil => rfl
  | cons entry rest induction =>
      have matched := Value.matchesItem_renumbered numbers entry.1 key
      have cons : renumbered numbers (entry :: rest)
          = (entry.1.renumbered numbers, entry.2.renumbered numbers) :: renumbered numbers rest :=
        rfl
      rw [cons]
      unfold insert
      dsimp only
      rw [matched, induction]
      split <;> rfl

theorem lacksProbe_insert {key value : Value} {entries : Entries} (keyLacks : LacksProbe key)
    (valueLacks : LacksProbe value) (lack : LacksProbe entries) :
    LacksProbe (insert key value entries) := by
  induction entries with
  | nil => exact List.forall_mem_singleton.mpr ⟨keyLacks, valueLacks⟩
  | cons entry rest induction =>
      rcases List.forall_mem_cons.mp lack with ⟨first, others⟩
      unfold insert
      split
      · exact List.forall_mem_cons.mpr ⟨⟨first.1, valueLacks⟩, others⟩
      · exact List.forall_mem_cons.mpr ⟨first, induction others⟩

end Entries

/-! ## Signatures -/

instance : Numbered Parameter where
  renumbered numbers parameter :=
    { parameter with default := renumbered numbers parameter.default }
  LacksProbe parameter := LacksProbe parameter.default

instance : Numbered Signature where
  renumbered numbers signature :=
    { signature with
      positionalOnly := renumbered numbers signature.positionalOnly
      positional := renumbered numbers signature.positional
      keywordOnly := renumbered numbers signature.keywordOnly }
  LacksProbe signature :=
    LacksProbe signature.positionalOnly ∧ LacksProbe signature.positional
      ∧ LacksProbe signature.keywordOnly

namespace Signature

instance : Numbered Argument where
  renumbered numbers argument :=
    { argument with
      key := renumbered numbers argument.key
      value := renumbered numbers argument.value }
  LacksProbe argument := LacksProbe argument.key ∧ LacksProbe argument.value

theorem byName_renumbered (signature : Signature) :
    (renumbered numbers signature).byName = renumbered numbers signature.byName :=
  List.map_append.symm

theorem declares_renumbered (signature : Signature) (name : String) :
    (renumbered numbers signature).declares name = signature.declares name := by
  unfold declares
  rw [byName_renumbered]
  exact List.any_map

theorem accepts_renumbered (signature : Signature) (key : Value) :
    signature.accepts (key.renumbered numbers) = signature.accepts key := by
  cases key <;> rfl

theorem namedArguments_cons {key : Value} {name : String}
    (named : key = .text name ∨ key = .markup name) (value : Value) (rest : Entries) :
    namedArguments ((key, value) :: rest)
      = (namedArguments rest).map (⟨key, name, value⟩ :: ·) := by
  rcases named with rfl | rfl
  · rw [namedArguments]
    cases namedArguments rest <;> rfl
  · rw [namedArguments]
    cases namedArguments rest <;> rfl

theorem namedArguments_renumbered (entries : Entries) :
    namedArguments (renumbered numbers entries)
      = renumbered numbers (namedArguments entries) := by
  induction entries with
  | nil => rfl
  | cons entry rest induction =>
      rcases entry with ⟨key, value⟩
      cases key with
      | text name =>
          refine (namedArguments_cons (.inl rfl) _ _).trans ((congrArg _ induction).trans ?_)
          rw [namedArguments_cons (.inl rfl)]
          cases namedArguments rest <;> rfl
      | markup name =>
          refine (namedArguments_cons (.inr rfl) _ _).trans ((congrArg _ induction).trans ?_)
          rw [namedArguments_cons (.inr rfl)]
          cases namedArguments rest <;> rfl
      | _ => rfl

theorem lacksProbe_namedArguments {entries : Entries} (lack : LacksProbe entries) :
    LacksProbe (namedArguments entries) := by
  induction entries with
  | nil => exact nofun
  | cons entry rest induction =>
      rcases entry with ⟨key, value⟩
      rcases List.forall_mem_cons.mp lack with ⟨first, others⟩
      have told := induction others
      have named {name : String} (named : key = .text name ∨ key = .markup name) :
          LacksProbe (namedArguments ((key, value) :: rest)) := by
        rw [namedArguments_cons named]
        cases found : namedArguments rest with
        | error fault =>
            rw [found] at told
            exact told
        | ok arguments =>
            rw [found] at told
            exact List.forall_mem_cons.mpr ⟨first, told⟩
      cases key with
      | text name => exact named (.inl rfl)
      | markup name => exact named (.inr rfl)
      | _ => trivial

theorem valueOf?_renumbered (arguments : List Argument) (parameter : Parameter) :
    valueOf? (renumbered numbers arguments) (renumbered numbers parameter)
      = renumbered numbers (valueOf? arguments parameter) := by
  have found : (renumbered numbers arguments).find? (fun argument => argument.name == parameter.name)
      = (arguments.find? fun argument => argument.name == parameter.name).map
        (renumbered numbers) :=
    List.find?_map ..
  unfold valueOf?
  rw [show (renumbered numbers parameter).name = parameter.name from rfl, found]
  cases arguments.find? fun argument => argument.name == parameter.name <;> rfl

theorem lacksProbe_valueOf? {arguments : List Argument} {parameter : Parameter}
    (lack : LacksProbe arguments) (default : LacksProbe parameter) :
    LacksProbe (valueOf? arguments parameter) := by
  unfold valueOf?
  cases found : arguments.find? fun argument => argument.name == parameter.name with
  | none => exact default
  | some argument =>
      rintro value ⟨⟩
      exact (lack argument (List.mem_of_find?_eq_some found)).2

theorem missing_renumbered (arguments : List Argument) (parameters : List Parameter) :
    missing (renumbered numbers arguments) (renumbered numbers parameters)
      = missing arguments parameters := by
  have absent (parameter : Parameter) :
      (valueOf? (renumbered numbers arguments) (renumbered numbers parameter)).isNone
        = (valueOf? arguments parameter).isNone := by
    rw [valueOf?_renumbered]
    exact Option.isNone_map
  unfold missing
  refine (congrArg _ (List.filter_map ..)).trans ?_
  rw [List.map_map]
  simp only [Function.comp_def, absent]
  rfl

theorem bound_renumbered (arguments : List Argument) (parameters : List Parameter) :
    bound (renumbered numbers arguments) (renumbered numbers parameters)
      = renumbered numbers (bound arguments parameters) := by
  unfold bound
  refine (List.filterMap_map ..).trans (Eq.trans ?_ (List.map_filterMap ..).symm)
  congr 1
  funext parameter
  have value := valueOf?_renumbered numbers arguments parameter
  simp only [Function.comp_apply, value]
  cases valueOf? arguments parameter <;> rfl

theorem lacksProbe_bound {arguments : List Argument} {parameters : List Parameter}
    (lack : LacksProbe arguments) (defaults : LacksProbe parameters) :
    LacksProbe (bound arguments parameters) := by
  intro entry member
  rcases List.mem_filterMap.mp member with ⟨parameter, declared, given⟩
  rcases Option.map_eq_some_iff.mp given with ⟨value, found, rfl⟩
  exact ⟨trivial, lacksProbe_valueOf? lack (defaults parameter declared) value found⟩

theorem surplus_renumbered (signature : Signature) (arguments : List Argument) :
    (renumbered numbers signature).surplus (renumbered numbers arguments)
      = renumbered numbers (signature.surplus arguments) := by
  unfold surplus
  refine (List.filter_map ..).trans ?_
  simp only [Function.comp_def, declares_renumbered]
  rfl

theorem argumentFault?_renumbered (signature : Signature) (component : String)
    (receiver : Option Value) (arguments : List Argument) :
    (renumbered numbers signature).argumentFault? component (renumbered numbers receiver)
        (renumbered numbers arguments)
      = signature.argumentFault? component receiver arguments := by
  have receives : (renumbered numbers receiver).isSome = receiver.isSome := Option.isSome_map
  have none : (renumbered numbers signature).positionalOnly.isEmpty
      = signature.positionalOnly.isEmpty := List.isEmpty_map
  have names : (renumbered numbers signature).positionalOnly.map Parameter.name
      = signature.positionalOnly.map Parameter.name := List.map_map ..
  have others (name : String) : (renumbered numbers arguments).any (fun argument =>
      argument.name == name) = arguments.any fun argument => argument.name == name := List.any_map
  unfold argumentFault? namesReceiver positionalOnlyNames
  refine (List.findSome?_map ..).trans ?_
  simp only [receives, none, names, others, Function.comp_def, declares_renumbered]
  rfl

theorem argumentFault?_showsNone {signature : Signature} {component : String}
    {receiver : Option Value} {arguments : List Argument} {fault : Fault}
    (found : signature.argumentFault? component receiver arguments = some fault) :
    fault.ShowsNone := by
  rcases List.exists_of_findSome?_eq_some found with ⟨argument, _, given⟩
  split at given
  · cases given
    exact ⟨fun _ => rfl, trivial⟩
  · split at given
    · cases given
    · dsimp only at given
      split at given <;>
      · cases given
        exact ⟨fun _ => rfl, trivial⟩

theorem boundTo_renumbered (signature : Signature) (receiver : Option Value)
    (arguments : List Argument) :
    (renumbered numbers signature).boundTo (renumbered numbers receiver)
        (renumbered numbers arguments)
      = renumbered numbers (signature.boundTo receiver arguments) := by
  have positionalOnly : bound [] (renumbered numbers signature).positionalOnly
      = renumbered numbers (bound [] signature.positionalOnly) :=
    bound_renumbered numbers [] signature.positionalOnly
  have entries : ((renumbered numbers signature).surplus (renumbered numbers arguments)).map
      (fun argument => (argument.key, argument.value))
        = Value.renumberedEntries numbers
          ((signature.surplus arguments).map fun argument => (argument.key, argument.value)) := by
    rw [surplus_renumbered, Value.renumberedEntries_eq]
    refine (List.map_map ..).trans (Eq.trans ?_ (List.map_map ..).symm)
    rfl
  unfold boundTo
  rw [positionalOnly, byName_renumbered, bound_renumbered, entries]
  refine Eq.trans ?_ (List.map_append ..).symm
  congr 1
  · refine Eq.trans ?_ (List.map_append ..).symm
    congr 1
    refine Eq.trans ?_ (List.map_append ..).symm
    congr 1
    cases receiver <;> rfl
  · rw [show (renumbered numbers signature).rest = signature.rest from rfl]
    cases signature.rest <;> rfl

theorem lacksProbe_boundTo {signature : Signature} {receiver : Option Value}
    {arguments : List Argument} (defaults : LacksProbe signature) (received : LacksProbe receiver)
    (lack : LacksProbe arguments) : LacksProbe (signature.boundTo receiver arguments) := by
  rcases defaults with ⟨positionalOnly, positional, keywordOnly⟩
  have byName : LacksProbe signature.byName := fun parameter member =>
    (List.mem_append.mp member).elim (positional parameter) (keywordOnly parameter)
  intro entry member
  rcases List.mem_append.mp member with member | member
  · rcases List.mem_append.mp member with member | member
    · rcases List.mem_append.mp member with member | member
      · rcases List.mem_map.mp member with ⟨value, given, rfl⟩
        exact ⟨trivial, received value (Option.mem_toList.mp given)⟩
      · exact lacksProbe_bound (fun _ absent => (List.not_mem_nil absent).elim) positionalOnly entry
          member
    · exact lacksProbe_bound lack byName entry member
  · split at member
    · cases List.mem_singleton.mp member
      refine ⟨trivial, (Value.entriesLackProbes_iff _).mpr fun entry member => ?_⟩
      rcases List.mem_map.mp member with ⟨argument, given, rfl⟩
      exact lack argument ((List.mem_filter.mp given).1)
    · cases member

theorem bindNamed_renumbered (signature : Signature) (component : String)
    (receiver : Option Value) (arguments : List Argument) :
    (renumbered numbers signature).bindNamed component (renumbered numbers receiver)
        (renumbered numbers arguments)
      = renumbered numbers (signature.bindNamed component receiver arguments) := by
  have positionalOnly : missing [] (renumbered numbers signature).positionalOnly
      = missing [] signature.positionalOnly :=
    missing_renumbered numbers [] signature.positionalOnly
  have positional : missing (renumbered numbers arguments) (renumbered numbers signature).positional
      = missing arguments signature.positional :=
    missing_renumbered numbers arguments signature.positional
  have keywordOnly : missing (renumbered numbers arguments)
      (renumbered numbers signature).keywordOnly = missing arguments signature.keywordOnly :=
    missing_renumbered numbers arguments signature.keywordOnly
  unfold bindNamed
  rw [positionalOnly, positional, keywordOnly, argumentFault?_renumbered, boundTo_renumbered]
  cases found : signature.argumentFault? component receiver arguments with
  | some fault => exact congrArg Except.error ((argumentFault?_showsNone found).1 numbers).symm
  | none =>
      dsimp only
      split
      · rfl
      · split <;> rfl

theorem lacksProbe_bindNamed {signature : Signature} {component : String}
    {receiver : Option Value} {arguments : List Argument} (defaults : LacksProbe signature)
    (received : LacksProbe receiver) (lack : LacksProbe arguments) :
    LacksProbe (signature.bindNamed component receiver arguments) := by
  unfold bindNamed
  cases found : signature.argumentFault? component receiver arguments with
  | some fault => exact (argumentFault?_showsNone found).2
  | none =>
      dsimp only
      split
      · trivial
      · split
        · trivial
        · exact lacksProbe_boundTo defaults received lack

/-- With other numbers, arguments are bound in the same way. -/
theorem bind_renumbered (signature : Signature) (component : String) (receiver : Option Value)
    (entries : Entries) :
    (renumbered numbers signature).bind component (renumbered numbers receiver)
        (renumbered numbers entries)
      = renumbered numbers (signature.bind component receiver entries) := by
  rw [bind_eq, bind_eq, namedArguments_renumbered]
  cases namedArguments entries with
  | error fault => rfl
  | ok arguments => exact bindNamed_renumbered numbers signature component receiver arguments

theorem lacksProbe_bind {signature : Signature} {component : String} {receiver : Option Value}
    {entries : Entries} (defaults : LacksProbe signature) (received : LacksProbe receiver)
    (lack : LacksProbe entries) : LacksProbe (signature.bind component receiver entries) := by
  have told := lacksProbe_namedArguments lack
  rw [bind_eq]
  cases given : namedArguments entries with
  | error fault =>
      rw [given] at told
      exact told
  | ok arguments =>
      rw [given] at told
      exact lacksProbe_bindNamed defaults received told

end Signature

namespace Component

theorem argumentsFor_renumbered (signature : Option Signature) (attributes : Entries)
    (children : List Value) :
    argumentsFor signature (renumbered numbers attributes) (renumbered numbers children)
      = renumbered numbers (argumentsFor signature attributes children) := by
  have all : Entries.insert (.text childrenKey) (.list (renumbered numbers children))
      (renumbered numbers attributes)
        = renumbered numbers (attributes.insert (.text childrenKey) (.list children)) := by
    rw [← Value.renumberedAll_eq]
    exact Entries.insert_renumbered numbers (.text childrenKey) (.list children) attributes
  unfold argumentsFor
  rw [all]
  cases signature with
  | none => rfl
  | some signature =>
      refine (List.filter_map ..).trans ?_
      have accepted (argument : Value × Value) :
          signature.accepts (renumbered numbers argument).1 = signature.accepts argument.1 :=
        signature.accepts_renumbered numbers argument.1
      simp only [Function.comp_def, accepted]
      rfl

theorem lacksProbe_argumentsFor (signature : Option Signature) {attributes : Entries}
    {children : List Value} (attributesLack : LacksProbe attributes)
    (childrenLack : LacksProbe children) :
    LacksProbe (argumentsFor signature attributes children) := by
  have all : LacksProbe (attributes.insert (.text childrenKey) (.list children)) :=
    Entries.lacksProbe_insert trivial ((Value.allLackProbes_iff children).mpr childrenLack)
      attributesLack
  unfold argumentsFor
  cases signature with
  | none => exact all
  | some signature => exact fun argument member => all argument ((List.mem_filter.mp member).1)

end Component

/-! ## Registries -/

instance : Numbered Provider where
  renumbered numbers provider := { provider with source := renumbered numbers provider.source }
  LacksProbe provider := LacksProbe provider.source

namespace Registry

theorem token_beq (left right : Token) :
    (renumbered numbers left == renumbered numbers right) = (left == right) := by
  rw [Bool.eq_iff_iff, beq_iff_eq, beq_iff_eq]
  rcases left with ⟨left, leftName⟩
  rcases right with ⟨right, rightName⟩
  unfold renumbered instNumberedToken
  simp

theorem get?_renumbered (registry : Registry) (token : Token) :
    get? (renumbered numbers registry) (renumbered numbers token)
      = renumbered numbers (registry.get? token) := by
  have found : (renumbered numbers registry).find? (fun entry => entry.1 == renumbered numbers token)
      = (registry.find? fun entry => entry.1 == token).map (renumbered numbers) := by
    refine (List.find?_map ..).trans ?_
    have same (entry : Token × Provider) :
        ((renumbered numbers entry).1 == renumbered numbers token) = (entry.1 == token) :=
      token_beq numbers entry.1 token
    simp only [Function.comp_def, same]
  unfold get?
  rw [found]
  cases registry.find? fun entry => entry.1 == token <;> rfl

theorem lacksProbe_get? {registry : Registry} (lack : LacksProbe registry) (token : Token) :
    LacksProbe (registry.get? token) := by
  intro provider found
  rcases Option.map_eq_some_iff.mp found with ⟨entry, member, rfl⟩
  exact (lack entry (List.mem_of_find?_eq_some member)).2

theorem insert_renumbered (registry : Registry) (token : Token) (provider : Provider) :
    insert (renumbered numbers registry) (renumbered numbers token) (renumbered numbers provider)
      = renumbered numbers (registry.insert token provider) := by
  induction registry with
  | nil => rfl
  | cons entry rest induction =>
      have cons : renumbered numbers (entry :: rest)
          = renumbered numbers entry :: renumbered numbers rest := rfl
      have same : ((renumbered numbers entry).1 == renumbered numbers token) = (entry.1 == token) :=
        token_beq numbers entry.1 token
      rw [cons]
      unfold insert
      rw [same, induction]
      split <;> rfl

theorem lacksProbe_insert {registry : Registry} {provider : Provider} (lack : LacksProbe registry)
    (token : Token) (providerLacks : LacksProbe provider) :
    LacksProbe (registry.insert token provider) := by
  induction registry with
  | nil => exact List.forall_mem_singleton.mpr ⟨trivial, providerLacks⟩
  | cons entry rest induction =>
      rcases List.forall_mem_cons.mp lack with ⟨first, others⟩
      unfold insert
      split
      · exact List.forall_mem_cons.mpr ⟨⟨trivial, providerLacks⟩, others⟩
      · exact List.forall_mem_cons.mpr ⟨first, induction others⟩

theorem classify_renumbered (source : Value) :
    Provider.classify (source.renumbered numbers)
      = renumbered numbers (Provider.classify source) := by
  cases source with
  | component reference =>
      rcases reference with ⟨name, kind, hashable⟩
      cases hashable with
      | false => rfl
      | true =>
          rcases kind with _ | kind
          · rfl
          · cases kind <;> rfl
  | _ => rfl

theorem lacksProbe_classify {source : Value} (lacks : LacksProbe source) :
    LacksProbe (Provider.classify source) := by
  cases source with
  | component reference =>
      unfold Provider.classify
      dsimp only
      split
      · trivial
      · split <;> trivial
  | _ => exact lacks

theorem entryFor_renumbered (key source : Value) :
    entryFor (key.renumbered numbers) (source.renumbered numbers)
      = renumbered numbers (entryFor key source) := by
  cases key with
  | token token =>
      have told : entryFor (.token (renumbered numbers token)) (source.renumbered numbers)
          = renumbered numbers (entryFor (.token token) source) := by
        unfold entryFor
        dsimp only
        rw [classify_renumbered]
        cases Provider.classify source <;> rfl
      exact told
  | _ => rfl

theorem lacksProbe_entryFor (key : Value) {source : Value} (lacks : LacksProbe source) :
    LacksProbe (entryFor key source) := by
  cases key with
  | token token =>
      have classified := lacksProbe_classify lacks
      unfold entryFor
      dsimp only
      cases found : Provider.classify source with
      | error fault =>
          rw [found] at classified
          exact classified
      | ok provider =>
          rw [found] at classified
          exact ⟨trivial, classified⟩
  | _ => trivial

end Registry

/-! ## Render contexts -/

instance : Numbered RenderContext where
  renumbered numbers context :=
    { context with metadata := renumbered numbers context.metadata }
  LacksProbe context := LacksProbe context.metadata

namespace RenderContext

theorem getMeta_renumbered (context : RenderContext) (key : String) (default : Value) :
    (renumbered numbers context).getMeta key (default.renumbered numbers)
      = (context.getMeta key default).renumbered numbers := by
  have found : (renumbered numbers context).metadata.find? (fun entry => entry.1 == key)
      = (context.metadata.find? fun entry => entry.1 == key).map (renumbered numbers) :=
    List.find?_map ..
  unfold getMeta
  rw [found]
  cases context.metadata.find? fun entry => entry.1 == key <;> rfl

theorem lacksProbe_getMeta {context : RenderContext} (lack : LacksProbe context) (key : String)
    {default : Value} (lacks : LacksProbe default) : LacksProbe (context.getMeta key default) := by
  unfold getMeta
  cases found : context.metadata.find? fun entry => entry.1 == key with
  | none => exact lacks
  | some entry => exact (lack entry (List.mem_of_find?_eq_some found)).2

theorem insertMeta_renumbered (key : String) (value : Value) (metadata : Bindings) :
    insertMeta key (value.renumbered numbers) (renumbered numbers metadata)
      = renumbered numbers (insertMeta key value metadata) := by
  induction metadata with
  | nil => rfl
  | cons entry rest induction =>
      have cons : renumbered numbers (entry :: rest)
          = renumbered numbers entry :: renumbered numbers rest := rfl
      have same : (renumbered numbers entry).1 = entry.1 := rfl
      rw [cons]
      unfold insertMeta
      rw [same, induction]
      split <;> rfl

theorem lacksProbe_insertMeta {key : String} {value : Value} {metadata : Bindings}
    (lacks : LacksProbe value) (lack : LacksProbe metadata) :
    LacksProbe (insertMeta key value metadata) := by
  induction metadata with
  | nil => exact List.forall_mem_singleton.mpr ⟨trivial, lacks⟩
  | cons entry rest induction =>
      rcases List.forall_mem_cons.mp lack with ⟨first, others⟩
      unfold insertMeta
      split
      · exact List.forall_mem_cons.mpr ⟨⟨trivial, lacks⟩, others⟩
      · exact List.forall_mem_cons.mpr ⟨first, induction others⟩

end RenderContext
end HtmlStream

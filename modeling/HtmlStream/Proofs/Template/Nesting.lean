import HtmlStream.Proofs.Template.Parsing
import HtmlStream.Template.Nesting
import Mathlib.Data.List.Induction

/-!
The tree builder accepts exactly the balanced templates, and what it builds is the forest that
recursive descent reads. The stack of a builder keeps the elements that are open after the events
it was given, and the nodes of a descent are what those events add to the innermost of them.
-/
namespace HtmlStream.Template

namespace Builder

/-- The tags of the open elements, innermost first. -/
def tags (builder : Builder) : List Tag :=
  builder.stack.map OpenElement.tag

/-- The nodes of all events of a template. -/
def build (events : List Event) : Except SyntaxCause (List Node) :=
  empty.applyAll events >>= finish

theorem applyAll_append (builder : Builder) (first second : List Event) :
    builder.applyAll (first ++ second) = builder.applyAll first >>= (applyAll · second) := by
  induction first generalizing builder with
  | nil => rfl
  | cons event rest induction =>
      show (builder.apply event >>= (applyAll · (rest ++ second)))
        = (builder.apply event >>= (applyAll · rest)) >>= (applyAll · second)
      cases builder.apply event with
      | error cause => rfl
      | ok applied => exact induction applied

section Continuing

variable {builder built : Builder} {first : List Event} {cause : SyntaxCause}

theorem applyAll_append_of_ok (applied : builder.applyAll first = .ok built)
    (second : List Event) : builder.applyAll (first ++ second) = built.applyAll second := by
  rw [applyAll_append, applied]
  rfl

theorem applyAll_append_of_error (failed : builder.applyAll first = .error cause)
    (second : List Event) : builder.applyAll (first ++ second) = .error cause := by
  rw [applyAll_append, failed]
  rfl

theorem applyAll_concat (applied : builder.applyAll first = .ok built) (event : Event) :
    builder.applyAll (first ++ [event]) = built.apply event := by
  rw [applyAll_append_of_ok applied, applyAll]
  cases built.apply event <;> rfl

end Continuing

theorem tags_add (builder : Builder) (node : Node) : (builder.add node).tags = builder.tags := by
  rcases builder with ⟨finished, stack⟩
  cases stack <;> rfl

/-! ## Closing tags -/

theorem closingFault?_eq_none {tag : Tag} {name : String} :
    closingFault? tag name = none
      ↔ ∀ expected, tag.name = .literal expected → name ≠ "" → name = expected := by
  unfold closingFault?
  cases tag.name with
  | hole index => simp
  | literal expected => by_cases same : name = expected <;> simp [same]

theorem closingFault?_eq_some {tag : Tag} {name : String} {cause : SyntaxCause}
    (outer : List Tag) :
    closingFault? tag name = some cause ↔ IsRefused name (tag :: outer) cause := by
  constructor
  · intro fault
    unfold closingFault? at fault
    split at fault
    · cases fault
    · rename_i expected literal
      split at fault
      · rename_i differs
        cases fault
        simp only [ne_eq, Bool.and_eq_true, decide_eq_true_eq] at differs
        exact .mismatched literal differs.1 differs.2
      · cases fault
  · rintro ⟨⟩
    rename_i expected given different literal
    simp [closingFault?, literal, given, different]

/-- A closing tag that fits ends the innermost element. -/
theorem close_of_fits {builder : Builder} {name : String} (fits : Fits name builder.tags) :
    ∃ built, builder.close name = .ok built ∧ built.tags = builder.tags.tail := by
  rcases builder with ⟨finished, stack⟩
  rcases fits with ⟨tag, outer, isOpen, repeats⟩
  cases stack with
  | nil => cases isOpen
  | cons innermost rest =>
      have same : innermost.tag = tag := (List.cons.inj isOpen).1
      have accepted : closingFault? innermost.tag name = none :=
        closingFault?_eq_none.mpr (same ▸ repeats)
      refine ⟨_, ?_, tags_add ⟨finished, rest⟩ (.element innermost.tag innermost.children.reverse)⟩
      simp only [close, accepted]

theorem fits_of_close {builder built : Builder} {name : String}
    (closed : builder.close name = .ok built) : Fits name builder.tags := by
  rcases builder with ⟨finished, stack⟩
  cases stack with
  | nil => cases closed
  | cons innermost rest =>
      refine ⟨innermost.tag, rest.map OpenElement.tag, rfl, closingFault?_eq_none.mp ?_⟩
      cases fault : closingFault? innermost.tag name with
      | none => rfl
      | some cause => simp [close, fault] at closed

theorem close_eq_error {builder : Builder} {name : String} {cause : SyntaxCause} :
    builder.close name = .error cause ↔ IsRefused name builder.tags cause := by
  rcases builder with ⟨finished, stack⟩
  cases stack with
  | nil =>
      constructor
      · intro refused
        cases refused
        exact .unexpected
      · rintro ⟨⟩
        rfl
  | cons innermost rest =>
      refine Iff.trans ?_ (closingFault?_eq_some (rest.map OpenElement.tag))
      cases fault : closingFault? innermost.tag name <;> simp [close, fault]

/-! ## The stack of a builder -/

theorem apply_of_fits (builder : Builder) (event : Event)
    (fits : ∀ name, event = .closing name → Fits name builder.tags) :
    ∃ built, builder.apply event = .ok built ∧ built.tags = event.openAfter builder.tags := by
  cases event with
  | text content => exact ⟨_, rfl, builder.tags_add _⟩
  | markup content => exact ⟨_, rfl, builder.tags_add _⟩
  | hole index => exact ⟨_, rfl, builder.tags_add _⟩
  | empty tag => exact ⟨_, rfl, builder.tags_add _⟩
  | opening tag => exact ⟨_, rfl, rfl⟩
  | closing name => exact close_of_fits (fits name rfl)

theorem openAfter_concat (events : List Event) (event : Event) :
    openAfter (events ++ [event]) = event.openAfter (openAfter events) :=
  List.foldl_append

theorem closingsFit_concat {events : List Event} {event : Event}  :
    ClosingsFit (events ++ [event])
      ↔ ClosingsFit events ∧ ∀ name, event = .closing name → Fits name (openAfter events) := by
  constructor
  · intro fitting
    refine ⟨?_, ?_⟩
    · rintro before name after rfl
      exact fitting before name (after ++ [event]) (List.append_assoc ..)
    · rintro name rfl
      exact fitting events name [] rfl
  · rintro ⟨fitting, last⟩ before name after split
    rcases List.eq_nil_or_concat after with rfl | ⟨inside, final, rfl⟩
    · rcases List.append_inj' split rfl with ⟨rfl, same⟩
      exact last name (List.cons.inj same).1
    · rw [List.concat_eq_append, ← List.cons_append, ← List.append_assoc] at split
      exact fitting before name inside (List.append_inj' split rfl).1

/-- Where the closing tags fit, the builder keeps the elements that are open. -/
theorem applyAll_of_closingsFit {events : List Event} (fitting : ClosingsFit events) :
    ∃ built, empty.applyAll events = .ok built ∧ built.tags = openAfter events := by
  induction events using List.reverseRecOn with
  | nil => exact ⟨empty, rfl, rfl⟩
  | append_singleton events event induction =>
      rcases closingsFit_concat.mp fitting with ⟨earlier, last⟩
      rcases induction earlier with ⟨built, applied, tags⟩
      rcases apply_of_fits built event (tags ▸ last) with ⟨next, given, nextTags⟩
      refine ⟨next, (applyAll_concat applied event).trans given, ?_⟩
      rw [nextTags, tags, openAfter_concat]

theorem closingsFit_of_applyAll {events : List Event} {built : Builder}
    (applied : empty.applyAll events = .ok built) :
    ClosingsFit events ∧ built.tags = openAfter events := by
  have fitting : ClosingsFit events := by
    induction events using List.reverseRecOn generalizing built with
    | nil =>
        intro before name after split
        cases before <;> cases split
    | append_singleton events event induction =>
        cases earlier : empty.applyAll events with
        | error cause => cases (applyAll_append_of_error earlier [event]).symm.trans applied
        | ok between =>
            refine closingsFit_concat.mpr ⟨induction earlier, ?_⟩
            rintro name rfl
            rcases applyAll_of_closingsFit (induction earlier) with ⟨same, alike, tags⟩
            cases earlier.symm.trans alike
            rw [applyAll_concat earlier] at applied
            exact tags ▸ fits_of_close applied
  rcases applyAll_of_closingsFit fitting with ⟨same, alike, tags⟩
  cases applied.symm.trans alike
  exact ⟨fitting, tags⟩

/-- The builder stops at the first closing tag that does not fit. -/
theorem applyAll_eq_error {events : List Event} {cause : SyntaxCause} :
    empty.applyAll events = .error cause
      ↔ ∃ before name after, events = before ++ .closing name :: after ∧ ClosingsFit before ∧
        IsRefused name (openAfter before) cause := by
  constructor
  · intro failed
    induction events using List.reverseRecOn with
    | nil => cases failed
    | append_singleton events event induction =>
        cases earlier : empty.applyAll events with
        | error first =>
            cases (applyAll_append_of_error earlier [event]).symm.trans failed
            rcases induction earlier with ⟨before, name, after, rfl, fitting, refused⟩
            exact ⟨before, name, after ++ [event], List.append_assoc .., fitting, refused⟩
        | ok between =>
            rcases closingsFit_of_applyAll earlier with ⟨fitting, tags⟩
            rw [applyAll_concat earlier] at failed
            cases event with
            | closing name =>
                exact ⟨events, name, [], rfl, fitting, tags ▸ close_eq_error.mp failed⟩
            | text _ | markup _ | hole _ | empty _ | opening _ => cases failed
  · rintro ⟨before, name, after, rfl, fitting, refused⟩
    rcases applyAll_of_closingsFit fitting with ⟨built, applied, tags⟩
    have closed : built.close name = .error cause := close_eq_error.mpr (tags ▸ refused)
    rw [applyAll_append_of_ok applied, applyAll, apply, closed]
    rfl

theorem finish_eq_ok {builder : Builder} {nodes : List Node} :
    builder.finish = .ok nodes ↔ builder.stack = [] ∧ nodes = builder.finished.reverse := by
  rcases builder with ⟨finished, stack⟩
  cases stack <;> simp [finish, eq_comm]

theorem finish_eq_error {builder : Builder} {cause : SyntaxCause} :
    builder.finish = .error cause
      ↔ ∃ innermost outer, builder.tags = innermost :: outer ∧ cause = .unclosed innermost.name := by
  rcases builder with ⟨finished, stack⟩
  cases stack <;> simp [finish, tags, eq_comm]

/-- What is wrong with events that build nothing is what is wrong with them first. -/
theorem build_eq_error {events : List Event} {cause : SyntaxCause} :
    build events = .error cause ↔ IsViolated events cause := by
  unfold build
  constructor
  · intro failed
    cases applied : empty.applyAll events with
    | error first =>
        rw [applied] at failed
        cases failed
        rcases applyAll_eq_error.mp applied with ⟨before, name, after, split, fitting, refused⟩
        exact .closing split fitting refused
    | ok built =>
        rw [applied] at failed
        rcases closingsFit_of_applyAll applied with ⟨fitting, tags⟩
        rcases finish_eq_error.mp failed with ⟨innermost, outer, remaining, rfl⟩
        exact .unclosed fitting (tags ▸ remaining)
  · intro violated
    cases violated with
    | closing split fitting refused =>
        rw [applyAll_eq_error.mpr ⟨_, _, _, split, fitting, refused⟩]
        rfl
    | unclosed fitting remaining =>
        rcases applyAll_of_closingsFit fitting with ⟨built, applied, tags⟩
        rw [applied]
        exact finish_eq_error.mpr ⟨_, _, tags ▸ remaining, rfl⟩

/-! ## The nodes -/

theorem rest_of_descend (events : List Event) :
    (descend events).rest = [] ∨ ∃ name later, (descend events).rest = .closing name :: later := by
  induction events using descend.induct with
  | case1 => exact .inl (by rw [descend])
  | case2 content rest induction => rw [descend]; exact induction
  | case3 content rest induction => rw [descend]; exact induction
  | case4 index rest induction => rw [descend]; exact induction
  | case5 tag rest induction => rw [descend]; exact induction
  | case6 name rest => exact .inr ⟨name, rest, by rw [descend]⟩
  | case7 tag rest children shorter _ induction => rw [descend]; exact induction

theorem close_eq_ok {builder built : Builder} {tag : Tag} {children : List Node} {name : String}
    (closed : (builder.opened tag children).close name = .ok built) :
    built = builder.add (.element tag children.reverse) := by
  unfold close opened at closed
  dsimp only at closed
  cases fault : closingFault? tag name with
  | none =>
      rw [fault] at closed
      exact (Except.ok.inj closed).symm
  | some cause =>
      rw [fault] at closed
      cases closed

/-- Where all events can be applied and nothing stays open, the builder goes on after a descent as
if it had been given the nodes. -/
theorem applyAll_descend {events : List Event} {builder final : Builder}
    (applied : builder.applyAll events = .ok final) (closed : final.stack = []) :
    (builder.addAll (descend events).nodes).applyAll (descend events).rest = .ok final := by
  induction events using descend.induct generalizing builder with
  | case1 => rw [descend]; exact applied
  | case2 content rest induction => rw [descend]; exact induction applied
  | case3 content rest induction => rw [descend]; exact induction applied
  | case4 index rest induction => rw [descend]; exact induction applied
  | case5 tag rest induction => rw [descend]; exact induction applied
  | case6 name rest => rw [descend]; exact applied
  | case7 tag rest children shorter inner outer =>
      rw [descend]
      have within : ((builder.opened tag []).addAll children.nodes).applyAll children.rest
          = .ok final := inner applied
      rw [addAll_opened, List.append_nil] at within
      rcases rest_of_descend rest with atEnd | ⟨name, later, atClosing⟩
      · rw [show children.rest = [] from atEnd] at within
        cases within
        cases closed
      · rw [show children.rest = .closing name :: later from atClosing] at within
        cases ended : (builder.opened tag children.nodes.reverse).close name with
        | error cause =>
            rw [applyAll, apply, ended] at within
            cases within
        | ok built =>
            rw [applyAll, apply, ended] at within
            have same := close_eq_ok ended
            rw [List.reverse_reverse] at same
            subst same
            refine outer ?_
            rw [atClosing]
            exact within

/-- Where nothing stays open, a descent reads all events. -/
theorem rest_of_descend_eq_nil {events : List Event} {built : Builder}
    (applied : empty.applyAll events = .ok built) (closed : built.stack = []) :
    (descend events).rest = [] := by
  have read := applyAll_descend applied closed
  rw [addAll_empty] at read
  rcases rest_of_descend events with atEnd | ⟨name, later, atClosing⟩
  · exact atEnd
  · rw [atClosing] at read
    cases read

theorem nodes_of_descend {events : List Event} {built : Builder}
    (applied : empty.applyAll events = .ok built) (closed : built.stack = []) :
    built.finished.reverse = (descend events).nodes := by
  have read := applyAll_descend applied closed
  rw [rest_of_descend_eq_nil applied closed, addAll_empty] at read
  cases read
  exact List.reverse_reverse _

theorem build_eq_ok {events : List Event} {nodes : List Node} :
    build events = .ok nodes ↔ IsBalanced events ∧ nodes = (descend events).nodes := by
  constructor
  · intro done
    unfold build at done
    cases applied : empty.applyAll events with
    | error cause => rw [applied] at done; cases done
    | ok built =>
        rw [applied] at done
        rcases closingsFit_of_applyAll applied with ⟨fitting, tags⟩
        rcases finish_eq_ok.mp done with ⟨closed, rfl⟩
        exact ⟨⟨fitting, tags ▸ congrArg _ closed⟩, nodes_of_descend applied closed⟩
  · rintro ⟨⟨fitting, allClosed⟩, rfl⟩
    rcases applyAll_of_closingsFit fitting with ⟨built, applied, tags⟩
    have closed : built.stack = [] := List.map_eq_nil_iff.mp (tags.trans allClosed)
    unfold build
    rw [applied]
    exact finish_eq_ok.mpr ⟨closed, (nodes_of_descend applied closed).symm⟩

end Builder

/-! ## Whole templates -/

/-- Giving the builder the events of each symbol as it is read comes to giving it all of them. -/
theorem readFrom_eq_applyAll {reading : Reading} {symbols : List Symbol} {events : List Event}
    (read : eventsFrom reading symbols = .ok events) (builder : Builder) (position : Nat) :
    (readFrom reading builder position symbols).mapError SyntaxFault.cause
      = builder.applyAll events >>= Builder.finish := by
  induction symbols generalizing reading events builder position with
  | nil =>
      have ends : finishReading reading builder = builder.applyAll events >>= Builder.finish := by
        unfold finishReading
        rw [show reading.finish = .ok events from read]
        rfl
      unfold readFrom
      rw [← ends]
      cases finishReading reading builder <;> rfl
  | cons symbol rest induction =>
      unfold eventsFrom at read
      unfold readFrom advance
      cases step : reading.read symbol (Symbol.firstCharacter? rest) with
      | error cause => rw [step] at read; cases read
      | ok after =>
          rcases after with ⟨next, first⟩
          rw [step] at read
          cases later : eventsFrom next rest with
          | error cause =>
              dsimp only [bind, Except.bind] at read
              rw [later] at read
              cases read
          | ok second =>
              dsimp only [bind, Except.bind] at read ⊢
              rw [later] at read
              cases read
              cases applied : builder.applyAll first with
              | error cause =>
                  rw [Builder.applyAll_append_of_error applied]
                  rfl
              | ok built =>
                  rw [Builder.applyAll_append_of_ok applied]
                  exact induction later built _

/-- A template whose characters can all be read is accepted if and only if its tags are balanced,
and then it is the forest that recursive descent reads. Otherwise a syntax error tells the first
violation of balance. -/
theorem readStrings_balanced {strings : List String} {events : List Event}
    (read : eventsOf strings = .ok events) :
    (∀ nodes, readStrings strings = .ok nodes ↔
        IsBalanced events ∧ nodes = (descend events).nodes) ∧
      (IsBalanced events ∨ ∃ cause, IsViolated events cause) ∧
      ∀ cause, IsViolated events cause ↔
        ∃ fault line column, readStrings strings = .error fault ∧ fault.cause = cause ∧
          fault.toError strings = .templateSyntax cause.message (some (placeholderSource strings))
            (some line) (some column) := by
  have built : (readStrings strings).mapError SyntaxFault.cause = Builder.build events :=
    readFrom_eq_applyAll read .empty 0
  have isViolated : ∀ cause, IsViolated events cause ↔
      ∃ fault, readStrings strings = .error fault ∧ fault.cause = cause := by
    intro cause
    rw [← Builder.build_eq_error, ← built]
    cases readStrings strings <;> simp [Except.mapError]
  have accepted : ∀ nodes, readStrings strings = .ok nodes ↔
      IsBalanced events ∧ nodes = (descend events).nodes := by
    intro nodes
    rw [← Builder.build_eq_ok, ← built]
    cases readStrings strings <;> simp [Except.mapError]
  refine ⟨accepted, ?_, ?_⟩
  · cases result : readStrings strings with
    | ok nodes => exact .inl ((accepted nodes).mp result).1
    | error fault => exact .inr ⟨fault.cause, (isViolated fault.cause).mpr ⟨fault, result, rfl⟩⟩
  · intro cause
    rw [isViolated]
    constructor
    · rintro ⟨fault, failed, rfl⟩
      exact ⟨fault, _, _, failed, rfl, rfl⟩
    · rintro ⟨fault, line, column, failed, same, reported⟩
      exact ⟨fault, failed, same⟩

theorem readStrings_paragraph :
    (IsBalanced [.opening ⟨.literal "p", []⟩, .text "a", .empty ⟨.literal "br", []⟩, .hole 0,
        .closing ""] ∧
      [Node.element ⟨.literal "p", []⟩ [.text "a", .element ⟨.literal "br", []⟩ [], .hole 0]]
        = (descend [.opening ⟨.literal "p", []⟩, .text "a", .empty ⟨.literal "br", []⟩, .hole 0,
            .closing ""]).nodes) ∧
      IsViolated [.opening ⟨.literal "p", []⟩, .closing "b"] (.mismatchedClosing "p" "b") := by
  have paragraph : eventsOf ["<p>a<br>", "<//>"] = .ok [.opening ⟨.literal "p", []⟩, .text "a",
      .empty ⟨.literal "br", []⟩, .hole 0, .closing ""] := rfl
  have mismatched : eventsOf ["<p></b>"] = .ok [.opening ⟨.literal "p", []⟩, .closing "b"] := rfl
  exact ⟨((readStrings_balanced paragraph).1 _).mp rfl,
    ((readStrings_balanced mismatched).2.2 _).mpr ⟨_, _, _, rfl, rfl, rfl⟩⟩

end HtmlStream.Template

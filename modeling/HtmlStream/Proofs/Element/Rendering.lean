import HtmlStream.Proofs.Element.Page
import HtmlStream.Proofs.Renderer.Streaming
import HtmlStream.Proofs.Renderer.Trampoline

/-!
Rendering a tree gives its page: what is streamed, joined, is the text of the pieces that a recursion
over the tree finds.
-/
namespace HtmlStream

/-- What a render gave shows some pieces of a page: their text, or why they have none. -/
def Transcript.Shows (transcript : Transcript) : Except Fault (List PagePiece) → Prop
  | .ok pieces =>
      transcript.failure? = none ∧ String.join transcript.texts = PagePiece.textOf [] pieces
  | .error fault => transcript.failure? = some (.fault fault)

theorem Account.IsOf.shows {account : Account} {pieces : Except Fault (List PagePiece)}
    (isOf : account.IsOf [] pieces) (interpreter : Interpreter) :
    (interpreter.conclude account).Shows pieces := by
  unfold Interpreter.conclude
  cases pieces with
  | ok pieces =>
      rcases isOf with ⟨returned, joined, _⟩
      rw [returned]
      exact ⟨rfl, (congrArg String.join (List.append_nil account.texts)).trans joined⟩
  | error fault =>
      rw [show account.ending = _ from isOf]
      rfl

variable (library : Library) (providers : Registry) (settings : Settings) (context : Nat)
  (session : Session) (node : Element)

/-- An element that fits is streamed, and what it comes to is an account of its page. -/
theorem exists_streamed_of_isTree (tree : node.toValue.isTree = true)
    (fits : node.toValue.framesNeeded ≤ settings.maxDepth) :
    ∃ interpreter : Interpreter, ∃ account : Account,
      (Run.start (.start providers settings context) node.toValue).streamed library session
          = some (interpreter.conclude account) ∧
        account.IsOf [] (node.toValue.page settings.autoescape) := by
  let interpreter : Interpreter := ⟨library, refusing context, providers, settings, context⟩
  have room : 0 + settings.maxDepth ≤ interpreter.settings.maxDepth := Nat.le_of_eq (Nat.zero_add _)
  have completes := Interpreter.completesWithin_of_room settings.maxDepth 0 [] room node [] session []
    ⟨rfl, tree, fits⟩ StyleSet.records_nil
  rcases completes with ⟨account, found, isOf, _⟩
  refine ⟨interpreter, account, ?_, isOf⟩
  apply Run.streamed_of_transcript library (.start _ _ rfl rfl)
  refine (Run.transcript_start interpreter node.toValue session).trans ?_
  exact Interpreter.continued_push_of_account (Frame.isIdle_of _ none) found

/-- Streaming a tree of literal tags and fragments that fits into the largest depth gives the text of
its page. If a number in it is too long to be written, it fails with that. -/
theorem streamed_eq_page (tree : node.toValue.isTree = true)
    (fits : node.toValue.framesNeeded ≤ settings.maxDepth) :
    ∃ transcript,
      (Run.start (.start providers settings context) node.toValue).streamed library session
          = some transcript ∧
        transcript.Shows (node.toValue.page settings.autoescape) := by
  rcases exists_streamed_of_isTree library providers settings context session node tree fits
    with ⟨interpreter, account, streamed, isOf⟩
  exact ⟨_, streamed, isOf.shows interpreter⟩

/-- A paragraph with a style, a text and a fragment, in which the style comes again. -/
def styledParagraph : Element where
  identity := 1
  type := .text "p"
  attributes := [(.text "title", .text "<"), (.text "hidden", .boolean true)]
  children := [
    .list [.style ⟨0, "p"⟩, .text "a & b", .null],
    .element 2 .fragment [] [.style ⟨0, "p"⟩, .element 3 (.text "br") [] []]]

theorem streamed_styledParagraph :
    styledParagraph.toValue.isTree = true ∧
    styledParagraph.toValue.framesNeeded ≤ Settings.standard.maxDepth ∧
    ∃ transcript,
      (Run.start (.start [] Settings.standard 0) styledParagraph.toValue).streamed [] .empty
          = some transcript ∧
        transcript.failure? = none ∧
        String.join transcript.texts
          = "<p title=\"<\" hidden><style>p</style>a & b<br></p>" := by
  have tree : styledParagraph.toValue.isTree = true := by decide
  have fits : styledParagraph.toValue.framesNeeded ≤ Settings.standard.maxDepth := by decide
  rcases streamed_eq_page [] [] Settings.standard 0 .empty styledParagraph tree fits
    with ⟨transcript, streamed, shows⟩
  have page : styledParagraph.toValue.page Settings.standard.autoescape = .ok [
      .text "<p title=\"<\" hidden>", .style ⟨0, "p"⟩, .text "a & b", .style ⟨0, "p"⟩, .text "<br>",
      .text "</p>"] := by rfl
  rw [page] at shows
  exact ⟨tree, fits, transcript, streamed, shows⟩

end HtmlStream

import CodeBridge.Proofs.Answer
import CodeBridge.Proofs.Engine.Links
import CodeBridge.Proofs.Text.Identifier

/-! # Completion while typing

The candidates at an offset are those of the document whose labels go on from what has been typed
there, in the order in which they were added. What has been typed is told by the text alone
(`Text.ShortestFront`, `Text.LongestIdentifier`), wherever the offset falls.

As long as only identifier characters are typed, the identifier before the cursor grows at its end.
Fewer candidates then go on from it, and none comes up that was not there before.
-/

namespace CodeBridge.Workspace

open Text

variable {workspace : Workspace} {uri : Uri} {document : Document}

/-- A document has the candidates that were added for it, in the order of the run. -/
theorem completionsIn_run (changes : List Change) (uri : Uri) :
    (empty.run changes).completionsIn uri =
      ((changes.filterMap Change.completion?).filter (·.1 = uri)).map Prod.snd := by
  rw [completionsIn, run_completions]
  rfl

/-- While the index is ready, a document that is there has its candidates. -/
theorem candidates_eq_filter (ready : workspace.ready = true)
    (held : workspace.document? uri = some document) (offset : Nat) :
    workspace.engine.candidates uri offset =
      .ok ((workspace.completionsIn uri).filter fun candidate =>
        identifierBefore document.text offset <+: candidate.rawLabel.toList) := by
  change workspace.candidates uri offset = _
  simp only [candidates, requireIndex_eq_ok ready, ok_bind, held, ← List.isPrefixOf_iff_prefix,
    Bool.decide_eq_true]
  rfl

/-- For every text and offset, the identifier before the offset is the longest run of identifier
characters at the end of the shortest run of whole characters that reaches the offset or, past the
end, of the whole text; the scan over the bytes of the text finds it and cuts no character. In a
workspace whose index is ready, the candidates at an offset of a document are those that were added
for the document and whose labels begin with that identifier, in the order in which they were
added. -/
theorem candidates_continue_identifier :
    (∀ (text : String) (offset : Nat), ∃ front,
      ShortestFront text.toList (min offset (unitLength text)) front ∧
      LongestIdentifier front (identifierBefore text offset) ∧
      sliceIdentifier? text offset = some (String.ofList (identifierBefore text offset))) ∧
    ∀ (changes : List Change) (uri : Uri) (document : Document) (offset : Nat),
      (empty.run changes).ready = true → (empty.run changes).document? uri = some document →
      (empty.run changes).engine.candidates uri offset =
        .ok ((((changes.filterMap Change.completion?).filter (·.1 = uri)).map Prod.snd).filter
          fun candidate =>
            identifierBefore document.text offset <+: candidate.rawLabel.toList) := by
  constructor
  · intro text offset
    refine ⟨takeUnits offset text.toList, shortestFront_takeUnits offset text.toList, ?_, ?_⟩
    · exact longestIdentifier_identifierSuffix _
    · exact sliceIdentifier?_eq text offset
  · intro changes uri document offset ready held
    rw [candidates_eq_filter ready held, completionsIn_run]

/-- A document with a clef, which is a surrogate pair and no letter, and a letter of two bytes. -/
def clefChanges : List Change :=
  [.completion ⟨"file:///a"⟩ { rawLabel := "été", declaration := .other },
    .document { uri := ⟨"file:///a"⟩, text := "𝄞é" },
    .completion ⟨"file:///b"⟩ { rawLabel := "école", declaration := .other },
    .completion ⟨"file:///a"⟩ { rawLabel := "tea", declaration := .other },
    .completion ⟨"file:///a"⟩ { rawLabel := "é", declaration := .other }]

/-- Inside the clef nothing has been typed, so all candidates fit; behind the letter two do. -/
theorem candidates_continue_identifier_clef :
    let workspace := empty.run clefChanges
    workspace.ready = true ∧
      workspace.document? ⟨"file:///a"⟩ = some { uri := ⟨"file:///a"⟩, text := "𝄞é" } ∧
      workspace.engine.candidates ⟨"file:///a"⟩ 1 =
        .ok [⟨"été", .other⟩, ⟨"tea", .other⟩, ⟨"é", .other⟩] ∧
      workspace.engine.candidates ⟨"file:///a"⟩ 3 = .ok [⟨"été", .other⟩, ⟨"é", .other⟩] := by
  intro workspace
  have ready : workspace.ready = true := by decide
  have held : workspace.document? ⟨"file:///a"⟩ =
      some { uri := ⟨"file:///a"⟩, text := "𝄞é" } := by decide
  have fits := candidates_continue_identifier.2 clefChanges ⟨"file:///a"⟩
  refine ⟨ready, held, (fits _ 1 ready held).trans ?_, (fits _ 3 ready held).trans ?_⟩
  · decide +kernel
  · decide +kernel

/-- Labels that go on from a longer identifier go on from its beginning. -/
theorem filter_continues_sublist {short long : List Char} (longer : short <+: long)
    (candidates : List Candidate) :
    (candidates.filter fun candidate => long <+: candidate.rawLabel.toList).Sublist
      (candidates.filter fun candidate => short <+: candidate.rawLabel.toList) := by
  apply List.monotone_filter_right
  intro candidate continues
  exact decide_eq_true (longer.trans (of_decide_eq_true continues))

/-- In a workspace whose index is ready, take two offsets of a document, the first not behind the
second. The text up to where the second one cuts it goes on from where the first one does. If only
identifier characters stand between these places, the identifier before the first offset is the
beginning of that before the second, and the candidates at the second offset are some of those at
the first, in the same order. -/
theorem candidates_narrow_while_typing {changes : List Change}
    (ready : (empty.run changes).ready = true) {uri : Uri} {document : Document}
    (held : (empty.run changes).document? uri = some document) {first second : Nat}
    (ordered : first ≤ second) :
    let workspace := empty.run changes
    let text := document.text
    ∃ front typed,
      ShortestFront text.toList (min first (unitLength text)) front ∧
      ShortestFront text.toList (min second (unitLength text)) (front ++ typed) ∧
      ((∀ c ∈ typed, isIdentifierChar c = true) →
        identifierBefore text first <+: identifierBefore text second ∧
        ∃ wide narrow, workspace.engine.candidates uri first = .ok wide ∧
          workspace.engine.candidates uri second = .ok narrow ∧ narrow.Sublist wide) := by
  intro workspace text
  obtain ⟨typed, cut⟩ := takeUnits_isFront_takeUnits ordered text.toList
  refine ⟨takeUnits first text.toList, typed, shortestFront_takeUnits first text.toList, ?_, ?_⟩
  · rw [cut]
    exact shortestFront_takeUnits second text.toList
  · intro word
    have longer : identifierBefore text first <+: identifierBefore text second :=
      ⟨typed, (identifierBefore_append cut word).symm⟩
    refine ⟨longer, _, _, candidates_eq_filter ready held first,
      candidates_eq_filter ready held second, ?_⟩
    exact filter_continues_sublist longer _

/-- From the clef to behind the letter one candidate is lost. -/
theorem candidates_narrow_while_typing_clef :
    let workspace := empty.run clefChanges
    workspace.ready = true ∧
      workspace.document? ⟨"file:///a"⟩ = some { uri := ⟨"file:///a"⟩, text := "𝄞é" } ∧
      ∃ wide narrow, workspace.engine.candidates ⟨"file:///a"⟩ 1 = .ok wide ∧
        workspace.engine.candidates ⟨"file:///a"⟩ 5 = .ok narrow ∧ narrow.Sublist wide := by
  intro workspace
  have ready : workspace.ready = true := by decide
  have held : workspace.document? ⟨"file:///a"⟩ =
      some { uri := ⟨"file:///a"⟩, text := "𝄞é" } := by decide
  have ordered : 1 ≤ 5 := by decide
  obtain ⟨front, typed, cut, cut', narrows⟩ :=
    candidates_narrow_while_typing ready held ordered
  -- The offset 1 is inside the clef and cuts behind it, and 5 is past the end.
  have clef : front = ['𝄞'] := cut.unique (shortestFront_takeUnits 1 _)
  have whole : front ++ typed = ['𝄞', 'é'] := cut'.unique (shortestFront_takeUnits 5 _)
  have letter : typed = ['é'] := by
    rw [clef] at whole
    exact List.cons.inj whole |>.2
  have word : ∀ c ∈ typed, isIdentifierChar c = true := by
    rw [letter, List.forall_mem_singleton]
    decide
  exact ⟨ready, held, (narrows word).2⟩

end CodeBridge.Workspace

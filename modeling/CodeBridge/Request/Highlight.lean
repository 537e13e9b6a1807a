import CodeBridge.Request.Usages

/-! # Highlights

Usage sets become one list of highlights. Each set contributes its reads, its writes, its plain
occurrences and then the name of its declaration; an occurrence that was there before, with the same
span and kind in the same document, is left out.
-/

namespace CodeBridge

/-- A highlighted stretch of text. -/
structure Highlight where
  range : PositionRange
  kind : HighlightKind
  deriving DecidableEq, Repr

/-- An occurrence before it is put into positions. -/
structure Occurrence where
  file : Uri
  span : Span
  kind : HighlightKind
  deriving DecidableEq, Repr

/-- The occurrences of a usage set, in the order in which they are shown. -/
def UsageSet.occurrences (usages : UsageSet) : List Occurrence :=
  usages.reads.map (⟨usages.file, ·, .read⟩) ++ usages.writes.map (⟨usages.file, ·, .write⟩) ++
    usages.text.map (⟨usages.file, ·, .text⟩) ++
    (usages.declaration.map fun (span, kind) => ⟨usages.file, span, kind⟩).toList

/-- Highlights so far, and the occurrences that they show; both newest first. -/
structure HighlightList where
  seen : List Occurrence := []
  newestFirst : List Highlight := []
  deriving DecidableEq, Repr

namespace HighlightList

def empty : HighlightList := {}

/-- Adds an occurrence unless it is there already. -/
def push (index : LineIndex) (shown : HighlightList) (occurrence : Occurrence) : HighlightList :=
  if shown.seen.contains occurrence then shown
  else
    { seen := occurrence :: shown.seen
      newestFirst := ⟨index.range occurrence.span, occurrence.kind⟩ :: shown.newestFirst }

/-- Adds a usage set; `index` is that of the document of the set. -/
def add (shown : HighlightList) (usages : UsageSet) (index : LineIndex) : HighlightList :=
  usages.occurrences.foldl (push index) shown

/-- The highlights, oldest first. -/
def finish (shown : HighlightList) : List Highlight :=
  shown.newestFirst.reverse

end HighlightList

/-- The highlights of one usage set. -/
def UsageSet.highlights (usages : UsageSet) (index : LineIndex) : List Highlight :=
  (HighlightList.empty.add usages index).finish

/-- Adds the usage sets of a request. A set of another document than the one at hand is shown in the
positions of that document. -/
def addUsages (engine : Engine) (uri : Uri) (index : LineIndex) :
    HighlightList → List UsageSet → Except RequestError HighlightList
  | shown, [] => .ok shown
  | shown, usages :: rest => do
    let index' ← if usages.file = uri then pure index else openDocument engine usages.file
    addUsages engine uri index (shown.add usages index') rest

/-- The occurrences of what stands at a position of a document. -/
def documentHighlight (engine : Engine) (uri : Uri) (position : Position) :
    Traced (Except RequestError (List Highlight)) :=
  match offsetIn engine uri position with
  | .error error => ⟨[], .error error⟩
  | .ok offset =>
    let found := Usages.find engine uri offset
    { features := found.features
      answer := do
        let index ← openDocument engine uri
        let shown ← addUsages engine uri index .empty (← liftEngine found.answer)
        return shown.finish }

end CodeBridge

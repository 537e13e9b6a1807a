import CodeBridge.Proofs.Request.Locality
import Mathlib.Data.List.Nodup
import Mathlib.Logic.Function.Iterate
import Mathlib.Logic.Relation

/-! # Documents inside documents

A document can be injected into another one, and that one again into a third. Unless the links run
in a circle, they lead from every document to exactly one on top, which is injected into none
(`IsTopOf`). A workspace takes one step of that way when it is asked for the top-level file of a
document. So the answer is the document on top exactly if the document is not nested any deeper, and
a search for usages runs there exactly then. Asking again and again does get to the top, in no more
steps than there are documents.
-/

namespace CodeBridge.Workspace

open Relation

/-- The document that a document is injected into. -/
def host? (workspace : Workspace) (uri : Uri) : Option Uri :=
  (workspace.document? uri).bind (·.host)

def InjectedInto (workspace : Workspace) (inner outer : Uri) : Prop :=
  workspace.host? inner = some outer

/-- No document lies in itself, however many others are in between. -/
def HostsAcyclic (workspace : Workspace) : Prop :=
  ∀ uri, ¬TransGen workspace.InjectedInto uri uri

/-- The document on top of another one: on the way out from it, and not injected itself. -/
structure IsTopOf (workspace : Workspace) (uri top : Uri) : Prop where
  around : ReflTransGen workspace.InjectedInto uri top
  outermost : workspace.host? top = none

/-- Whether a document is injected into one that is injected as well. -/
def isNested (workspace : Workspace) (uri : Uri) : Bool :=
  ((workspace.host? uri).bind workspace.host?).isSome

variable {workspace : Workspace} {uri inner outer top : Uri}

/-! ## One step -/

theorem topLevelFile_of_injected (injected : workspace.InjectedInto inner outer) :
    workspace.topLevelFile inner = outer := by
  change (workspace.host? inner).getD inner = outer
  rw [injected, Option.getD_some]

theorem topLevelFile_of_outermost (outermost : workspace.host? uri = none) :
    workspace.topLevelFile uri = uri := by
  change (workspace.host? uri).getD uri = uri
  rw [outermost, Option.getD_none]

theorem injectedInto_topLevelFile (inside : workspace.host? uri ≠ none) :
    workspace.InjectedInto uri (workspace.topLevelFile uri) := by
  obtain ⟨host, injected⟩ := Option.ne_none_iff_exists'.mp inside
  rw [topLevelFile_of_injected injected]
  exact injected

theorem around_topLevelFile (workspace : Workspace) (uri : Uri) :
    ReflTransGen workspace.InjectedInto uri (workspace.topLevelFile uri) := by
  by_cases outermost : workspace.host? uri = none
  · rw [topLevelFile_of_outermost outermost]
  · exact .single (injectedInto_topLevelFile outermost)

theorem host?_topLevelFile_eq_none_iff (workspace : Workspace) (uri : Uri) :
    workspace.host? (workspace.topLevelFile uri) = none ↔ workspace.isNested uri = false := by
  unfold isNested
  cases injected : workspace.host? uri with
  | none => simp [topLevelFile_of_outermost injected, injected]
  | some host => simp [topLevelFile_of_injected injected]

/-- Without a circle, only a document that is not injected is its own answer. -/
theorem HostsAcyclic.topLevelFile_eq_self_iff (acyclic : workspace.HostsAcyclic) (uri : Uri) :
    workspace.topLevelFile uri = uri ↔ workspace.host? uri = none := by
  refine ⟨fun same => ?_, topLevelFile_of_outermost⟩
  refine Decidable.byContradiction fun inside => acyclic uri (.single ?_)
  have injected := injectedInto_topLevelFile inside
  rwa [same] at injected

/-! ## The way to the top -/

theorem eq_of_around_outermost (outermost : workspace.host? top = none)
    (around : ReflTransGen workspace.InjectedInto top outer) : outer = top := by
  rcases around.cases_head with same | ⟨host, injected, -⟩
  · exact same.symm
  · cases outermost.symm.trans injected

/-- Each document has one host at most, so all ways out are parts of one. -/
theorem IsTopOf.unique {other : Uri} (first : workspace.IsTopOf uri top)
    (second : workspace.IsTopOf uri other) : other = top := by
  have functional : Relator.RightUnique workspace.InjectedInto :=
    fun _ _ _ left right => Option.some.inj (left.symm.trans right)
  rcases ReflTransGen.total_of_right_unique functional first.around second.around with way | way
  · exact eq_of_around_outermost first.outermost way
  · exact (eq_of_around_outermost second.outermost way).symm

theorem around_iterate (workspace : Workspace) (uri : Uri) (steps : Nat) :
    ReflTransGen workspace.InjectedInto uri (workspace.topLevelFile^[steps] uri) := by
  induction steps with
  | zero => exact .refl
  | succ steps ih =>
    rw [Function.iterate_succ_apply']
    exact ih.trans (around_topLevelFile workspace _)

/-- As long as the documents on the way are injected, each step leads on. -/
theorem transGen_iterate {lower higher : Nat} (before : lower < higher)
    (inside : ∀ steps < higher, workspace.host? (workspace.topLevelFile^[steps] uri) ≠ none) :
    TransGen workspace.InjectedInto (workspace.topLevelFile^[lower] uri)
      (workspace.topLevelFile^[higher] uri) := by
  induction higher, before using Nat.le_induction with
  | base =>
    rw [Function.iterate_succ_apply']
    exact .single (injectedInto_topLevelFile (inside lower (Nat.lt_succ_self lower)))
  | succ higher _ ih =>
    rw [Function.iterate_succ_apply']
    refine (ih fun steps earlier => inside steps (Nat.lt_succ_of_lt earlier)).tail ?_
    exact injectedInto_topLevelFile (inside higher (Nat.lt_succ_self higher))

theorem exists_document_of_injected (injected : workspace.InjectedInto inner outer) :
    ∃ document ∈ workspace.documents, document.uri = inner ∧ document.host = some outer := by
  obtain ⟨document, held, hosted⟩ := Option.bind_eq_some_iff.mp injected
  have here := List.find?_some held
  exact ⟨document, List.mem_of_find?_eq_some held, of_decide_eq_true here, hosted⟩

/-- The documents on the way are held by the workspace, and none of them comes twice; so there are
not more of them than the workspace holds. -/
theorem HostsAcyclic.exists_outermost (acyclic : workspace.HostsAcyclic) (uri : Uri) :
    ∃ steps ≤ workspace.documents.length,
      workspace.host? (workspace.topLevelFile^[steps] uri) = none := by
  by_contra endless
  have inside : ∀ steps ≤ workspace.documents.length,
      workspace.host? (workspace.topLevelFile^[steps] uri) ≠ none :=
    fun steps bound outermost => endless ⟨steps, bound, outermost⟩
  let way := (List.range (workspace.documents.length + 1)).map (workspace.topLevelFile^[·] uri)
  have distinct : way.Nodup := by
    refine List.pairwise_map.mpr (List.pairwise_lt_range.imp_of_mem ?_)
    intro lower higher _ listed before same
    have bound : higher ≤ workspace.documents.length := Nat.le_of_lt_succ (List.mem_range.mp listed)
    have circle := transGen_iterate before
      fun steps earlier => inside steps (Nat.le_trans (Nat.le_of_lt earlier) bound)
    rw [same] at circle
    exact acyclic _ circle
  have held : way ⊆ workspace.documents.map Document.uri := by
    intro place member
    obtain ⟨steps, listed, rfl⟩ := List.mem_map.mp member
    have injected := injectedInto_topLevelFile
      (inside steps (Nat.le_of_lt_succ (List.mem_range.mp listed)))
    obtain ⟨document, held, here, -⟩ := exists_document_of_injected injected
    exact List.mem_map.mpr ⟨document, held, here⟩
  have short := (List.subperm_of_subset distinct held).length_le
  rw [List.length_map, List.length_map, List.length_range] at short
  omega

theorem HostsAcyclic.isTopOf_iterate (acyclic : workspace.HostsAcyclic) (uri : Uri) {steps : Nat}
    (enough : workspace.documents.length ≤ steps) :
    workspace.IsTopOf uri (workspace.topLevelFile^[steps] uri) := by
  obtain ⟨first, bound, outermost⟩ := acyclic.exists_outermost uri
  obtain ⟨rest, rfl⟩ := Nat.exists_eq_add_of_le (Nat.le_trans bound enough)
  refine ⟨around_iterate workspace uri _, ?_⟩
  rw [Nat.add_comm, Function.iterate_add_apply,
    Function.iterate_fixed (topLevelFile_of_outermost outermost)]
  exact outermost

/-! ## Searches -/

/-- Where the engine has no highlighter of its own, usages are searched for in the file that the
workspace calls the top-level one. -/
theorem file_of_search {offset : Nat} {sets : List UsageSet}
    (generic : workspace.usageHighlighter uri offset = none)
    (found : (Usages.find workspace.engine uri offset).answer = .ok sets) :
    ∀ usages ∈ sets, usages.file = workspace.topLevelFile uri := by
  intro usages member
  have chosen : workspace.engine.usageHighlighter uri offset = none := generic
  unfold Usages.find at found
  rw [chosen] at found
  obtain ⟨targets, -, searched⟩ := bind_eq_ok_iff.mp found
  obtain ⟨symbol, -, success⟩ := exists_of_mapM_eq_ok searched member
  exact file_of_ofSymbol success

/-- If the links between documents do not run in a circle, one document is on top of each. The
top-level file that a workspace gives is that document, is not injected, and stays the same when it
is asked for again, each exactly if the document is not injected into an injected one; and exactly
then usages are searched for on top. Repeated, the question leads to the top for documents of any
depth. -/
theorem topLevelFile_on_top_iff_not_nested (acyclic : workspace.HostsAcyclic) (uri : Uri) :
    ∃ top, workspace.IsTopOf uri top ∧
      (∀ other, workspace.IsTopOf uri other → other = top) ∧
      (∀ steps, workspace.documents.length ≤ steps →
        workspace.topLevelFile^[steps] uri = top) ∧
      (workspace.topLevelFile uri = top ↔ workspace.isNested uri = false) ∧
      (workspace.host? (workspace.topLevelFile uri) = none ↔ workspace.isNested uri = false) ∧
      (workspace.topLevelFile (workspace.topLevelFile uri) = workspace.topLevelFile uri ↔
        workspace.isNested uri = false) ∧
      ∀ offset sets, workspace.usageHighlighter uri offset = none →
        (Usages.find workspace.engine uri offset).answer = .ok sets →
        ∀ usages ∈ sets, usages.file = top ↔ workspace.isNested uri = false := by
  have onTop := acyclic.isTopOf_iterate uri (Nat.le_refl _)
  have outermost := host?_topLevelFile_eq_none_iff workspace uri
  have reached : workspace.topLevelFile uri =
      workspace.topLevelFile^[workspace.documents.length] uri ↔ workspace.isNested uri = false := by
    rw [← outermost]
    refine ⟨fun same => same ▸ onTop.outermost, fun free => ?_⟩
    exact onTop.unique ⟨around_topLevelFile workspace uri, free⟩
  refine ⟨_, onTop, fun _ => onTop.unique,
    fun steps enough => onTop.unique (acyclic.isTopOf_iterate uri enough), reached, outermost,
    (acyclic.topLevelFile_eq_self_iff _).trans outermost, ?_⟩
  intro offset sets generic found usages member
  rw [file_of_search generic found usages member]
  exact reached

/-- Links that always lead to a lower rank do not run in a circle. -/
theorem hostsAcyclic_of_rank (rank : Uri → Nat)
    (descends : ∀ document ∈ workspace.documents, ∀ host ∈ document.host,
      rank host < rank document.uri) : workspace.HostsAcyclic := by
  have step {inner outer : Uri} (injected : workspace.InjectedInto inner outer) :
      rank outer < rank inner := by
    obtain ⟨document, held, rfl, hosted⟩ := exists_document_of_injected injected
    exact descends document held outer hosted
  have way {inner outer : Uri} (around : TransGen workspace.InjectedInto inner outer) :
      rank outer < rank inner := by
    induction around with
    | single injected => exact step injected
    | tail _ injected ih => exact Nat.lt_trans (step injected) ih
  exact fun uri circle => Nat.lt_irrefl _ (way circle)

/-- A script in a page, and the page in a program. -/
def nestedFragments : Workspace :=
  empty.run
    [.document { uri := ⟨"file:///Page.java"⟩, text := "send(page);" },
      .document { uri := ⟨"file:///Page.html"⟩, text := "<a>", host := some ⟨"file:///Page.java"⟩ },
      .document { uri := ⟨"file:///Page.js"⟩, text := "go()", host := some ⟨"file:///Page.html"⟩ }]

theorem nestedFragments_hostsAcyclic : nestedFragments.HostsAcyclic :=
  hostsAcyclic_of_rank
    (fun uri => [⟨"file:///Page.java"⟩, ⟨"file:///Page.html"⟩, ⟨"file:///Page.js"⟩].idxOf uri)
    (by decide)

theorem topLevelFile_on_top_iff_not_nested_page :
    nestedFragments.HostsAcyclic ∧
      nestedFragments.IsTopOf ⟨"file:///Page.js"⟩ ⟨"file:///Page.java"⟩ ∧
      nestedFragments.topLevelFile ⟨"file:///Page.js"⟩ ≠ ⟨"file:///Page.java"⟩ := by
  obtain ⟨top, onTop, -, repeated, reached, -⟩ :=
    topLevelFile_on_top_iff_not_nested nestedFragments_hostsAcyclic ⟨"file:///Page.js"⟩
  obtain rfl : ⟨"file:///Page.java"⟩ = top := repeated 3 (by decide)
  exact ⟨nestedFragments_hostsAcyclic, onTop, fun same => absurd (reached.mp same) (by decide)⟩

/-- The script is searched for in the page and not in the program. -/
theorem topLevelFile_is_injected :
    nestedFragments.HostsAcyclic ∧
      nestedFragments.topLevelFile ⟨"file:///Page.js"⟩ = ⟨"file:///Page.html"⟩ ∧
      nestedFragments.host? ⟨"file:///Page.html"⟩ = some ⟨"file:///Page.java"⟩ ∧
      nestedFragments.topLevelFile (nestedFragments.topLevelFile ⟨"file:///Page.js"⟩) ≠
        nestedFragments.topLevelFile ⟨"file:///Page.js"⟩ :=
  ⟨nestedFragments_hostsAcyclic, by decide, by decide, by decide⟩

end CodeBridge.Workspace

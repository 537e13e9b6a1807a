import CodeBridge.Proofs.Settings.Loading

/-! # Loaders that are used again

A loader changes with its use: once it has got past a project search it remembers where the global
file is. It does so after some calls and not after others, and a path that it was given from the
start is never replaced. None of this shows. What a loader remembers is what it would find again, as
long as the home directory is the same, and its answers depend on nothing else that it holds. So
each answer of a row of calls is that of a loader which has not been used before, even if the files
and the rest of the environment change between the calls.
-/

namespace CodeBridge.Loader

open Settings

/-- One use of a loader: what there is around it, and the directory to start from. -/
structure Call where
  files : Files
  environment : Environment
  start : Path

def answer (loader : Loader) (call : Call) : Except SettingsError Config :=
  (loader.load call.files call.environment call.start).2

/-- The loader that a call leaves. -/
def after (loader : Loader) (call : Call) : Loader :=
  (loader.load call.files call.environment call.start).1

/-- The answers to a row of calls, each from the loader that the calls before it leave. -/
def answers (loader : Loader) : List Call → List (Except SettingsError Config)
  | [] => []
  | call :: rest => loader.answer call :: (loader.after call).answers rest

/-- The loader that a row of calls leaves. -/
def run (loader : Loader) (calls : List Call) : Loader :=
  calls.foldl after loader

/-! ## One call -/

/-- Whether the project search of a call gets through, with a project file or without one. -/
def Call.passesSearch (call : Call) : Bool :=
  (findProject call.files call.start).isOk

/-- A call leaves the loader as it is, or has it remember the path of the global file. -/
theorem after_eq (loader : Loader) (call : Call) :
    loader.after call =
      if call.passesSearch then ⟨loader.globalPath? call.environment⟩ else loader := by
  unfold after load Call.passesSearch
  cases findProject call.files call.start with
  | ok project => rfl
  | error error => rfl

/-- What is remembered is what would be found. -/
theorem globalPath?_remembered (loader : Loader) {environment environment' : Environment}
    (home : environment'.home = environment.home) :
    globalPath? ⟨loader.globalPath? environment⟩ environment' =
      loader.globalPath? environment' := by
  unfold globalPath? Environment.globalDirectory?
  rw [home, Option.or_assoc, Option.or_self]

theorem globalPath?_after (loader : Loader) (call : Call) {environment : Environment}
    (home : environment.home = call.environment.home) :
    (loader.after call).globalPath? environment = loader.globalPath? environment := by
  rw [after_eq]
  split
  · exact globalPath?_remembered loader home
  · rfl

/-- Loaders answer alike if they find the same global file. -/
theorem answer_congr {loader loader' : Loader} {call : Call}
    (same : loader'.globalPath? call.environment = loader.globalPath? call.environment) :
    loader'.answer call = loader.answer call := by
  have global : loader'.globalSettings call.files call.environment =
      loader.globalSettings call.files call.environment := by
    unfold globalSettings
    rw [same]
  unfold answer
  rw [load_answer, load_answer]
  unfold combine
  rw [global]

/-! ## A row of calls -/

/-- Calls that find the same home directory are answered as by a loader of its own each. -/
theorem answers_eq_map {home : Option Path} {calls : List Call}
    (sameHome : ∀ call ∈ calls, call.environment.home = home) (loader : Loader) :
    loader.answers calls = calls.map loader.answer := by
  induction calls generalizing loader with
  | nil => rfl
  | cons call rest ih =>
    obtain ⟨here, behind⟩ := List.forall_mem_cons.mp sameHome
    rw [answers, ih behind, List.map_cons]
    congr 1
    refine List.map_congr_left fun later member => answer_congr ?_
    exact globalPath?_after loader call ((behind later member).trans here.symm)

/-- The path of the global file is remembered as soon as one search has got through, and it is the
one that the first loader would find. -/
theorem run_eq {environment : Environment} {calls : List Call}
    (fixed : ∀ call ∈ calls, call.environment = environment) (loader : Loader) :
    loader.run calls =
      if calls.any Call.passesSearch then ⟨loader.globalPath? environment⟩ else loader := by
  induction calls generalizing loader with
  | nil => rfl
  | cons call rest ih =>
    obtain ⟨here, behind⟩ := List.forall_mem_cons.mp fixed
    change (loader.after call).run rest = _
    rw [ih behind, globalPath?_after loader call (by rw [here]), after_eq, here, List.any_cons]
    cases call.passesSearch with
    | false => rfl
    | true => exact ite_self _

/-- However often a loader has been used, and whether these uses failed or not, each call is
answered as by a loader that is new and of the same kind: one without a path, or one that was given
the same path. All that the calls can leave behind is the path of the global file, once one of them
has got past its project search. -/
theorem answers_as_if_new (loader : Loader) (files : Files) (environment : Environment)
    (starts : List Path) :
    loader.answers (starts.map (Call.mk files environment)) =
      starts.map (fun start => (loader.load files environment start).2) ∧
    loader.run (starts.map (Call.mk files environment)) =
      if starts.any fun start => (findProject files start).isOk then
        ⟨loader.globalPath? environment⟩
      else loader := by
  have fixed : ∀ call ∈ starts.map (Call.mk files environment),
      call.environment = environment := by
    intro call member
    obtain ⟨start, -, rfl⟩ := List.mem_map.mp member
    rfl
  constructor
  · rw [answers_eq_map (fun call member => congrArg Environment.home (fixed call member)),
      List.map_map]
    rfl
  · rw [run_eq fixed, List.any_map]
    rfl

end CodeBridge.Loader

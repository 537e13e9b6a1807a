import CodeBridge.Files.Path

/-! # Settings

The settings of the server, as one source gives them. A setting that a source leaves open is absent,
and a section can be present without giving anything. `Settings.merge` puts one source over another.
-/

namespace CodeBridge

structure LogSection where
  level : Option String := none
  deriving DecidableEq, Repr

structure EngineSection where
  /-- The snapshot that the workspace is loaded from. -/
  snapshot : Option Path := none
  deriving DecidableEq, Repr

structure CompletionSection where
  enabled : Option Bool := none
  /-- Whether clients that know snippets get them. -/
  snippets : Option Bool := none
  deriving DecidableEq, Repr

/-- The section of a feature that can only be switched. -/
structure FeatureSection where
  enabled : Option Bool := none
  deriving DecidableEq, Repr

/-- The settings of one source. -/
structure Settings where
  log : Option LogSection := none
  engine : Option EngineSection := none
  completion : Option CompletionSection := none
  highlight : Option FeatureSection := none
  definition : Option FeatureSection := none
  deriving DecidableEq, Repr

/-! ## Log levels -/

def logLevels : List String := ["trace", "debug", "info", "warn", "error"]

/-- A log level that is none, and where it was given. -/
structure InvalidLevel where
  source : String
  level : String
  deriving DecidableEq, Repr

def InvalidLevel.message (invalid : InvalidLevel) : String :=
  "Invalid value for '" ++ invalid.source ++ "': must be one of " ++ ", ".intercalate logLevels ++
    ", got '" ++ invalid.level ++ "'"

/-- Refuses a level that is none. -/
def checkLevel (source level : String) : Except InvalidLevel Unit :=
  if logLevels.contains level then .ok () else .error ⟨source, level⟩

namespace Settings

/-! ## Leaves -/

def logLevel? (settings : Settings) : Option String :=
  settings.log.bind (·.level)

def snapshot? (settings : Settings) : Option Path :=
  settings.engine.bind (·.snapshot)

def completionEnabled? (settings : Settings) : Option Bool :=
  settings.completion.bind (·.enabled)

def snippets? (settings : Settings) : Option Bool :=
  settings.completion.bind (·.snippets)

def highlightEnabled? (settings : Settings) : Option Bool :=
  settings.highlight.bind (·.enabled)

def definitionEnabled? (settings : Settings) : Option Bool :=
  settings.definition.bind (·.enabled)

/-- Refuses settings with a log level that is none. -/
def validate (settings : Settings) : Except InvalidLevel Unit :=
  match settings.logLevel? with
  | some level => checkLevel "log.level" level
  | none => .ok ()

/-! ## Merging -/

/-- A section over another one: present if either is, and combined leaf by leaf. -/
def mergeSection (combine : α → α → α) (blank : α) : Option α → Option α → Option α
  | ours, none => ours
  | ours, some theirs => some (combine (ours.getD blank) theirs)

/-- A feature's section over another one. An empty section over none leaves none. -/
def mergeFeature (ours theirs : Option FeatureSection) : Option FeatureSection :=
  match theirs.bind (·.enabled) with
  | some enabled => some ⟨some enabled⟩
  | none => ours

/-- Settings with others over them: what the others give counts, and the rest is kept. -/
def merge (ours theirs : Settings) : Settings where
  log := mergeSection (fun a b => ⟨b.level.or a.level⟩) {} ours.log theirs.log
  engine := mergeSection (fun a b => ⟨b.snapshot.or a.snapshot⟩) {} ours.engine theirs.engine
  completion :=
    mergeSection (fun a b => ⟨b.enabled.or a.enabled, b.snippets.or a.snippets⟩) {}
      ours.completion theirs.completion
  highlight := mergeFeature ours.highlight theirs.highlight
  definition := mergeFeature ours.definition theirs.definition

/-! ## One leaf at a time -/

def setLogLevel (settings : Settings) (level : String) : Settings :=
  { settings with log := some { settings.log.getD {} with level := some level } }

def setSnapshot (settings : Settings) (snapshot : Path) : Settings :=
  { settings with engine := some { settings.engine.getD {} with snapshot := some snapshot } }

def setSnippets (settings : Settings) (snippets : Bool) : Settings :=
  { settings with
    completion := some { settings.completion.getD {} with snippets := some snippets } }

/-- Settings whose relative snapshot path is seen from a directory. -/
def resolveSnapshot (settings : Settings) (directory : Path) : Settings :=
  match settings.snapshot? with
  | some snapshot =>
    if snapshot.isAbsolute then settings else settings.setSnapshot (directory.join snapshot)
  | none => settings

end Settings

end CodeBridge

import CodeBridge.Settings.Basic
import CodeBridge.Toml.Reader

/-! # Settings from TOML

A settings file has one table for each section and no keys that are not known. A section may also be
given as an array of its settings in order; all of them have to be there, and items behind them are
not looked at.
-/

namespace CodeBridge

open Toml

namespace Settings

def text? : Value → Option String
  | .string text => some text
  | _ => none

def bool? : Value → Option Bool
  | .boolean value => some value
  | _ => none

def path? (value : Value) : Option Path :=
  (text? value).map .ofText

/-- The values of the keys of a section, absent where a table leaves one out. -/
def sectionOf? (keys : List String) : Value → Option (List (Option Value))
  | .table entries =>
    if entries.all fun (key, _) => keys.contains key then some (keys.map (entries.lookup ·))
    else none
  | .array items =>
    if keys.length ≤ items.length then some ((items.take keys.length).map some) else none
  | _ => none

/-- A value that may be absent. -/
def leaf? (decode : Value → Option α) : Option Value → Option (Option α)
  | some value => (decode value).map some
  | none => some none

def logSection? (value : Value) : Option LogSection := do
  match ← sectionOf? ["level"] value with
  | [level] => return ⟨← leaf? text? level⟩
  | _ => none

def engineSection? (value : Value) : Option EngineSection := do
  match ← sectionOf? ["snapshot"] value with
  | [snapshot] => return ⟨← leaf? path? snapshot⟩
  | _ => none

def completionSection? (value : Value) : Option CompletionSection := do
  match ← sectionOf? ["enabled", "snippets"] value with
  | [enabled, snippets] => return ⟨← leaf? bool? enabled, ← leaf? bool? snippets⟩
  | _ => none

def featureSection? (value : Value) : Option FeatureSection := do
  match ← sectionOf? ["enabled"] value with
  | [enabled] => return ⟨← leaf? bool? enabled⟩
  | _ => none

/-- The settings of a top table. -/
def ofEntries? (entries : List (String × Value)) : Option Settings := do
  let names := ["log", "engine", "completion", "highlight", "definition"]
  match ← sectionOf? names (.table entries) with
  | [log, engine, completion, highlight, definition] =>
    return {
      log := ← leaf? logSection? log
      engine := ← leaf? engineSection? engine
      completion := ← leaf? completionSection? completion
      highlight := ← leaf? featureSection? highlight
      definition := ← leaf? featureSection? definition }
  | _ => none

/-- The settings that a text gives. -/
def read (text : String) : Option Settings :=
  (Toml.read text).bind ofEntries?

end Settings

end CodeBridge

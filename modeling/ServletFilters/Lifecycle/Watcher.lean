import ServletFilters.Component.Class
import ServletFilters.Config.Source

/-!
# Watching the configuration

A file that is read again is published if its configuration can be loaded, names known classes
only, and differs from the one published last.
-/

namespace ServletFilters

structure Watcher where
  components : ComponentFactory
  /-- The configuration published last; at first the one that the program started with. -/
  current : Config

namespace Watcher

/-- The configuration in a file, if it can be loaded and its classes are known. -/
def usable? (w : Watcher) (content : Option String) : Option Config :=
  match Config.load content with
  | .error _ => none
  | .ok config => if (w.components.checkClasses config).isOk then some config else none

/-- Looks at the file again, and publishes its configuration if there is a new one. -/
def reread (w : Watcher) (content : Option String) : Option Config × Watcher :=
  match w.usable? content with
  | none => (none, w)
  | some config =>
    if config = w.current then (none, w) else (some config, { w with current := config })

def rereadAll (w : Watcher) : List (Option String) → List (Option Config)
  | [] => []
  | content :: rest =>
    let (published, w) := w.reread content
    published :: w.rereadAll rest

end Watcher

end ServletFilters

import RecordEngine.Selector
import RecordEngine.Document.Reader
/-!
What comes with a request: who makes it, and the options that steer its handlers.
-/

set_option autoImplicit false

namespace RecordEngine

/-- Who performs an operation, and on whose behalf. -/
structure Actor where
  id : String
  effective : String
  deriving DecidableEq, Repr

namespace Actor

/-- Somebody acting for themselves. -/
def ofId (id : String) : Actor := ⟨id, id⟩

/-- The actor of work that no person asked for. -/
def system : Actor := ofId "system"

def document (actor : Actor) : Document :=
  .object [("actor_id", .text actor.id), ("effective_actor_id", .text actor.effective)]

/-- Both fields are required. -/
def ofDocument? (d : Document) : Option Actor := do
  match ← d.fields? ["actor_id", "effective_actor_id"] with
  | [some id, some effective] => return ⟨← id.asText?, ← effective.asText?⟩
  | _ => none

/-- The actor a text holds. -/
def read? (text : String) : Option Actor := (Document.read text).bind ofDocument?

end Actor

/-- The options of a request: selectors of handlers to skip and to force, and flags that are
handed to every handler. -/
structure Options where
  skip : List Selector := []
  force : List Selector := []
  /-- The flags by name, ascending. -/
  flags : List (String × Document) := []

namespace Options

/-- The options with a flag set. -/
def withFlag (options : Options) (name : String) (value : Document) : Options :=
  { options with flags := Document.insertMember name value options.flags }

/-- The flag of a name. -/
def flag? (options : Options) (name : String) : Option Document := options.flags.lookup name

def document (options : Options) : Document :=
  .object
    [("skip", .array (options.skip.map Selector.document)),
     ("force", .array (options.force.map Selector.document)),
     ("flags", .object options.flags)]

/-- An array of selectors. -/
def selectors? (d : Document) : Option (List Selector) := do
  (← d.asArray?).mapM Selector.ofDocument?

def ofDocument? (d : Document) : Option Options := do
  match ← d.fields? ["skip", "force", "flags"] with
  | [skip, force, flags] =>
    let skip ← Document.orDefault selectors? [] skip
    let force ← Document.orDefault selectors? [] force
    let flags ← Document.orDefault (·.normalize.asObject?) [] flags
    return { skip, force, flags }
  | _ => none

end Options

end RecordEngine

namespace ArtifactSync

-- The classes of failures.
inductive ErrorKind
  | notFound
  | registryConfigInvalid
  | fetchFailed
  | persistFailed
  | api
  deriving DecidableEq, Repr

-- A failure with the texts it is reported by.
inductive Error
  -- A read from the Kubernetes API failed, other than by absence.
  | api (cause : String)
  | notFound (what : String)
  | invalidSpec (why : String)
  | invalidRegistry (why : String)
  | fetchFailed (context cause : String)
  | persistFailed (target cause : String)
  deriving DecidableEq, Repr

namespace Error

def kind : Error → ErrorKind
  | api _ => .api
  | notFound _ => .notFound
  | invalidSpec _ | invalidRegistry _ => .registryConfigInvalid
  | fetchFailed _ _ => .fetchFailed
  | persistFailed _ _ => .persistFailed

-- Whether trying again may help although nobody edits the desired state.
def isRetryable (e : Error) : Bool :=
  e.kind ≠ .registryConfigInvalid

def message : Error → String
  | api cause => s!"Kubernetes API error: {cause}"
  | notFound what => s!"Not found: {what}"
  | invalidSpec why => s!"Invalid OCISecret spec: {why}"
  | invalidRegistry why => s!"Invalid registry configuration: {why}"
  | fetchFailed context cause => s!"Failed to fetch {context}: {cause}"
  | persistFailed target cause => s!"Failed to persist secret {target}: {cause}"

-- The text of the failure behind this one.
def cause? : Error → Option String
  | api cause | fetchFailed _ cause | persistFailed _ cause => some cause
  | notFound _ | invalidSpec _ | invalidRegistry _ => none

end Error

end ArtifactSync

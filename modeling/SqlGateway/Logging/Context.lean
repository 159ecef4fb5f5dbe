import SqlGateway.Logging.Library
set_option autoImplicit false

/-!
# Logging: the bound context

Fields may be bound to all later records, and unbound again.  A scope binds its
fields when it is entered and unbinds their names when it is left.
-/

namespace SqlGateway.Logging

/-- Fields that all later records carry, and the names of the scopes that are open, the
innermost first. -/
structure Context where
  fields : Record := []
  scopes : List (List String) := []
  deriving Repr

namespace Library

variable (lib : Library)

def bindContext (c : Context) (fields : Record) : Context :=
  { c with fields := lib.bind fields c.fields }

def unbindContext (c : Context) (keys : List String) : Context :=
  { c with fields := lib.unbind keys c.fields }

def clearContext (c : Context) : Context := { c with fields := lib.clear c.fields }

/-- Open a scope. -/
def enter (c : Context) (fields : Record) : Context :=
  { lib.bindContext c fields with scopes := fields.map Prod.fst :: c.scopes }

/-- Leave the innermost scope. -/
def exit (c : Context) : Context :=
  match c.scopes with
  | [] => c
  | keys :: outer => { lib.unbindContext c keys with scopes := outer }

end Library

end SqlGateway.Logging

/-!
# Resource names

The ARN of every kind of entity.  A group, a target and a rules package are
named under their region and account; a template, a run and a finding extend
the name of their parent, whatever text that is.
-/

namespace Inspection

namespace Arn

/-- The name of a resource of the service in a region and an account. -/
def service (region account resource : String) : String :=
  "arn:aws:inspector:" ++ region ++ ":" ++ account ++ ":" ++ resource

def resourceGroup (region account id : String) : String :=
  service region account ("resourcegroup/0-" ++ id)

def target (region account id : String) : String :=
  service region account ("target/0-" ++ id)

def template (target id : String) : String :=
  target ++ "/template/0-" ++ id

def run (template id : String) : String :=
  template ++ "/run/0-" ++ id

def finding (run id : String) : String :=
  run ++ "/finding/0-" ++ id

def rulesPackage (region account package : String) : String :=
  service region account ("rulespackage/" ++ package)

end Arn

end Inspection

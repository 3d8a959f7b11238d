import Inspection.Entity

/-!
# The catalog

What the service offers everywhere: its regions, the rules packages of each
region, and the finding that every run reports.
-/

namespace Inspection

structure RulesPackage where
  arn : String
  name : String
  version : String
  provider : String
deriving DecidableEq, Repr

namespace Catalog

/-- The regions that are served unless others are set. -/
def regions : List String :=
  ["us-east-1", "us-east-2", "us-west-1", "us-west-2", "ap-south-1", "ap-northeast-1",
    "ap-northeast-2", "ap-southeast-2", "eu-west-1", "eu-west-2", "eu-central-1", "eu-north-1",
    "us-gov-east-1", "us-gov-west-1"]

/-- The account that publishes the rules packages. -/
def publisher : String := "316112463485"

def packages : List (String × String) :=
  [("0-gEjTy7T7", "Common Vulnerabilities and Exposures"),
    ("0-rExsr2X8", "CIS Operating System Security Configuration Benchmarks"),
    ("0-PmNV0Tcd", "Network Reachability"),
    ("0-R01qwB5Q", "Security Best Practices")]

def rulesPackages (region : String) : List RulesPackage :=
  packages.map fun (id, name) =>
    { arn := Arn.rulesPackage region publisher id
      name := name
      version := "1.1"
      provider := "Amazon Web Services, Inc." }

/-- The ARNs of the rules packages of a region. -/
def rulesPackageArns (region : String) : List String :=
  (rulesPackages region).map (·.arn)

/-- The rule that the finding of every run is about. -/
def findingRule : String := "Insecure Server Protocols"

def findingTitle : String :=
  "Instance is configured to allow users to log in with root credentials over SSH"

def findingSeverity : Severity := .informational

def reportedFinding (run : AssessmentRun) (id agent : String) (now : Instant) : Finding :=
  run.report id agent now findingRule findingTitle findingSeverity

end Catalog

end Inspection

import Inspection.Filter
import Inspection.Text

/-!
# Filter rules

The rules by which templates, runs and findings are filtered.  The packages of
a template or a run must all be among those listed; of a finding they are
present and listed.
-/

namespace Inspection

namespace Filter

def allListed (own listed : List String) : Bool :=
  own.all listed.contains

def someListed (own : Option String) (listed : List String) : Bool :=
  own.any listed.contains

def templateRules : List (Rule AssessmentTemplate) :=
  [⟨"namePattern", .text, fun template pattern => Text.contains template.name pattern⟩,
    ⟨"durationRange", .durationRange, fun template range => range.holds template.duration⟩,
    ⟨"rulesPackageArns", .textList, fun template listed =>
      allListed template.rulesPackageArns listed⟩]

def runRules : List (Rule AssessmentRun) :=
  [⟨"namePattern", .text, fun run pattern => Text.contains run.name pattern⟩,
    ⟨"states", .textList, fun run listed => listed.contains run.state.text⟩,
    ⟨"durationRange", .durationRange, fun run range => range.holds run.duration⟩,
    ⟨"rulesPackageArns", .textList, fun run listed => allListed run.rulesPackageArns listed⟩,
    ⟨"startTimeRange", .timeRange, fun run range => range.holds run.startTime⟩,
    ⟨"completionTimeRange", .timeRange, fun run range => range.holds run.expectedCompletion⟩,
    ⟨"stateChangeTimeRange", .timeRange, fun run range => range.holds run.stateChangeTime⟩]

def findingRules : List (Rule Finding) :=
  [⟨"agentIds", .textList, fun finding listed => listed.contains finding.agentId⟩,
    ⟨"autoScalingGroups", .textList, fun finding listed =>
      someListed finding.autoScalingGroup listed⟩,
    ⟨"ruleNames", .textList, fun finding listed => listed.contains finding.ruleName⟩,
    ⟨"severities", .textList, fun finding listed => listed.contains finding.severity.text⟩,
    ⟨"creationTimeRange", .timeRange, fun finding range => range.holds finding.createdAt⟩,
    ⟨"rulesPackageArns", .textList, fun finding listed =>
      someListed finding.rulesPackageArn listed⟩]

end Filter

end Inspection

import SchemaEvolution.Encoding.Differences
import SchemaEvolution.Migration

/-!
# Written plans and reports
-/

namespace SchemaEvolution

def MigrationPlan.document (plan : MigrationPlan) : Document :=
  .record [
    ("difference", plan.difference.document),
    ("script", plan.script.document)]

def MigrationReport.document (report : MigrationReport) : Document :=
  .record [
    ("dialect", .text report.dialect),
    ("changes", .ofNat report.changes),
    ("statements_executed", .ofNat report.statementsExecuted),
    ("verified", .bool report.verified),
    ("script", report.script.document)]

end SchemaEvolution

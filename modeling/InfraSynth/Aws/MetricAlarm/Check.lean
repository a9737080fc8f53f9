import InfraSynth.Aws.MetricAlarm.Basic

/-!
# `aws_cloudwatch_metric_alarm`: checks

What is wrong with the attributes of an alarm, and what follows from them.  The
price of an alarm depends on how often its metrics are sampled, how many there
are, and whether a band of expected values is kept.
-/

namespace InfraSynth.Aws

/-- Names of queries. -/
def queryIdPattern : Pattern :=
  .cat (.set .lower) (.many (.set (.union .alphanumeric (.single '_'))))

/-- Statistics named by a letter or two and a percentage. -/
def extendedStatisticPattern : Pattern :=
  .cat
    (.oneOf [.literal "p", .literal "tm", .literal "wm", .literal "tc", .literal "ts"])
    (.alt
      (.cat (.between 1 2 (.set .digit))
        (.optional (.cat (.literal ".") (.atLeastOnce (.set .digit)))))
      (.literal "100"))

/-- Periods are 10 or 30 seconds, or full minutes. -/
def checkPeriod (field : String) (period : UInt32) : List Violation :=
  Check.that (period = 10 || period = 30 || (60 ≤ period && period % 60 = 0)) .range field
    s!"{period} must be 10, 30 or a multiple of 60"

/-- What is wrong with the metric of a query. -/
def QueryMetric.check (path : String) (metric : QueryMetric) : List Violation :=
  Check.notBlank (Path.field path "metric_name") metric.metricName ++
  Check.notBlank (Path.field path "namespace") metric.space ++
  Check.notBlank (Path.field path "stat") metric.stat ++
  checkPeriod (Path.field path "period") metric.period

/-- What is wrong with a query. -/
def MetricQuery.check (path : String) (query : MetricQuery) : List Violation :=
  let expressionPath := Path.field path "expression"
  let metricPath := Path.field path "metric"
  Check.format (Path.field path "id") query.id queryIdPattern "a lowercase query id" ++
  Check.exactlyOneOf [
    (expressionPath, query.expression.isSome), (metricPath, query.metric.isSome)] ++
  query.expression.toList.flatMap (fun text => Check.length expressionPath text 1 2048) ++
  query.period.toList.flatMap (checkPeriod (Path.field path "period")) ++
  query.metric.toList.flatMap (QueryMetric.check metricPath)

namespace MetricAlarm

/-- How many actions of a kind an alarm may have. -/
def maxActions : Nat := 5

/-- How many queries an alarm may have. -/
def maxQueries : Nat := 20

/-- What is wrong with the name and the number of periods. -/
def checkBasics (alarm : MetricAlarm) : List Violation :=
  Check.length "alarm_name" alarm.alarmName 1 255 ++
  alarm.alarmDescription.toList.flatMap (fun text =>
    Check.length "alarm_description" text 0 1024) ++
  Check.that (1 ≤ alarm.evaluationPeriods) .range "evaluation_periods" "must be at least 1" ++
  alarm.datapointsToAlarm.toList.flatMap fun datapoints =>
    Check.range "datapoints_to_alarm" datapoints.toNat 1 (max alarm.evaluationPeriods.toNat 1)

/-- What is wrong with the threshold: a number for most comparisons, and the
name of a query for bands of expected values. -/
def checkThreshold (alarm : MetricAlarm) : List Violation :=
  let band := alarm.comparison.isAnomalyBand
  let metricId := alarm.thresholdMetricId.isSome
  Check.exactlyOneOf [
    ("threshold", alarm.threshold.isSome), ("threshold_metric_id", metricId)] ++
  Check.requires "comparison_operator" band "threshold_metric_id" metricId ++
  Check.forbids "threshold_metric_id" metricId (!band) "with a static threshold comparison"

/-- What is wrong with the choice between a single metric and queries. -/
def checkMode (alarm : MetricAlarm) : List Violation :=
  Check.exactlyOneOf [
    ("metric_name", alarm.isSingleMetric), ("metric_query", alarm.usesQueries)] ++
  (if alarm.isSingleMetric && !alarm.usesQueries then
    Check.required "metric_name" alarm.metricName.isSome ++
    Check.required "namespace" alarm.space.isSome ++
    Check.required "period" alarm.period.isSome ++
    Check.exactlyOneOf [
      ("statistic", alarm.statistic.isSome),
      ("extended_statistic", alarm.extendedStatistic.isSome)]
  else []) ++
  (if alarm.usesQueries then
    Check.forbids "dimensions" (!alarm.dimensions.isEmpty) true "with metric_query" ++
    Check.forbids "unit" alarm.unit.isSome true "with metric_query"
  else [])

/-- What is wrong with the period and the statistic of a single metric. -/
def checkStatistic (alarm : MetricAlarm) : List Violation :=
  let percentile := alarm.extendedStatistic.any (Text.startsWith · "p")
  alarm.period.toList.flatMap (checkPeriod "period") ++
  alarm.extendedStatistic.toList.flatMap (fun statistic =>
    Check.format "extended_statistic" statistic extendedStatisticPattern
      "a percentile statistic") ++
  alarm.lowSampleCount.toList.flatMap fun evaluate =>
    Check.oneOf "evaluate_low_sample_count_percentiles" evaluate ["evaluate", "ignore"] ++
    Check.forbids "evaluate_low_sample_count_percentiles" true (!percentile)
      "without a percentile extended_statistic"

/-- What is wrong with the queries. -/
def checkQueries (alarm : MetricAlarm) : List Violation :=
  if alarm.usesQueries then
    let returning := (alarm.queries.filter (·.returnData)).length
    Check.count "metric_query" alarm.queries.length 1 (some maxQueries) ++
    Check.unique "metric_query.id" (alarm.queries.map (·.id)) ++
    Path.flatMapItems "metric_query" alarm.queries MetricQuery.check ++
    Check.that (returning = 1) .exactlyOne "metric_query.return_data"
      s!"exactly one query must set return_data, got {returning}" ++
    alarm.thresholdMetricId.toList.flatMap fun id =>
      Check.that (alarm.queries.any (·.id = id)) .conditional "threshold_metric_id"
        s!"'{id}' does not name a metric_query id"
  else []

/-- What is wrong with the actions of one kind. -/
def checkActions (field : String) (actions : List String) : List Violation :=
  Check.count field actions.length 0 (some maxActions) ++
  Path.flatMapItems field actions checkArn

/-- What is wrong with the attributes. -/
def violations (alarm : MetricAlarm) : List Violation :=
  alarm.checkBasics ++
  alarm.checkThreshold ++
  alarm.checkMode ++
  alarm.checkStatistic ++
  alarm.checkQueries ++
  checkActions "alarm_actions" alarm.alarmActions ++
  checkActions "ok_actions" alarm.okActions ++
  checkActions "insufficient_data_actions" alarm.insufficientDataActions ++
  checkTags "tags" alarm.tags

/-! ## Price -/

/-- The period of each metric of the alarm. -/
def periods (alarm : MetricAlarm) : List UInt32 :=
  if alarm.usesQueries then
    alarm.queries.filterMap fun query => (query.metric.map (·.period)).or query.period
  else alarm.period.toList

/-- Whether a metric is sampled more than once a minute. -/
def isHighResolution (alarm : MetricAlarm) : Bool :=
  alarm.periods.any (· < 60)

/-- How many metrics are paid for. -/
def metricCount (alarm : MetricAlarm) : Nat :=
  if alarm.usesQueries then max (alarm.queries.filter (·.metric.isSome)).length 1 else 1

/-- The price of a metric for a month. -/
def rate (alarm : MetricAlarm) : Binary64 :=
  if alarm.isHighResolution then .ofRatio false 3 10 else .ofRatio false 1 10

/-- How much dearer an alarm is that keeps a band of expected values. -/
def multiplier (alarm : MetricAlarm) : Binary64 :=
  .ofNat (if alarm.comparison.isAnomalyBand then 3 else 1)

/-- The price of the alarm for a month. -/
def cost (alarm : MetricAlarm) : Binary64 :=
  (alarm.rate.mul (.ofNat alarm.metricCount)).mul alarm.multiplier

/-- What follows from the attributes of an alarm. -/
structure Computed where
  usesMetricMath : Bool
  isAnomalyDetection : Bool
  isHighResolution : Bool
  metricCount : Nat
  hasActions : Bool
  monthlyCost : Binary64
  deriving DecidableEq

/-- What follows from the attributes. -/
def computed (alarm : MetricAlarm) : Computed where
  usesMetricMath := alarm.usesQueries
  isAnomalyDetection := alarm.comparison.isAnomalyBand
  isHighResolution := alarm.isHighResolution
  metricCount := alarm.metricCount
  hasActions := !alarm.alarmActions.isEmpty || !alarm.okActions.isEmpty ||
    !alarm.insufficientDataActions.isEmpty
  monthlyCost := alarm.cost

/-- What follows from the attributes, as JSON. -/
def Computed.toJson (computed : Computed) : Json :=
  .object [
    ("uses_metric_math", computed.usesMetricMath),
    ("is_anomaly_detection", computed.isAnomalyDetection),
    ("is_high_resolution", computed.isHighResolution),
    ("metric_count", .nat computed.metricCount),
    ("has_actions", computed.hasActions),
    ("monthly_cost", .float computed.monthlyCost)]

end MetricAlarm

instance : Resource MetricAlarm where
  typeName := "aws_cloudwatch_metric_alarm"
  outputs := ["id", "arn", "alarm_name"]
  record := MetricAlarm.record
  check alarm := ⟨alarm.violations, []⟩
  computed alarm := alarm.computed.toJson
  monthlyCost alarm := some alarm.cost

end InfraSynth.Aws

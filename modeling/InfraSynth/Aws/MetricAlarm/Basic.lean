import InfraSynth.Aws.Arn
import InfraSynth.Aws.Tags
import InfraSynth.Resource

/-!
# `aws_cloudwatch_metric_alarm`: attributes

An alarm compares either a single metric or the result of a list of queries with
a threshold.
-/

namespace InfraSynth.Aws

/-- How a value is compared with the threshold. -/
inductive Comparison
  | greaterOrEqual
  | greater
  | less
  | lessOrEqual
  | outsideBand
  | belowBand
  | aboveBand
  deriving DecidableEq, Repr

instance : Enumeration Comparison where
  all := [.greaterOrEqual, .greater, .less, .lessOrEqual, .outsideBand, .belowBand, .aboveBand]
  name
    | .greaterOrEqual => "GreaterThanOrEqualToThreshold"
    | .greater => "GreaterThanThreshold"
    | .less => "LessThanThreshold"
    | .lessOrEqual => "LessThanOrEqualToThreshold"
    | .outsideBand => "LessThanLowerOrGreaterThanUpperThreshold"
    | .belowBand => "LessThanLowerThreshold"
    | .aboveBand => "GreaterThanUpperThreshold"

/-- Whether the value is compared with a band of expected values. -/
def Comparison.isAnomalyBand : Comparison → Bool
  | outsideBand | belowBand | aboveBand => true
  | _ => false

/-- How the samples of a period are summed up. -/
inductive Statistic
  | sampleCount
  | average
  | sum
  | minimum
  | maximum
  deriving DecidableEq, Repr

instance : Enumeration Statistic where
  all := [.sampleCount, .average, .sum, .minimum, .maximum]
  name
    | .sampleCount => "SampleCount"
    | .average => "Average"
    | .sum => "Sum"
    | .minimum => "Minimum"
    | .maximum => "Maximum"

/-- What periods without samples mean. -/
inductive MissingData
  | missing
  | ignored
  | breaching
  | notBreaching
  deriving DecidableEq, Repr

instance : Enumeration MissingData where
  all := [.missing, .ignored, .breaching, .notBreaching]
  name
    | .missing => "missing"
    | .ignored => "ignore"
    | .breaching => "breaching"
    | .notBreaching => "notBreaching"

/-- A metric that a query reads. -/
structure QueryMetric where
  metricName : String
  space : String
  period : UInt32
  stat : String
  unit : Option String
  dimensions : TextMap
  deriving DecidableEq

/-- How the metric of a query is written. -/
def QueryMetric.record : JsonRecord QueryMetric where
  name := "QueryMetric"
  types := _
  fields :=
    .cons (.required "metric_name" .text) <|
    .cons (.required "namespace" .text) <|
    .cons (.required "period" .uint32) <|
    .cons (.required "stat" .text) <|
    .cons (.optional "unit" .text) <|
    .cons (.textMap "dimensions") .nil
  build := fun (metricName, space, period, stat, unit, dimensions, ()) =>
    { metricName, space, period, stat, unit, dimensions }
  row metric := (metric.metricName, metric.space, metric.period, metric.stat, metric.unit,
    metric.dimensions, ())

/-- A query: a metric, or an expression over other queries. -/
structure MetricQuery where
  id : String
  expression : Option String
  label : Option String
  returnData : Bool
  period : Option UInt32
  accountId : Option String
  metric : Option QueryMetric
  deriving DecidableEq

/-- How a query is written. -/
def MetricQuery.record : JsonRecord MetricQuery where
  name := "MetricQuery"
  types := _
  fields :=
    .cons (.required "id" .text) <|
    .cons (.optional "expression" .text) <|
    .cons (.optional "label" .text) <|
    .cons (.defaulted "return_data" .flag false) <|
    .cons (.optional "period" .uint32) <|
    .cons (.optional "account_id" .text) <|
    .cons (.optional "metric" QueryMetric.record.codec) .nil
  build := fun (id, expression, label, returnData, period, accountId, metric, ()) =>
    { id, expression, label, returnData, period, accountId, metric }
  row query := (query.id, query.expression, query.label, query.returnData, query.period,
    query.accountId, query.metric, ())

/-- The attributes of an alarm. -/
structure MetricAlarm where
  alarmName : String
  alarmDescription : Option String
  comparison : Comparison
  evaluationPeriods : UInt32
  datapointsToAlarm : Option UInt32
  threshold : Option Binary64
  thresholdMetricId : Option String
  metricName : Option String
  space : Option String
  period : Option UInt32
  statistic : Option Statistic
  extendedStatistic : Option String
  dimensions : TextMap
  unit : Option String
  queries : List MetricQuery
  missingData : MissingData
  lowSampleCount : Option String
  actionsEnabled : Bool
  alarmActions : List String
  okActions : List String
  insufficientDataActions : List String
  tags : TextMap
  deriving DecidableEq

namespace MetricAlarm

/-- How the attributes are written. -/
def record : JsonRecord MetricAlarm where
  name := "CloudwatchMetricAlarmAttributes"
  types := _
  fields :=
    .cons (.required "alarm_name" .text) <|
    .cons (.optional "alarm_description" .text) <|
    .cons (.required "comparison_operator" .named) <|
    .cons (.required "evaluation_periods" .uint32) <|
    .cons (.optional "datapoints_to_alarm" .uint32) <|
    .cons (.optional "threshold" .binary64) <|
    .cons (.optional "threshold_metric_id" .text) <|
    .cons (.optional "metric_name" .text) <|
    .cons (.optional "namespace" .text) <|
    .cons (.optional "period" .uint32) <|
    .cons (.optional "statistic" .named) <|
    .cons (.optional "extended_statistic" .text) <|
    .cons (.textMap "dimensions") <|
    .cons (.optional "unit" .text) <|
    .cons (.listed "metric_query" MetricQuery.record.codec) <|
    .cons (.defaulted "treat_missing_data" .named .missing) <|
    .cons (.optional "evaluate_low_sample_count_percentiles" .text) <|
    .cons (.defaulted "actions_enabled" .flag true) <|
    .cons (.listed "alarm_actions" .text) <|
    .cons (.listed "ok_actions" .text) <|
    .cons (.listed "insufficient_data_actions" .text) <|
    .cons (.textMap "tags") .nil
  build := fun (alarmName, alarmDescription, comparison, evaluationPeriods, datapointsToAlarm,
      threshold, thresholdMetricId, metricName, space, period, statistic, extendedStatistic,
      dimensions, unit, queries, missingData, lowSampleCount, actionsEnabled, alarmActions,
      okActions, insufficientDataActions, tags, ()) =>
    { alarmName, alarmDescription, comparison, evaluationPeriods, datapointsToAlarm,
      threshold, thresholdMetricId, metricName, space, period, statistic, extendedStatistic,
      dimensions, unit, queries, missingData, lowSampleCount, actionsEnabled, alarmActions,
      okActions, insufficientDataActions, tags }
  row alarm := (alarm.alarmName, alarm.alarmDescription, alarm.comparison,
    alarm.evaluationPeriods, alarm.datapointsToAlarm, alarm.threshold, alarm.thresholdMetricId,
    alarm.metricName, alarm.space, alarm.period, alarm.statistic, alarm.extendedStatistic,
    alarm.dimensions, alarm.unit, alarm.queries, alarm.missingData, alarm.lowSampleCount,
    alarm.actionsEnabled, alarm.alarmActions, alarm.okActions, alarm.insufficientDataActions,
    alarm.tags, ())

/-- Whether an attribute of a single metric is given. -/
def isSingleMetric (alarm : MetricAlarm) : Bool :=
  alarm.metricName.isSome || alarm.space.isSome || alarm.period.isSome ||
    alarm.statistic.isSome || alarm.extendedStatistic.isSome

/-- Whether queries are given. -/
def usesQueries (alarm : MetricAlarm) : Bool :=
  !alarm.queries.isEmpty

end MetricAlarm

end InfraSynth.Aws
